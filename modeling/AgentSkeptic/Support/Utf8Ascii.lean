import AgentSkeptic.Support.JsonRoundTrip

/-!
# ASCII in UTF-8

Bytes that decode to ASCII are the codes of their characters, and a text without NUL has
no zero byte.
-/

namespace AgentSkeptic.Support

/-! ## Encoding -/

theorem utf8EncodeChar_ascii {c : Char} (h : c.toNat < 0x80) :
    String.utf8EncodeChar c = [UInt8.ofNat c.toNat] := by
  have hval : c.val.toNat = c.toNat := rfl
  unfold String.utf8EncodeChar
  simp only [hval]
  rw [if_pos (by omega)]

theorem ne_zero_of_mem_utf8EncodeChar {c : Char} (h : c ≠ '\x00') :
    ∀ b ∈ String.utf8EncodeChar c, b ≠ 0 := by
  have hbyte : ∀ n, 0 < n → n < 256 → UInt8.ofNat n ≠ 0 := by
    intro n hpos hlt heq
    have htoNat := congrArg UInt8.toNat heq
    rw [toNat_ofNat_of_lt hlt] at htoNat
    have hzero : (0 : UInt8).toNat = 0 := rfl
    omega
  have hpos : 0 < c.toNat := by
    rw [Nat.pos_iff_ne_zero]
    intro heq
    apply h
    rw [← Char.ofNat_toNat c, heq]
  have hval : c.val.toNat = c.toNat := rfl
  have hrange := toNat_ranges c
  unfold String.utf8EncodeChar
  simp only [hval]
  split_ifs
  all_goals simp only [List.forall_mem_cons]
  · exact ⟨hbyte _ hpos (by omega), nofun⟩
  · exact ⟨hbyte _ (by omega) (by omega), hbyte _ (by omega) (by omega), nofun⟩
  · exact ⟨hbyte _ (by omega) (by omega), hbyte _ (by omega) (by omega),
      hbyte _ (by omega) (by omega), nofun⟩
  · exact ⟨hbyte _ (by omega) (by omega), hbyte _ (by omega) (by omega),
      hbyte _ (by omega) (by omega), hbyte _ (by omega) (by omega), nofun⟩

theorem zero_notMem_utf8Encode {text : List Char} (h : '\x00' ∉ text) :
    0 ∉ utf8Encode text := by
  rw [utf8Encode, List.mem_flatMap]
  rintro ⟨c, hc, hzero⟩
  refine ne_zero_of_mem_utf8EncodeChar ?_ 0 hzero rfl
  rintro rfl
  exact h hc

/-! ## Decoding -/

/-- A code point of a character that is not ASCII. -/
def BeyondAscii (n : ℕ) : Prop := 0x80 ≤ n ∧ (n < 0xD800 ∨ 0xDFFF < n ∧ n < 0x110000)

theorem BeyondAscii.le_toNat {n : ℕ} (h : BeyondAscii n) : 0x80 ≤ (Char.ofNat n).toNat := by
  have hvalid : n.isValidChar := h.2
  rw [Char.ofNat, dif_pos hvalid]
  exact h.1

/-- Whatever bytes follow in range, the character is not ASCII. -/
inductive Pending : Utf8State → Prop where
  | last {point} (h : ∀ x < 64, BeyondAscii (point * 64 + x)) : Pending ⟨1, point, 0x80, 0xBF⟩
  | more {owed point low high} (hpos : 0 < owed) (hlow : 0x80 ≤ low)
      (h : ∀ b, low ≤ b → b ≤ high →
        Pending ⟨owed, point * 64 + (b - 0x80), 0x80, 0xBF⟩) :
      Pending ⟨owed + 1, point, low, high⟩

theorem Pending.decode {state : Utf8State} (hpending : Pending state) (bs : Bytes) :
    ∃ c rest, utf8DecodeFrom state bs = c :: rest ∧ 0x80 ≤ c.toNat := by
  induction hpending generalizing bs with
  | last h =>
      cases bs with
      | nil => exact ⟨_, _, rfl, by decide⟩
      | cons b bs =>
          by_cases hrange : 0x80 ≤ b.toNat ∧ b.toNat ≤ 0xBF
          · rw [utf8DecodeFrom_continue Nat.one_ne_zero hrange.1 hrange.2, if_pos rfl]
            exact ⟨_, _, rfl, (h _ (by omega)).le_toNat⟩
          · rw [utf8DecodeFrom, utf8Step, if_neg Nat.one_ne_zero, if_neg hrange]
            exact ⟨_, _, rfl, by decide⟩
  | @more owed point low high hpos hlow h ih =>
      cases bs with
      | nil => exact ⟨_, _, rfl, by decide⟩
      | cons b bs =>
          by_cases hrange : low ≤ b.toNat ∧ b.toNat ≤ high
          · rw [utf8DecodeFrom_continue (Nat.succ_ne_zero _) hrange.1 hrange.2,
              if_neg (by dsimp only; omega)]
            exact ih _ hrange.1 hrange.2 bs
          · rw [utf8DecodeFrom, utf8Step, if_neg (Nat.succ_ne_zero _), if_neg hrange]
            exact ⟨_, _, rfl, by decide⟩

/-- A byte that is not ASCII starts a character that is not. -/
theorem utf8First_beyond {b : ℕ} (h : 0x80 ≤ b) :
    (∃ c, utf8First b = ([c], .start) ∧ 0x80 ≤ c.toNat) ∨
      ∃ state, utf8First b = ([], state) ∧ Pending state := by
  rw [utf8First, if_neg (by omega)]
  by_cases htwo : 0xC2 ≤ b ∧ b ≤ 0xDF
  · rw [if_pos htwo]
    refine .inr ⟨_, rfl, .last fun x hx => ?_⟩
    rw [BeyondAscii]
    omega
  rw [if_neg htwo]
  by_cases hthree : 0xE0 ≤ b ∧ b ≤ 0xEF
  · rw [if_pos hthree]
    refine .inr ⟨_, rfl, .more Nat.one_pos ?_ fun x hlow hhigh => .last fun y hy => ?_⟩
    · split_ifs
      all_goals omega
    · rw [BeyondAscii]
      split_ifs at hlow hhigh
      all_goals omega
  rw [if_neg hthree]
  by_cases hfour : 0xF0 ≤ b ∧ b ≤ 0xF4
  · rw [if_pos hfour]
    refine .inr ⟨_, rfl, .more Nat.two_pos ?_ fun x hlow hhigh =>
      .more Nat.one_pos (le_refl _) fun y hylow hyhigh => .last fun z hz => ?_⟩
    · split_ifs
      all_goals omega
    · rw [BeyondAscii]
      split_ifs at hlow hhigh
      all_goals omega
  · rw [if_neg hfour]
    exact .inl ⟨_, rfl, by decide⟩

/-- Bytes that decode to ASCII are its encoding. -/
theorem utf8Encode_utf8Decode_ascii {bs : Bytes} (h : ∀ c ∈ utf8Decode bs, c.toNat < 0x80) :
    utf8Encode (utf8Decode bs) = bs := by
  induction bs with
  | nil => rfl
  | cons b bs ih =>
      have hdecode : utf8Decode (b :: bs) =
          (utf8First b.toNat).1 ++ utf8DecodeFrom (utf8First b.toNat).2 bs :=
        utf8DecodeFrom_start b bs
      have hb : b.toNat < 0x80 := by
        by_contra hge
        rw [not_lt] at hge
        rcases utf8First_beyond hge with ⟨c, hfirst, hc⟩ | ⟨state, hfirst, hpending⟩
        · rw [hdecode, hfirst] at h
          have hlt := h c (by simp)
          omega
        · obtain ⟨c, rest, hrest, hc⟩ := hpending.decode bs
          rw [hdecode, hfirst, List.nil_append, hrest] at h
          have hlt := h c List.mem_cons_self
          omega
      have hcons : utf8Decode (b :: bs) = Char.ofNat b.toNat :: utf8Decode bs := by
        rw [hdecode, utf8First_one hb]
        rfl
      have htoNat : (Char.ofNat b.toNat).toNat = b.toNat := by
        have hvalid : b.toNat.isValidChar := .inl (by omega)
        rw [Char.ofNat, dif_pos hvalid]
        rfl
      rw [hcons] at h ⊢
      obtain ⟨-, hrest⟩ := List.forall_mem_cons.mp h
      have hencode : utf8Encode (Char.ofNat b.toNat :: utf8Decode bs) =
          String.utf8EncodeChar (Char.ofNat b.toNat) ++ utf8Encode (utf8Decode bs) := rfl
      rw [hencode, ih hrest, utf8EncodeChar_ascii (by omega), htoNat, UInt8.ofNat_toNat,
        List.singleton_append]

end AgentSkeptic.Support
