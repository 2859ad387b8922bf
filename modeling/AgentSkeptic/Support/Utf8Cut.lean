import AgentSkeptic.Support.JsonRoundTrip

/-!
# Texts cut off in UTF-8

A text whose bytes are cut off reads as its first characters, and where the cut is inside
a character as these and U+FFFD.  So it reads as the whole text only when nothing is
missing, or when the cut is inside a U+FFFD that the text itself ends with:
`utf8Decode_take_eq_iff`.
-/

namespace AgentSkeptic.Support

/-- A byte completes a character or leaves more bytes owed. -/
theorem utf8Step_progress (state : Utf8State) (b : ℕ) :
    (utf8Step state b).1 ≠ [] ∨ (utf8Step state b).2.owed ≠ 0 := by
  have hfirst : (utf8First b).1 ≠ [] ∨ (utf8First b).2.owed ≠ 0 := by
    unfold utf8First
    split_ifs
    all_goals simp
  unfold utf8Step
  split_ifs with howed hrange hlast
  · exact hfirst
  · exact .inl (List.cons_ne_nil _ _)
  · refine .inr ?_
    dsimp only
    omega
  · exact .inl (List.cons_ne_nil _ _)

/-- Bytes do not disappear. -/
theorem utf8DecodeFrom_ne_nil {state : Utf8State} {bs : Bytes}
    (h : state.owed ≠ 0 ∨ bs ≠ []) : utf8DecodeFrom state bs ≠ [] := by
  induction bs generalizing state with
  | nil =>
      rw [utf8DecodeFrom, if_neg (h.resolve_right fun hnil => hnil rfl)]
      exact List.cons_ne_nil _ _
  | cons b bs ih =>
      rw [utf8DecodeFrom]
      intro hnil
      obtain ⟨hnone, hrest⟩ := List.append_eq_nil_iff.mp hnil
      have howed := (utf8Step_progress state b.toNat).resolve_left fun hsome => hsome hnone
      exact ih (.inl howed) hrest

/-- What the first bytes complete, and where they leave the decoder. -/
theorem utf8DecodeFrom_append (state : Utf8State) (front : Bytes) :
    ∃ done next, ∀ bs, utf8DecodeFrom state (front ++ bs) =
      done ++ utf8DecodeFrom next bs := by
  induction front generalizing state with
  | nil => exact ⟨[], state, fun bs => rfl⟩
  | cons b front ih =>
      obtain ⟨done, next, hrest⟩ := ih (utf8Step state b.toNat).2
      refine ⟨(utf8Step state b.toNat).1 ++ done, next, fun bs => ?_⟩
      rw [List.cons_append, utf8DecodeFrom, List.append_assoc, ← hrest bs]

/-- A character that is cut off reads as one U+FFFD. -/
theorem utf8Decode_cut {c : Char} {front back : Bytes}
    (h : front ++ back = String.utf8EncodeChar c) (hfront : front ≠ []) (hback : back ≠ []) :
    utf8Decode front = ['\uFFFD'] := by
  obtain ⟨done, next, happend⟩ := utf8DecodeFrom_append .start front
  have hchar : done ++ utf8DecodeFrom next back = [c] := by
    rw [← happend back, h, ← List.append_nil (String.utf8EncodeChar c)]
    exact utf8Decode_char c []
  have hdone : done = [] := by
    have hne : utf8DecodeFrom next back ≠ [] := utf8DecodeFrom_ne_nil (.inr hback)
    rcases List.append_eq_singleton_iff.mp hchar with ⟨hnil, -⟩ | ⟨-, hnil⟩
    · exact hnil
    · exact (hne hnil).elim
  have hcut : utf8Decode front = utf8DecodeFrom next [] := by
    have hnil := happend []
    rw [List.append_nil, hdone, List.nil_append] at hnil
    exact hnil
  have hsome : utf8Decode front ≠ [] := utf8DecodeFrom_ne_nil (.inr hfront)
  rw [hcut, utf8DecodeFrom] at hsome ⊢
  split_ifs at hsome ⊢
  · exact (hsome rfl).elim
  · rfl

theorem utf8EncodeChar_ne_nil (c : Char) : String.utf8EncodeChar c ≠ [] := by
  have hlength := String.length_utf8EncodeChar c
  intro hnil
  rw [hnil, List.length_nil] at hlength
  exact absurd hlength.symm c.utf8Size_pos.ne'

theorem utf8Encode_cons (c : Char) (cs : List Char) :
    utf8Encode (c :: cs) = String.utf8EncodeChar c ++ utf8Encode cs := List.flatMap_cons

/-- The text ends with a U+FFFD whose first bytes are among the first `n`. -/
def CutsReplacement (text : List Char) (n : ℕ) : Prop :=
  ∃ front, text = front ++ ['\uFFFD'] ∧ (utf8Encode front).length < n

theorem not_cutsReplacement_zero (text : List Char) : ¬CutsReplacement text 0 := by
  rintro ⟨front, -, hlt⟩
  exact Nat.not_lt_zero _ hlt

/-- What the first bytes of a text read as is the text only when nothing is missing but
bytes of a last U+FFFD. -/
theorem utf8Decode_take_eq_iff (text : List Char) (n : ℕ) :
    utf8Decode ((utf8Encode text).take n) = text ↔
      (utf8Encode text).length ≤ n ∨ CutsReplacement text n := by
  induction text generalizing n with
  | nil => simp [utf8Encode, utf8Decode, utf8DecodeFrom, Utf8State.start]
  | cons c cs ih =>
      have hpos : 0 < (String.utf8EncodeChar c).length :=
        List.length_pos_iff.mpr (utf8EncodeChar_ne_nil c)
      have hlength : (utf8Encode (c :: cs)).length =
          (String.utf8EncodeChar c).length + (utf8Encode cs).length := by
        rw [utf8Encode_cons, List.length_append]
      rw [hlength, utf8Encode_cons]
      by_cases hwhole : (String.utf8EncodeChar c).length ≤ n
      · -- The first character is there: what is missing is in the others.
        have htake : ((String.utf8EncodeChar c) ++ utf8Encode cs).take n =
            String.utf8EncodeChar c ++
              (utf8Encode cs).take (n - (String.utf8EncodeChar c).length) := by
          rw [List.take_append, List.take_of_length_le hwhole]
        have hcuts : CutsReplacement cs (n - (String.utf8EncodeChar c).length) →
            CutsReplacement (c :: cs) n := by
          rintro ⟨front, rfl, hlt⟩
          refine ⟨c :: front, rfl, ?_⟩
          rw [utf8Encode_cons, List.length_append]
          omega
        rw [htake, utf8Decode, utf8Decode_char, List.cons_inj_right]
        refine (ih _).trans ⟨?_, ?_⟩
        · rintro (hle | hcut)
          · exact .inl (by omega)
          · exact .inr (hcuts hcut)
        · rintro (hle | ⟨front, htext, hlt⟩)
          · exact .inl (by omega)
          · cases front with
            | nil =>
                obtain ⟨-, rfl⟩ := List.cons.inj htext
                exact .inl (Nat.zero_le _)
            | cons d front =>
                obtain ⟨rfl, rfl⟩ := List.cons.inj htext
                rw [utf8Encode_cons, List.length_append] at hlt
                exact .inr ⟨front, rfl, by omega⟩
      · have htake : ((String.utf8EncodeChar c) ++ utf8Encode cs).take n =
            (String.utf8EncodeChar c).take n :=
          List.take_append_of_le_length (by omega)
        rw [htake]
        rcases Nat.eq_zero_or_pos n with rfl | hn
        · have hnone : utf8Decode ((String.utf8EncodeChar c).take 0) = [] := rfl
          rw [hnone]
          refine ⟨fun hnil => (List.cons_ne_nil _ _ hnil.symm).elim, ?_⟩
          rintro (hle | hcut)
          · omega
          · exact (not_cutsReplacement_zero _ hcut).elim
        · have hcut : utf8Decode ((String.utf8EncodeChar c).take n) = ['\uFFFD'] := by
            apply utf8Decode_cut (List.take_append_drop n _)
            · exact List.ne_nil_of_length_pos (by rw [List.length_take]; omega)
            · exact List.ne_nil_of_length_pos (by rw [List.length_drop]; omega)
          rw [hcut]
          constructor
          · intro heq
            exact .inr ⟨[], heq.symm, hn⟩
          · rintro (hle | ⟨front, htext, hlt⟩)
            · omega
            · cases front with
              | nil => exact htext.symm
              | cons d front =>
                  obtain ⟨rfl, -⟩ := List.cons.inj htext
                  rw [utf8Encode_cons, List.length_append] at hlt
                  omega

end AgentSkeptic.Support
