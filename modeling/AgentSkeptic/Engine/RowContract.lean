import AgentSkeptic.Engine.Reconcilers

/-!
# The row contract

`reconcileFromRows` looks at the required fields in the order of their names and stops at
the first one that the row does not hold.  It reports what is wrong with that field, unless
the column is absent under a name that every object inherits
(`reconcileFromRows_contract_iff`).
-/

namespace AgentSkeptic.Engine

open AgentSkeptic.Support

section Fields

variable (tables : TextTables) (row : SqlRow)

/-- The value of a column that the row itself has. -/
def ownColumn (column : String) : Option JsValue :=
  (row.find? (·.1 == column)).map Prod.snd

/-- The row has the column of a field, and a scalar in it that equals what is expected. -/
def FieldHeld (field : String × VerificationScalar) : Prop :=
  ∃ actual, ownColumn row (tables.toLowerCase field.1) = some actual ∧
    reconcileFields.isUnreadable actual = false ∧
      verificationScalarsEqual field.2 actual = .ok .ok

def FieldAbsent (field : String × VerificationScalar) : Prop :=
  ownColumn row (tables.toLowerCase field.1) = none

def FieldUnreadable (field : String × VerificationScalar) : Prop :=
  ∃ actual, ownColumn row (tables.toLowerCase field.1) = some actual ∧
    reconcileFields.isUnreadable actual = true

def FieldDiffers (field : String × VerificationScalar) : Prop :=
  ∃ actual, ownColumn row (tables.toLowerCase field.1) = some actual ∧
    reconcileFields.isUnreadable actual = false ∧
      verificationScalarsEqual field.2 actual ≠ .ok .ok

/-- The first field of a list that the row does not hold. -/
def FirstOffending (fields : ScalarFields) (field : String × VerificationScalar) : Prop :=
  ∃ before after, fields = before ++ field :: after ∧
    (∀ f ∈ before, FieldHeld tables row f) ∧ ¬FieldHeld tables row field

/-- A name that a row inherits, like every object. -/
def IsInherited (column : String) : Prop :=
  column = "__proto__" ∨ column ∈ objectPrototypeNames

end Fields

/-- The status and the code of the only reason. -/
def Reports (out : ReconcileOutput) (status : StepStatus)
    (code : SqlVerificationOutcomeCode) : Prop :=
  out.status = status ∧ out.reasons.map Reason.code = [code.code]

/-- What the outcome says about the rows that were fetched. -/
structure RowContract (tables : TextTables) (rows : List SqlRow) (req : VerificationRequest)
    (out : ReconcileOutput) : Prop where
  missing : out.status = .missing ↔ rows = []
  duplicate : Reports out .inconsistent .duplicateRows ↔ 2 ≤ rows.length
  verified : out.status = .verified ↔
    ∃ row, rows = [row] ∧ ∀ field ∈ req.requiredFields, FieldHeld tables row field
  offending : ∀ row field, rows = [row] →
    FirstOffending tables row (sortedFields tables req.requiredFields) field →
      (FieldAbsent tables row field →
        Reports out .incompleteVerification .rowShapeMismatch) ∧
      (FieldUnreadable tables row field →
        Reports out .incompleteVerification .unreadableValue) ∧
      (FieldDiffers tables row field → Reports out .inconsistent .valueMismatch)

/-- The first offending field of the one row is absent under an inherited name. -/
def HidesAbsence (tables : TextTables) (rows : List SqlRow) (req : VerificationRequest) :
    Prop :=
  ∃ row field, rows = [row] ∧
    FirstOffending tables row (sortedFields tables req.requiredFields) field ∧
      FieldAbsent tables row field ∧ IsInherited (tables.toLowerCase field.1)

section Steps

variable {tables : TextTables} {row : SqlRow} {ctx : String}

/-! ## Columns -/

theorem documentField_of_own {column : String} {actual : JsValue}
    (h : ownColumn row column = some actual) : documentField row column = actual := by
  obtain ⟨m, hm, rfl⟩ := Option.map_eq_some_iff.mp h
  rw [documentField, hm]

theorem documentField_of_absent {column : String} (h : ownColumn row column = none) :
    documentField row column = inherited [] column := by
  rw [documentField, Option.map_eq_none_iff.mp h]

theorem hasColumn_of_own {column : String} {actual : JsValue}
    (h : ownColumn row column = some actual) : hasColumn row column = true := by
  obtain ⟨m, hm, -⟩ := Option.map_eq_some_iff.mp h
  have hname := List.find?_some hm
  have hany : row.any (·.1 == column) = true :=
    List.any_eq_true.mpr ⟨m, List.mem_of_find?_eq_some hm, hname⟩
  rw [hasColumn, hany]
  rfl

theorem hasColumn_of_absent {column : String} (h : ownColumn row column = none) :
    hasColumn row column = true ↔ IsInherited column := by
  have hnone := List.find?_eq_none.mp (Option.map_eq_none_iff.mp h)
  have hany : row.any (·.1 == column) = false := by
    rw [List.any_eq_false]
    exact hnone
  rw [hasColumn, hany, IsInherited]
  simp

/-- Nothing that is expected equals a function. -/
theorem scalarMatches_builtin (expected : VerificationScalar) (name : String) :
    scalarMatches expected (.builtin name) = false := by
  cases expected with
  | null => rfl
  | str value => rfl
  | bool value => rfl
  | num value => exact Bool.and_false _

/-! ## Fields -/

theorem reconcileFields_held {field : String × VerificationScalar}
    (h : FieldHeld tables row field) (rest : ScalarFields) :
    reconcileFields tables row ctx (field :: rest) = reconcileFields tables row ctx rest := by
  obtain ⟨actual, hown, hread, hequal⟩ := h
  rw [reconcileFields, documentField_of_own hown, hasColumn_of_own hown, if_neg (by simp), hread,
    if_neg (by simp), hequal]
  rfl

theorem reconcileFields_held_append {before : ScalarFields}
    (h : ∀ field ∈ before, FieldHeld tables row field) (rest : ScalarFields) :
    reconcileFields tables row ctx (before ++ rest) =
      reconcileFields tables row ctx rest := by
  induction before with
  | nil => rfl
  | cons field before ih =>
      obtain ⟨hfield, hbefore⟩ := List.forall_mem_cons.mp h
      rw [List.cons_append, reconcileFields_held hfield, ih hbefore]

theorem reconcileFields_absent {field : String × VerificationScalar} {rest : ScalarFields}
    {out : ReconcileOutput} (h : FieldAbsent tables row field)
    (hname : ¬IsInherited (tables.toLowerCase field.1))
    (hout : reconcileFields tables row ctx (field :: rest) = .ok out) :
    Reports out .incompleteVerification .rowShapeMismatch := by
  have hcolumn : hasColumn row (tables.toLowerCase field.1) = false := by
    rw [← Bool.not_eq_true]
    exact mt (hasColumn_of_absent h).mp hname
  rw [reconcileFields, if_pos hcolumn] at hout
  obtain rfl := Except.ok.inj hout
  exact ⟨rfl, rfl⟩

/-- A value that is read: what the step answers of it. -/
theorem reconcileFields_read {field : String × VerificationScalar} {rest : ScalarFields}
    {actual : JsValue} {out : ReconcileOutput}
    (hcolumn : hasColumn row (tables.toLowerCase field.1) = true)
    (hactual : documentField row (tables.toLowerCase field.1) = actual)
    (hout : reconcileFields tables row ctx (field :: rest) = .ok out) :
    (reconcileFields.isUnreadable actual = true →
      Reports out .incompleteVerification .unreadableValue) ∧
    (reconcileFields.isUnreadable actual = false →
      verificationScalarsEqual field.2 actual ≠ .ok .ok →
        Reports out .inconsistent .valueMismatch) := by
  rw [reconcileFields, if_neg (by simp [hcolumn]), hactual] at hout
  constructor
  · intro hread
    rw [if_pos hread] at hout
    obtain rfl := Except.ok.inj hout
    exact ⟨rfl, rfl⟩
  · intro hread hdiffers
    rw [if_neg (by simp [hread])] at hout
    obtain ⟨result, hresult, hout⟩ := bind_eq_ok.mp hout
    cases result with
    | ok => exact absurd hresult hdiffers
    | mismatch expected found =>
        obtain rfl := Except.ok.inj hout
        exact ⟨rfl, rfl⟩

theorem reconcileFields_unreadable {field : String × VerificationScalar}
    {rest : ScalarFields} {out : ReconcileOutput} (h : FieldUnreadable tables row field)
    (hout : reconcileFields tables row ctx (field :: rest) = .ok out) :
    Reports out .incompleteVerification .unreadableValue := by
  obtain ⟨actual, hown, hread⟩ := h
  exact (reconcileFields_read (hasColumn_of_own hown) (documentField_of_own hown) hout).1 hread

theorem reconcileFields_differs {field : String × VerificationScalar}
    {rest : ScalarFields} {out : ReconcileOutput} (h : FieldDiffers tables row field)
    (hout : reconcileFields tables row ctx (field :: rest) = .ok out) :
    Reports out .inconsistent .valueMismatch := by
  obtain ⟨actual, hown, hread, hdiffers⟩ := h
  exact (reconcileFields_read (hasColumn_of_own hown) (documentField_of_own hown) hout).2
    hread hdiffers

/-- An absent column with an inherited name is read, and what is read offends. -/
theorem reconcileFields_inherited {field : String × VerificationScalar}
    {rest : ScalarFields} {out : ReconcileOutput} (h : FieldAbsent tables row field)
    (hname : IsInherited (tables.toLowerCase field.1))
    (hout : reconcileFields tables row ctx (field :: rest) = .ok out) :
    Reports out .incompleteVerification .unreadableValue ∨
      Reports out .inconsistent .valueMismatch := by
  have hcolumn := (hasColumn_of_absent h).mpr hname
  have hactual := documentField_of_absent h
  obtain ⟨hunreadable, hdiffers⟩ := reconcileFields_read hcolumn hactual hout
  by_cases hproto : tables.toLowerCase field.1 = "__proto__"
  · apply Or.inl
    apply hunreadable
    rw [inherited, if_pos hproto]
    rfl
  · obtain ⟨name, hbuiltin⟩ : ∃ name, inherited [] (tables.toLowerCase field.1) =
        .builtin name := by
      rw [inherited, if_neg hproto, if_pos (.inr (hname.resolve_left hproto))]
      exact ⟨_, rfl⟩
    apply Or.inr
    rw [hbuiltin] at hdiffers
    apply hdiffers rfl
    intro hequal
    have hmatches := verificationScalarsEqual_ok_iff.mp hequal
    rw [scalarMatches_builtin] at hmatches
    cases hmatches

/-! ## Lists of fields -/

theorem exists_firstOffending {fields : ScalarFields}
    (h : ¬∀ field ∈ fields, FieldHeld tables row field) :
    ∃ field, FirstOffending tables row fields field := by
  induction fields with
  | nil => exact absurd (fun field hmem => absurd hmem List.not_mem_nil) h
  | cons field fields ih =>
      by_cases hfield : FieldHeld tables row field
      · have hrest : ¬∀ f ∈ fields, FieldHeld tables row f := by
          intro hall
          exact h (List.forall_mem_cons.mpr ⟨hfield, hall⟩)
        obtain ⟨offending, before, after, rfl, hbefore, hnot⟩ := ih hrest
        refine ⟨offending, field :: before, after, rfl, ?_, hnot⟩
        exact List.forall_mem_cons.mpr ⟨hfield, hbefore⟩
      · exact ⟨field, [], fields, rfl, fun f hf => absurd hf List.not_mem_nil, hfield⟩

/-- A field that is not held is absent, unreadable or different. -/
theorem offending_cases {field : String × VerificationScalar}
    (h : ¬FieldHeld tables row field) :
    FieldAbsent tables row field ∨ FieldUnreadable tables row field ∨
      FieldDiffers tables row field := by
  cases hown : ownColumn row (tables.toLowerCase field.1) with
  | none => exact .inl hown
  | some actual =>
      apply Or.inr
      cases hread : reconcileFields.isUnreadable actual with
      | true => exact .inl ⟨actual, hown, hread⟩
      | false =>
          apply Or.inr
          exact ⟨actual, hown, hread, fun hequal => h ⟨actual, hown, hread, hequal⟩⟩

/-- The run stops at the first offending field. -/
theorem reconcileFields_first {fields : ScalarFields} {field : String × VerificationScalar}
    {out : ReconcileOutput} (h : FirstOffending tables row fields field)
    (hout : reconcileFields tables row ctx fields = .ok out) :
    ∃ after, reconcileFields tables row ctx (field :: after) = .ok out := by
  obtain ⟨before, after, rfl, hbefore, -⟩ := h
  rw [reconcileFields_held_append hbefore] at hout
  exact ⟨after, hout⟩

theorem reconcileFields_offending {fields : ScalarFields}
    {field : String × VerificationScalar} {out : ReconcileOutput}
    (h : FirstOffending tables row fields field)
    (hout : reconcileFields tables row ctx fields = .ok out) :
    Reports out .incompleteVerification .rowShapeMismatch ∨
      Reports out .incompleteVerification .unreadableValue ∨
        Reports out .inconsistent .valueMismatch := by
  obtain ⟨after, hstep⟩ := reconcileFields_first h hout
  obtain ⟨-, -, -, -, hnot⟩ := h
  rcases offending_cases hnot with habsent | hunreadable | hdiffers
  · by_cases hname : IsInherited (tables.toLowerCase field.1)
    · exact .inr (reconcileFields_inherited habsent hname hstep)
    · exact .inl (reconcileFields_absent habsent hname hstep)
  · exact .inr (.inl (reconcileFields_unreadable hunreadable hstep))
  · exact .inr (.inr (reconcileFields_differs hdiffers hstep))

theorem reconcileFields_all {fields : ScalarFields}
    (h : ∀ field ∈ fields, FieldHeld tables row field) :
    reconcileFields tables row ctx fields = .ok (verifiedOutput [("rowCount", intJson 1)]) := by
  have hrun := @reconcileFields_held_append _ _ ctx _ h []
  rw [List.append_nil] at hrun
  exact hrun

end Steps

/-! ## Rows -/

section Rows

variable {tables : TextTables} {req : VerificationRequest}

theorem mem_sortedFields {fields : ScalarFields} {field : String × VerificationScalar} :
    field ∈ sortedFields tables fields ↔ field ∈ fields :=
  (List.perm_insertionSort _ fields).mem_iff

theorem contract_none {out : ReconcileOutput}
    (hout : reconcileFromRows tables [] req = .ok out) : RowContract tables [] req out := by
  obtain rfl := Except.ok.inj hout
  constructor
  · exact iff_of_true rfl rfl
  · refine iff_of_false ?_ (by simp)
    rintro ⟨hstatus, -⟩
    cases hstatus
  · refine iff_of_false (by rintro ⟨⟩) ?_
    rintro ⟨row, hrows, -⟩
    cases hrows
  · intro row field hrows
    cases hrows

theorem contract_many {r s : SqlRow} {rows : List SqlRow} {out : ReconcileOutput}
    (hout : reconcileFromRows tables (r :: s :: rows) req = .ok out) :
    RowContract tables (r :: s :: rows) req out := by
  obtain rfl := Except.ok.inj hout
  constructor
  · refine iff_of_false (by rintro ⟨⟩) ?_
    exact List.cons_ne_nil _ _
  · refine iff_of_true ⟨rfl, rfl⟩ ?_
    rw [List.length_cons, List.length_cons]
    omega
  · refine iff_of_false (by rintro ⟨⟩) ?_
    rintro ⟨row, hrows, -⟩
    cases hrows
  · intro row field hrows
    cases hrows

/-- An answer about an offending field says neither that the row is missing, nor that it is
verified, nor that there are several. -/
theorem reports_offending {out : ReconcileOutput}
    (h : Reports out .incompleteVerification .rowShapeMismatch ∨
      Reports out .incompleteVerification .unreadableValue ∨
        Reports out .inconsistent .valueMismatch) :
    out.status ≠ .missing ∧ out.status ≠ .verified ∧
      ¬Reports out .inconsistent .duplicateRows := by
  rcases h with ⟨hstatus, -⟩ | ⟨hstatus, -⟩ | ⟨hstatus, hcode⟩
  · refine ⟨by simp [hstatus], by simp [hstatus], ?_⟩
    rintro ⟨hother, -⟩
    rw [hstatus] at hother
    cases hother
  · refine ⟨by simp [hstatus], by simp [hstatus], ?_⟩
    rintro ⟨hother, -⟩
    rw [hstatus] at hother
    cases hother
  · refine ⟨by simp [hstatus], by simp [hstatus], ?_⟩
    rintro ⟨-, hother⟩
    rw [hcode] at hother
    exact absurd hother (by decide)

theorem contract_held {row : SqlRow} {out : ReconcileOutput}
    (hall : ∀ field ∈ req.requiredFields, FieldHeld tables row field)
    (hout : reconcileFromRows tables [row] req = .ok out) :
    RowContract tables [row] req out := by
  have hsorted : ∀ field ∈ sortedFields tables req.requiredFields,
      FieldHeld tables row field := fun field hmem => hall field (mem_sortedFields.mp hmem)
  have hrun : reconcileFromRows tables [row] req =
      .ok (verifiedOutput [("rowCount", intJson 1)]) := reconcileFields_all hsorted
  obtain rfl := Except.ok.inj (hout.symm.trans hrun)
  constructor
  · exact iff_of_false (by rintro ⟨⟩) (List.cons_ne_nil _ _)
  · refine iff_of_false ?_ (by simp)
    rintro ⟨hstatus, -⟩
    cases hstatus
  · exact iff_of_true rfl ⟨row, rfl, hall⟩
  · rintro row' field hrows ⟨before, after, hfields, -, hnot⟩
    obtain rfl := (List.cons.inj hrows).1
    have hmem : field ∈ sortedFields tables req.requiredFields := by
      rw [hfields]
      exact List.mem_append_right _ List.mem_cons_self
    exact absurd (hsorted field hmem) hnot

theorem reports_unique {out : ReconcileOutput} {status status' : StepStatus}
    {code code' : SqlVerificationOutcomeCode} (h : Reports out status code)
    (h' : Reports out status' code') : code.code = code'.code :=
  List.singleton_injective (h.2.symm.trans h'.2)

/-- One row with a field that it does not hold. -/
theorem contract_offending {row : SqlRow} {out : ReconcileOutput}
    (hnot : ¬∀ field ∈ req.requiredFields, FieldHeld tables row field)
    (hout : reconcileFromRows tables [row] req = .ok out)
    (hname : ¬HidesAbsence tables [row] req) : RowContract tables [row] req out := by
  have hsorted : ¬∀ field ∈ sortedFields tables req.requiredFields,
      FieldHeld tables row field :=
    fun hall => hnot fun field hmem => hall field (mem_sortedFields.mpr hmem)
  obtain ⟨first, hfirst⟩ := exists_firstOffending hsorted
  have hfields : reconcileFields tables row (rowKeyContext req)
      (sortedFields tables req.requiredFields) = .ok out := hout
  obtain ⟨hmissing, hverified, hduplicate⟩ :=
    reports_offending (reconcileFields_offending hfirst hfields)
  constructor
  · exact iff_of_false hmissing (List.cons_ne_nil _ _)
  · refine iff_of_false hduplicate ?_
    rw [List.length_singleton]
    omega
  · refine iff_of_false hverified ?_
    rintro ⟨row', hrows, hall⟩
    obtain rfl := (List.cons.inj hrows).1
    exact hnot hall
  · intro row' field hrows hoffends
    obtain rfl := (List.cons.inj hrows).1
    obtain ⟨after, hstep⟩ := reconcileFields_first hoffends hfields
    refine ⟨?_, ?_, ?_⟩
    · intro habsent
      have hown : ¬IsInherited (tables.toLowerCase field.1) :=
        fun hinherited => hname ⟨row, field, rfl, hoffends, habsent, hinherited⟩
      exact reconcileFields_absent habsent hown hstep
    · intro hunreadable
      exact reconcileFields_unreadable hunreadable hstep
    · intro hdiffers
      exact reconcileFields_differs hdiffers hstep

/-- What is read under an inherited name is never reported as absent. -/
theorem not_contract_of_hides {row : SqlRow} {out : ReconcileOutput}
    (hout : reconcileFromRows tables [row] req = .ok out)
    (h : HidesAbsence tables [row] req) : ¬RowContract tables [row] req out := by
  intro hcontract
  obtain ⟨row', field, hrows, hoffends, habsent, hname⟩ := h
  obtain rfl := (List.cons.inj hrows).1
  have hshape := (hcontract.offending row field rfl hoffends).1 habsent
  obtain ⟨after, hstep⟩ := reconcileFields_first hoffends hout
  rcases reconcileFields_inherited habsent hname hstep with hunreadable | hdiffers
  · exact absurd (reports_unique hshape hunreadable) (by decide)
  · exact absurd (reports_unique hshape hdiffers) (by decide)

/-- What `reconcileFromRows` answers is what the rows are, exactly unless the first
offending field of the one row is absent under an inherited name. -/
theorem reconcileFromRows_contract_iff (tables : TextTables) (rows : List SqlRow)
    (req : VerificationRequest) :
    ∃ out, reconcileFromRows tables rows req = .ok out ∧
      (RowContract tables rows req out ↔ ¬HidesAbsence tables rows req) := by
  obtain ⟨out, hout⟩ : ∃ out, reconcileFromRows tables rows req = .ok out :=
    reconcileFromRows_total rows req
  refine ⟨out, hout, ?_⟩
  match rows with
  | [] =>
      refine iff_of_true (contract_none hout) ?_
      rintro ⟨row, field, hrows, -⟩
      cases hrows
  | r :: s :: rest =>
      refine iff_of_true (contract_many hout) ?_
      rintro ⟨row, field, hrows, -⟩
      cases hrows
  | [row] =>
      constructor
      · intro hcontract hhides
        exact not_contract_of_hides hout hhides hcontract
      · intro hname
        by_cases hall : ∀ field ∈ req.requiredFields, FieldHeld tables row field
        · exact contract_held hall hout
        · exact contract_offending hall hout hname

/-- A row without a column `constructor` is reported as one with another value in it. -/
theorem reconcileFromRows_reads_constructor :
    ∃ out, reconcileFromRows ⟨id, fun _ _ => true⟩ [[("id", .json (.str "1"))]]
        ⟨"t", [⟨"id", "1"⟩], [("constructor", .str "x")]⟩ = .ok out ∧
      ¬RowContract ⟨id, fun _ _ => true⟩ [[("id", .json (.str "1"))]]
        ⟨"t", [⟨"id", "1"⟩], [("constructor", .str "x")]⟩ out := by
  obtain ⟨out, hout⟩ : ∃ out, reconcileFromRows ⟨id, fun _ _ => true⟩
      [[("id", .json (.str "1"))]] ⟨"t", [⟨"id", "1"⟩], [("constructor", .str "x")]⟩ =
        .ok out := reconcileFromRows_total _ _
  refine ⟨out, hout, not_contract_of_hides hout ?_⟩
  refine ⟨_, ("constructor", .str "x"), rfl, ⟨[], [], rfl, by simp, ?_⟩, rfl, ?_⟩
  · rintro ⟨actual, hown, -⟩
    cases hown
  · exact .inr (by decide)

end Rows

end AgentSkeptic.Engine
