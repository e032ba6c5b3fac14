namespace TraceView

/-!
# Outcomes

Steps that may fail are done one after the other, and the first failure is that of the whole.  So
a sequence succeeds exactly if each of its steps does.
-/

variable {ε α β : Type}

/-- A step that gives a result. -/
def Succeeds (outcome : Except ε α) : Prop :=
  Exists fun value : α => outcome = .ok value

theorem succeeds_ok (value : α) : Succeeds (.ok value : Except ε α) :=
  ⟨value, rfl⟩

theorem not_succeeds_error {cause : ε} : ¬ Succeeds (.error cause : Except ε α) := by
  rintro ⟨value, impossible⟩
  cases impossible

/-- A sequence of two steps succeeds if both do. -/
theorem bind_eq_ok_iff {ε α β : Type} {first : Except ε α} {next : α -> Except ε β} {result : β} :
    (first >>= next) = .ok result ↔
      Exists fun value : α => first = .ok value ∧ next value = .ok result := by
  cases first with
  | error cause =>
      constructor
      · intro impossible
        cases impossible
      · rintro ⟨value, impossible, _⟩
        cases impossible
  | ok value =>
      constructor
      · intro succeeds
        exact ⟨value, rfl, succeeds⟩
      · rintro ⟨other, same, succeeds⟩
        cases same
        exact succeeds

theorem mapError_eq_ok_iff {ε φ α : Type} {outcome : Except ε α} {name : ε -> φ} {result : α} :
    outcome.mapError name = .ok result ↔ outcome = .ok result := by
  cases outcome with
  | error cause =>
      constructor <;> intro impossible <;> cases impossible
  | ok value =>
      constructor <;> intro same <;> cases same <;> rfl

/-- Outcomes that a step without loss makes the same are the same. -/
theorem map_injective_of_injective {ε α β : Type} {next : α -> β}
    (injective : Function.Injective next) :
    Function.Injective (Except.map next : Except ε α -> Except ε β) := by
  intro first second same
  cases first with
  | error cause =>
      cases second with
      | error other => exact congrArg Except.error (Except.error.inj same)
      | ok value => cases same
  | ok value =>
      cases second with
      | error cause => cases same
      | ok other => exact congrArg Except.ok (injective (Except.ok.inj same))

theorem succeeds_bind_iff {first : Except ε α} {next : α -> Except ε β} :
    Succeeds (first >>= next) ↔
      Exists fun value : α => first = .ok value ∧ Succeeds (next value) := by
  constructor
  · rintro ⟨result, succeeds⟩
    rcases bind_eq_ok_iff.mp succeeds with ⟨value, given, next⟩
    exact ⟨value, given, result, next⟩
  · rintro ⟨value, given, result, next⟩
    exact ⟨result, bind_eq_ok_iff.mpr ⟨value, given, next⟩⟩

theorem succeeds_map_iff {outcome : Except ε α} {next : α -> β} :
    Succeeds (outcome.map next) ↔ Succeeds outcome := by
  cases outcome with
  | error cause => exact iff_of_false not_succeeds_error not_succeeds_error
  | ok value => exact iff_of_true (succeeds_ok _) (succeeds_ok _)

/-- A step for each of several items succeeds if it does so for each of them. -/
theorem succeeds_mapM_iff {step : α -> Except ε β} {items : List α} :
    Succeeds (items.mapM step) ↔ forall item, item ∈ items -> Succeeds (step item) := by
  induction items with
  | nil => exact iff_of_true (succeeds_ok _) fun item impossible => absurd impossible List.not_mem_nil
  | cons first rest inductionHypothesis =>
      rw [List.mapM_cons, List.forall_mem_cons, ← inductionHypothesis, succeeds_bind_iff]
      constructor
      · rintro ⟨value, given, others⟩
        rcases succeeds_bind_iff.mp others with ⟨values, found, _⟩
        exact ⟨⟨value, given⟩, values, found⟩
      · rintro ⟨⟨value, given⟩, values, found⟩
        exact ⟨value, given, succeeds_bind_iff.mpr ⟨values, found, succeeds_ok _⟩⟩

/-- Steps that come to the same for each of several items come to the same for all of them. -/
theorem mapM_congr {first second : α -> Except ε β} {items : List α}
    (same : forall item, item ∈ items -> first item = second item) :
    items.mapM first = items.mapM second := by
  induction items with
  | nil => rfl
  | cons item rest inductionHypothesis =>
      rcases List.forall_mem_cons.mp same with ⟨here, others⟩
      rw [List.mapM_cons, List.mapM_cons, here, inductionHypothesis others]

/-! ## Failures -/

/-- A step that fails, if it does, for a cause of some kind. -/
def FailsOnly (possible : ε -> Prop) (outcome : Except ε α) : Prop :=
  forall cause, outcome = .error cause -> possible cause

variable {possible : ε -> Prop}

theorem failsOnly_ok (value : α) : FailsOnly possible (.ok value : Except ε α) :=
  fun _ impossible => nomatch impossible

theorem failsOnly_error {cause : ε} (known : possible cause) :
    FailsOnly possible (.error cause : Except ε α) := by
  intro other same
  cases same
  exact known

/-- A sequence fails only as its steps do. -/
theorem failsOnly_bind {first : Except ε α} {next : α -> Except ε β}
    (fails : FailsOnly possible first)
    (others : forall value, first = .ok value -> FailsOnly possible (next value)) :
    FailsOnly possible (first >>= next) := by
  cases first with
  | error cause => exact failsOnly_error (fails cause rfl)
  | ok value => exact others value rfl

theorem failsOnly_map {outcome : Except ε α} {next : α -> β} (fails : FailsOnly possible outcome) :
    FailsOnly possible (outcome.map next) := by
  cases outcome with
  | error cause => exact failsOnly_error (fails cause rfl)
  | ok value => exact failsOnly_ok _

theorem failsOnly_mapM {step : α -> Except ε β} {items : List α}
    (fails : forall item, item ∈ items -> FailsOnly possible (step item)) :
    FailsOnly possible (items.mapM step) := by
  induction items with
  | nil => exact failsOnly_ok _
  | cons item rest inductionHypothesis =>
      rcases List.forall_mem_cons.mp fails with ⟨first, others⟩
      rw [List.mapM_cons]
      apply failsOnly_bind first
      intro value _
      exact failsOnly_bind (inductionHypothesis others) fun values _ => failsOnly_ok _

/-! ## Results with a property -/

/-- A step that gives a result with a property, or fails for a cause of some kind. -/
def Ends (possible : ε -> Prop) (good : α -> Prop) : Except ε α -> Prop
  | .ok value => good value
  | .error cause => possible cause

namespace Ends

variable {good : α -> Prop} {better : β -> Prop}

/-- The second step of a sequence may rely on what the first one gives. -/
theorem bind {first : Except ε α} {next : α -> Except ε β} (start : Ends possible good first)
    (rest : forall value, good value -> Ends possible better (next value)) :
    Ends possible better (first >>= next) := by
  cases first with
  | error cause => exact start
  | ok value => exact rest value start

theorem map {outcome : Except ε α} {next : α -> β} (ends : Ends possible good outcome)
    (rest : forall value, good value -> better (next value)) :
    Ends possible better (outcome.map next) := by
  cases outcome with
  | error cause => exact ends
  | ok value => exact rest value ends

theorem imp {outcome : Except ε α} {weaker : α -> Prop} (ends : Ends possible good outcome)
    (weakens : forall value, good value -> weaker value) : Ends possible weaker outcome := by
  cases outcome with
  | error cause => exact ends
  | ok value => exact weakens value ends

/-- A step that cannot fail gives a result. -/
theorem exists_ok {outcome : Except ε α} (ends : Ends (fun _ => False) good outcome) :
    Exists fun value : α => outcome = .ok value ∧ good value := by
  cases outcome with
  | error cause => exact ends.elim
  | ok value => exact ⟨value, rfl, ends⟩

end Ends

end TraceView
