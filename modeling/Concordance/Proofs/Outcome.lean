import Mathlib.Data.List.Forall2

/-!
# Outcomes

Where a chain of steps yields a result, every step of it has yielded one; where it fails, one of
them has failed. A list of steps yields one result for each of them, in their order.
-/

namespace Concordance

variable {ε α β : Type}

theorem ok_bind (value : α) (next : α -> Except ε β) :
    Except.ok value >>= next = next value := rfl

theorem error_bind (cause : ε) (next : α -> Except ε β) :
    Except.error cause >>= next = .error cause := rfl

theorem pure_eq_ok (value : α) : (pure value : Except ε α) = .ok value := rfl

theorem throw_eq_error (cause : ε) : (throw cause : Except ε α) = .error cause := rfl

/-- What a step yields is what the next one goes on with. -/
theorem bind_eq_ok_iff
    {first : Except ε α}
    {next : α -> Except ε β}
    {result : β} :
    first >>= next = .ok result ↔ ∃ value, first = .ok value ∧ next value = .ok result := by
  cases first with
  | error cause => simp [error_bind]
  | ok value => simp [ok_bind]

theorem exists_of_bind_eq_ok
    {first : Except ε α}
    {next : α -> Except ε β}
    {result : β}
    (succeeds : first >>= next = .ok result) :
    ∃ value, first = .ok value ∧ next value = .ok result :=
  bind_eq_ok_iff.1 succeeds

/-- A chain of steps fails in its first step, or behind what that one yields. -/
theorem eq_or_exists_of_bind_eq_error
    {first : Except ε α}
    {next : α -> Except ε β}
    {cause : ε}
    (fails : first >>= next = .error cause) :
    first = .error cause ∨ ∃ value, first = .ok value ∧ next value = .error cause := by
  cases first with
  | error other =>
      cases fails
      exact Or.inl rfl
  | ok value => exact Or.inr ⟨value, rfl, fails⟩

/-- Where a chain of steps goes on behind a guard, the guard was not needed. -/
theorem of_guarded_eq_ok
    {condition : Prop}
    [Decidable condition]
    {cause : ε}
    {next : Except ε α}
    {result : α}
    (succeeds : (if condition then .error cause else next) = .ok result) :
    ¬condition ∧ next = .ok result := by
  split at succeeds
  next => cases succeeds
  next unneeded => exact ⟨unneeded, succeeds⟩

/-- Only a result can be mapped to a result. -/
theorem map_eq_ok
    {outcome : Except ε α}
    {change : α -> β}
    {changed : β}
    (maps : outcome.map change = .ok changed) :
    ∃ result, outcome = .ok result ∧ change result = changed := by
  cases outcome with
  | error cause => cases maps
  | ok result =>
      cases maps
      exact ⟨result, rfl, rfl⟩

/-- A result under a renamed cause has been a result before. -/
theorem mapError_eq_ok_iff
    {ε' : Type}
    {outcome : Except ε α}
    {rename : ε -> ε'}
    {result : α} :
    outcome.mapError rename = .ok result ↔ outcome = .ok result := by
  cases outcome with
  | error cause => simp [Except.mapError]
  | ok value => simp [Except.mapError]

/-- A value that is taken out of an outcome has been yielded. -/
theorem eq_ok_of_toOption_eq_some
    {outcome : Except ε α}
    {value : α}
    (taken : outcome.toOption = some value) :
    outcome = .ok value := by
  cases outcome with
  | error cause => cases taken
  | ok other => rw [Option.some.inj taken]

section Steps

variable {step : α -> Except ε β} {inputs : List α}

/-- A list of steps yields results exactly where each step yields the result in its place. -/
theorem mapM_eq_ok_iff {results : List β} :
    inputs.mapM step = .ok results ↔
      List.Forall₂ (fun input result => step input = .ok result) inputs results := by
  induction inputs generalizing results with
  | nil =>
      rw [List.forall₂_nil_left_iff, List.mapM_nil, pure_eq_ok, Except.ok.injEq, eq_comm]
  | cons input rest inductionHypothesis =>
      rw [List.mapM_cons, List.forall₂_cons_left_iff]
      constructor
      · intro succeeds
        obtain ⟨first, firstYields, others⟩ := exists_of_bind_eq_ok succeeds
        obtain ⟨later, restYields, collected⟩ := exists_of_bind_eq_ok others
        cases collected
        exact ⟨first, later, firstYields, inductionHypothesis.1 restYields, rfl⟩
      · rintro ⟨first, later, firstYields, restYields, rfl⟩
        rw [firstYields, inductionHypothesis.2 restYields]
        rfl

/-- A list of steps yields something exactly where each step does. -/
theorem exists_mapM_eq_ok_iff :
    (∃ results, inputs.mapM step = .ok results) ↔
      ∀ input ∈ inputs, ∃ result, step input = .ok result := by
  simp only [mapM_eq_ok_iff]
  induction inputs with
  | nil => simp
  | cons input rest inductionHypothesis =>
      rw [List.forall_mem_cons, ← inductionHypothesis]
      simp only [List.forall₂_cons_left_iff]
      constructor
      · rintro ⟨_, first, later, firstYields, restYields, rfl⟩
        exact ⟨⟨first, firstYields⟩, later, restYields⟩
      · rintro ⟨⟨first, firstYields⟩, later, restYields⟩
        exact ⟨_, first, later, firstYields, restYields, rfl⟩

/-- Steps on written parts yield what each part stands for. -/
theorem mapM_map_eq_ok
    {γ : Type}
    {write : γ -> α}
    {result : γ -> β}
    {parts : List γ}
    (each : ∀ part ∈ parts, step (write part) = .ok (result part)) :
    (parts.map write).mapM step = .ok (parts.map result) := by
  rw [mapM_eq_ok_iff, List.forall₂_map_left_iff, List.forall₂_map_right_iff, List.forall₂_same]
  exact each

/-- Every result of a list of steps has been yielded by one of them. -/
theorem exists_of_mem_of_mapM_eq_ok
    {results : List β}
    (succeeds : inputs.mapM step = .ok results)
    {result : β}
    (member : result ∈ results) :
    ∃ input ∈ inputs, step input = .ok result := by
  rw [mapM_eq_ok_iff] at succeeds
  induction succeeds with
  | nil => cases member
  | @cons input first rest others firstYields _ inductionHypothesis =>
      rcases List.mem_cons.1 member with rfl | inOthers
      · exact ⟨input, List.mem_cons_self, firstYields⟩
      · obtain ⟨source, inRest, yields⟩ := inductionHypothesis inOthers
        exact ⟨source, List.mem_cons_of_mem _ inRest, yields⟩

/-- What one of the steps yields is among the results. -/
theorem mem_of_mapM_eq_ok
    {results : List β}
    (succeeds : inputs.mapM step = .ok results)
    {input : α}
    {result : β}
    (member : input ∈ inputs)
    (yields : step input = .ok result) :
    result ∈ results := by
  rw [mapM_eq_ok_iff] at succeeds
  induction succeeds with
  | nil => cases member
  | cons firstYields _ inductionHypothesis =>
      rcases List.mem_cons.1 member with rfl | inRest
      · rw [firstYields] at yields
        cases yields
        exact List.mem_cons_self
      · exact List.mem_cons_of_mem _ (inductionHypothesis inRest)

/-- A list of steps fails as one of them does. -/
theorem exists_of_mapM_eq_error
    {cause : ε}
    (fails : inputs.mapM step = .error cause) :
    ∃ input ∈ inputs, step input = .error cause := by
  induction inputs with
  | nil => cases fails
  | cons input rest inductionHypothesis =>
      rw [List.mapM_cons] at fails
      rcases eq_or_exists_of_bind_eq_error fails with firstFails | ⟨first, _, othersFail⟩
      · exact ⟨input, List.mem_cons_self, firstFails⟩
      · rcases eq_or_exists_of_bind_eq_error othersFail with restFails | ⟨_, _, collected⟩
        · obtain ⟨source, inRest, sourceFails⟩ := inductionHypothesis restFails
          exact ⟨source, List.mem_cons_of_mem input inRest, sourceFails⟩
        · cases collected

end Steps

end Concordance
