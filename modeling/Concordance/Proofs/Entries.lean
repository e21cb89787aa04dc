import Concordance.Entries
import Mathlib.Data.List.Nodup

/-!
# Keys that stand once

A put adds its key where it is missing and changes nothing else, so entries in which every key
stands once stay such. In these, a value is found under the key that it stands beside.
-/

namespace Concordance
namespace Entries

universe u

variable {α : Type u}

/-- A field is put among the entries, or is one of them. -/
theorem mem_put
    {entries : Entries α}
    {key : String}
    {value : α}
    {entry : String × α}
    (member : entry ∈ entries.put key value) :
    entry = (key, value) ∨ entry ∈ entries := by
  induction entries with
  | nil => exact .inl (List.mem_singleton.1 member)
  | cons first rest inductionHypothesis =>
      obtain ⟨name, current⟩ := first
      unfold put at member
      split at member
      next same =>
        subst same
        rcases List.mem_cons.1 member with rfl | later
        · exact .inl rfl
        · exact .inr (List.mem_cons_of_mem _ later)
      next different =>
        rcases List.mem_cons.1 member with rfl | later
        · exact .inr List.mem_cons_self
        · exact (inductionHypothesis later).imp_right (List.mem_cons_of_mem _)

/-- The keys after a put are the keys before and the new one. -/
theorem mem_keys_put
    (entries : Entries α)
    (key : String)
    (value : α)
    (name : String) :
    name ∈ (entries.put key value).keys ↔ name ∈ entries.keys ∨ name = key := by
  induction entries with
  | nil => simp [put, keys]
  | cons entry rest inductionHypothesis =>
      obtain ⟨other, current⟩ := entry
      unfold keys at inductionHypothesis ⊢
      unfold put
      split
      next same =>
        subst same
        simp only [List.map_cons, List.mem_cons]
        tauto
      next different =>
        simp only [List.map_cons, List.mem_cons, inductionHypothesis, or_assoc]

@[simp] theorem keys_cons (name : String) (value : α) (rest : Entries α) :
    keys ((name, value) :: rest) = name :: keys rest := rfl

/-- Nothing is found under a key exactly where the key is missing. -/
theorem get?_eq_none_iff (entries : Entries α) (key : String) :
    entries.get? key = none ↔ key ∉ entries.keys := by
  induction entries with
  | nil => simp [keys]
  | cons entry rest inductionHypothesis =>
      obtain ⟨name, current⟩ := entry
      by_cases same : name = key
      · simp [same]
      · simp [same, Ne.symm same, inductionHypothesis]

/-- A value is found under the key that it stands beside, where every key stands once. -/
theorem get?_of_mem
    {entries : Entries α}
    (distinct : entries.keys.Nodup)
    {key : String}
    {value : α}
    (member : (key, value) ∈ entries) :
    entries.get? key = some value := by
  induction entries with
  | nil => cases member
  | cons entry rest inductionHypothesis =>
      obtain ⟨name, current⟩ := entry
      rw [keys_cons, List.nodup_cons] at distinct
      rcases List.mem_cons.1 member with same | later
      · cases same
        rw [get?_cons, if_pos rfl]
      · have different : name ≠ key := by
          rintro rfl
          exact distinct.1 (List.mem_map_of_mem (f := Prod.fst) later)
        rw [get?_cons, if_neg different]
        exact inductionHypothesis distinct.2 later

/-- What is found stands beside its key. -/
theorem mem_of_get?
    {entries : Entries α}
    {key : String}
    {value : α}
    (found : entries.get? key = some value) :
    (key, value) ∈ entries := by
  induction entries with
  | nil => cases found
  | cons entry rest inductionHypothesis =>
      obtain ⟨name, current⟩ := entry
      rw [get?_cons] at found
      split at found
      next same =>
        subst same
        cases found
        exact List.mem_cons_self
      next => exact List.mem_cons_of_mem _ (inductionHypothesis found)

/-- A put of what is found already changes nothing. -/
theorem put_of_get?
    {entries : Entries α}
    {key : String}
    {value : α}
    (found : entries.get? key = some value) :
    entries.put key value = entries := by
  induction entries with
  | nil => cases found
  | cons entry rest inductionHypothesis =>
      obtain ⟨name, current⟩ := entry
      rw [get?_cons] at found
      unfold put
      split
      next same =>
        rw [if_pos same] at found
        cases found
        rfl
      next different =>
        rw [if_neg different] at found
        rw [inductionHypothesis found]

/-- A put under a missing key goes to the end. -/
theorem put_of_not_mem
    {entries : Entries α}
    {key : String}
    (missing : key ∉ entries.keys)
    (value : α) :
    entries.put key value = entries ++ [(key, value)] := by
  induction entries with
  | nil => rfl
  | cons entry rest inductionHypothesis =>
      obtain ⟨name, current⟩ := entry
      rw [keys_cons, List.mem_cons, not_or] at missing
      rw [put, if_neg (Ne.symm missing.1), inductionHypothesis missing.2, List.cons_append]

/-- After a put, every key stands once where it did before. -/
theorem nodup_keys_put
    {entries : Entries α}
    (distinct : entries.keys.Nodup)
    (key : String)
    (value : α) :
    (entries.put key value).keys.Nodup := by
  induction entries with
  | nil => exact List.nodup_singleton key
  | cons entry rest inductionHypothesis =>
      obtain ⟨name, current⟩ := entry
      rw [keys_cons, List.nodup_cons] at distinct
      unfold put
      split
      next => exact List.nodup_cons.2 distinct
      next different =>
        rw [keys_cons, List.nodup_cons, mem_keys_put, not_or]
        exact ⟨⟨distinct.1, different⟩, inductionHypothesis distinct.2⟩

end Entries
end Concordance
