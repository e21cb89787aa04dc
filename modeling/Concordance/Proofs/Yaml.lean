import Concordance.Proofs.Outcome
import Concordance.Proofs.Value.Keys
import Concordance.Yaml

/-!
# Keys in settings texts

A scalar stands for no object, and the entries of a mapping are put one after another. So in the
value of a settings text every key stands once in its object, also where it is written twice.
-/

namespace Concordance
namespace Yaml

/-- A date is no object. -/
theorem Scalar.entries?_of_date?
    {text : List Char}
    {value : Value}
    (reads : date? text = some (.ok value)) :
    value.entries? = none := by
  unfold date? at reads
  split at reads
  next =>
    split at reads
    next =>
      have reads := Option.some.inj reads
      obtain ⟨_, reads⟩ := of_guarded_eq_ok reads
      obtain ⟨_, reads⟩ := of_guarded_eq_ok reads
      obtain ⟨_, reads⟩ := of_guarded_eq_ok reads
      cases reads
      rfl
    next => cases reads
  next => cases reads

/-- A plain scalar stands for no object. -/
theorem Scalar.entries?_of_value
    {text : String}
    {value : Value}
    (reads : Scalar.value text = .ok value) :
    value.entries? = none := by
  unfold Scalar.value at reads
  split at reads
  next =>
    cases reads
    rfl
  next =>
    split at reads
    next =>
      cases reads
      rfl
    next =>
      split at reads
      next =>
        obtain ⟨number, _, rfl⟩ := map_eq_ok reads
        rfl
      next =>
        split at reads
        next =>
          cases reads
          rfl
        next =>
          obtain ⟨_, reads⟩ := of_guarded_eq_ok reads
          cases dated : date? text.toList with
          | none =>
              rw [dated] at reads
              cases reads
              rfl
          | some outcome =>
              rw [dated, Option.getD_some] at reads
              exact entries?_of_date? (dated.trans (congrArg some reads))

mutual

/-- The value of a node is keyed. -/
theorem isKeyed_of_valueOf
    {node : Node}
    {value : Value}
    (reads : valueOf node = .ok value) :
    value.IsKeyed := by
  cases node with
  | scalar text isPlain =>
      cases isPlain with
      | true => exact .other (Scalar.entries?_of_value reads)
      | false =>
          cases reads
          exact .other rfl
  | sequence items =>
      obtain ⟨values, _, rfl⟩ := map_eq_ok reads
      exact .other rfl
  | mapping pairs =>
      obtain ⟨entries, inside, rfl⟩ := map_eq_ok reads
      exact isKeyed_of_entriesOf .empty inside

/-- A mapping whose entries are put into a keyed object leaves a keyed object. -/
theorem isKeyed_of_entriesOf
    {pairs : List (Node × Node)}
    {entries merged : Entries Value}
    (keyed : (Value.obj entries).IsKeyed)
    (reads : entriesOf entries pairs = .ok merged) :
    (Value.obj merged).IsKeyed := by
  match pairs with
  | [] =>
      cases reads
      exact keyed
  | (key, node) :: rest =>
      obtain ⟨name, _, reads⟩ := exists_of_bind_eq_ok reads
      obtain ⟨value, isValue, reads⟩ := exists_of_bind_eq_ok reads
      exact isKeyed_of_entriesOf (keyed.put (isKeyed_of_valueOf isValue) name) reads

end

/-- The value of a settings text is keyed. -/
theorem isKeyed_of_read
    {text : String}
    {value : Value}
    (reads : read text = .ok value) :
    value.IsKeyed := by
  unfold read at reads
  split at reads
  next => cases reads
  next =>
    split at reads
    next => cases reads
    next =>
      cases reads
      exact .other rfl
    next => exact isKeyed_of_valueOf reads

end Yaml
end Concordance
