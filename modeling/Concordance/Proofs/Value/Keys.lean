import Concordance.Proofs.Entries
import Concordance.Value

/-!
# Paths of keys

Keys lead from an object to the values in it, and through the objects among these further down;
through any other value no key leads. A path of keys is followed part by part.

A value is keyed where every object that keys lead to has each of its keys once.
-/

namespace Concordance
namespace Value

/-- The value that a path of keys leads to. -/
def at? : Value -> List String -> Option Value
  | value, [] => some value
  | .obj entries, key :: path => (Entries.get? entries key).bind fun value => value.at? path
  | _, _ :: _ => none

@[simp] theorem at?_nil (value : Value) : value.at? [] = some value := by
  cases value <;> rfl

@[simp] theorem at?_obj_cons (entries : Entries Value) (key : String) (path : List String) :
    (obj entries).at? (key :: path) =
      (entries.get? key).bind fun value => value.at? path := rfl

/-- No key leads through a value that is no object. -/
theorem at?_cons_of_entries?
    {value : Value}
    (noObject : value.entries? = none)
    (key : String)
    (path : List String) :
    value.at? (key :: path) = none := by
  cases value with
  | obj entries => cases noObject
  | _ => rfl

/-- A path in two parts is followed one part after the other. -/
theorem at?_append (value : Value) (front rest : List String) :
    value.at? (front ++ rest) = (value.at? front).bind fun inner => inner.at? rest := by
  induction front generalizing value with
  | nil => simp
  | cons key path inductionHypothesis =>
      cases value with
      | obj entries =>
          rw [List.cons_append, at?_obj_cons, at?_obj_cons, Option.bind_assoc]
          simp only [inductionHypothesis]
      | _ => rfl

/-- A value in which every object that keys lead to has each of its keys once. -/
inductive IsKeyed : Value -> Prop
  | obj {entries : Entries Value}
      (distinct : entries.keys.Nodup)
      (inside : ∀ entry ∈ entries, IsKeyed entry.2) :
      IsKeyed (.obj entries)
  | other {value : Value} (noObject : value.entries? = none) : IsKeyed value

namespace IsKeyed

variable {entries : Entries Value}

theorem distinct (keyed : IsKeyed (.obj entries)) : entries.keys.Nodup := by
  cases keyed with
  | obj distinct inside => exact distinct
  | other noObject => cases noObject

theorem inside (keyed : IsKeyed (.obj entries)) : ∀ entry ∈ entries, IsKeyed entry.2 := by
  cases keyed with
  | obj distinct inside => exact inside
  | other noObject => cases noObject

/-- What is found in a keyed object is keyed. -/
theorem of_get?
    (keyed : IsKeyed (.obj entries))
    {key : String}
    {value : Value}
    (found : entries.get? key = some value) :
    IsKeyed value :=
  keyed.inside _ (Entries.mem_of_get? found)

theorem empty : IsKeyed (.obj []) :=
  .obj List.nodup_nil fun _ member => nomatch member

/-- A keyed object stays keyed where a keyed value is put into it. -/
theorem put
    (keyed : IsKeyed (.obj entries))
    {value : Value}
    (valueKeyed : IsKeyed value)
    (key : String) :
    IsKeyed (.obj (entries.put key value)) := by
  refine .obj (Entries.nodup_keys_put keyed.distinct key value) ?_
  intro entry member
  rcases Entries.mem_put member with rfl | earlier
  · exact valueKeyed
  · exact keyed.inside entry earlier

end IsKeyed

end Value
end Concordance
