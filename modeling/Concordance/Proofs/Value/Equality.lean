import Concordance.Value

/-!
# Values can be compared

Lists and objects are compared item by item and entry by entry, so a statement that some text is
read as a value can be evaluated.
-/

namespace Concordance
namespace Value

mutual

/-- Whether two values are the same. -/
def same : Value -> Value -> Bool
  | .null, .null => true
  | .bool truth, .bool other => truth == other
  | .int number, .int other => number == other
  | .float number, .float other => decide (number = other)
  | .str text, .str other => text == other
  | .list items, .list others => sameItems items others
  | .obj entries, .obj others => sameEntries entries others
  | .date year month day, .date otherYear otherMonth otherDay =>
      year == otherYear && month == otherMonth && day == otherDay
  | _, _ => false

/-- Whether the items of two lists are the same. -/
def sameItems : List Value -> List Value -> Bool
  | [], [] => true
  | item :: items, other :: others => same item other && sameItems items others
  | _, _ => false

/-- Whether the entries of two objects are the same, in the same order. -/
def sameEntries : List (String × Value) -> List (String × Value) -> Bool
  | [], [] => true
  | (key, value) :: entries, (otherKey, other) :: others =>
      key == otherKey && same value other && sameEntries entries others
  | _, _ => false

end

mutual

theorem same_iff (value other : Value) : same value other = true ↔ value = other := by
  cases value with
  | list items => cases other <;> simp [same, sameItems_iff items]
  | obj entries => cases other <;> simp [same, sameEntries_iff entries]
  | _ => cases other <;> simp [same, and_assoc]

theorem sameItems_iff (items others : List Value) :
    sameItems items others = true ↔ items = others := by
  cases items with
  | nil => cases others <;> simp [sameItems]
  | cons item items => cases others <;> simp [sameItems, same_iff item, sameItems_iff items]

theorem sameEntries_iff (entries others : List (String × Value)) :
    sameEntries entries others = true ↔ entries = others := by
  cases entries with
  | nil => cases others <;> simp [sameEntries]
  | cons entry entries =>
      obtain ⟨key, value⟩ := entry
      cases others with
      | nil => simp [sameEntries]
      | cons other others => simp [sameEntries, Prod.ext_iff, same_iff value, sameEntries_iff entries]

end

instance : DecidableEq Value := fun value other =>
  decidable_of_iff (same value other = true) (same_iff value other)

end Value
end Concordance
