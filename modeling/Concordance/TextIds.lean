import Concordance.Numeral.Integer

/-!
# Sets of text ids

A set of ids is spelled as a comma-separated list, either of the ids themselves
or of its runs: a maximal block of consecutive ids is written `first-last`. The
runs of a set are taken from its ascending list; the shorter spelling is sent,
and of two equally long ones the runs.
-/

namespace Concordance

/-- A block of consecutive text ids, with both ends included. -/
structure Run where
  first : Int
  last : Int
  deriving DecidableEq, Repr

/-- A block in writing. -/
def Run.spell (run : Run) : String :=
  if run.first = run.last then Numeral.spell run.first
  else Numeral.spell run.first ++ "-" ++ Numeral.spell run.last

namespace TextIds

/-- Drop an element that equals the one behind it. -/
def dropRepeats : List Int -> List Int
  | [] => []
  | [id] => [id]
  | id :: next :: rest =>
      if id = next then dropRepeats (next :: rest) else id :: dropRepeats (next :: rest)

/-- The distinct ids in ascending order. -/
def ascending (ids : List Int) : List Int :=
  dropRepeats ids.mergeSort

/-- The runs of an ascending list that goes on from the block `first-last`. -/
def runsFrom (first last : Int) : List Int -> List Run
  | [] => [⟨first, last⟩]
  | id :: rest =>
      if id = last + 1 then runsFrom first id rest else ⟨first, last⟩ :: runsFrom id id rest

/-- The runs of an ascending list. -/
def runs : List Int -> List Run
  | [] => []
  | id :: rest => runsFrom id id rest

@[simp] theorem runs_nil : runs [] = [] := rfl

/-- The spelling by runs. -/
def spellRuns (ids : List Int) : String :=
  ",".intercalate ((runs (ascending ids)).map Run.spell)

/-- The spelling id by id, in the given order. -/
def spellEach (ids : List Int) : String :=
  ",".intercalate (ids.map Numeral.spell)

/-- Whether the spelling by runs is no longer than the spelling id by id. -/
def prefersRuns (ids : List Int) : Bool :=
  !ids.isEmpty && (spellRuns ids).length ≤ (spellEach ids).length

/-- The shorter of the two spellings. -/
def spell (ids : List Int) : String :=
  if prefersRuns ids then spellRuns ids else spellEach ids

end TextIds
end Concordance
