/-!
# Date ranges

A window of dates inside fixed bounds.
-/

namespace Concordance

/-- A window `start` to `finish` inside the bounds `least` to `greatest`, with all
ends included. -/
structure DateRange where
  least : Int
  greatest : Int
  start : Int
  finish : Int
  deriving DecidableEq, Repr

/-- A window was refused: it has to lie in the bounds and to begin no later than
it ends. -/
structure DateRangeError where
  least : Int
  greatest : Int
  deriving DecidableEq, Repr

/-- The wording of a refusal. -/
def DateRangeError.message (error : DateRangeError) : String :=
  s!"date range must satisfy {error.least} <= start <= end <= {error.greatest}"

namespace DateRange

/-- The bounds where none are given. -/
def defaultBounds : Int × Int := (0, 2000)

/-- The window that fills its bounds. -/
def whole (least greatest : Int) : DateRange :=
  { least, greatest, start := least, finish := greatest }

/-- The window widened to its bounds. -/
def full (range : DateRange) : DateRange :=
  whole range.least range.greatest

/-- Another window in the same bounds. -/
def select (range : DateRange) (start finish : Int) : Except DateRangeError DateRange :=
  if finish < start ∨ start < range.least ∨ range.greatest < finish then
    .error ⟨range.least, range.greatest⟩
  else .ok { range with start, finish }

end DateRange
end Concordance
