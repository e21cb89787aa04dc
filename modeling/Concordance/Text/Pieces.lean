/-!
# Cutting and joining texts

A separator cuts a text into one piece more than it occurs; joining the pieces
with the separator gives the text back. Replacement looks for a pattern from the
left, without overlaps; the empty pattern stands before every character and at
the end.
-/

namespace Concordance
namespace Text

/-- The pieces between the occurrences of a separator. -/
def splitAt (separator : Char) : List Char -> List (List Char)
  | [] => [[]]
  | character :: rest =>
      if character = separator then [] :: splitAt separator rest
      else
        match splitAt separator rest with
        | [] => [[character]]
        | piece :: pieces => (character :: piece) :: pieces

@[simp] theorem splitAt_nil (separator : Char) : splitAt separator [] = [[]] := rfl

/-- The pieces with a separator between them. -/
def joinWith (separator : Char) : List (List Char) -> List Char
  | [] => []
  | [piece] => piece
  | piece :: next :: pieces => piece ++ separator :: joinWith separator (next :: pieces)

/-- Cutting at a separator loses nothing. -/
@[simp] theorem joinWith_splitAt
    (separator : Char)
    (text : List Char) :
    joinWith separator (splitAt separator text) = text := by
  induction text with
  | nil => rfl
  | cons character rest inductionHypothesis =>
      simp only [splitAt]
      split
      next equal =>
        subst equal
        cases pieces : splitAt character rest with
        | nil =>
            rw [pieces] at inductionHypothesis
            simp [joinWith] at inductionHypothesis
            subst inductionHypothesis
            simp at pieces
        | cons piece pieces' =>
            rw [pieces] at inductionHypothesis
            simp [joinWith, inductionHypothesis]
      next different =>
        cases pieces : splitAt separator rest with
        | nil =>
            rw [pieces] at inductionHypothesis
            simp [joinWith] at inductionHypothesis
            subst inductionHypothesis
            simp at pieces
        | cons piece pieces' =>
            rw [pieces] at inductionHypothesis
            cases pieces' with
            | nil => simpa [joinWith] using inductionHypothesis
            | cons next others => simpa [joinWith] using inductionHypothesis

/-- The text before and after the first occurrence of a separator. -/
def cutFirst (separator : Char) : List Char -> Option (List Char × List Char)
  | [] => none
  | character :: rest =>
      if character = separator then some ([], rest)
      else (cutFirst separator rest).map fun (before, after) => (character :: before, after)

/-- The text before and after the last occurrence of a separator. -/
def cutLast (separator : Char) : List Char -> Option (List Char × List Char)
  | [] => none
  | character :: rest =>
      match cutLast separator rest with
      | some (before, after) => some (character :: before, after)
      | none => if character = separator then some ([], rest) else none

/-- Whether a text begins with a given beginning. -/
def startsWith (start : List Char) (text : List Char) : Bool :=
  start.isPrefixOf text

/-- Replace every occurrence of a nonempty pattern, from the left; `skip` counts
the characters of an occurrence that are still to be dropped. -/
def replaceFrom (pattern replacement : List Char) : Nat -> List Char -> List Char
  | _, [] => []
  | skip + 1, _ :: rest => replaceFrom pattern replacement skip rest
  | 0, character :: rest =>
      if pattern.isPrefixOf (character :: rest) then
        replacement ++ replaceFrom pattern replacement (pattern.length - 1) rest
      else character :: replaceFrom pattern replacement 0 rest

/-- Replace every occurrence of a pattern; the empty pattern occurs before every
character and at the end. -/
def replace (pattern replacement : List Char) (text : List Char) : List Char :=
  if pattern.isEmpty then
    replacement ++ text.flatMap fun character => character :: replacement
  else replaceFrom pattern replacement 0 text

/-- `replace` on strings. -/
def replaceIn (pattern replacement text : String) : String :=
  String.ofList (replace pattern.toList replacement.toList text.toList)

end Text
end Concordance
