import Concordance.Text.Pieces

/-!
# Paths

A path is taken as text: the slashes at its front and its parts. Empty parts and
single dots do not count; double dots stay. An absolute path joined to another
one takes its place.
-/

namespace Concordance

/-- A path: nothing, one slash or two slashes, and parts. -/
structure Path where
  slashes : Nat := 0
  parts : List String
  deriving DecidableEq, Repr

namespace Path

/-- The slashes that count at the front of a path: exactly two count as two, any
other number as one. -/
def frontSlashes (text : List Char) : Nat :=
  match (text.takeWhile (· = '/')).length with
  | 0 => 0
  | 2 => 2
  | _ => 1

/-- The path of a text. -/
def ofText (text : String) : Path :=
  { slashes := frontSlashes text.toList
    parts := ((Text.splitAt '/' text.toList).map String.ofList).filter fun part =>
      !(part.isEmpty || part == ".") }

/-- A path inside another. -/
def join (path inner : Path) : Path :=
  if 0 < inner.slashes then inner else { path with parts := path.parts ++ inner.parts }

/-- The directory that holds what a path leads to. -/
def parent (path : Path) : Path :=
  { path with parts := path.parts.dropLast }

/-- The text of a path. -/
def text (path : Path) : String :=
  if path.slashes = 0 ∧ path.parts.isEmpty then "."
  else String.ofList (List.replicate path.slashes '/') ++ "/".intercalate path.parts

/-- Go through parts from a place on: double dots lead back one part, and to
nowhere in an empty place below a root. -/
def walk (isAbsolute : Bool) (reversed : List String) : List String -> List String
  | [] => reversed.reverse
  | part :: rest =>
      if part = ".." then
        match reversed with
        | last :: before =>
            if last = ".." then walk isAbsolute (part :: reversed) rest
            else walk isAbsolute before rest
        | [] => walk isAbsolute (if isAbsolute then [] else [part]) rest
      else walk isAbsolute (part :: reversed) rest

/-- The place that a path leads to, without detours. -/
def resolved (path : Path) : Path :=
  { path with parts := walk (0 < path.slashes) [] path.parts }

/-- Whether a path stays below the place that it starts from. -/
def staysBelow (path : Path) : Bool :=
  path.slashes == 0 && path.resolved.parts.head? != some ".."

end Path
end Concordance
