import Concordance.Yaml.Line

/-!
# Plain scalars

A plain scalar has no quotes. It ends before a comment, before a colon that
separates a key from its value, and inside brackets before their signs. It goes on
over the end of a line when the next text is indented far enough.
-/

namespace Concordance
namespace Yaml
namespace Plain

/-- Whether a plain scalar can begin here. -/
def canBegin (inFlow : Bool) : List Char -> Bool
  | [] => false
  | character :: rest =>
      if isSeparator character then false
      else if !"-?:,[]\x7b\x7d#&*!|>'\"%@\x60".toList.contains character then true
      else
        !startsSeparated rest &&
          (character = '-' || (!inFlow && (character = '?' || character = ':')))

/-- Whether a word of a plain scalar ends before a character. -/
def endsBefore (inFlow : Bool) (character : Char) (rest : List Char) : Bool :=
  isSeparator character ||
    (character = ':' &&
      (startsSeparated rest ||
        (inFlow &&
          match rest with
          | next :: _ => ",[]\x7b\x7d".toList.contains next
          | [] => false))) ||
    (inFlow && ",?[]\x7b\x7d".toList.contains character)

/-- The part of a plain scalar up to the next separator, and the rest. -/
def word (inFlow : Bool) : List Char -> List Char × List Char
  | [] => ([], [])
  | character :: rest =>
      if endsBefore inFlow character rest then ([], character :: rest)
      else
        let (word, after) := word inFlow rest
        (character :: word, after)

/-- What stands between two words of a plain scalar. -/
structure Gap where
  spaces : List Char
  rest : List Char
  brokeLine : Bool
  column : Nat
  atMarker : Bool

/-- The spaces and breaks behind the first break of a gap. -/
def gapLines (breaks : List Char) (column : Nat) : Nat -> List Char -> Gap
  | 0, text => ⟨breaks, text, true, column, false⟩
  | fuel + 1, text =>
      match text with
      | ' ' :: rest => gapLines breaks (column + 1) fuel rest
      | _ =>
          match readBreak text with
          | some (character, rest) =>
              if startsMarker rest then ⟨breaks ++ [character], rest, true, 0, true⟩
              else gapLines (breaks ++ [character]) 0 fuel rest
          | none => ⟨breaks, text, true, column, false⟩

/-- The gap behind a word: spaces of one line as they are, or folded lines. -/
def gap (text : List Char) : Gap :=
  let spaces := text.takeWhile (· = ' ')
  let after := text.dropWhile (· = ' ')
  match readBreak after with
  | none => ⟨spaces, after, false, 0, false⟩
  | some (first, rest) =>
      if startsMarker rest then ⟨[], rest, true, 0, true⟩
      else
        let lines := gapLines [] 0 rest.length rest
        { lines with spaces := if lines.atMarker then [] else foldBreaks first lines.spaces }

/-- A plain scalar from a text on: its characters, the rest, and whether a line
ended behind the last word. `indent` is the least column of a further line. -/
def scanFrom
    (inFlow : Bool)
    (indent : Int)
    (scalar spaces : List Char)
    (brokeLine : Bool) :
    Nat -> List Char -> List Char × List Char × Bool
  | 0, text => (scalar, text, brokeLine)
  | fuel + 1, text =>
      match text with
      | '#' :: _ => (scalar, text, brokeLine)
      | _ =>
          let (word, after) := word inFlow text
          if word.isEmpty then (scalar, text, brokeLine)
          else
            let longer := scalar ++ spaces ++ word
            let gap := gap after
            if gap.spaces.isEmpty || (!inFlow && gap.brokeLine && gap.column < indent) then
              (longer, gap.rest, gap.brokeLine)
            else scanFrom inFlow indent longer gap.spaces gap.brokeLine fuel gap.rest

/-- The plain scalar at the front of a text. -/
def scan (inFlow : Bool) (indent : Int) (text : List Char) : List Char × List Char × Bool :=
  scanFrom inFlow indent [] [] false text.length text

end Plain
end Yaml
end Concordance
