/-!
# Lines of a settings text

A line ends at a line feed, a carriage return, both together, or one of three
other line breaks. A document is marked off by three dashes or three dots at the
beginning of a line. Only printable characters may stand in a text.
-/

namespace Concordance
namespace Yaml

/-- Whether a character ends a line. -/
def isBreak (character : Char) : Bool :=
  character = '\n' || character = '\r' || character = '\x85' ||
    character = '\u2028' || character = '\u2029'

/-- Whether a character separates words. -/
def isSeparator (character : Char) : Bool :=
  character = ' ' || character = '\t' || isBreak character

/-- Whether a text ends here or goes on with a separator. -/
def startsSeparated : List Char -> Bool
  | [] => true
  | character :: _ => isSeparator character

/-- Whether a character may stand in a text. -/
def isAllowed (character : Char) : Bool :=
  let code := character.toNat
  code = 0x9 || code = 0xA || code = 0xD || (0x20 ≤ code && code ≤ 0x7E) || code = 0x85 ||
    (0xA0 ≤ code && code ≤ 0xFFFD) || 0x10000 ≤ code

/-- Whether a line that begins here marks off a document. -/
def startsMarker : List Char -> Bool
  | '-' :: '-' :: '-' :: rest => startsSeparated rest
  | '.' :: '.' :: '.' :: rest => startsSeparated rest
  | _ => false

/-- What a line break stands for, with the rest: the two rarest breaks stand for
themselves, all others for a line feed. -/
def readBreak : List Char -> Option (Char × List Char)
  | '\r' :: '\n' :: rest => some ('\n', rest)
  | character :: rest =>
      if character = '\u2028' ∨ character = '\u2029' then some (character, rest)
      else if isBreak character then some ('\n', rest)
      else none
  | [] => none

/-- The breaks of a folded text: the first is dropped when others follow, and is a
space when none do, unless it stands for itself. -/
def foldBreaks (first : Char) (others : List Char) : List Char :=
  if first ≠ '\n' then first :: others
  else if others.isEmpty then [' ']
  else others

end Yaml
end Concordance
