import Concordance.Text.Blank
import Concordance.Text.Pieces

/-!
# Phrases as typed

A phrase is normalised by trimming it and collapsing every run of blanks to one
space; letters are kept as typed. The words of a phrase are the pieces of its
normal form between the spaces. A star and a question mark stand for letters
left open.
-/

namespace Concordance
namespace Phrase

/-- The normal form of a phrase. -/
def normalize (text : String) : String :=
  String.ofList (Text.trim (Text.collapse text.toList))

/-- The words of a phrase; a blank phrase has none. -/
def splitWords (text : String) : List String :=
  let normal := (normalize text).toList
  if normal.isEmpty then [] else (Text.splitAt ' ' normal).map String.ofList

/-- Whether a character marks letters left open. -/
def isMarker (character : Char) : Bool :=
  character == '*' || character == '?'

/-- Whether a text holds a marker. -/
def hasMarker (text : String) : Bool :=
  text.toList.any isMarker

@[simp] theorem normalize_empty : normalize "" = "" := rfl

end Phrase
end Concordance
