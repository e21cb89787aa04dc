import Concordance.Text.Blank

/-!
# Consonantal roots

The root index stores a root letter by letter, each followed by a separator,
with a placeholder for the weak letters, which change in the forms of a word.
The pattern of a typed root has the same shape; blanks are left out.
-/

namespace Concordance
namespace Root

/-- The letters that change in the forms of a word: the alif and its hamza
carriers, the lone hamza, the waw and the two forms of the ya. -/
def weakLetters : List Char :=
  ['\u0623', '\u0626', '\u0624', '\u0621', '\u064A', '\u0649', '\u0627', '\u0648']

/-- The sign that stands for any weak letter. -/
def placeholder : Char := '#'

/-- The sign behind every letter. -/
def separator : Char := '.'

/-- A letter with the weak ones replaced. -/
def mask (letter : Char) : Char :=
  if weakLetters.contains letter then placeholder else letter

/-- The letters of a typed root: all of it but the blanks. -/
def letters (text : String) : List Char :=
  text.toList.filter fun character => !Text.isBlank character

/-- The pattern of a typed root; a blank text has the empty pattern. -/
def pattern (text : String) : String :=
  String.ofList ((letters text).flatMap fun letter => [mask letter, separator])

end Root
end Concordance
