/-!
# Blank characters, words and trimming

A text is read as a list of characters. The blanks are the characters that
separate words, and a word is a maximal run of characters that are not blank.
Trimming removes blanks from the ends and leaves the inside alone; collapsing
keeps one space of every run of blanks.
-/

namespace Concordance
namespace Text

/-- The blanks: the space, the five layout controls, the four information
separators, and the separators of the general punctuation and ideographic
blocks. Zero-width characters and the byte order mark are not blank. -/
def isBlank (character : Char) : Bool :=
  let code := character.toNat
  (0x09 ≤ code && code ≤ 0x0D) || (0x1C ≤ code && code ≤ 0x20) ||
    code == 0x85 || code == 0xA0 || code == 0x1680 ||
    (0x2000 ≤ code && code ≤ 0x200A) || code == 0x2028 || code == 0x2029 ||
    code == 0x202F || code == 0x205F || code == 0x3000

@[simp] theorem isBlank_space : isBlank ' ' = true := by decide

/-- Drop the blanks at the front. -/
def trimLeft (text : List Char) : List Char :=
  text.dropWhile isBlank

/-- Drop the blanks at the end. -/
def trimRight (text : List Char) : List Char :=
  (text.reverse.dropWhile isBlank).reverse

/-- Drop the blanks at both ends. -/
def trim (text : List Char) : List Char :=
  trimRight (trimLeft text)

@[simp] theorem trim_nil : trim [] = [] := rfl

/-- Keep one space of every run of blanks. -/
def collapse : List Char -> List Char
  | [] => []
  | character :: rest =>
      if isBlank character then
        match rest with
        | [] => [' ']
        | next :: _ => if isBlank next then collapse rest else ' ' :: collapse rest
      else character :: collapse rest

@[simp] theorem collapse_nil : collapse [] = [] := rfl

/-- The maximal runs of characters that are not blank, in order. -/
def words : List Char -> List (List Char)
  | [] => []
  | [character] => if isBlank character then [] else [[character]]
  | character :: next :: rest =>
      if isBlank character then words (next :: rest)
      else if isBlank next then [character] :: words (next :: rest)
      else
        match words (next :: rest) with
        | [] => [[character]]
        | word :: others => (character :: word) :: others

@[simp] theorem words_nil : words [] = [] := rfl

/-- A blank in front changes no word. -/
theorem words_cons_of_isBlank
    {character : Char}
    (rest : List Char)
    (blank : isBlank character = true) :
    words (character :: rest) = words rest := by
  cases rest <;> simp [words, blank]

end Text
end Concordance
