import Concordance.Json.Token
import Concordance.Yaml.Line

/-!
# Quoted scalars

In single quotes only a quote is written twice. In double quotes a backslash
begins an escape. Lines inside quotes are folded.
-/

namespace Concordance
namespace Yaml
namespace Quoted

/-- The character of an escape without a number. -/
def escape? : Char -> Option Char
  | '0' => some '\x00'
  | 'a' => some '\x07'
  | 'b' => some '\x08'
  | 't' => some '\t'
  | '\t' => some '\t'
  | 'n' => some '\n'
  | 'v' => some '\x0b'
  | 'f' => some '\x0c'
  | 'r' => some '\r'
  | 'e' => some '\x1b'
  | ' ' => some ' '
  | '"' => some '"'
  | '\\' => some '\\'
  | '/' => some '/'
  | 'N' => some '\x85'
  | '_' => some '\xa0'
  | 'L' => some '\u2028'
  | 'P' => some '\u2029'
  | _ => none

/-- The number of hexadecimal digits of an escape with a number. -/
def hexLength? : Char -> Option Nat
  | 'x' => some 2
  | 'u' => some 4
  | 'U' => some 8
  | _ => none

/-- The value of hexadecimal digits. -/
def hexValue? : List Char -> Option Nat :=
  List.foldlM (fun value digit => (Json.hexValue? digit).map fun digit => 16 * value + digit) 0

/-- The breaks of empty lines, with the blanks around them. A line may not mark
off a document. -/
def emptyLines? (breaks : List Char) : Nat -> List Char -> Option (List Char × List Char)
  | 0, _ => none
  | fuel + 1, text =>
      if startsMarker text then none
      else
        let after := text.dropWhile fun character => character = ' ' || character = '\t'
        match readBreak after with
        | some (character, rest) => emptyLines? (breaks ++ [character]) fuel rest
        | none => some (breaks, after)

/-- The rest of a scalar in quotes; none when it does not end, or holds an escape
that is not known. -/
def scanFrom?
    (quote : Char)
    (scalar : List Char) :
    Nat -> List Char -> Option (List Char × List Char)
  | 0, _ => none
  | _, [] => none
  | fuel + 1, character :: rest =>
      if character = quote then
        match quote, rest with
        | '\'', '\'' :: after => scanFrom? quote ('\'' :: scalar) fuel after
        | _, _ => some (scalar.reverse, rest)
      else if character = '\\' ∧ quote = '"' then
        match rest with
        | [] => none
        | sign :: after =>
            match escape? sign, hexLength? sign with
            | some escaped, _ => scanFrom? quote (escaped :: scalar) fuel after
            | none, some length =>
                let digits := after.take length
                match hexValue? digits with
                | none => none
                | some code =>
                    if digits.length < length ∨ 0x10FFFF < code then none
                    else
                      scanFrom? quote (Char.ofNat code :: scalar) fuel (after.drop length)
            | none, none =>
                match readBreak rest with
                | none => none
                | some (_, nextLine) =>
                    match emptyLines? [] (nextLine.length + 1) nextLine with
                    | none => none
                    | some (breaks, after) =>
                        scanFrom? quote (breaks.reverse ++ scalar) fuel after
      else if isSeparator character then
        let isSpace (next : Char) : Bool := next = ' ' || next = '\t'
        let spaces := (character :: rest).takeWhile isSpace
        let after := (character :: rest).dropWhile isSpace
        match readBreak after with
        | none => scanFrom? quote (spaces.reverse ++ scalar) fuel after
        | some (first, nextLine) =>
            match emptyLines? [] (nextLine.length + 1) nextLine with
            | none => none
            | some (breaks, after) =>
                scanFrom? quote ((foldBreaks first breaks).reverse ++ scalar) fuel after
      else scanFrom? quote (character :: scalar) fuel rest

/-- The scalar behind an opening quote, and the rest behind the closing one. -/
def scan? (quote : Char) (text : List Char) : Option (List Char × List Char) :=
  scanFrom? quote [] (text.length + 1) text

end Quoted
end Yaml
end Concordance
