import Concordance.Yaml.Plain
import Concordance.Yaml.Quoted

/-!
# Tokens of a settings text

The text is cut into scalars, signs, and the beginnings and ends of the blocks
that indentation makes. A scalar or a bracket becomes a key only when a colon
follows on its line, so the place where a key token would have to stand is
remembered until then, one place for each level of brackets.

Anchors, aliases, tags and block scalars are not part of the format.
-/

namespace Concordance
namespace Yaml

/-- The pieces of a text. -/
inductive Token
  | directive
  | documentStart
  | documentEnd
  | blockSequenceStart
  | blockMappingStart
  | blockEnd
  | blockEntry
  | key
  | value
  | flowSequenceStart
  | flowSequenceEnd
  | flowMappingStart
  | flowMappingEnd
  | flowEntry
  | scalar (text : String) (isPlain : Bool)
  deriving DecidableEq, Repr

namespace Token

/-- A place where a key may turn out to begin. -/
structure KeyPlace where
  token : Nat
  required : Bool
  index : Nat
  line : Nat
  column : Nat
  deriving Repr

/-- How far the text has been cut. `flow` holds the key places of the open
brackets and `blockKey` the one outside of brackets, innermost first. -/
structure Scan where
  rest : List Char
  index : Nat := 0
  line : Nat := 0
  column : Nat := 0
  tokens : Array Token := #[]
  indent : Int := -1
  outerIndents : List Int := []
  blockKey : Option KeyPlace := none
  flow : List (Option KeyPlace) := []
  keyAllowed : Bool := true

namespace Scan

/-- Whether the place is inside brackets. -/
def inFlow (scan : Scan) : Bool := !scan.flow.isEmpty

/-- Pass one character. -/
def pass (scan : Scan) : Scan :=
  match scan.rest with
  | [] => scan
  | character :: rest =>
      let endsLine :=
        isBreak character && !(character = '\r' && rest.head? = some '\n')
      { scan with
        rest
        index := scan.index + 1
        line := if endsLine then scan.line + 1 else scan.line
        column :=
          if endsLine then 0
          else if character = '\ufeff' then scan.column
          else scan.column + 1 }

/-- Pass several characters. -/
def passMany : Nat -> Scan -> Scan
  | 0, scan => scan
  | count + 1, scan => passMany count scan.pass

/-- Pass all characters up to a rest. -/
def passTo (scan : Scan) (rest : List Char) : Scan :=
  passMany (scan.rest.length - rest.length) scan

/-- Add a token. -/
def push (scan : Scan) (token : Token) : Scan :=
  { scan with tokens := scan.tokens.push token }

/-- Pass spaces, comments and ends of lines. Outside of brackets a key may begin
on a new line. -/
def passBlanks : Nat -> Scan -> Scan
  | 0, scan => scan
  | fuel + 1, scan =>
      match scan.rest with
      | ' ' :: _ => passBlanks fuel scan.pass
      | '#' :: rest =>
          passBlanks fuel (scan.passTo (rest.dropWhile fun character => !isBreak character))
      | _ =>
          match readBreak scan.rest with
          | some (_, rest) =>
              let next := scan.passTo rest
              passBlanks fuel { next with keyAllowed := next.keyAllowed || !next.inFlow }
          | none => scan

/-- The greatest distance between a key and its colon. -/
def keyReach : Nat := 1024

/-- Forget a place that the text has gone past; none when a key had to stand
there. -/
def refresh? (scan : Scan) : Option KeyPlace -> Option (Option KeyPlace)
  | none => some none
  | some place =>
      if place.line ≠ scan.line ∨ keyReach < scan.index - place.index then
        if place.required then none else some none
      else some (some place)

/-- Forget all places that the text has gone past. -/
def refreshKeys? (scan : Scan) : Option Scan := do
  let blockKey <- scan.refresh? scan.blockKey
  let flow <- scan.flow.mapM scan.refresh?
  pure { scan with blockKey, flow }

/-- The key place of the innermost level. -/
def currentKey (scan : Scan) : Option KeyPlace :=
  match scan.flow with
  | [] => scan.blockKey
  | place :: _ => place

/-- Set the key place of the innermost level. -/
def setKey (scan : Scan) (place : Option KeyPlace) : Scan :=
  match scan.flow with
  | [] => { scan with blockKey := place }
  | _ :: outer => { scan with flow := place :: outer }

/-- Forget the key place of the innermost level; none when a key had to stand
there. -/
def dropKey? (scan : Scan) : Option Scan :=
  match scan.currentKey with
  | some place => if place.required then none else some (scan.setKey none)
  | none => some scan

/-- Remember that a key may begin here. -/
def markKey? (scan : Scan) : Option Scan :=
  if scan.keyAllowed then do
    let cleared <- scan.dropKey?
    pure (cleared.setKey (some
      { token := scan.tokens.size
        required := !scan.inFlow && scan.indent == scan.column
        index := scan.index
        line := scan.line
        column := scan.column }))
  else some scan

/-- Close the blocks that are indented further than a column. -/
def unwind (column : Int) : List Int -> Scan -> Scan
  | [], scan => scan
  | outer :: others, scan =>
      if column < scan.indent then
        unwind column others
          { scan.push .blockEnd with indent := outer, outerIndents := others }
      else scan

/-- Close the blocks that end at a column; inside brackets indentation does not
count. -/
def close (scan : Scan) (column : Int) : Scan :=
  if scan.inFlow then scan else unwind column scan.outerIndents scan

/-- Open a block at a column, where it is indented further than the current one:
`start` is put in at a place among the tokens. -/
def openBlock (scan : Scan) (column place : Nat) (start : Token) : Scan :=
  if scan.indent < column then
    { scan with
      tokens := scan.tokens.insertIdxIfInBounds place start
      indent := column
      outerIndents := scan.indent :: scan.outerIndents }
  else scan

/-- A line that marks off a document. -/
def marker? (scan : Scan) (token : Token) : Option Scan := do
  let closed <- (scan.close (-1)).dropKey?
  pure ((passMany 3 { closed with keyAllowed := false }).push token)

/-- A line that directs the reader; what it says does not matter here. -/
def directive? (scan : Scan) : Option Scan := do
  let closed <- (scan.close (-1)).dropKey?
  let passed := closed.passTo (closed.rest.dropWhile fun character => !isBreak character)
  pure ({ passed with keyAllowed := false }.push .directive)

/-- An opening bracket. -/
def openFlow? (scan : Scan) (token : Token) : Option Scan := do
  let marked <- scan.markKey?
  pure ({ marked.pass with flow := none :: marked.flow, keyAllowed := true }.push token)

/-- A closing bracket. -/
def closeFlow? (scan : Scan) (token : Token) : Option Scan := do
  let cleared <- scan.dropKey?
  match cleared.flow with
  | [] => none
  | _ :: outer => pure ({ cleared.pass with flow := outer, keyAllowed := false }.push token)

/-- A comma between brackets. -/
def flowEntry? (scan : Scan) : Option Scan := do
  let cleared <- scan.dropKey?
  pure ({ cleared.pass with keyAllowed := true }.push .flowEntry)

/-- A dash before an item. -/
def blockEntry? (scan : Scan) : Option Scan := do
  if !scan.inFlow && !scan.keyAllowed then none
  let opened :=
    if scan.inFlow then scan
    else scan.openBlock scan.column scan.tokens.size .blockSequenceStart
  let cleared <- opened.dropKey?
  pure ({ cleared.pass with keyAllowed := true }.push .blockEntry)

/-- A question mark before a key. -/
def explicitKey? (scan : Scan) : Option Scan := do
  if !scan.inFlow && !scan.keyAllowed then none
  let opened :=
    if scan.inFlow then scan
    else scan.openBlock scan.column scan.tokens.size .blockMappingStart
  let cleared <- opened.dropKey?
  pure ({ cleared.pass with keyAllowed := !scan.inFlow }.push .key)

/-- A colon before a value. A key place that is still good becomes a key. -/
def value? (scan : Scan) : Option Scan :=
  match scan.currentKey with
  | some place =>
      let keyed :=
        { scan.setKey none with
          tokens := scan.tokens.insertIdxIfInBounds place.token .key
          keyAllowed := false }
      let opened :=
        if scan.inFlow then keyed
        else keyed.openBlock place.column place.token .blockMappingStart
      some (opened.pass.push .value)
  | none => do
      if !scan.inFlow && !scan.keyAllowed then none
      let opened :=
        if scan.inFlow then scan
        else scan.openBlock scan.column scan.tokens.size .blockMappingStart
      pure ({ opened.pass with keyAllowed := !scan.inFlow }.push .value)

/-- A scalar in quotes. -/
def quoted? (scan : Scan) (quote : Char) : Option Scan := do
  let marked <- scan.markKey?
  let (text, rest) <- Quoted.scan? quote marked.pass.rest
  pure ({ marked.passTo rest with keyAllowed := false }.push
    (.scalar (String.ofList text) false))

/-- A scalar without quotes. -/
def plain? (scan : Scan) : Option Scan := do
  let marked <- scan.markKey?
  let (text, rest, brokeLine) := Plain.scan scan.inFlow (scan.indent + 1) marked.rest
  pure ({ marked.passTo rest with keyAllowed := brokeLine }.push
    (.scalar (String.ofList text) true))

/-- Cut the next token off a text that does not begin with a blank. -/
def next? (scan : Scan) : Option Scan :=
  match scan.rest with
  | [] => none
  | character :: rest =>
      if scan.column = 0 ∧ character = '%' then scan.directive?
      else if scan.column = 0 ∧ startsMarker scan.rest then
        scan.marker? (if character = '-' then .documentStart else .documentEnd)
      else if character = '[' then scan.openFlow? .flowSequenceStart
      else if character = '\x7b' then scan.openFlow? .flowMappingStart
      else if character = ']' then scan.closeFlow? .flowSequenceEnd
      else if character = '\x7d' then scan.closeFlow? .flowMappingEnd
      else if character = ',' then scan.flowEntry?
      else if character = '-' ∧ startsSeparated rest then scan.blockEntry?
      else if character = '?' ∧ (scan.inFlow ∨ startsSeparated rest) then scan.explicitKey?
      else if character = ':' ∧ (scan.inFlow ∨ startsSeparated rest) then scan.value?
      else if character = '\'' ∨ character = '"' then scan.quoted? character
      else if Plain.canBegin scan.inFlow scan.rest then scan.plain?
      else none

/-- The end of the text. -/
def finish? (scan : Scan) : Option (Array Token) := do
  let closed <- (scan.close (-1)).dropKey?
  pure closed.tokens

/-- Cut all tokens off. -/
def run? : Nat -> Scan -> Option (Array Token)
  | 0, _ => none
  | fuel + 1, scan => do
      let refreshed <- (passBlanks (scan.rest.length + 1) scan).refreshKeys?
      if refreshed.rest.isEmpty then refreshed.finish?
      else run? fuel (<- (refreshed.close refreshed.column).next?)

end Scan

/-- The tokens of a text; none when it cannot be cut into tokens. A mark of byte
order at its front is passed over. -/
def scan? (text : String) : Option (List Token) :=
  let characters := text.toList
  if !characters.all isAllowed then none
  else
    let start : Scan := { rest := characters }
    let start := if characters.head? = some '\ufeff' then start.pass else start
    (Scan.run? (characters.length + 1) start).map Array.toList

end Token
end Yaml
end Concordance
