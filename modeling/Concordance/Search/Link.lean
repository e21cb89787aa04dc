import Concordance.Entries
import Concordance.Search
import Concordance.Text.Casing
import Concordance.TextIds.Reading

/-!
# Search links

A link carries a search, a result page and selected texts in flat text
parameters. Every link names the kind of search under `type`; the page is left
out when it is the first, the texts when there are none.

* A simple search has its text under `t`, the index under `in`, the modifiers
  under `d` and `p`.
* An advanced search has its groups under `and_terms` and `or_terms`, as
  comma-separated `text:index` items, and the modifiers of the item at place `i`
  under `and_i_d`, `and_i_p` and so on.
* A proximity search has its terms under `t1` and `t2`, as `text:index`, their
  modifiers under `t1_d` and so on, and the distance under `slop`.

Reading skips empty items, so the places of modifiers count the other ones.
-/

namespace Concordance
namespace Link

/-- Why a link could not be written. -/
inductive WriteError
  | separatorInTerm (group : Group) (position : Nat)
  | unsupported
  deriving DecidableEq, Repr

/-- Why a link could not be read. -/
inductive ReadError
  | unsupportedType (given : String)
  | numeral (cause : Numeral.IntegerError)
  | texts (cause : TextIds.ReadingError)
  deriving DecidableEq, Repr

/-- The beginning of the keys of a group. -/
def groupKey : Group -> String
  | .required => "and"
  | .alternative => "or"

/-- The wording of a refusal to write. -/
def WriteError.message : WriteError -> String
  | .separatorInTerm group position =>
      s!"{groupKey group} term {position} must not contain " ++
        Text.quoted (String.singleton Search.termSeparator)
  | .unsupported => "Unsupported search config: UnknownConfig"

/-- The wording of a refusal to read. -/
def ReadError.message : ReadError -> String
  | .unsupportedType given =>
      "Unsupported search type: " ++ if given.isEmpty then "<missing>" else given
  | .numeral cause => cause.message
  | .texts cause => cause.message

/-- What a link stands for. -/
structure Target where
  search : Search
  page : Int
  texts : List Int
  deriving DecidableEq, Repr

/-- A truth value as a parameter. -/
def flag (truth : Bool) : String :=
  if truth then "true" else "false"

/-- Whether a parameter is set. -/
def isSet (parameters : Entries String) (key : String) : Bool :=
  parameters.get? key == some "true"

/-- A parameter, empty where it is missing. -/
def parameter (parameters : Entries String) (key : String) : String :=
  (parameters.get? key).getD ""

/-- A term with the index it is matched in. -/
def spec (term : Term) : String :=
  term.text ++ ":" ++ term.matching.indexName

/-- The text of a term and the name of its index. Only the two index names behind
the last colon are taken for one; any other colon belongs to the text. -/
def readSpec (value : String) : String × String :=
  match Text.cutLast ':' value.toList with
  | none => (value, "tok")
  | some (text, index) =>
      let name := String.ofList index
      if name = "tok" ∨ name = "root" then (String.ofList text, name) else (value, "tok")

/-- The key of a modifier of the item at a place in a group. -/
def modifierKey (group : Group) (place : Nat) (modifier : String) : String :=
  s!"{groupKey group}_{place}_{modifier}"

/-- The parameters of the modifiers of a group, counted from a place; an item
with a separator is refused. -/
def writeModifiers (group : Group) (place : Nat) :
    List Term -> Except WriteError (Entries String)
  | [] => .ok []
  | term :: rest => do
      if term.text.toList.contains Search.termSeparator then
        throw (.separatorInTerm group (place + 1))
      let others <- writeModifiers group (place + 1) rest
      pure ((modifierKey group place "d", flag term.matching.definite) ::
        (modifierKey group place "p", flag term.matching.proclitic) :: others)

/-- The parameters of a group; an empty group has none. -/
def writeGroup (group : Group) (terms : List Term) : Except WriteError (Entries String) :=
  if terms.isEmpty then .ok []
  else do
    let modifiers <- writeModifiers group 0 terms
    pure (modifiers ++
      [(groupKey group ++ "_terms",
        (String.singleton Search.termSeparator).intercalate (terms.map spec))])

/-- The parameters of a term of a proximity search. -/
def writeNeighbour (key : String) (term : Term) : Entries String :=
  [(key, spec term),
    (key ++ "_d", flag term.matching.definite),
    (key ++ "_p", flag term.matching.proclitic)]

/-- The parameters of what is asked for. -/
def writeQuestion : Question -> Except WriteError (Entries String)
  | .simple term =>
      .ok [("t", term.text), ("in", term.matching.indexName),
        ("d", flag term.matching.definite), ("p", flag term.matching.proclitic)]
  | .advanced required alternatives => do
      let first <- writeGroup .required required
      let second <- writeGroup .alternative alternatives
      pure (first ++ second)
  | .proximity first second slop =>
      .ok (writeNeighbour "t1" first ++ writeNeighbour "t2" second ++
        [("slop", Numeral.spell slop)])
  | .unsupported _ => .error .unsupported

/-- The parameters of a search and a page, without texts. -/
def writePage (search : Search) (page : Int) : Except WriteError (Entries String) := do
  let question <- writeQuestion search.question
  pure (("type", search.mode) :: question ++
    (if page = 1 then [] else [("page", Numeral.spell page)]))

/-- The parameter of selected texts. -/
def writeTexts (texts : List Int) : Entries String :=
  if texts.isEmpty then [] else [("text_ids", TextIds.spell texts)]

/-- The parameters of a search, selected texts and a page. The selection of the
search itself is not written. -/
def write (search : Search) (texts : List Int) (page : Int) :
    Except WriteError (Entries String) := do
  let parameters <- writePage search page
  pure (parameters ++ writeTexts texts)

/-- The matching of an index name and modifiers; any other name means tokens. -/
def matchingOf (name : String) (definite proclitic : Bool) : Matching :=
  if name = "root" then .root else .token definite proclitic

/-- The terms of the items of a group, counted from a place. -/
def readItems (parameters : Entries String) (group : Group) (place : Nat) :
    List String -> List Term
  | [] => []
  | item :: rest =>
      let (text, index) := readSpec item
      { text
        matching := matchingOf index
          (isSet parameters (modifierKey group place "d"))
          (isSet parameters (modifierKey group place "p"))
        group := some group } :: readItems parameters group (place + 1) rest

/-- The terms of a group; empty items are skipped. -/
def readGroup (parameters : Entries String) (group : Group) : List Term :=
  let items := Text.splitAt Search.termSeparator
    (parameter parameters (groupKey group ++ "_terms")).toList
  readItems parameters group 0 ((items.filter fun item => !item.isEmpty).map String.ofList)

/-- A term of a proximity search. -/
def readNeighbour (parameters : Entries String) (key : String) : Term :=
  let (text, index) := readSpec (parameter parameters key)
  { text
    matching := matchingOf index
      (isSet parameters (key ++ "_d"))
      (isSet parameters (key ++ "_p")) }

/-- An integer parameter with a default for a missing or empty one. -/
def readNumber (parameters : Entries String) (key : String) (fallback : Int) :
    Except ReadError Int :=
  let text := parameter parameters key
  if text.isEmpty then .ok fallback else (Numeral.readInteger text).mapError .numeral

/-- Selected texts: a spelling by runs when there is a dash, otherwise a list in
which blank items are skipped. -/
def readTexts (text : String) : Except ReadError (List Int) :=
  if text.toList.contains '-' then (TextIds.read text).mapError .texts
  else
    let items := (Text.splitAt ',' text.toList).filter fun item => !(Text.trim item).isEmpty
    items.mapM fun item => (Numeral.readInteger (String.ofList item)).mapError .numeral

/-- What is asked for, by the name of the kind of search. -/
def readQuestion (parameters : Entries String) (type : String) : Except ReadError Question :=
  if type = "simple" then
    .ok (.simple
      { text := parameter parameters "t"
        matching := matchingOf (parameter parameters "in")
          (isSet parameters "d") (isSet parameters "p") })
  else if type = "advanced" then
    .ok (.advanced (readGroup parameters .required) (readGroup parameters .alternative))
  else if type = "proximity" then do
    let slop <- readNumber parameters "slop" Search.defaultSlop
    pure (.proximity (readNeighbour parameters "t1") (readNeighbour parameters "t2") slop)
  else .error (.unsupportedType type)

/-- What a link stands for. The texts are read before the search, the page last. -/
def read (parameters : Entries String) : Except ReadError Target := do
  let type := Text.lower
    (String.ofList (Text.trim (parameter parameters "type").toList))
  let texts <- readTexts (parameter parameters "text_ids")
  let question <- readQuestion parameters type
  let page <- readNumber parameters "page" 1
  pure { search := { question, texts }, page, texts }

end Link
end Concordance
