import Concordance.Text.Quoted

/-!
# Search terms

A term is a text with the way it is matched: against the tokens of a page, with
the two modifiers that choose a variant of the token index, or against the index
of roots, which has no modifiers. A term of an advanced search also carries the
group it belongs to.
-/

namespace Concordance

/-- How a term is matched. -/
inductive Matching
  | token (definite proclitic : Bool)
  | root
  deriving DecidableEq, Repr

/-- The groups of an advanced search: every required term, at least one of the
alternatives. -/
inductive Group
  | required
  | alternative
  deriving DecidableEq, Repr

namespace Group

/-- The tag of a group. -/
def tag : Group -> String
  | .required => "AND"
  | .alternative => "OR"

/-- The group of a tag. -/
def ofTag? (text : String) : Option Group :=
  if text = "AND" then some .required
  else if text = "OR" then some .alternative
  else none

end Group

/-- A search term. -/
structure Term where
  text : String
  matching : Matching := .token false false
  group : Option Group := none
  deriving DecidableEq, Repr

/-- Why a term was refused. -/
inductive TermError
  | unknownIndex (given : String)
  | unknownGroup (given : String)
  deriving DecidableEq, Repr

/-- The wording of a refusal. -/
def TermError.message : TermError -> String
  | .unknownIndex given => "search_in must be one of ['root', 'tok']: " ++ Text.quoted given
  | .unknownGroup given => "group must be AND or OR: " ++ Text.quoted given

namespace Matching

/-- The name of the index that is searched. -/
def indexName : Matching -> String
  | .token .. => "tok"
  | .root => "root"

/-- Matching in the index of a name; the modifiers do not reach the index of
roots. -/
def ofIndexName? (name : String) (definite proclitic : Bool) : Option Matching :=
  if name = "tok" then some (.token definite proclitic)
  else if name = "root" then some .root
  else none

/-- Whether the definite article is taken into account. -/
def definite : Matching -> Bool
  | .token definite _ => definite
  | .root => false

/-- Whether proclitics are taken into account. -/
def proclitic : Matching -> Bool
  | .token _ proclitic => proclitic
  | .root => false

/-- Whether roots are matched. -/
def isRoot : Matching -> Bool
  | .token .. => false
  | .root => true

end Matching

namespace Term

/-- A term from its parts by name; the index is looked at before the group. -/
def ofParts
    (text indexName : String)
    (definite proclitic : Bool)
    (groupTag : Option String) :
    Except TermError Term :=
  match Matching.ofIndexName? indexName definite proclitic with
  | none => .error (.unknownIndex indexName)
  | some matching =>
      match groupTag with
      | none => .ok { text, matching }
      | some tag =>
          match Group.ofTag? tag with
          | none => .error (.unknownGroup tag)
          | some group => .ok { text, matching, group := some group }

end Term
end Concordance
