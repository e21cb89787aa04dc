import Concordance.Command.Arguments
import Concordance.Search.Link
import Concordance.TextIds.Reading

/-!
# Search tasks

Each kind of search has a command of its own, with options for the matching, the
selected texts, the page and the output. A task is such a command with its
arguments taken in. Values are looked at in the order in which their options
stand, and before the operands are counted.
-/

namespace Concordance
namespace Command

/-- The commands that search. -/
inductive Action
  | simple
  | advanced
  | proximity
  deriving DecidableEq, Repr

namespace Action

/-- The name of a command. -/
def name : Action -> String
  | .simple => "simple"
  | .advanced => "advanced"
  | .proximity => "proximity"

/-- The command of a name. -/
def ofName? (name : String) : Option Action :=
  [Action.simple, .advanced, .proximity].find? fun action => action.name = name

/-- The options of all commands that search. -/
def commonSwitches : List Switch := [
  ⟨"--definite", false⟩, ⟨"--proclitic", false⟩, ⟨"--texts", true⟩, ⟨"--page", true⟩,
  ⟨"--json", false⟩, ⟨"--dry-run", false⟩, ⟨"--help", false⟩]

/-- The options of a command. -/
def switches : Action -> List Switch
  | .simple => ⟨"--root", false⟩ :: commonSwitches
  | .advanced => ⟨"--and", true⟩ :: ⟨"--or", true⟩ :: commonSwitches
  | .proximity => ⟨"--slop", true⟩ :: commonSwitches

/-- The number of operands of a command. -/
def operandCount : Action -> Nat
  | .simple => 1
  | .advanced => 0
  | .proximity => 2

end Action

/-- One search as it was asked for. -/
structure Task where
  action : Action
  search : Search
  page : Int := 1
  asJson : Bool := false
  isDryRun : Bool := false
  deriving DecidableEq, Repr

namespace Task

/-- The integer of an option. -/
def readInteger (name value : String) : Except UsageError Int :=
  (Numeral.readInteger value).mapError fun _ => .badValue name value

/-- The page of an option. -/
def readPage (name value : String) : Except UsageError Int := do
  let page <- readInteger name value
  if page < 1 then throw (.badValue name value)
  pure page

/-- The text ids of an option. -/
def readTexts (value : String) : Except UsageError (List Int) :=
  (TextIds.read value).mapError fun cause => .badTexts cause.message

/-- Look at the value of an option. -/
def checkOption (arguments : Arguments) (name : String) : Except UsageError Unit :=
  let value := (arguments.value? name).getD ""
  if name = "--texts" then (readTexts value).map fun _ => ()
  else if name = "--page" then (readPage name value).map fun _ => ()
  else if name = "--slop" then (readInteger name value).map fun _ => ()
  else .ok ()

/-- Count operands. -/
def checkOperands (count : Nat) (operands : List String) : Except UsageError Unit :=
  if operands.length < count then .error .missingOperand
  else
    match operands.drop count with
    | [] => .ok ()
    | operand :: _ => .error (.extraOperand operand)

/-- A term from its written form, with the modifiers of the command. -/
def term (arguments : Arguments) (group : Option Group) (written : String) : Term :=
  let (text, index) := Link.readSpec written
  { text
    matching :=
      Link.matchingOf index (arguments.has "--definite") (arguments.has "--proclitic")
    group }

/-- What a command asks for. -/
def question (action : Action) (arguments : Arguments) (slop : Int) :
    Except UsageError Question :=
  match action, arguments.operands with
  | .simple, text :: _ =>
      .ok (.simple
        { text
          matching :=
            if arguments.has "--root" then .root
            else .token (arguments.has "--definite") (arguments.has "--proclitic") })
  | .advanced, _ =>
      let required := arguments.values "--and"
      if required.isEmpty then .error (.missingOption "--and")
      else
        .ok (.advanced
          (required.map (term arguments (some .required)))
          ((arguments.values "--or").map (term arguments (some .alternative))))
  | .proximity, first :: second :: _ =>
      .ok (.proximity (term arguments none first) (term arguments none second) slop)
  | _, _ => .error .missingOperand

/-- The value of an option, read, with a default where it is not given. -/
def optional {α : Type}
    (arguments : Arguments)
    (name : String)
    (read : String -> Except UsageError α)
    (fallback : α) :
    Except UsageError α :=
  match arguments.value? name with
  | none => .ok fallback
  | some value => read value

/-- The task of a command with its arguments. -/
def ofArguments (action : Action) (arguments : Arguments) : Except UsageError Task := do
  arguments.names.forM (checkOption arguments)
  let texts <- optional arguments "--texts" readTexts []
  let page <- optional arguments "--page" (readPage "--page") 1
  let slop <- optional arguments "--slop" (readInteger "--slop") Search.defaultSlop
  let question <- question action arguments slop
  checkOperands action.operandCount arguments.operands
  pure
    { action
      search := { question, texts }
      page
      asJson := arguments.has "--json"
      isDryRun := arguments.has "--dry-run" }

end Task
end Command
end Concordance
