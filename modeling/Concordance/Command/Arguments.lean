/-!
# Arguments of a command

Arguments are options, which begin with a dash, and operands. An option is written
out in full; a value follows it, or stands behind an equals sign. Two dashes end
the options. A command that leads on to another one takes options only up to its
first operand.
-/

namespace Concordance
namespace Command

/-- An option of a command. -/
structure Switch where
  name : String
  takesValue : Bool
  deriving DecidableEq, Repr

/-- Arguments in order: options with their values, a flag with an empty one, and
operands. -/
structure Arguments where
  options : List (String × String) := []
  operands : List String := []
  deriving DecidableEq, Repr

/-- Why arguments do not fit a command. -/
inductive UsageError
  | unknownOption (name : String)
  | missingValue (name : String)
  | needlessValue (name : String)
  | badValue (name value : String)
  | badTexts (message : String)
  | missingOption (name : String)
  | missingOperand
  | extraOperand (operand : String)
  | missingCommand
  | unknownCommand (name : String)
  deriving DecidableEq, Repr

/-- The wording of a refusal. -/
def UsageError.message : UsageError -> String
  | .unknownOption name => "No such option: " ++ name
  | .missingValue name => s!"Option {name} requires an argument."
  | .needlessValue name => s!"Option {name} does not take a value."
  | .badValue name value => s!"Invalid value for {name}: {value}"
  | .badTexts message => "Invalid value for '--texts': " ++ message
  | .missingOption name => s!"Missing option {name}."
  | .missingOperand => "Missing argument."
  | .extraOperand operand => "Got unexpected extra argument " ++ operand
  | .missingCommand => "Missing command."
  | .unknownCommand name => "No such command " ++ name

namespace Arguments

/-- Put an option in front. -/
def withOption (name value : String) (arguments : Arguments) : Arguments :=
  { arguments with options := (name, value) :: arguments.options }

/-- Put an operand in front. -/
def withOperand (operand : String) (arguments : Arguments) : Arguments :=
  { arguments with operands := operand :: arguments.operands }

/-- Whether an argument is written like an option. -/
def isOption (argument : String) : Bool :=
  match argument.toList with
  | '-' :: _ :: _ => true
  | _ => false

/-- An option and the value behind its equals sign. -/
def cutValue (argument : String) : String × Option String :=
  let characters := argument.toList
  let name := characters.takeWhile (· ≠ '=')
  match characters.drop name.length with
  | [] => (argument, none)
  | _ :: value => (String.ofList name, some (String.ofList value))

/-- Take arguments apart. -/
def read (switches : List Switch) (leadsOn : Bool) :
    List String -> Except UsageError Arguments
  | [] => .ok {}
  | argument :: rest =>
      if argument = "--" then .ok { operands := rest }
      else if isOption argument then
        let (name, value?) := cutValue argument
        match switches.find? fun switch => switch.name = name with
        | none => .error (.unknownOption name)
        | some switch =>
            match switch.takesValue, value? with
            | false, none => (read switches leadsOn rest).map (withOption name "")
            | false, some _ => .error (.needlessValue name)
            | true, some value => (read switches leadsOn rest).map (withOption name value)
            | true, none =>
                match rest with
                | value :: others => (read switches leadsOn others).map (withOption name value)
                | [] => .error (.missingValue name)
      else if leadsOn then .ok { operands := argument :: rest }
      else (read switches leadsOn rest).map (withOperand argument)

/-- All values of an option, in order. -/
def values (arguments : Arguments) (name : String) : List String :=
  (arguments.options.filter fun entry => entry.1 = name).map Prod.snd

/-- The last value of an option. -/
def value? (arguments : Arguments) (name : String) : Option String :=
  (arguments.values name).getLast?

/-- Whether an option is given. -/
def has (arguments : Arguments) (name : String) : Bool :=
  arguments.options.any fun entry => entry.1 = name

/-- The names of the given options, in the order in which they first stand. -/
def names (arguments : Arguments) : List String :=
  (arguments.options.map Prod.fst).eraseDups

end Arguments
end Command
end Concordance
