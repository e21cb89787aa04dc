import Concordance.FileTree
import Concordance.Settings.Reading
import Concordance.Yaml

/-!
# Layers of settings

Settings come in two layers: a default file, and a file laid over it. Objects are
merged key by key; any other value of the upper layer replaces what lies below.
A default file laid over itself is read once.
-/

namespace Concordance

namespace Settings

/-- Why settings could not be loaded. -/
inductive LoadError
  | file (cause : FileError) (path : Path)
  | text (cause : Yaml.Error)
  | notAMapping (source : String)
  | settings (cause : SettingsError)

/-- The wording of a refusal. -/
def LoadError.message : LoadError -> String
  | .file cause path => cause.message path
  | .text cause => cause.message
  | .notAMapping source => s!"Config root in {source} must be a mapping"
  | .settings cause => cause.message

mutual

/-- A value laid over what lies below it, where anything does. -/
def layValue (below : Option Value) : Value -> Value
  | .obj entries =>
      match below with
      | some (.obj lower) => .obj (lay lower entries)
      | _ => .obj entries
  | value => value

/-- Entries laid over other entries. -/
def lay (lower : Entries Value) : List (String × Value) -> Entries Value
  | [] => lower
  | (key, value) :: rest => lay (lower.put key (layValue (lower.get? key) value)) rest

end

/-- The object of a settings text; an empty text gives an empty one. -/
def readRoot (text source : String) : Except LoadError (Entries Value) :=
  match Yaml.read text with
  | .error cause => .error (.text cause)
  | .ok .null => .ok []
  | .ok (.obj entries) => .ok entries
  | .ok _ => .error (.notAMapping source)

/-- The path of the default file. -/
def defaultPath : Path := { parts := ["config", "default.yml"] }

/-- Line ends as they are taken from a file: all of them are line feeds. -/
def withLineFeeds : List Char -> List Char
  | [] => []
  | '\r' :: '\n' :: rest => '\n' :: withLineFeeds rest
  | '\r' :: rest => '\n' :: withLineFeeds rest
  | character :: rest => character :: withLineFeeds rest

variable {m : Type -> Type} [Monad m]

/-- The object of a settings file. -/
def readFile (fileText : Path -> m (Except FileError String)) (path : Path) :
    m (Except LoadError (Entries Value)) := do
  match <- fileText path with
  | .error cause => pure (.error (.file cause path))
  | .ok text => pure (readRoot (String.ofList (withLineFeeds text.toList)) path.text)

/-- The merged object of two settings files. -/
def readLayers (fileText : Path -> m (Except FileError String)) (lower upper : Path) :
    m (Except LoadError (Entries Value)) := do
  match <- readFile fileText lower with
  | .error cause => pure (.error cause)
  | .ok below =>
      if upper.resolved = lower.resolved then pure (.ok below)
      else
        match <- readFile fileText upper with
        | .error cause => pure (.error cause)
        | .ok above => pure (.ok (lay below above))

/-- The names of the variables that an object of settings refers to. -/
def variableNames (root : Entries Value) : List String :=
  match Value.field root "opensearch" with
  | .obj entries =>
      [Value.field entries "user_env", Value.field entries "password_env"].filterMap fun value =>
        match value with
        | .str name => some name
        | _ => none
  | _ => []

/-- The variables of some names that are set. -/
def readVariables (variableText : String -> m (Option String)) :
    List String -> m (Entries String)
  | [] => pure []
  | name :: names => do
      let value? <- variableText name
      let others <- readVariables variableText names
      pure (match value? with
        | some value => (name, value) :: others
        | none => others)

/-- The settings of two files, with the variables they refer to. -/
def load
    (fileText : Path -> m (Except FileError String))
    (variableText : String -> m (Option String))
    (lower upper : Path) :
    m (Except LoadError Settings) := do
  match <- readLayers fileText lower upper with
  | .error cause => pure (.error cause)
  | .ok root =>
      let environment <- readVariables variableText (variableNames root)
      pure ((read root environment).mapError .settings)

end Settings
end Concordance
