import Concordance.Journal
import Concordance.Journal.Moment
import Concordance.Path
import Concordance.Text.Casing

/-!
# Where records go

Records go to a console, from a chosen level on, and to a file of the run, from
the level of details on. A record is written as a line with a short form of its
level. A journal whose threshold is zero has the threshold of oddities.
-/

namespace Concordance

/-- Names of levels; a second name of a level stands behind the usual one. -/
def levelNames : Entries Int := [
  ("DEBUG", Record.debugLevel), ("INFO", Record.infoLevel),
  ("WARNING", Record.warningLevel), ("WARN", Record.warningLevel),
  ("ERROR", Record.errorLevel), ("CRITICAL", Record.criticalLevel),
  ("FATAL", Record.criticalLevel), ("NOTSET", 0)]

/-- The level of a name in any letter case; an unknown name means progress. -/
def levelOfName (name : String) : Int :=
  (levelNames.get? (Text.upperForAscii name)).getD Record.infoLevel

/-- The short form of a level. -/
def levelSign (level : Int) : String :=
  if level = Record.debugLevel then "DEBG"
  else if level = Record.infoLevel then "INFO"
  else if level = Record.warningLevel then "WARN"
  else if level = Record.errorLevel ∨ level = Record.criticalLevel then "ERRO"
  else "Leve"

/-- A record as a line, after its time. -/
def Record.line (note : Record) : String :=
  "[" ++ levelSign note.level ++ "] " ++ note.message ++ "\n"

/-- The directory of journal files where none is named. -/
def defaultJournalDirectory : String := "log"

/-- The file of a run: a directory for each action, and a name with the action and
a stamp. -/
def journalPath (directory action stamp : String) : Path :=
  let base := if directory.isEmpty then defaultJournalDirectory else directory
  ((Path.ofText base).join (Path.ofText action)).join
    (Path.ofText (action ++ "_" ++ stamp ++ ".log"))

/-- The outlets of a journal: the level of the console, and the path of a file. -/
structure Outlets where
  consoleLevel : Int
  file : Option Path
  deriving DecidableEq, Repr

namespace Outlets

/-- The outlets of a run. A file needs an action; no level means progress. -/
def configure
    (level : String)
    (action : Option String)
    (toFile : Bool)
    (directory stamp : String) :
    Outlets :=
  { consoleLevel := if level.isEmpty then Record.infoLevel else levelOfName level
    file :=
      match action with
      | some action =>
          if toFile && !action.isEmpty then some (journalPath directory action stamp) else none
      | none => none }

/-- The threshold of the journal itself. -/
def threshold (outlets : Outlets) : Int :=
  min Record.debugLevel outlets.consoleLevel

/-- Whether a record passes the threshold of the journal. -/
def passes (outlets : Outlets) (note : Record) : Bool :=
  (if outlets.threshold = 0 then Record.warningLevel else outlets.threshold) ≤ note.level

/-- Whether a record is written to the console. -/
def showsOnConsole (outlets : Outlets) (note : Record) : Bool :=
  outlets.passes note && outlets.consoleLevel ≤ note.level

/-- Whether a record is written to the file. -/
def keepsInFile (outlets : Outlets) (note : Record) : Bool :=
  outlets.file.isSome && outlets.passes note && Record.debugLevel ≤ note.level

/-- What the console shows of records. -/
def consoleText (outlets : Outlets) (notes : List Record) : String :=
  String.join ((notes.filter outlets.showsOnConsole).map Record.line)

/-- What the file holds of records. -/
def fileText (outlets : Outlets) (notes : List Record) : String :=
  String.join ((notes.filter outlets.keepsInFile).map Record.line)

end Outlets
end Concordance
