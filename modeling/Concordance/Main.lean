import Concordance.Command.Run

/-!
# The program

Runs the command line against the files, the variables and the console of the
system. The program has no network of its own: a search that is not a dry run
finds its index unreachable.
-/

namespace Concordance
namespace Program

/-- What a run keeps: its session, and where its journal goes. -/
structure Memory where
  session : Command.GatewayState
  outlets : Option Outlets := none

/-- A run on the system. -/
abbrev Shell := StateT Memory IO

instance : MonadStateOf Command.GatewayState Shell where
  get := Memory.session <$> getThe Memory
  set session := modifyThe Memory fun memory => { memory with session }
  modifyGet change := modifyGetThe Memory fun memory =>
    let (value, session) := change memory.session
    (value, { memory with session })

/-- The present moment: that at which a new file is made. -/
def present : IO Moment := do
  let (_, path) <- IO.FS.createTempFile
  let metadata <- path.metadata
  IO.FS.removeFile path
  pure (Moment.ofSeconds metadata.modified.sec.toNat)

/-- Write a record to the outlets that take it. -/
def write (outlets : Outlets) (note : Record) : IO Unit := do
  let line := (<- present).lineStart ++ note.line
  if outlets.showsOnConsole note then IO.eprint line
  if outlets.keepsInFile note then
    match outlets.file with
    | some path =>
        let handle <- IO.FS.Handle.mk path.text .append
        handle.putStr line
    | none => pure ()

instance : MonadJournal Shell where
  record note := do
    match (<- getThe Memory).outlets with
    | some outlets => write outlets note
    | none => pure ()

/-- The code of the refusal to read a directory. -/
def directoryCode : UInt32 := 21

/-- The text of a file of the system. -/
def fileText (name : String) : IO (Except FileError String) :=
  try
    pure (.ok (<- IO.FS.readFile name))
  catch
    | .noFileOrDirectory .. => pure (.error .missing)
    | .inappropriateType _ code _ =>
        pure (.error (if code = directoryCode then .isDirectory else .insideFile))
    | error => throw error

/-- Whether a name leads to a directory. -/
def isDirectory (name : String) : IO Bool := do
  match <- fileText name with
  | .error .isDirectory => pure true
  | _ => pure false

/-- Make a directory of the system, with those around it. A file in the way stands
at the place itself, or before it. -/
def makeDirectory (name : String) : IO (Except FileError Unit) :=
  try
    IO.FS.createDirAll name
    pure (.ok ())
  catch
    | .alreadyExists .. => do
        match <- fileText name with
        | .error cause => pure (.error cause)
        | .ok _ => pure (.error .occupied)
    | error => throw error

/-- Make an empty file, where there is none. -/
def makeFile (name : String) : IO Unit := do
  let _ <- IO.FS.Handle.mk name .append

/-- The system around a run. -/
def surroundings : Command.Surroundings Shell where
  fileText path := fileText path.text
  isDirectory name := isDirectory name
  variableText name := IO.getEnv name
  stamp := Moment.stamp <$> (present : IO Moment)
  makeDirectory path := makeDirectory path.text
  openJournal outlets := do
    outlets.file.forM fun path => (makeFile path.text : IO Unit)
    modifyThe Memory fun memory => { memory with outlets := some outlets }
  send _ _ := pure (.error (.unreachable "no network is available"))
  disconnect := pure ()
  printLine line := IO.println line

/-- How the program is used. -/
def usage : String :=
  "Usage: [--config FILE] search (simple TERM | advanced | proximity FIRST SECOND) [OPTIONS]"

/-- Tell how a run ended, where that is not plain from its output. -/
def report : Command.Ending -> IO Unit
  | .done => pure ()
  | .help => IO.println usage
  | .misused cause => IO.eprintln ("Error: " ++ cause.message)
  | .notBegun cause => IO.eprintln cause.message
  | .brokenOff => IO.eprintln "Aborted!"

end Program
end Concordance

/-- Run the program with its arguments. -/
def main (arguments : List String) : IO UInt32 := do
  let memory : Concordance.Program.Memory := { session := .initial 0 0 }
  let (ending, _) <-
    (Concordance.Command.run Concordance.Program.surroundings arguments).run memory
  Concordance.Program.report ending
  pure ending.exitCode.toUInt32
