import Concordance.Command.Task
import Concordance.Json.Printer
import Concordance.Journal.Outlet
import Concordance.Listing
import Concordance.Search.Shape
import Concordance.Session
import Concordance.Settings.Layers

/-!
# Running a task

The command line names a settings file and a command. The settings are loaded
before the arguments of the command are looked at. A task checks its search, and
then prints the query as it would be sent, or the page of hits that it finds.
Whatever goes wrong while it runs is noted, and the run is broken off.

A run works in any monad that holds a session and keeps a journal; what lies
outside is reached through `Surroundings`.
-/

namespace Concordance
namespace Command

/-- What a run finds around it: files, variables, the outlets of its journal, the
index, and the place where it prints. -/
structure Surroundings (m : Type -> Type) where
  fileText : Path -> m (Except FileError String)
  isDirectory : String -> m Bool
  variableText : String -> m (Option String)
  stamp : m String
  makeDirectory : Path -> m (Except FileError Unit)
  openJournal : Outlets -> m Unit
  send : Backend.Endpoint -> Backend.Post -> m (Except Backend.TransportError Backend.Reply)
  disconnect : m Unit
  printLine : String -> m Unit

/-- Why a run could not begin. -/
inductive StartError
  | load (cause : Settings.LoadError)
  | journal (cause : FileError) (directory : Path)
  | paging (cause : PagingError)

/-- The wording of a refusal. -/
def StartError.message : StartError -> String
  | .load cause => cause.message
  | .journal cause directory => cause.message directory
  | .paging cause => cause.message

/-- How a run ends. -/
inductive Ending
  | done
  | help
  | misused (cause : UsageError)
  | notBegun (cause : StartError)
  | brokenOff

/-- The exit code of an ending. -/
def Ending.exitCode : Ending -> Nat
  | .done => 0
  | .help => 0
  | .misused _ => 2
  | .notBegun _ => 1
  | .brokenOff => 1

/-- Why a task was broken off. -/
inductive TaskError
  | shape (cause : ShapeError)
  | call (cause : Session.CallError)
  | backend (cause : Backend.GatewayError)
  | totalPages (cause : Session.TotalPagesError)

/-- The wording of a failure. -/
def TaskError.message : TaskError -> String
  | .shape cause => cause.message
  | .call cause => cause.message
  | .backend cause => cause.message
  | .totalPages cause => cause.message

/-- A session with a gateway to its index. -/
abbrev GatewayState := Session.State Backend.GatewayError

variable {m : Type -> Type} [Monad m] [MonadStateOf GatewayState m] [MonadJournal m]

/-- The note at the beginning of a task. -/
def Task.note (task : Task) : Record :=
  let texts := task.search.texts
  let count := if texts.isEmpty then "all" else toString texts.length
  .info s!"mode={task.search.mode} page={task.page} texts={count}"

/-- The output of a task: its page of hits, as an object or as lines. -/
def pageText
    (setup : Session.Setup)
    (style : HighlightStyle)
    (task : Task)
    (state : GatewayState)
    (totalPages : Int) :
    String :=
  if task.asJson then
    Json.print (Listing.object
      { page := state.page, totalPages, totalHits := state.total } state.displayed)
  else
    let listing := Listing.text
      { firstRank := setup.paging.pageStart state.page + 1
        preTag := style.preTag
        postTag := style.postTag }
      state.displayed
    String.ofList (listing.toList.reverse.dropWhile (· = '\n')).reverse

/-- Search, and print the page of hits. -/
def showPage
    (surroundings : Surroundings m)
    (settings : Settings)
    (setup : Session.Setup)
    (task : Task) :
    m (Except TaskError Unit) := do
  record task.note
  let gateway := settings.gateway
  let execute := gateway.execute (surroundings.send gateway.endpoint)
  match <- Session.runSearch setup execute task.search none task.page with
  | .error cause => pure (.error (.call cause))
  | .ok () =>
      let state : GatewayState <- get
      match state.lastError with
      | some cause => pure (.error (.backend cause))
      | none =>
          match state.totalPages setup with
          | .error cause => pure (.error (.totalPages cause))
          | .ok totalPages =>
              record (.info
                s!"Fetched page {state.page}/{totalPages} ({state.total} results)")
              surroundings.printLine
                (pageText setup settings.search.style task state totalPages)
              pure (.ok ())

/-- Check the search of a task, and print what the task asks for. -/
def runTask
    (surroundings : Surroundings m)
    (settings : Settings)
    (setup : Session.Setup)
    (task : Task) :
    m (Except TaskError Unit) := do
  match task.search.check with
  | .error cause => pure (.error (.shape cause))
  | .ok () =>
      if task.isDryRun then
        match Session.pageQuery setup task.search task.page with
        | .error cause => pure (.error (.call cause))
        | .ok query =>
            surroundings.printLine (Json.print query.body)
            pure (.ok ())
      else showPage surroundings settings setup task

/-- Run a task in a session of its own, and close the session. -/
def perform (surroundings : Surroundings m) (settings : Settings) (task : Task) : m Ending := do
  match settings.sessionSetup with
  | .error cause => pure (.notBegun (.paging cause))
  | .ok setup =>
      let (least, greatest) := DateRange.defaultBounds
      set (Session.State.initial least greatest : GatewayState)
      let ending <-
        match <- runTask surroundings settings setup task with
        | .ok () => pure Ending.done
        | .error cause =>
            record (.error s!"Search failed: {cause.message}")
            pure Ending.brokenOff
      surroundings.disconnect
      pure ending

/-- Make the directory of the journal's file, where there is one. -/
def makeRoom (surroundings : Surroundings m) (outlets : Outlets) : m (Except StartError Unit) := do
  match outlets.file with
  | none => pure (.ok ())
  | some file =>
      let made <- surroundings.makeDirectory file.parent
      pure (made.mapError fun cause => .journal cause file.parent)

/-- Open the journal, and perform a task. -/
def start (surroundings : Surroundings m) (settings : Settings) (task : Task) : m Ending := do
  let stamp <- surroundings.stamp
  let outlets := Outlets.configure settings.journal.level
    (some task.action.name) settings.journal.toFile settings.journal.directory stamp
  match <- makeRoom surroundings outlets with
  | .error cause => pure (.notBegun cause)
  | .ok () =>
      surroundings.openJournal outlets
      perform surroundings settings task

/-- The options of the program itself. -/
def programSwitches : List Switch := [⟨"--config", true⟩, ⟨"--help", false⟩]

/-- The options of the command that leads on to the searches. -/
def searchSwitches : List Switch := [⟨"--help", false⟩]

/-- The ending of arguments that could not be taken in, or what follows from
them. -/
def withArguments
    (arguments : Except UsageError Arguments)
    (next : Arguments -> m Ending) :
    m Ending :=
  match arguments with
  | .error cause => pure (.misused cause)
  | .ok arguments => if arguments.has "--help" then pure .help else next arguments

/-- Run the command of a kind of search. -/
def runAction
    (surroundings : Surroundings m)
    (settings : Settings)
    (arguments : List String) :
    m Ending :=
  withArguments (Arguments.read searchSwitches true arguments) fun before =>
    match before.operands with
    | [] => pure (.misused .missingCommand)
    | name :: rest =>
        match Action.ofName? name with
        | none => pure (.misused (.unknownCommand name))
        | some action =>
            withArguments (Arguments.read action.switches false rest) fun given =>
              match Task.ofArguments action given with
              | .error cause => pure (.misused cause)
              | .ok task => start surroundings settings task

/-- Run the program. -/
def run (surroundings : Surroundings m) (arguments : List String) : m Ending :=
  withArguments (Arguments.read programSwitches true arguments) fun before => do
    let configText := (before.value? "--config").getD Settings.defaultPath.text
    if <- surroundings.isDirectory configText then
      pure (.misused (.badValue "--config" configText))
    else
      match before.operands with
      | [] => pure (.misused .missingCommand)
      | name :: rest =>
          if name ≠ "search" then pure (.misused (.unknownCommand name))
          else
            match <- Settings.load surroundings.fileText surroundings.variableText
                Settings.defaultPath (Path.ofText configText) with
            | .error cause => pure (.notBegun (.load cause))
            | .ok settings => runAction surroundings settings rest

end Command
end Concordance
