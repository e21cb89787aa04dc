import Concordance.Settings
import Concordance.Text.Blank
import Concordance.Text.Casing

/-!
# Reading settings

Settings are read from an object with the sections `log`, `opensearch` and
`search`. All sections are read first, key by key, and then checked in the same
order; the first fault is reported with the full name of its key.
-/

namespace Concordance

/-- The first fault of settings. -/
inductive SettingsError
  | missingSection (key : String)
  | notAMapping (key kind : String)
  | missingKey (key : String)
  | wrongKind (key expected kind : String)
  | tooLarge
  | unknownLevel
  | blank (key : String)
  | notPositive (key : String)
  | notAnAddress
  | notAMultiple
  | beyondWindow
  deriving DecidableEq, Repr

namespace Settings

/-- The levels that settings may choose, in alphabetical order. -/
def levels : List String := ["CRITICAL", "DEBUG", "ERROR", "INFO", "WARNING"]

/-- The beginnings of an address. -/
def addressSchemes : List String := ["http://", "https://"]

end Settings

/-- The wording of a fault. -/
def SettingsError.message : SettingsError -> String
  | .missingSection key => "Missing required config section: " ++ key
  | .notAMapping key kind => s!"{key} must be a mapping, got {kind}"
  | .missingKey key => "Missing required config key: " ++ key
  | .wrongKind key expected kind => s!"{key} must be {expected}, got {kind}"
  | .tooLarge => "int too large to convert to float"
  | .unknownLevel =>
      "log.level must be one of " ++ (Value.list (Settings.levels.map Value.str)).inner
  | .blank key => s!"{key} must not be empty"
  | .notPositive key => s!"{key} must be positive"
  | .notAnAddress => "opensearch.base_url must start with http:// or https://"
  | .notAMultiple => "search.results_per_fetch must be a multiple of search.items_per_page"
  | .beyondWindow => "search.results_per_fetch must not exceed opensearch.max_result_window"

/-- The kinds of faults. -/
inductive FaultKind
  | wrongType
  | badValue
  | overflow
  deriving DecidableEq, Repr

/-- The kind of a fault. -/
def SettingsError.kind : SettingsError -> FaultKind
  | .notAMapping .. => .wrongType
  | .wrongKind .. => .wrongType
  | .tooLarge => .overflow
  | _ => .badValue

namespace Settings

/-- A section of an object. One that is missing is empty, unless it is
required. -/
def section? (root : Entries Value) (key : String) (required : Bool) :
    Except SettingsError (Entries Value) :=
  match Value.field root key with
  | .null => if required then .error (.missingSection key) else .ok []
  | .obj entries => .ok entries
  | value => .error (.notAMapping key value.kindName)

/-- A value of a section, with the full name of its key. -/
def required (entries : Entries Value) (area field : String) :
    Except SettingsError (String × Value) :=
  let key := area ++ "." ++ field
  match entries.get? field with
  | some value => .ok (key, value)
  | none => .error (.missingKey key)

/-- A text of a section. -/
def readText (entries : Entries Value) (area field : String) : Except SettingsError String := do
  match <- required entries area field with
  | (_, .str text) => pure text
  | (key, value) => throw (.wrongKind key "a string" value.kindName)

/-- A truth value of a section. -/
def readTruth (entries : Entries Value) (area field : String) : Except SettingsError Bool := do
  match <- required entries area field with
  | (_, .bool truth) => pure truth
  | (key, value) => throw (.wrongKind key "a boolean" value.kindName)

/-- An integer of a section. -/
def readInteger (entries : Entries Value) (area field : String) : Except SettingsError Int := do
  match <- required entries area field with
  | (_, .int number) => pure number
  | (key, value) => throw (.wrongKind key "an integer" value.kindName)

/-- A number of a section; an integer is taken as the nearest fraction. -/
def readNumber (entries : Entries Value) (area field : String) :
    Except SettingsError Binary64 := do
  match <- required entries area field with
  | (_, .float number) => pure number
  | (_, .int number) =>
      match Binary64.ofInt? number with
      | some nearest => pure nearest
      | none => throw .tooLarge
  | (key, value) => throw (.wrongKind key "a number" value.kindName)

/-- A text without the blanks around it. -/
def trimmed (text : String) : String :=
  String.ofList (Text.trim text.toList)

/-- The value of a variable without the blanks around it; empty where the variable
is not set or has no name. -/
def variableValue (environment : Entries String) (name : String) : String :=
  if (trimmed name).isEmpty then "" else trimmed ((environment.get? name).getD "")

/-- Read the section on the journal. -/
def readJournal (root : Entries Value) : Except SettingsError JournalSettings := do
  let entries <- section? root "log" true
  let level <- readText entries "log" "level"
  let toFile <- readTruth entries "log" "to_file"
  let directory <- readText entries "log" "dir"
  pure { level := Text.upperForAscii level, toFile, directory }

/-- Read the section on the backend. -/
def readBackend (root : Entries Value) (environment : Entries String) :
    Except SettingsError BackendSettings := do
  let entries <- section? root "opensearch" true
  let userVariable <- readText entries "opensearch" "user_env"
  let passwordVariable <- readText entries "opensearch" "password_env"
  let baseUrl <- readText entries "opensearch" "base_url"
  let index <- readText entries "opensearch" "index"
  let timeout <- readNumber entries "opensearch" "timeout"
  let verifiesTls <- readTruth entries "opensearch" "verify_tls"
  let window <- readInteger entries "opensearch" "max_result_window"
  pure
    { baseUrl := trimmed baseUrl
      index := trimmed index
      userVariable
      passwordVariable
      user := variableValue environment userVariable
      password := variableValue environment passwordVariable
      timeout
      verifiesTls
      window }

/-- Read the section on searches. -/
def readSearch (root : Entries Value) : Except SettingsError SearchSettings := do
  let entries <- section? root "search" true
  let highlight <- section? entries "highlight" true
  let batchSize <- readInteger entries "search" "results_per_fetch"
  let pageSize <- readInteger entries "search" "items_per_page"
  let fragmentSize <- readInteger highlight "search.highlight" "fragment_size"
  let phraseLimit <- readInteger highlight "search.highlight" "phrase_limit"
  let fragmentCount <- readInteger highlight "search.highlight" "number_of_fragments"
  let preTag <- readText highlight "search.highlight" "pre_tag"
  let postTag <- readText highlight "search.highlight" "post_tag"
  let locale <- readText highlight "search.highlight" "boundary_locale"
  pure
    { batchSize
      pageSize
      style := { fragmentSize, phraseLimit, fragmentCount, preTag, postTag, locale } }

/-- A text has to have a word. -/
def checkText (text key : String) : Except SettingsError Unit :=
  if (trimmed text).isEmpty then .error (.blank key) else .ok ()

/-- An integer has to be positive. -/
def checkPositive (number : Int) (key : String) : Except SettingsError Unit :=
  if number ≤ 0 then .error (.notPositive key) else .ok ()

/-- Check where the journal goes. -/
def checkJournal (journal : JournalSettings) : Except SettingsError Unit := do
  if !levels.contains journal.level then throw .unknownLevel
  checkText journal.directory "log.dir"

/-- Check which index is asked. -/
def checkBackend (backend : BackendSettings) : Except SettingsError Unit := do
  checkText backend.baseUrl "opensearch.base_url"
  if !addressSchemes.any (fun scheme => scheme.toList.isPrefixOf backend.baseUrl.toList) then
    throw .notAnAddress
  checkText backend.index "opensearch.index"
  checkText backend.userVariable "opensearch.user_env"
  checkText backend.passwordVariable "opensearch.password_env"
  if backend.timeout.isNonPositive then throw (.notPositive "opensearch.timeout")
  checkPositive backend.window "opensearch.max_result_window"

/-- Check how hits are fetched, paged and highlighted. -/
def checkSearch (search : SearchSettings) : Except SettingsError Unit := do
  checkPositive search.pageSize "search.items_per_page"
  checkPositive search.batchSize "search.results_per_fetch"
  if search.batchSize % search.pageSize ≠ 0 then throw .notAMultiple
  checkPositive search.style.fragmentSize "search.highlight.fragment_size"
  checkPositive search.style.phraseLimit "search.highlight.phrase_limit"
  checkPositive search.style.fragmentCount "search.highlight.number_of_fragments"
  checkText search.style.preTag "search.highlight.pre_tag"
  checkText search.style.postTag "search.highlight.post_tag"
  checkText search.style.locale "search.highlight.boundary_locale"

/-- Check all sections, and that a batch fits into the window. -/
def check (settings : Settings) : Except SettingsError Unit := do
  checkJournal settings.journal
  checkBackend settings.backend
  checkSearch settings.search
  if settings.backend.window < settings.search.batchSize then throw .beyondWindow

/-- The settings of an object. -/
def read (root : Entries Value) (environment : Entries String) :
    Except SettingsError Settings := do
  let journal <- readJournal root
  let backend <- readBackend root environment
  let search <- readSearch root
  let settings : Settings := { journal, backend, search }
  check settings
  pure settings

end Settings
end Concordance
