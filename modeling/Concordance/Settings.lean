import Concordance.Backend.Gateway
import Concordance.Numeral.Shortest
import Concordance.Session.State

/-!
# Settings

The settings of a run: where its journal goes, which index it asks, and how hits
are fetched, paged and highlighted. User and password come from the environment;
the settings only name the variables that hold them.
-/

namespace Concordance

/-- Where the journal goes. -/
structure JournalSettings where
  level : String
  toFile : Bool
  directory : String
  deriving DecidableEq, Repr

/-- Which index is asked, and how. -/
structure BackendSettings where
  baseUrl : String
  index : String
  userVariable : String
  passwordVariable : String
  user : String
  password : String
  timeout : Binary64
  verifiesTls : Bool
  window : Int
  deriving DecidableEq, Repr

/-- How hits are fetched, paged and highlighted. -/
structure SearchSettings where
  batchSize : Int
  pageSize : Int
  style : HighlightStyle
  deriving DecidableEq, Repr

/-- The settings of a run. -/
structure Settings where
  journal : JournalSettings
  backend : BackendSettings
  search : SearchSettings
  deriving DecidableEq, Repr

namespace Settings

/-- The layout of the index: the usual fields with the chosen highlighting. -/
def layout (settings : Settings) : Layout :=
  { style := settings.search.style }

/-- The gateway to the index. -/
def gateway (settings : Settings) : Backend.Gateway :=
  { endpoint :=
      { baseUrl := settings.backend.baseUrl
        index := settings.backend.index
        user := settings.backend.user
        password := settings.backend.password
        timeout := .fraction settings.backend.timeout
        verifiesTls := settings.backend.verifiesTls }
    window := settings.backend.window }

/-- What stays the same throughout a session with these settings. -/
def sessionSetup (settings : Settings) : Except PagingError Session.Setup := do
  let paging <-
    Paging.ofSizes settings.search.batchSize settings.search.pageSize settings.backend.window
  pure { paging, layout := settings.layout }

end Settings
end Concordance
