/-!
# The default settings

The text of the settings file that comes with the program.
-/

namespace Concordance
namespace Settings

/-- The lines of the default settings file. -/
def defaultLines : List String := [
  "log:",
  "  level: INFO",
  "  to_file: false",
  "  dir: log",
  "",
  "opensearch:",
  "  base_url: http://localhost:9200",
  "  index: pages",
  "  user_env: OPENSEARCH_USER",
  "  password_env: OPENSEARCH_PASSWORD",
  "  timeout: 30",
  "  verify_tls: true",
  "  max_result_window: 10000",
  "",
  "search:",
  "  results_per_fetch: 200",
  "  items_per_page: 20",
  "  highlight:",
  "    fragment_size: 150",
  "    phrase_limit: 150",
  "    number_of_fragments: 100",
  "    pre_tag: '<span class=\"highlight\">'",
  "    post_tag: \"</span>\"",
  "    boundary_locale: ar"]

/-- The text of the default settings file. -/
def defaultText : String :=
  String.join (defaultLines.map fun line => line ++ "\n")

end Settings
end Concordance
