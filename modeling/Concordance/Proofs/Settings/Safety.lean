import Concordance.Proofs.Settings.Faults
import Concordance.Proofs.Settings.Sizes
import Concordance.Proofs.Text.Blank

/-!
# Accepted settings are safe to run

Settings that pass all checks have what a run needs, except that the check of the timeout, which
refuses what is zero or less, lets the fraction through that is no number. Together with the one
fault that is neither of a type nor of a value, this says exactly when reading is safe.
-/

namespace Concordance

/-- Whether a text has a character that is no blank. -/
def Text.HasWord (text : String) : Prop :=
  ∃ character ∈ text.toList, Text.isBlank character = false

/-- Settings of the journal that a run can rely on. -/
structure JournalSettings.IsSound (journal : JournalSettings) : Prop where
  level_mem : journal.level ∈ Settings.levels
  directory_hasWord : Text.HasWord journal.directory

/-- Settings of the backend that a run can rely on, up to the timeout. -/
structure BackendSettings.IsSound (backend : BackendSettings) : Prop where
  address : ∃ scheme ∈ Settings.addressSchemes, scheme.toList <+: backend.baseUrl.toList
  index_hasWord : Text.HasWord backend.index
  userVariable_hasWord : Text.HasWord backend.userVariable
  passwordVariable_hasWord : Text.HasWord backend.passwordVariable
  window_pos : 0 < backend.window

/-- Settings of the highlighting that a run can rely on. -/
structure HighlightStyle.IsSound (style : HighlightStyle) : Prop where
  fragmentSize_pos : 0 < style.fragmentSize
  phraseLimit_pos : 0 < style.phraseLimit
  fragmentCount_pos : 0 < style.fragmentCount
  preTag_hasWord : Text.HasWord style.preTag
  postTag_hasWord : Text.HasWord style.postTag
  locale_hasWord : Text.HasWord style.locale

namespace Settings

/-- Settings that are safe to run with: every section can be relied on, the timeout is positive,
the sizes fit together, and a session can be set up. -/
structure IsSafe (settings : Settings) : Prop where
  journal : settings.journal.IsSound
  backend : settings.backend.IsSound
  timeout_pos : settings.backend.timeout.IsPositive
  style : settings.search.style.IsSound
  sizes : settings.SizesFit
  starts : ∃ setup, settings.sessionSetup = .ok setup

/-- Whether the outcome of reading is safe: a fault of a type or of a value, or settings that are
safe to run with. -/
def OutcomeIsSafe : Except SettingsError Settings -> Prop
  | .ok settings => settings.IsSafe
  | .error fault => fault.kind = .wrongType ∨ fault.kind = .badValue

/-! ## What the checks let through -/

/-- A text that passes the check has a word. -/
theorem hasWord_of_checkText
    {text key : String}
    (passes : checkText text key = .ok ()) :
    Text.HasWord text := by
  obtain ⟨notEmpty, _⟩ := of_guarded_eq_ok passes
  by_contra wordless
  apply notEmpty
  have nothing : Text.trim text.toList = [] := by
    rw [Text.trim_eq_nil_iff]
    intro character member
    by_contra letter
    exact wordless ⟨character, member, Bool.not_eq_true _ ▸ letter⟩
  rw [trimmed, nothing]
  rfl

/-- What the check of the journal lets through. -/
theorem isSound_of_checkJournal
    {journal : JournalSettings}
    (passes : checkJournal journal = .ok ()) :
    journal.IsSound := by
  obtain ⟨known, directory⟩ := of_guarded_eq_ok passes
  simp only [Bool.not_eq_true, Bool.not_eq_false', List.contains_iff_mem] at known
  exact ⟨known, hasWord_of_checkText directory⟩

/-- What the check of the backend lets through. -/
theorem isSound_of_checkBackend
    {backend : BackendSettings}
    (passes : checkBackend backend = .ok ()) :
    backend.IsSound ∧ backend.timeout.isNonPositive = false := by
  obtain ⟨_, _, passes⟩ := exists_of_bind_eq_ok passes
  obtain ⟨known, passes⟩ := of_guarded_eq_ok passes
  obtain ⟨_, index, passes⟩ := exists_of_bind_eq_ok passes
  obtain ⟨_, userVariable, passes⟩ := exists_of_bind_eq_ok passes
  obtain ⟨_, passwordVariable, passes⟩ := exists_of_bind_eq_ok passes
  obtain ⟨timeout, window⟩ := of_guarded_eq_ok passes
  have address : ∃ scheme ∈ addressSchemes, scheme.toList <+: backend.baseUrl.toList := by
    simpa using known
  exact
    ⟨{ address
       index_hasWord := hasWord_of_checkText index
       userVariable_hasWord := hasWord_of_checkText userVariable
       passwordVariable_hasWord := hasWord_of_checkText passwordVariable
       window_pos := pos_of_checkPositive window },
      Bool.not_eq_true _ ▸ timeout⟩

/-- What the check of the searches lets through. -/
theorem isSound_of_checkSearch
    {search : SearchSettings}
    (passes : checkSearch search = .ok ()) :
    search.style.IsSound := by
  obtain ⟨_, _, passes⟩ := exists_of_bind_eq_ok passes
  obtain ⟨_, _, passes⟩ := exists_of_bind_eq_ok passes
  obtain ⟨_, passes⟩ := of_guarded_eq_ok passes
  obtain ⟨_, fragmentSize, passes⟩ := exists_of_bind_eq_ok passes
  obtain ⟨_, phraseLimit, passes⟩ := exists_of_bind_eq_ok passes
  obtain ⟨_, fragmentCount, passes⟩ := exists_of_bind_eq_ok passes
  obtain ⟨_, preTag, passes⟩ := exists_of_bind_eq_ok passes
  obtain ⟨_, postTag, locale⟩ := exists_of_bind_eq_ok passes
  exact
    { fragmentSize_pos := pos_of_checkPositive fragmentSize
      phraseLimit_pos := pos_of_checkPositive phraseLimit
      fragmentCount_pos := pos_of_checkPositive fragmentCount
      preTag_hasWord := hasWord_of_checkText preTag
      postTag_hasWord := hasWord_of_checkText postTag
      locale_hasWord := hasWord_of_checkText locale }

/-- Settings that pass all checks are safe to run with, unless the timeout is no number. -/
theorem isSafe_of_check
    {settings : Settings}
    (passes : settings.check = .ok ())
    (number : settings.backend.timeout ≠ .nan) :
    settings.IsSafe := by
  have sizes := sizesFit_of_check passes
  obtain ⟨setup, starts, _⟩ := sizes.sessionSetup_eq_ok
  obtain ⟨_, journal, passes⟩ := exists_of_bind_eq_ok passes
  obtain ⟨_, backend, passes⟩ := exists_of_bind_eq_ok passes
  obtain ⟨_, search, _⟩ := exists_of_bind_eq_ok passes
  obtain ⟨backendSound, notRefused⟩ := isSound_of_checkBackend backend
  exact
    { journal := isSound_of_checkJournal journal
      backend := backendSound
      timeout_pos := (Binary64.isPositive_iff _).2 ⟨number, notRefused⟩
      style := isSound_of_checkSearch search
      sizes
      starts := ⟨setup, starts⟩ }

/-- Settings that are read are safe to run with exactly when the timeout is a number. -/
theorem isSafe_iff_of_read
    {root : Entries Value}
    {environment : Entries String}
    {settings : Settings}
    (reads : read root environment = .ok settings) :
    settings.IsSafe ↔ settings.backend.timeout ≠ .nan := by
  constructor
  · intro safe
    exact ((Binary64.isPositive_iff _).1 safe.timeout_pos).1
  · exact isSafe_of_check (check_of_read reads)

/-! ## When reading is safe -/

/-- The outcome of reading is safe except in two cases: reading gets to a timeout that is an
integer too large for a fraction, or it gets to the fraction that is no number and the settings
are accepted. -/
theorem settings_are_safe_iff (root : Entries Value) (environment : Entries String) :
    OutcomeIsSafe (read root environment) ↔
      (¬∃ integer, ReachesTimeout root (.int integer) ∧
        Binary64.integerBound ≤ integer.natAbs) ∧
      ¬(ReachesTimeout root (.float .nan) ∧ ∃ settings, read root environment = .ok settings) := by
  simp only [← Binary64.ofInt?_eq_none_iff, ← read_eq_tooLarge_iff root environment]
  cases outcome : read root environment with
  | error fault => simp [OutcomeIsSafe, kind_eq_iff_ne_tooLarge]
  | ok settings => simp [OutcomeIsSafe, isSafe_iff_of_read outcome, timeout_eq_nan_iff outcome]

/-- Settings with a timeout, in which there is nothing else to refuse. -/
def plainRoot (timeout : Value) : Entries Value :=
  [ ("log", .obj [("level", .str "INFO"), ("to_file", .bool false), ("dir", .str "log")]),
    ("opensearch", .obj
      [ ("base_url", .str "http://localhost:9200"),
        ("index", .str "pages"),
        ("user_env", .str "CS_USER"),
        ("password_env", .str "CS_PASS"),
        ("timeout", timeout),
        ("verify_tls", .bool true),
        ("max_result_window", .int 10000) ]),
    ("search", .obj
      [ ("results_per_fetch", .int 200),
        ("items_per_page", .int 20),
        ("highlight", .obj
          [ ("fragment_size", .int 150),
            ("phrase_limit", .int 150),
            ("number_of_fragments", .int 100),
            ("pre_tag", .str "<b>"),
            ("post_tag", .str "</b>"),
            ("boundary_locale", .str "ar") ]) ]) ]

/-- A timeout that is no number is accepted, and one that is too large for a fraction fails as
neither a fault of a type nor of a value. -/
theorem unsafe_timeouts :
    ¬OutcomeIsSafe (read (plainRoot (.float .nan)) []) ∧
    ¬OutcomeIsSafe (read (plainRoot (.int (10 ^ 400))) []) := by
  have noNumber :
      (read (plainRoot (.float .nan)) []).map (fun settings => settings.backend.timeout) =
        .ok .nan := by
    decide +kernel
  have tooLarge : read (plainRoot (.int (10 ^ 400))) [] = .error .tooLarge := by
    decide +kernel
  constructor
  · obtain ⟨settings, accepted, timeout⟩ := map_eq_ok noNumber
    rw [accepted]
    exact fun safe => (isSafe_iff_of_read accepted).1 safe timeout
  · rw [tooLarge]
    simp [OutcomeIsSafe, SettingsError.kind]

end Settings
end Concordance
