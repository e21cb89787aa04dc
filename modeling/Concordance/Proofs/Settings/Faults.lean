import Concordance.Proofs.Numeral.Binary64
import Concordance.Proofs.Outcome
import Concordance.Settings.Reading

/-!
# Faults of settings

Every fault of settings is one of a type or of a value, except one: an integer timeout can be too
large for a fraction. Reading and checking are chains of steps, and a chain fails in this way only
where one of its steps does; the timeout is the only step that can. So reading fails in this way
exactly where it gets to such a timeout.
-/

namespace Concordance
namespace Settings

/-- All faults but an integer too large for a fraction are faults of a type or of a value. -/
theorem kind_eq_iff_ne_tooLarge (fault : SettingsError) :
    fault.kind = .wrongType ∨ fault.kind = .badValue ↔ fault ≠ .tooLarge := by
  cases fault <;> simp [SettingsError.kind]

/-- Whether a step does not fail at an integer too large for a fraction. -/
def IsRegular {α : Type} (outcome : Except SettingsError α) : Prop :=
  outcome ≠ .error .tooLarge

section Steps

variable {α β : Type} {first : Except SettingsError α} {next : α -> Except SettingsError β}

theorem isRegular_ok (value : α) : IsRegular (.ok value) := by
  unfold IsRegular
  simp

theorem isRegular_error
    {fault : SettingsError}
    (other : fault ≠ .tooLarge) :
    IsRegular (.error fault : Except SettingsError α) :=
  fun fails => other (Except.error.inj fails)

/-- A chain of regular steps is regular. -/
theorem IsRegular.bind
    (regular : IsRegular first)
    (nextRegular : ∀ value, IsRegular (next value)) :
    IsRegular (first >>= next) := by
  intro fails
  rcases eq_or_exists_of_bind_eq_error fails with firstFails | ⟨value, _, nextFails⟩
  · exact regular firstFails
  · exact nextRegular value nextFails

/-- A guard with another fault is regular. -/
theorem IsRegular.guard
    {condition : Prop}
    [Decidable condition]
    {fault : SettingsError}
    (regular : IsRegular first)
    (other : fault ≠ .tooLarge) :
    IsRegular (if condition then .error fault else first) := by
  split
  · exact isRegular_error other
  · exact regular

/-- A chain that fails at such an integer does so behind a regular step. -/
theorem IsRegular.exists_of_bind
    (regular : IsRegular first)
    (fails : first >>= next = .error .tooLarge) :
    ∃ value, first = .ok value ∧ next value = .error .tooLarge :=
  (eq_or_exists_of_bind_eq_error fails).resolve_left regular

/-- A chain that fails at such an integer does so before regular steps. -/
theorem eq_of_bind_of_isRegular
    (nextRegular : ∀ value, IsRegular (next value))
    (fails : first >>= next = .error .tooLarge) :
    first = .error .tooLarge := by
  rcases eq_or_exists_of_bind_eq_error fails with firstFails | ⟨value, _, nextFails⟩
  · exact firstFails
  · exact absurd nextFails (nextRegular value)

end Steps

/-- A section is read from an object. -/
theorem section?_eq_ok_iff
    (root : Entries Value)
    (key : String)
    (entries : Entries Value) :
    (section? root key true = .ok entries) ↔ Value.field root key = .obj entries := by
  unfold section?
  cases Value.field root key <;> simp

theorem isRegular_section? (root : Entries Value) (key : String) (required : Bool) :
    IsRegular (section? root key required) := by
  unfold IsRegular section?
  cases Value.field root key <;> cases required <;> simp

theorem isRegular_required (entries : Entries Value) (area field : String) :
    IsRegular (required entries area field) := by
  unfold IsRegular required
  cases entries.get? field <;> simp

/-- A text is read regularly. -/
theorem isRegular_readText (entries : Entries Value) (area field : String) :
    IsRegular (readText entries area field) := by
  apply (isRegular_required entries area field).bind
  rintro ⟨key, value⟩
  cases value with
  | str text => exact isRegular_ok text
  | _ => exact isRegular_error (by simp)

/-- A truth value is read regularly. -/
theorem isRegular_readTruth (entries : Entries Value) (area field : String) :
    IsRegular (readTruth entries area field) := by
  apply (isRegular_required entries area field).bind
  rintro ⟨key, value⟩
  cases value with
  | bool truth => exact isRegular_ok truth
  | _ => exact isRegular_error (by simp)

/-- An integer is read regularly. -/
theorem isRegular_readInteger (entries : Entries Value) (area field : String) :
    IsRegular (readInteger entries area field) := by
  apply (isRegular_required entries area field).bind
  rintro ⟨key, value⟩
  cases value with
  | int number => exact isRegular_ok number
  | _ => exact isRegular_error (by simp)

/-- The journal is read regularly. -/
theorem isRegular_readJournal (root : Entries Value) : IsRegular (readJournal root) := by
  apply (isRegular_section? root "log" true).bind
  intro entries
  apply (isRegular_readText entries "log" "level").bind
  intro level
  apply (isRegular_readTruth entries "log" "to_file").bind
  intro toFile
  apply (isRegular_readText entries "log" "dir").bind
  intro directory
  exact isRegular_ok _

/-- The section on searches is read regularly. -/
theorem isRegular_readSearch (root : Entries Value) : IsRegular (readSearch root) := by
  apply (isRegular_section? root "search" true).bind
  intro entries
  apply (isRegular_section? entries "highlight" true).bind
  intro highlight
  iterate 5
    apply IsRegular.bind (isRegular_readInteger _ _ _)
    intro number
  iterate 3
    apply IsRegular.bind (isRegular_readText _ _ _)
    intro text
  exact isRegular_ok _

theorem isRegular_checkText (text key : String) : IsRegular (checkText text key) :=
  (isRegular_ok ()).guard (by simp)

theorem isRegular_checkPositive (number : Int) (key : String) :
    IsRegular (checkPositive number key) :=
  (isRegular_ok ()).guard (by simp)

theorem isRegular_checkJournal (journal : JournalSettings) : IsRegular (checkJournal journal) :=
  (isRegular_checkText journal.directory "log.dir").guard (by simp)

/-- The backend is checked regularly. -/
theorem isRegular_checkBackend (backend : BackendSettings) : IsRegular (checkBackend backend) := by
  apply (isRegular_checkText backend.baseUrl "opensearch.base_url").bind
  intro _
  apply IsRegular.guard _ (by simp)
  iterate 3
    apply IsRegular.bind (isRegular_checkText _ _)
    intro _
  apply IsRegular.guard _ (by simp)
  exact isRegular_checkPositive backend.window "opensearch.max_result_window"

/-- The searches are checked regularly. -/
theorem isRegular_checkSearch (search : SearchSettings) : IsRegular (checkSearch search) := by
  iterate 2
    apply IsRegular.bind (isRegular_checkPositive _ _)
    intro _
  apply IsRegular.guard _ (by simp)
  iterate 3
    apply IsRegular.bind (isRegular_checkPositive _ _)
    intro _
  iterate 2
    apply IsRegular.bind (isRegular_checkText _ _)
    intro _
  exact isRegular_checkText search.style.locale "search.highlight.boundary_locale"

/-- Settings are checked regularly. -/
theorem isRegular_check (settings : Settings) : IsRegular settings.check := by
  apply (isRegular_checkJournal settings.journal).bind
  intro _
  apply (isRegular_checkBackend settings.backend).bind
  intro _
  apply (isRegular_checkSearch settings.search).bind
  intro _
  exact (isRegular_ok ()).guard (by simp)

/-! ## When a timeout is read -/

/-- The texts of the backend that are read before the timeout. -/
def textsBeforeTimeout : List String := ["user_env", "password_env", "base_url", "index"]

/-- Whether reading gets to a timeout: whatever stands before it can be read. -/
structure ReachesTimeout (root : Entries Value) (given : Value) : Prop where
  journal : ∃ journal, readJournal root = .ok journal
  backend :
    ∃ entries : Entries Value,
      Value.field root "opensearch" = .obj entries ∧
      (∀ field ∈ textsBeforeTimeout, ∃ text, entries.get? field = some (.str text)) ∧
      entries.get? "timeout" = some given

/-- A text is read from a text. -/
theorem readText_eq_ok_iff
    (entries : Entries Value)
    (area field text : String) :
    readText entries area field = .ok text ↔ entries.get? field = some (.str text) := by
  unfold readText required
  cases entries.get? field with
  | none => simp [error_bind]
  | some value => cases value <;> simp [ok_bind, pure_eq_ok, throw_eq_error]

/-- A number is read from a fraction or from an integer that has a nearest one. -/
theorem readNumber_eq_ok_iff
    (entries : Entries Value)
    (area field : String)
    (number : Binary64) :
    readNumber entries area field = .ok number ↔
      entries.get? field = some (.float number) ∨
        ∃ integer, entries.get? field = some (.int integer) ∧
          Binary64.ofInt? integer = some number := by
  unfold readNumber required
  cases entries.get? field with
  | none => simp [error_bind]
  | some value =>
      cases value with
      | int integer =>
          cases nearest : Binary64.ofInt? integer <;>
            simp [ok_bind, pure_eq_ok, throw_eq_error, nearest]
      | _ => simp [ok_bind, pure_eq_ok, throw_eq_error]

/-- A number fails at such an integer where one is given. -/
theorem readNumber_eq_tooLarge_iff
    (entries : Entries Value)
    (area field : String) :
    readNumber entries area field = .error .tooLarge ↔
      ∃ integer, entries.get? field = some (.int integer) ∧ Binary64.ofInt? integer = none := by
  unfold readNumber required
  cases entries.get? field with
  | none => simp [error_bind]
  | some value =>
      cases value with
      | int integer =>
          cases nearest : Binary64.ofInt? integer <;>
            simp [ok_bind, pure_eq_ok, throw_eq_error, nearest]
      | _ => simp [ok_bind, pure_eq_ok, throw_eq_error]

/-- Reading gets to one timeout at most. -/
theorem ReachesTimeout.unique
    {root : Entries Value}
    {given other : Value}
    (reaches : ReachesTimeout root given)
    (reachesOther : ReachesTimeout root other) :
    given = other := by
  obtain ⟨entries, isSection, _, isGiven⟩ := reaches.backend
  obtain ⟨otherEntries, isOtherSection, _, isOther⟩ := reachesOther.backend
  obtain rfl := Value.obj.inj (isSection.symm.trans isOtherSection)
  exact Option.some.inj (isGiven.symm.trans isOther)

/-- Where the journal and four texts of the backend are read, reading gets to the timeout. -/
theorem reachesTimeout_of_reads
    {root entries : Entries Value}
    {journal : JournalSettings}
    {user password baseUrl index : String}
    {given : Value}
    (journalReads : readJournal root = .ok journal)
    (sectionReads : section? root "opensearch" true = .ok entries)
    (userReads : readText entries "opensearch" "user_env" = .ok user)
    (passwordReads : readText entries "opensearch" "password_env" = .ok password)
    (baseUrlReads : readText entries "opensearch" "base_url" = .ok baseUrl)
    (indexReads : readText entries "opensearch" "index" = .ok index)
    (isGiven : entries.get? "timeout" = some given) :
    ReachesTimeout root given where
  journal := ⟨journal, journalReads⟩
  backend := by
    rw [section?_eq_ok_iff] at sectionReads
    rw [readText_eq_ok_iff] at userReads passwordReads baseUrlReads indexReads
    refine ⟨entries, sectionReads, ?_, isGiven⟩
    simp only [textsBeforeTimeout, List.forall_mem_cons]
    exact ⟨⟨user, userReads⟩, ⟨password, passwordReads⟩, ⟨baseUrl, baseUrlReads⟩,
      ⟨index, indexReads⟩, by simp⟩

/-- Settings that are read have a timeout that was reached. -/
theorem exists_reachesTimeout_of_read
    {root : Entries Value}
    {environment : Entries String}
    {settings : Settings}
    (reads : read root environment = .ok settings) :
    ∃ given,
      ReachesTimeout root given ∧
      (given = .float settings.backend.timeout ∨
        ∃ integer, given = .int integer ∧
          Binary64.ofInt? integer = some settings.backend.timeout) := by
  obtain ⟨journal, journalReads, reads⟩ := exists_of_bind_eq_ok reads
  obtain ⟨backend, backendReads, reads⟩ := exists_of_bind_eq_ok reads
  obtain ⟨search, _, reads⟩ := exists_of_bind_eq_ok reads
  obtain ⟨_, _, reads⟩ := exists_of_bind_eq_ok reads
  cases reads
  obtain ⟨entries, sectionReads, backendReads⟩ := exists_of_bind_eq_ok backendReads
  obtain ⟨user, userReads, backendReads⟩ := exists_of_bind_eq_ok backendReads
  obtain ⟨password, passwordReads, backendReads⟩ := exists_of_bind_eq_ok backendReads
  obtain ⟨baseUrl, baseUrlReads, backendReads⟩ := exists_of_bind_eq_ok backendReads
  obtain ⟨index, indexReads, backendReads⟩ := exists_of_bind_eq_ok backendReads
  obtain ⟨timeout, timeoutReads, backendReads⟩ := exists_of_bind_eq_ok backendReads
  obtain ⟨verifiesTls, _, backendReads⟩ := exists_of_bind_eq_ok backendReads
  obtain ⟨window, _, backendReads⟩ := exists_of_bind_eq_ok backendReads
  cases backendReads
  have reaches (given : Value) (isGiven : entries.get? "timeout" = some given) :=
    reachesTimeout_of_reads journalReads sectionReads userReads passwordReads baseUrlReads
      indexReads isGiven
  rcases (readNumber_eq_ok_iff entries "opensearch" "timeout" timeout).1 timeoutReads with
    isFloat | ⟨integer, isInteger, nearest⟩
  · exact ⟨.float timeout, reaches _ isFloat, Or.inl rfl⟩
  · exact ⟨.int integer, reaches _ isInteger, Or.inr ⟨integer, rfl, nearest⟩⟩

/-- The timeout of settings that are read is no number exactly where none was given. -/
theorem timeout_eq_nan_iff
    {root : Entries Value}
    {environment : Entries String}
    {settings : Settings}
    (reads : read root environment = .ok settings) :
    settings.backend.timeout = .nan ↔ ReachesTimeout root (.float .nan) := by
  obtain ⟨given, reaches, isFloat | ⟨integer, isInteger, nearest⟩⟩ :=
    exists_reachesTimeout_of_read reads
  · subst isFloat
    constructor
    · intro noNumber
      rwa [noNumber] at reaches
    · intro reachesNoNumber
      exact Value.float.inj (reaches.unique reachesNoNumber)
  · subst isInteger
    constructor
    · intro noNumber
      exact absurd noNumber (Binary64.ne_nan_of_ofInt?_eq_some nearest)
    · intro reachesNoNumber
      exact Value.noConfusion (reaches.unique reachesNoNumber)

/-- Where reading fails at an integer too large for a fraction, it has got to such a timeout. -/
theorem exists_reachesTimeout_of_tooLarge
    {root : Entries Value}
    {environment : Entries String}
    (fails : read root environment = .error .tooLarge) :
    ∃ integer, ReachesTimeout root (.int integer) ∧ Binary64.ofInt? integer = none := by
  obtain ⟨journal, journalReads, fails⟩ := (isRegular_readJournal root).exists_of_bind fails
  have backendFails : readBackend root environment = .error .tooLarge := by
    apply eq_of_bind_of_isRegular _ fails
    intro backend
    apply (isRegular_readSearch root).bind
    intro search
    exact (isRegular_check _).bind fun _ => isRegular_ok _
  obtain ⟨entries, sectionReads, fails⟩ :=
    (isRegular_section? root "opensearch" true).exists_of_bind backendFails
  obtain ⟨user, userReads, fails⟩ := (isRegular_readText _ _ _).exists_of_bind fails
  obtain ⟨password, passwordReads, fails⟩ := (isRegular_readText _ _ _).exists_of_bind fails
  obtain ⟨baseUrl, baseUrlReads, fails⟩ := (isRegular_readText _ _ _).exists_of_bind fails
  obtain ⟨index, indexReads, fails⟩ := (isRegular_readText _ _ _).exists_of_bind fails
  have timeoutFails : readNumber entries "opensearch" "timeout" = .error .tooLarge := by
    apply eq_of_bind_of_isRegular _ fails
    intro timeout
    apply (isRegular_readTruth _ _ _).bind
    intro verifiesTls
    exact (isRegular_readInteger _ _ _).bind fun _ => isRegular_ok _
  obtain ⟨integer, isGiven, beyond⟩ := (readNumber_eq_tooLarge_iff _ _ _).1 timeoutFails
  exact ⟨integer, reachesTimeout_of_reads journalReads sectionReads userReads passwordReads
    baseUrlReads indexReads isGiven, beyond⟩

/-- Reading fails at a timeout that is an integer too large for a fraction. -/
theorem ReachesTimeout.read_eq_tooLarge
    {root : Entries Value}
    {integer : Int}
    (reaches : ReachesTimeout root (.int integer))
    (beyond : Binary64.ofInt? integer = none)
    (environment : Entries String) :
    read root environment = .error .tooLarge := by
  obtain ⟨⟨journal, journalReads⟩, entries, isSection, texts, isGiven⟩ := reaches
  simp only [textsBeforeTimeout, List.forall_mem_cons] at texts
  obtain ⟨⟨user, isUser⟩, ⟨password, isPassword⟩, ⟨baseUrl, isBaseUrl⟩, ⟨index, isIndex⟩, _⟩ :=
    texts
  rw [← readText_eq_ok_iff _ "opensearch"] at isUser isPassword isBaseUrl isIndex
  have timeoutFails :=
    (readNumber_eq_tooLarge_iff entries "opensearch" "timeout").2 ⟨integer, isGiven, beyond⟩
  have backendFails : readBackend root environment = .error .tooLarge := by
    simp only [readBackend, (section?_eq_ok_iff _ _ _).2 isSection, isUser, isPassword, isBaseUrl,
      isIndex, timeoutFails, ok_bind, error_bind]
  simp only [read, journalReads, backendFails, ok_bind, error_bind]

/-- Reading fails at an integer too large for a fraction exactly where it gets to such a
timeout. -/
theorem read_eq_tooLarge_iff (root : Entries Value) (environment : Entries String) :
    read root environment = .error .tooLarge ↔
      ∃ integer, ReachesTimeout root (.int integer) ∧ Binary64.ofInt? integer = none := by
  constructor
  · exact exists_reachesTimeout_of_tooLarge
  · rintro ⟨integer, reaches, beyond⟩
    exact reaches.read_eq_tooLarge beyond environment

end Settings
end Concordance
