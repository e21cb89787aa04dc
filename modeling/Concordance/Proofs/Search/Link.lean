import Concordance.Proofs.Search.LinkGroups
import Concordance.Proofs.Text.Casing
import Concordance.Proofs.TextIds.Reading
import Concordance.Proofs.TextIds.Spelling

/-!
# Links are read back

What a link is written for is read from it again: the page, the distinct texts in ascending
order, and the question with the terms of an advanced search tagged by their groups. Only an
advanced search with a comma in one of its terms has no link.
-/

namespace Concordance

/-- A question with each term tagged by its place: the group in an advanced search, none
elsewhere. -/
def Question.tagged : Question -> Question
  | .simple term => .simple { term with group := none }
  | .advanced required alternatives =>
      .advanced
        (required.map fun term => { term with group := some .required })
        (alternatives.map fun term => { term with group := some .alternative })
  | .proximity first second slop =>
      .proximity { first with group := none } { second with group := none } slop
  | .unsupported mode => .unsupported mode

namespace Link

/-! ## Questions -/

/-- Whether a question is an advanced search with a comma in one of its terms. -/
def HasSeparator : Question -> Prop
  | .advanced required alternatives =>
      (∃ term ∈ required, ',' ∈ term.text.toList) ∨ ∃ term ∈ alternatives, ',' ∈ term.text.toList
  | _ => False

/-- Whether the slop of a question has no more digits than a numeral may have. -/
def HasSpellableSlop : Question -> Prop
  | .proximity _ _ slop => Numeral.IsSpellable slop
  | _ => True

/-- The parameters of what is asked for. -/
def questionEntries : Question -> Entries String
  | .simple term =>
      [("t", term.text), ("in", term.matching.indexName),
        ("d", flag term.matching.definite), ("p", flag term.matching.proclitic)]
  | .advanced required alternatives =>
      groupEntries .required required ++ groupEntries .alternative alternatives
  | .proximity first second slop =>
      writeNeighbour "t1" first ++ writeNeighbour "t2" second ++ [("slop", Numeral.spell slop)]
  | .unsupported _ => []

/-- A question without the separator in its terms is written. -/
theorem writeQuestion_eq_ok
    {question : Question}
    (supported : ∀ mode, question ≠ .unsupported mode)
    (clean : ¬HasSeparator question) :
    writeQuestion question = .ok (questionEntries question) := by
  cases question with
  | simple term => rfl
  | advanced required alternatives =>
      obtain ⟨requiredClean, alternativesClean⟩ := not_or.1 clean
      rw [writeQuestion,
        writeGroup_eq_ok .required fun term member separator =>
          requiredClean ⟨term, member, separator⟩,
        writeGroup_eq_ok .alternative fun term member separator =>
          alternativesClean ⟨term, member, separator⟩]
      rfl
  | proximity first second slop => rfl
  | unsupported mode => exact absurd rfl (supported mode)

/-- A question with the separator in one of its terms is refused. -/
theorem writeQuestion_eq_error
    {question : Question}
    (unclean : HasSeparator question) :
    ∃ cause, writeQuestion question = .error cause := by
  cases question with
  | advanced required alternatives =>
      cases first : writeGroup .required required with
      | error cause =>
          refine ⟨cause, ?_⟩
          rw [writeQuestion, first]
          rfl
      | ok entries =>
          rcases unclean with inRequired | inAlternatives
          · obtain ⟨cause, refused⟩ := writeGroup_eq_error .required inRequired
            rw [first] at refused
            cases refused
          · obtain ⟨cause, refused⟩ := writeGroup_eq_error .alternative inAlternatives
            refine ⟨cause, ?_⟩
            rw [writeQuestion, first, refused]
            rfl
  | simple term => exact unclean.elim
  | proximity first second slop => exact unclean.elim
  | unsupported mode => exact unclean.elim

/-- The parameters of a question have none of the shared keys. -/
theorem get?_questionEntries_eq_none
    (question : Question)
    {key : String}
    (shared : IsShared key) :
    (questionEntries question).get? key = none := by
  cases question with
  | simple term => rcases shared with rfl | rfl | rfl <;> simp [questionEntries]
  | advanced required alternatives =>
      rw [questionEntries, Entries.get?_append,
        get?_groupEntries_eq_none required (shared.not_isKeyOf .required),
        get?_groupEntries_eq_none alternatives (shared.not_isKeyOf .alternative)]
      rfl
  | proximity first second slop =>
      rcases shared with rfl | rfl | rfl <;> simp [questionEntries, writeNeighbour]
  | unsupported mode => rfl

/-- A written neighbour is read back without a tag. -/
theorem readNeighbour_eq
    {parameters : Entries String}
    {key : String}
    {term : Term}
    (text : parameters.get? key = some (spec term))
    (definite : parameters.get? (key ++ "_d") = some (flag term.matching.definite))
    (proclitic : parameters.get? (key ++ "_p") = some (flag term.matching.proclitic)) :
    readNeighbour parameters key = { term with group := none } := by
  rw [readNeighbour, parameter_of_get? text, readSpec_spec]
  simp only [isSet_of_get? definite, isSet_of_get? proclitic, matchingOf_indexName]

/-- A written integer is read back. -/
theorem readNumber_eq
    {parameters : Entries String}
    {key : String}
    {number : Int}
    (fallback : Int)
    (spellable : Numeral.IsSpellable number)
    (written : parameters.get? key = some (Numeral.spell number)) :
    readNumber parameters key fallback = .ok number := by
  have present : (Numeral.spell number).isEmpty = false := by
    simpa using Numeral.spell_ne_empty number
  rw [readNumber, parameter_of_get? written, present, Numeral.readInteger_spell spellable]
  rfl

section Agreement

variable {parameters : Entries String}

/-- Parameters that agree with those of a simple search are read as the search. -/
theorem readSimple_of_agrees
    {term : Term}
    (agrees : ∀ key, ¬IsShared key ->
      parameters.get? key = (questionEntries (.simple term)).get? key) :
    readQuestion parameters "simple" = .ok (Question.simple term).tagged := by
  have text : parameters.get? "t" = some term.text := agrees "t" (by decide)
  have index : parameters.get? "in" = some term.matching.indexName := agrees "in" (by decide)
  have definite : parameters.get? "d" = some (flag term.matching.definite) :=
    agrees "d" (by decide)
  have proclitic : parameters.get? "p" = some (flag term.matching.proclitic) :=
    agrees "p" (by decide)
  simp only [readQuestion, if_true, parameter_of_get? text, parameter_of_get? index,
    isSet_of_get? definite, isSet_of_get? proclitic, matchingOf_indexName]
  rfl

/-- Parameters that agree with those of an advanced search are read as the search. -/
theorem readAdvanced_of_agrees
    {required alternatives : List Term}
    (clean : ¬HasSeparator (.advanced required alternatives))
    (agrees : ∀ key, ¬IsShared key ->
      parameters.get? key = (questionEntries (.advanced required alternatives)).get? key) :
    readQuestion parameters "advanced" = .ok (Question.advanced required alternatives).tagged := by
  obtain ⟨requiredClean, alternativesClean⟩ := not_or.1 clean
  have ofRequired :
      readGroup parameters .required =
        required.map fun term => { term with group := some .required } := by
    apply readGroup_of_agrees
    · intro term member separator
      exact requiredClean ⟨term, member, separator⟩
    · intro key ofKey
      rw [agrees key fun shared => shared.not_isKeyOf .required ofKey,
        questionEntries, Entries.get?_append,
        get?_groupEntries_eq_none alternatives fun ofOther =>
          absurd (ofKey.group_eq ofOther) (by decide),
        Option.or_none]
  have ofAlternatives :
      readGroup parameters .alternative =
        alternatives.map fun term => { term with group := some .alternative } := by
    apply readGroup_of_agrees
    · intro term member separator
      exact alternativesClean ⟨term, member, separator⟩
    · intro key ofKey
      rw [agrees key fun shared => shared.not_isKeyOf .alternative ofKey,
        questionEntries, Entries.get?_append,
        get?_groupEntries_eq_none required fun ofOther =>
          absurd (ofKey.group_eq ofOther) (by decide),
        Option.none_or]
  unfold readQuestion
  simp only [ofRequired, ofAlternatives]
  rfl

/-- Parameters that agree with those of a proximity search are read as the search. -/
theorem readProximity_of_agrees
    {first second : Term}
    {slop : Int}
    (spellable : Numeral.IsSpellable slop)
    (agrees : ∀ key, ¬IsShared key ->
      parameters.get? key = (questionEntries (.proximity first second slop)).get? key) :
    readQuestion parameters "proximity" = .ok (Question.proximity first second slop).tagged := by
  have ofFirst : readNeighbour parameters "t1" = { first with group := none } := by
    apply readNeighbour_eq
    · exact agrees "t1" (by decide)
    · exact agrees "t1_d" (by decide)
    · exact agrees "t1_p" (by decide)
  have ofSecond : readNeighbour parameters "t2" = { second with group := none } := by
    apply readNeighbour_eq
    · exact agrees "t2" (by decide)
    · exact agrees "t2_d" (by decide)
    · exact agrees "t2_p" (by decide)
  have ofSlop : readNumber parameters "slop" Search.defaultSlop = .ok slop := by
    apply readNumber_eq Search.defaultSlop spellable
    exact agrees "slop" (by decide)
  unfold readQuestion
  simp only [ofFirst, ofSecond, ofSlop]
  rfl

/-- Parameters that agree with those of a written question on all keys but the shared ones are
read as the question, with its terms tagged. -/
theorem readQuestion_of_agrees
    {search : Search}
    (supported : ∀ mode, search.question ≠ .unsupported mode)
    (clean : ¬HasSeparator search.question)
    (spellable : HasSpellableSlop search.question)
    (agrees : ∀ key, ¬IsShared key ->
      parameters.get? key = (questionEntries search.question).get? key) :
    readQuestion parameters search.mode = .ok search.question.tagged := by
  obtain ⟨question, texts⟩ := search
  cases question with
  | simple term => exact readSimple_of_agrees agrees
  | advanced required alternatives => exact readAdvanced_of_agrees clean agrees
  | proximity first second slop => exact readProximity_of_agrees spellable agrees
  | unsupported mode => exact absurd rfl (supported mode)

end Agreement

/-! ## Links -/

/-- A spelling by runs without a dash is read as a list of integers. -/
theorem readPlainTexts_spellRuns
    {ids : List Int}
    (spellable : ∀ id ∈ ids, Numeral.IsSpellable id)
    (nonempty : ids ≠ [])
    (noDash : '-' ∉ (TextIds.spellRuns ids).toList) :
    ((Text.splitAt ',' (TextIds.spellRuns ids).toList).filter
        fun item => !(Text.trim item).isEmpty).mapM
        (fun item => (Numeral.readInteger (String.ofList item)).mapError ReadError.numeral) =
      .ok (TextIds.ascending ids) := by
  have single (run : Run) (member : run ∈ TextIds.runs (TextIds.ascending ids)) :
      run.first = run.last := TextIds.first_eq_last_of_no_dash noDash member
  rw [TextIds.splitAt_spellRuns nonempty, List.filter_eq_self.2]
  · rw [mapM_map_eq_ok, TextIds.map_first_runs single]
    intro run member
    have given : run.first ∈ ids := by
      rw [← (TextIds.ascending_isAscendingOf ids).mem_iff,
        ← TextIds.map_first_runs single]
      exact List.mem_map_of_mem member
    rw [String.ofList_toList, Run.spell, if_pos (single run member),
      Numeral.readInteger_spell (spellable _ given)]
    rfl
  · rw [List.forall_mem_map]
    intro run _
    rw [Text.trim_eq_self fun _ => TextIds.isBlank_of_mem_spell_run]
    simpa using TextIds.toList_spell_run_ne_nil run

/-- Spelled texts are read back in ascending order. -/
theorem readTexts_spell
    {ids : List Int}
    (natural : ∀ id ∈ ids, 0 ≤ id)
    (spellable : ∀ id ∈ ids, Numeral.IsSpellable id) :
    readTexts (TextIds.spell ids) = .ok (TextIds.ascending ids) := by
  rw [TextIds.spell_eq_spellRuns]
  unfold readTexts
  cases dash : (TextIds.spellRuns ids).toList.contains '-' with
  | true =>
      rw [TextIds.read_spellRuns natural spellable]
      rfl
  | false =>
      by_cases empty : ids = []
      · subst empty
        simp [TextIds.spellRuns]
        rfl
      · exact readPlainTexts_spellRuns spellable empty (by simpa using dash)

/-- The name of the kind of a search is read back. -/
theorem lower_trim_mode
    {search : Search}
    (supported : ∀ mode, search.question ≠ .unsupported mode) :
    Text.lower (String.ofList (Text.trim search.mode.toList)) = search.mode := by
  have known : search.mode ∈ ["simple", "advanced", "proximity"] := by
    unfold Search.mode
    cases question : search.question with
    | unsupported mode => exact absurd question (supported mode)
    | _ => simp
  have plain :
      ∀ mode ∈ ["simple", "advanced", "proximity"],
        (mode.toList.all fun character => !Text.isBlank character && character.isLower) = true := by
    decide
  have plainMode := List.all_eq_true.1 (plain _ known)
  simp only [Bool.and_eq_true, Bool.not_eq_true'] at plainMode
  rw [Text.trim_eq_self fun character member => (plainMode character member).1,
    String.ofList_toList,
    Text.lower_eq_self fun character member => (plainMode character member).2]

/-- The parameter of a page. -/
def pageEntries (page : Int) : Entries String :=
  if page = 1 then [] else [("page", Numeral.spell page)]

/-- The parameters of a search, selected texts and a page. -/
def linkEntries (search : Search) (texts : List Int) (page : Int) : Entries String :=
  ("type", search.mode) :: (questionEntries search.question ++ pageEntries page) ++
    writeTexts texts

/-- A search that is supported is written, unless it has the separator in a term. -/
theorem write_eq_ok
    {search : Search}
    (texts : List Int)
    (page : Int)
    (supported : ∀ mode, search.question ≠ .unsupported mode)
    (clean : ¬HasSeparator search.question) :
    write search texts page = .ok (linkEntries search texts page) := by
  rw [write, writePage, writeQuestion_eq_ok supported clean]
  rfl

/-- A search with the separator in a term is refused. -/
theorem write_eq_error
    {search : Search}
    (texts : List Int)
    (page : Int)
    (unclean : HasSeparator search.question) :
    ∃ cause, write search texts page = .error cause := by
  obtain ⟨cause, refused⟩ := writeQuestion_eq_error unclean
  refine ⟨cause, ?_⟩
  rw [write, writePage, refused]
  rfl

section Lookups

variable (search : Search) (texts : List Int) (page : Int)

/-- The keys that are not shared are those of the question. -/
theorem get?_linkEntries_of_not_shared
    {key : String}
    (own : ¬IsShared key) :
    (linkEntries search texts page).get? key = (questionEntries search.question).get? key := by
  obtain ⟨notType, notPage, notTexts⟩ : "type" ≠ key ∧ "page" ≠ key ∧ "text_ids" ≠ key := by
    unfold IsShared at own
    grind
  have ofPage : (pageEntries page).get? key = none := by
    unfold pageEntries
    split <;> simp [notPage]
  have ofTexts : (writeTexts texts).get? key = none := by
    unfold writeTexts
    split <;> simp [notTexts]
  rw [linkEntries, Entries.get?_append, Entries.get?_cons, if_neg notType, Entries.get?_append,
    ofPage, ofTexts, Option.or_none, Option.or_none]

/-- The page and the texts are those of the link. -/
theorem get?_linkEntries_of_shared
    {key : String}
    (shared : key = "page" ∨ key = "text_ids") :
    (linkEntries search texts page).get? key =
      ((pageEntries page).get? key).or ((writeTexts texts).get? key) := by
  have notType : "type" ≠ key := by
    rcases shared with rfl | rfl <;> decide
  rw [linkEntries, Entries.get?_append, Entries.get?_cons, if_neg notType, Entries.get?_append,
    get?_questionEntries_eq_none search.question (Or.inr shared), Option.none_or]

/-- The page of a link is read back. -/
theorem readNumber_page
    (spellable : Numeral.IsSpellable page) :
    readNumber (linkEntries search texts page) "page" 1 = .ok page := by
  have lookup := get?_linkEntries_of_shared search texts page (Or.inl rfl)
  have ofTexts : (writeTexts texts).get? "page" = none := by
    unfold writeTexts
    split <;> simp
  rw [ofTexts, Option.or_none] at lookup
  by_cases first : page = 1
  · have missing : (pageEntries page).get? "page" = none := by
      simp [pageEntries, first]
    rw [missing] at lookup
    rw [readNumber, parameter, lookup, first]
    rfl
  · have present : (pageEntries page).get? "page" = some (Numeral.spell page) := by
      simp [pageEntries, first]
    exact readNumber_eq 1 spellable (lookup.trans present)

/-- The texts of a link are spelled. -/
theorem parameter_text_ids :
    parameter (linkEntries search texts page) "text_ids" = TextIds.spell texts := by
  have lookup := get?_linkEntries_of_shared search texts page (Or.inr rfl)
  have ofPage : (pageEntries page).get? "text_ids" = none := by
    unfold pageEntries
    split <;> simp
  rw [ofPage, Option.none_or] at lookup
  rw [parameter, lookup]
  unfold writeTexts
  by_cases empty : texts = []
  · subst empty
    simp [TextIds.spell_eq_spellRuns, TextIds.spellRuns]
  · simp [empty]

end Lookups

/-- A link is written exactly for a search without a comma in an advanced term, and it is read
back as the page, the distinct texts in ascending order, and the question with its terms tagged
by their groups. -/
theorem written_link_is_read_back
    (search : Search)
    (page : Int)
    (supported : search.isSupported = true)
    (textsNatural : ∀ id ∈ search.texts, 0 ≤ id)
    (textsSpellable : ∀ id ∈ search.texts, Numeral.IsSpellable id)
    (slopSpellable : HasSpellableSlop search.question)
    (pageSpellable : Numeral.IsSpellable page) :
    (HasSeparator search.question ->
      ∃ cause, write search search.texts page = .error cause) ∧
    (¬HasSeparator search.question ->
      ∃ parameters ids,
        write search search.texts page = .ok parameters ∧
        TextIds.IsAscendingOf ids search.texts ∧
        read parameters =
          .ok { search := { question := search.question.tagged, texts := ids }
                page
                texts := ids }) := by
  have notUnsupported (mode : String) : search.question ≠ .unsupported mode := by
    intro question
    simp [Search.isSupported, question] at supported
  refine ⟨write_eq_error search.texts page, ?_⟩
  intro clean
  refine ⟨_, _, write_eq_ok search.texts page notUnsupported clean,
    TextIds.ascending_isAscendingOf search.texts, ?_⟩
  have type : parameter (linkEntries search search.texts page) "type" = search.mode := by
    simp [parameter, linkEntries]
  have question :
      readQuestion (linkEntries search search.texts page) search.mode =
        .ok search.question.tagged :=
    readQuestion_of_agrees notUnsupported clean slopSpellable fun key =>
      get?_linkEntries_of_not_shared search search.texts page
  unfold read
  simp only [type, lower_trim_mode notUnsupported, parameter_text_ids,
    readTexts_spell textsNatural textsSpellable, question,
    readNumber_page search search.texts page pageSpellable]
  rfl

/-- An advanced search with colons, blanks and an empty term, among four texts of which two are
the same. -/
def colonSearch : Search :=
  { question := .advanced
      [{ text := "a:root", matching := .token true false }, { text := " b ", matching := .root }]
      [{ text := "", matching := .token false true }]
    texts := [7, 3, 2, 3] }

/-- The link to the second page of the search is read back. -/
theorem colonSearch_link_is_read_back :
    ∃ parameters ids,
      write colonSearch colonSearch.texts 2 = .ok parameters ∧
      TextIds.IsAscendingOf ids colonSearch.texts ∧
      read parameters =
        .ok { search := { question := colonSearch.question.tagged, texts := ids }
              page := 2
              texts := ids } := by
  apply (written_link_is_read_back colonSearch 2 rfl (by decide) (by decide) trivial (by decide)).2
  simp [HasSeparator, colonSearch]

end Link
end Concordance
