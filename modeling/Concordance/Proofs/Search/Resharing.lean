import Concordance.Proofs.Search.Link
import Concordance.Proofs.TextIds.Canonical

/-!
# Links that are read can be written again

Reading accepts more than writing makes: empty items, missing parameters, two spellings of texts,
numerals of other scripts. Yet whatever is read is a question that can be written, with texts, a
page and a slop that are short enough to be read once more. So the link that is written of it
stands for the same question and page and for the distinct texts in ascending order, and it is
the link that is written of these.
-/

namespace Concordance
namespace Link

/-- Whether a question is written and read back as it is: it is of a known kind, no advanced term
has a comma, its slop can be read, and its terms are tagged by their places. -/
structure IsShareable (question : Question) : Prop where
  supported : ∀ mode, question ≠ .unsupported mode
  clean : ¬HasSeparator question
  spellable : HasSpellableSlop question
  tagged : question.tagged = question

/-! ## Numbers -/

/-- A number that is read can be written and read again, as the default can. -/
theorem isSpellable_of_readNumber
    {parameters : Entries String}
    {key : String}
    {fallback number : Int}
    (fallbackSpellable : Numeral.IsSpellable fallback)
    (reads : readNumber parameters key fallback = .ok number) :
    Numeral.IsSpellable number := by
  unfold readNumber at reads
  simp only at reads
  split at reads
  · cases reads
    exact fallbackSpellable
  · exact Numeral.isSpellable_of_natAbs_lt
      (Numeral.natAbs_lt_of_readInteger (mapError_eq_ok_iff.1 reads))

/-- Texts that are read are natural and can be written and read again, in both spellings. -/
theorem of_readTexts
    {text : String}
    {ids : List Int}
    (reads : readTexts text = .ok ids) :
    ∀ id ∈ ids, 0 ≤ id ∧ Numeral.IsSpellable id := by
  unfold readTexts at reads
  split at reads
  · exact (TextIds.readable_of_read (mapError_eq_ok_iff.1 reads)).2
  next noDash =>
    intro id member
    obtain ⟨item, isItem, readsItem⟩ := exists_of_mem_of_mapM_eq_ok reads member
    have isPiece := (List.mem_filter.1 isItem).1
    have unsigned : '-' ∉ (String.ofList item).toList := by
      rw [String.toList_ofList]
      exact fun dash => noDash (List.contains_iff_mem.2 ((Text.of_mem_splitAt isPiece).2 dash))
    obtain ⟨natural, short⟩ :=
      Numeral.readInteger_bounds unsigned (mapError_eq_ok_iff.1 readsItem)
    exact ⟨natural, Numeral.isSpellable_of_natAbs_lt short⟩

/-! ## Questions -/

/-- The text of a term has no characters but those of the item it is read from. -/
theorem subset_of_readSpec (item : String) : (readSpec item).1.toList ⊆ item.toList := by
  unfold readSpec
  split
  next => exact List.Subset.refl _
  next text index cut =>
    simp only
    split
    · rw [String.toList_ofList, Text.eq_append_of_cutLast cut]
      exact List.subset_append_left text _
    · exact List.Subset.refl _

/-- A term that is read from items carries the tag of their group and the text of one of them. -/
theorem of_mem_readItems
    {parameters : Entries String}
    {group : Group}
    {place : Nat}
    {items : List String}
    {term : Term}
    (member : term ∈ readItems parameters group place items) :
    term.group = some group ∧ ∃ item ∈ items, term.text = (readSpec item).1 := by
  induction items generalizing place with
  | nil => cases member
  | cons item rest inductionHypothesis =>
      rw [readItems] at member
      rcases List.mem_cons.1 member with rfl | inRest
      · exact ⟨rfl, item, List.mem_cons_self, rfl⟩
      · obtain ⟨tagged, source, isItem, text⟩ := inductionHypothesis inRest
        exact ⟨tagged, source, List.mem_cons_of_mem item isItem, text⟩

section Groups

variable {parameters : Entries String} {group : Group}

/-- A term that is read in a group carries its tag and has no comma. -/
theorem of_mem_readGroup
    {term : Term}
    (member : term ∈ readGroup parameters group) :
    term.group = some group ∧ ',' ∉ term.text.toList := by
  unfold readGroup at member
  obtain ⟨tagged, item, isItem, text⟩ := of_mem_readItems member
  obtain ⟨piece, isPiece, rfl⟩ := List.mem_map.1 isItem
  have clean : ',' ∉ piece := (Text.of_mem_splitAt (List.mem_filter.1 isPiece).1).1
  refine ⟨tagged, fun comma => clean ?_⟩
  rw [text] at comma
  simpa using subset_of_readSpec (String.ofList piece) comma

/-- Tagging the terms that are read in a group changes none of them. -/
theorem map_tag_readGroup :
    ((readGroup parameters group).map fun term => { term with group := some group }) =
      readGroup parameters group := by
  calc
    (readGroup parameters group).map (fun term => { term with group := some group })
    _ = (readGroup parameters group).map id := by
      apply List.map_congr_left
      intro term member
      rw [← (of_mem_readGroup member).1]
      rfl
    _ = readGroup parameters group := List.map_id _

end Groups

/-- A question that is read can be written and read again. -/
theorem isShareable_of_readQuestion
    {parameters : Entries String}
    {type : String}
    {question : Question}
    (reads : readQuestion parameters type = .ok question) :
    IsShareable question := by
  unfold readQuestion at reads
  split at reads
  · cases reads
    exact ⟨by simp, by simp [HasSeparator], trivial, rfl⟩
  split at reads
  · cases reads
    refine ⟨by simp, ?_, trivial, ?_⟩
    · rintro (⟨term, member, comma⟩ | ⟨term, member, comma⟩)
      · exact (of_mem_readGroup member).2 comma
      · exact (of_mem_readGroup member).2 comma
    · rw [Question.tagged, map_tag_readGroup, map_tag_readGroup]
  split at reads
  · obtain ⟨slop, readsSlop, collected⟩ := exists_of_bind_eq_ok reads
    cases collected
    have slopSpellable := isSpellable_of_readNumber (by decide) readsSlop
    exact ⟨by simp, by simp [HasSeparator], slopSpellable, rfl⟩
  · cases reads

/-! ## Links -/

/-- What is read from a link can be written into one: its question can be shared, and its texts and
its page have few enough digits. -/
theorem of_read
    {parameters : Entries String}
    {target : Target}
    (reads : read parameters = .ok target) :
    target.search.texts = target.texts ∧
    IsShareable target.search.question ∧
    (∀ id ∈ target.texts, 0 ≤ id ∧ Numeral.IsSpellable id) ∧
    Numeral.IsSpellable target.page := by
  obtain ⟨texts, readsTexts, others⟩ := exists_of_bind_eq_ok reads
  obtain ⟨question, readsQuestion, last⟩ := exists_of_bind_eq_ok others
  obtain ⟨page, readsPage, collected⟩ := exists_of_bind_eq_ok last
  cases collected
  exact ⟨rfl, isShareable_of_readQuestion readsQuestion, of_readTexts readsTexts,
    isSpellable_of_readNumber (by decide) readsPage⟩

/-- The link of a question that can be shared is read as the question, the page and the distinct
texts in ascending order. -/
theorem read_linkEntries
    {search : Search}
    {texts : List Int}
    {page : Int}
    (shareable : IsShareable search.question)
    (readable : ∀ id ∈ texts, 0 ≤ id ∧ Numeral.IsSpellable id)
    (pageSpellable : Numeral.IsSpellable page) :
    read (linkEntries search texts page) =
      .ok { search := { search with texts := TextIds.ascending texts }
            page
            texts := TextIds.ascending texts } := by
  have type : parameter (linkEntries search texts page) "type" = search.mode := by
    simp [parameter, linkEntries]
  have question :
      readQuestion (linkEntries search texts page) search.mode = .ok search.question := by
    rw [readQuestion_of_agrees shareable.supported shareable.clean shareable.spellable fun _ =>
      get?_linkEntries_of_not_shared search texts page, shareable.tagged]
  have readsTexts := readTexts_spell (fun id member => (readable id member).1)
    fun id member => (readable id member).2
  unfold read
  simp only [type, lower_trim_mode shareable.supported, parameter_text_ids, readsTexts, question,
    readNumber_page search texts page pageSpellable]
  rfl

/-- Texts have the link of their distinct ones in ascending order. -/
theorem linkEntries_ascending (search : Search) (texts : List Int) (page : Int) :
    linkEntries { search with texts := TextIds.ascending texts } (TextIds.ascending texts) page =
      linkEntries search texts page := by
  have sameTexts : writeTexts (TextIds.ascending texts) = writeTexts texts := by
    simp only [writeTexts, List.isEmpty_iff, TextIds.ascending_eq_nil_iff,
      TextIds.spell_ascending]
  rw [linkEntries, sameTexts]
  rfl

/-- A link that is read can be written again, and what is written is stable. It is read as the same
question and page, and as the distinct texts in ascending order; and it is what is written of
these. -/
theorem link_written_of_read_is_stable
    (parameters : Entries String)
    (target : Target)
    (reads : read parameters = .ok target) :
    target.search.texts = target.texts ∧
    ∃ written ids,
      write target.search target.texts target.page = .ok written ∧
      TextIds.IsAscendingOf ids target.texts ∧
      read written =
        .ok { search := { target.search with texts := ids }
              page := target.page
              texts := ids } ∧
      write { target.search with texts := ids } ids target.page = .ok written := by
  obtain ⟨sameTexts, shareable, readable, pageSpellable⟩ := of_read reads
  have writtenAgain :
      write { target.search with texts := TextIds.ascending target.texts }
          (TextIds.ascending target.texts) target.page =
        .ok (linkEntries target.search target.texts target.page) := by
    rw [← linkEntries_ascending]
    exact write_eq_ok _ target.page shareable.supported shareable.clean
  exact ⟨sameTexts, linkEntries target.search target.texts target.page,
    TextIds.ascending target.texts,
    write_eq_ok target.texts target.page shareable.supported shareable.clean,
    TextIds.ascending_isAscendingOf target.texts,
    read_linkEntries shareable readable pageSpellable, writtenAgain⟩

/-- A link with an empty item, a stray colon, modifiers of no item, blanks around its kind and
texts with repetitions. -/
def irregularLink : Entries String :=
  [("type", " Advanced "), ("and_terms", "a:b,,c:root"), ("and_0_p", "true"),
    ("and_1_d", "true"), ("or_3_d", "true"), ("text_ids", "7,3, ,3"), ("page", "+0_2")]

/-- What the link stands for. -/
def irregularTarget : Target :=
  { search :=
      { question := .advanced
          [{ text := "a:b", matching := .token false true, group := some .required },
            { text := "c", matching := .root, group := some .required }]
          []
        texts := [7, 3, 3] }
    page := 2
    texts := [7, 3, 3] }

/-- The link is read and written, and what is written is stable. -/
theorem irregularLink_is_stable :
    read irregularLink = .ok irregularTarget ∧
    ∃ written ids,
      write irregularTarget.search irregularTarget.texts 2 = .ok written ∧
      TextIds.IsAscendingOf ids irregularTarget.texts ∧
      read written =
        .ok { search := { irregularTarget.search with texts := ids }, page := 2, texts := ids } ∧
      write { irregularTarget.search with texts := ids } ids 2 = .ok written := by
  have reads : read irregularLink = .ok irregularTarget := by decide +kernel
  exact ⟨reads, (link_written_of_read_is_stable irregularLink irregularTarget reads).2⟩

end Link
end Concordance
