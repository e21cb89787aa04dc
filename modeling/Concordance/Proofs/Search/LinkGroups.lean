import Concordance.Proofs.Text.Pieces
import Concordance.Search.Link

/-!
# Terms and groups in links

A term in a link is read back with whatever colons its text has. A group is written exactly
when none of its terms has a comma, and it is read back with its tag from all parameters that
agree with its own on the keys of the group.

The keys do not clash: those of modifiers are told from each other, and from all other keys, by
their pieces between the underscores.
-/

namespace Concordance
namespace Link

/-! ## Terms -/

theorem isSet_of_get?
    {parameters : Entries String}
    {key : String}
    {truth : Bool}
    (written : parameters.get? key = some (flag truth)) :
    isSet parameters key = truth := by
  cases truth <;> simp [isSet, written, flag]

theorem parameter_of_get?
    {parameters : Entries String}
    {key value : String}
    (written : parameters.get? key = some value) :
    parameter parameters key = value := by
  rw [parameter, written, Option.getD_some]

theorem matchingOf_indexName (matching : Matching) :
    matchingOf matching.indexName matching.definite matching.proclitic = matching := by
  cases matching <;> rfl

theorem indexName_eq_or_eq (matching : Matching) :
    matching.indexName = "tok" ∨ matching.indexName = "root" := by
  cases matching with
  | token definite proclitic => exact Or.inl rfl
  | root => exact Or.inr rfl

/-- A written term is read back, with whatever colons its text has. -/
theorem readSpec_spec (term : Term) :
    readSpec (spec term) = (term.text, term.matching.indexName) := by
  have noColon : ':' ∉ term.matching.indexName.toList := by
    rcases indexName_eq_or_eq term.matching with name | name <;> rw [name] <;> decide
  have cut :
      Text.cutLast ':' (spec term).toList =
        some (term.text.toList, term.matching.indexName.toList) := by
    rw [spec, String.toList_append, String.toList_append, List.append_assoc]
    exact Text.cutLast_append _ noColon
  unfold readSpec
  simp only [cut, String.ofList_toList, if_pos (indexName_eq_or_eq term.matching)]

theorem spec_ne_empty (term : Term) : spec term ≠ "" := by
  simp [spec]

/-- A written term has a comma only where its text has one. -/
theorem comma_not_mem_spec
    {term : Term}
    (clean : ',' ∉ term.text.toList) :
    ',' ∉ (spec term).toList := by
  have noComma : ',' ∉ term.matching.indexName.toList := by
    rcases indexName_eq_or_eq term.matching with name | name <;> rw [name] <;> decide
  simp [spec, clean, noComma]

/-! ## Keys -/

/-- The pieces of the key of a modifier between its underscores. -/
theorem splitAt_modifierKey
    (group : Group)
    (place : Nat)
    {modifier : String}
    (clean : '_' ∉ modifier.toList) :
    Text.splitAt '_' (modifierKey group place modifier).toList =
      [(groupKey group).toList, (Nat.repr place).toList, modifier.toList] := by
  have groupClean : '_' ∉ (groupKey group).toList := by
    cases group <;> decide
  have placeClean : '_' ∉ (Nat.repr place).toList := by
    rw [Nat.toList_repr]
    exact Nat.underscore_not_in_toDigits
  have joined :
      modifierKey group place modifier =
        (String.singleton '_').intercalate [groupKey group, Nat.repr place, modifier] := by
    have unfolded :
        modifierKey group place modifier =
          groupKey group ++ "_" ++ Nat.repr place ++ "_" ++ modifier := rfl
    rw [unfolded, ← String.toList_inj]
    simp
  rw [joined, Text.splitAt_intercalate]
  · rfl
  · simp
  · rw [List.forall_mem_cons, List.forall_mem_cons, List.forall_mem_singleton]
    exact ⟨groupClean, placeClean, clean⟩

/-- The key of a modifier tells the group, the place and the modifier. -/
theorem modifierKey_inj
    {group other : Group}
    {place otherPlace : Nat}
    {modifier otherModifier : String}
    (clean : '_' ∉ modifier.toList)
    (otherClean : '_' ∉ otherModifier.toList)
    (same : modifierKey group place modifier = modifierKey other otherPlace otherModifier) :
    group = other ∧ place = otherPlace ∧ modifier = otherModifier := by
  have pieces := congrArg (fun key => Text.splitAt '_' key.toList) same
  simp only [splitAt_modifierKey _ _ clean, splitAt_modifierKey _ _ otherClean, List.cons.injEq,
    String.toList_inj, and_true] at pieces
  obtain ⟨sameGroup, samePlace, sameModifier⟩ := pieces
  refine ⟨?_, ?_, sameModifier⟩
  · cases group <;> cases other <;> simp_all [groupKey]
  · have digits := congrArg (fun text : String => Nat.ofDigitChars 10 text.toList 0) samePlace
    simpa only [Nat.toList_repr, Nat.ofDigitChars_ten_toDigits] using digits

/-- A key that is not made of three pieces is no key of a modifier. -/
theorem modifierKey_ne
    (group : Group)
    (place : Nat)
    {modifier key : String}
    (clean : '_' ∉ modifier.toList)
    (otherPieces : (Text.splitAt '_' key.toList).length ≠ 3) :
    modifierKey group place modifier ≠ key := by
  rintro rfl
  rw [splitAt_modifierKey group place clean] at otherPieces
  exact otherPieces rfl

/-- Whether a key is one of the keys of a group. -/
def IsKeyOf (group : Group) (key : String) : Prop :=
  (∃ place modifier, '_' ∉ modifier.toList ∧ modifierKey group place modifier = key) ∨
    groupKey group ++ "_terms" = key

/-- The key of the items of a group is no key of a modifier. -/
theorem modifierKey_ne_terms
    (group other : Group)
    (place : Nat)
    {modifier : String}
    (clean : '_' ∉ modifier.toList) :
    modifierKey group place modifier ≠ groupKey other ++ "_terms" := by
  apply modifierKey_ne group place clean
  cases other <;> decide

/-- No key belongs to both groups. -/
theorem IsKeyOf.group_eq
    {group other : Group}
    {key : String}
    (ofGroup : IsKeyOf group key)
    (ofOther : IsKeyOf other key) :
    group = other := by
  rcases ofGroup with ⟨place, modifier, clean, rfl⟩ | rfl
  · rcases ofOther with ⟨_, _, otherClean, same⟩ | same
    · exact (modifierKey_inj clean otherClean same.symm).1
    · exact absurd same.symm (modifierKey_ne_terms group other place clean)
  · rcases ofOther with ⟨place, _, otherClean, same⟩ | same
    · exact absurd same (modifierKey_ne_terms other group place otherClean)
    · cases group <;> cases other <;> first | rfl | exact absurd same (by decide)

/-- Whether a key is one that the links of all kinds of searches share. -/
def IsShared (key : String) : Prop :=
  key = "type" ∨ key = "page" ∨ key = "text_ids"

instance : DecidablePred IsShared := fun key =>
  inferInstanceAs (Decidable (key = "type" ∨ key = "page" ∨ key = "text_ids"))

/-- The shared keys belong to no group. -/
theorem IsShared.not_isKeyOf
    {key : String}
    (shared : IsShared key)
    (group : Group) :
    ¬IsKeyOf group key := by
  rintro (⟨place, modifier, clean, same⟩ | same)
  · apply modifierKey_ne group place clean _ same
    rcases shared with rfl | rfl | rfl <;> decide
  · rcases shared with rfl | rfl | rfl <;> cases group <;> exact absurd same (by decide)

/-! ## Groups -/

/-- The parameters of the modifiers of a group, counted from a place. -/
def modifierEntries (group : Group) (place : Nat) : List Term -> Entries String
  | [] => []
  | term :: rest =>
      (modifierKey group place "d", flag term.matching.definite) ::
        (modifierKey group place "p", flag term.matching.proclitic) ::
          modifierEntries group (place + 1) rest

/-- The parameters of a group. -/
def groupEntries (group : Group) (terms : List Term) : Entries String :=
  if terms.isEmpty then []
  else
    modifierEntries group 0 terms ++
      [(groupKey group ++ "_terms",
        (String.singleton Search.termSeparator).intercalate (terms.map spec))]

/-- Terms without commas are written. -/
theorem writeModifiers_eq_ok
    (group : Group)
    (place : Nat)
    {terms : List Term}
    (clean : ∀ term ∈ terms, ',' ∉ term.text.toList) :
    writeModifiers group place terms = .ok (modifierEntries group place terms) := by
  induction terms generalizing place with
  | nil => rfl
  | cons term rest inductionHypothesis =>
      rw [List.forall_mem_cons] at clean
      have noSeparator : term.text.toList.contains Search.termSeparator = false := by
        simpa [Search.termSeparator] using clean.1
      rw [writeModifiers, noSeparator, inductionHypothesis (place + 1) clean.2]
      rfl

/-- A term with a comma is refused. -/
theorem writeModifiers_eq_error
    (group : Group)
    (place : Nat)
    {terms : List Term}
    (unclean : ∃ term ∈ terms, ',' ∈ term.text.toList) :
    ∃ cause, writeModifiers group place terms = .error cause := by
  induction terms generalizing place with
  | nil => simp at unclean
  | cons term rest inductionHypothesis =>
      cases separator : term.text.toList.contains Search.termSeparator with
      | true =>
          refine ⟨.separatorInTerm group (place + 1), ?_⟩
          rw [writeModifiers, separator]
          rfl
      | false =>
          have clean : ',' ∉ term.text.toList := by
            simpa [Search.termSeparator] using separator
          have uncleanRest : ∃ other ∈ rest, ',' ∈ other.text.toList := by
            simpa [clean] using unclean
          obtain ⟨cause, refused⟩ := inductionHypothesis (place + 1) uncleanRest
          refine ⟨cause, ?_⟩
          rw [writeModifiers, separator, refused]
          rfl

/-- A group without commas is written. -/
theorem writeGroup_eq_ok
    (group : Group)
    {terms : List Term}
    (clean : ∀ term ∈ terms, ',' ∉ term.text.toList) :
    writeGroup group terms = .ok (groupEntries group terms) := by
  unfold writeGroup groupEntries
  split
  · rfl
  · rw [writeModifiers_eq_ok group 0 clean]
    rfl

/-- A group with a comma in one of its terms is refused. -/
theorem writeGroup_eq_error
    (group : Group)
    {terms : List Term}
    (unclean : ∃ term ∈ terms, ',' ∈ term.text.toList) :
    ∃ cause, writeGroup group terms = .error cause := by
  obtain ⟨cause, refused⟩ := writeModifiers_eq_error group 0 unclean
  refine ⟨cause, ?_⟩
  obtain ⟨term, member, _⟩ := unclean
  rw [writeGroup, if_neg (by simpa using List.ne_nil_of_mem member), refused]
  rfl

/-- The parameters of the modifiers of a group have no other keys. -/
theorem get?_modifierEntries_eq_none
    (group : Group)
    (place : Nat)
    (terms : List Term)
    {key : String}
    (foreign : ∀ place modifier, '_' ∉ modifier.toList -> modifierKey group place modifier ≠ key) :
    (modifierEntries group place terms).get? key = none := by
  induction terms generalizing place with
  | nil => rfl
  | cons term rest inductionHypothesis =>
      rw [modifierEntries, Entries.get?_cons, if_neg (foreign place "d" (by decide)),
        Entries.get?_cons, if_neg (foreign place "p" (by decide)), inductionHypothesis]

/-- Whether parameters have the modifiers of the terms of a group, counted from a place. -/
def HoldModifiers
    (parameters : Entries String)
    (group : Group)
    (place : Nat)
    (terms : List Term) :
    Prop :=
  ∀ index term, terms[index]? = some term ->
    parameters.get? (modifierKey group (place + index) "d") =
        some (flag term.matching.definite) ∧
      parameters.get? (modifierKey group (place + index) "p") =
        some (flag term.matching.proclitic)

/-- The modifiers of a later place do not stand at an earlier one. -/
theorem get?_modifierEntries_cons
    (group : Group)
    {place later : Nat}
    (term : Term)
    (rest : List Term)
    {modifier : String}
    (clean : '_' ∉ modifier.toList)
    (before : place < later) :
    (modifierEntries group place (term :: rest)).get? (modifierKey group later modifier) =
      (modifierEntries group (place + 1) rest).get? (modifierKey group later modifier) := by
  have elsewhere (other : String) (otherClean : '_' ∉ other.toList) :
      modifierKey group place other ≠ modifierKey group later modifier := by
    intro same
    exact absurd (modifierKey_inj otherClean clean same).2.1 (Nat.ne_of_lt before)
  rw [modifierEntries, Entries.get?_cons, if_neg (elsewhere "d" (by decide)), Entries.get?_cons,
    if_neg (elsewhere "p" (by decide))]

/-- The parameters of the modifiers of a group have them. -/
theorem modifierEntries_holdModifiers (group : Group) (place : Nat) (terms : List Term) :
    HoldModifiers (modifierEntries group place terms) group place terms := by
  induction terms generalizing place with
  | nil =>
      intro index term found
      cases found
  | cons first rest inductionHypothesis =>
      intro index term found
      cases index with
      | zero =>
          cases found
          have other : modifierKey group place "d" ≠ modifierKey group place "p" := by
            intro same
            exact absurd (modifierKey_inj (by decide) (by decide) same).2.2 (by decide)
          simp [modifierEntries, other]
      | succ index =>
          have before : place < place + (index + 1) := by omega
          rw [get?_modifierEntries_cons group first rest (by decide) before,
            get?_modifierEntries_cons group first rest (by decide) before]
          have inRest := inductionHypothesis (place + 1) index term found
          rwa [Nat.add_assoc, Nat.add_comm 1] at inRest

/-- The terms of a group are read with its tag. -/
theorem readItems_map_spec
    {parameters : Entries String}
    (group : Group)
    (place : Nat)
    (terms : List Term)
    (holds : HoldModifiers parameters group place terms) :
    readItems parameters group place (terms.map spec) =
      terms.map fun term => { term with group := some group } := by
  induction terms generalizing place with
  | nil => rfl
  | cons term rest inductionHypothesis =>
      have ofRest : HoldModifiers parameters group (place + 1) rest := by
        intro index other found
        have := holds (index + 1) other found
        rwa [Nat.add_comm index, ← Nat.add_assoc] at this
      obtain ⟨definite, proclitic⟩ := holds 0 term rfl
      rw [Nat.add_zero] at definite proclitic
      rw [List.map_cons, readItems, readSpec_spec]
      simp only [isSet_of_get? definite, isSet_of_get? proclitic, matchingOf_indexName,
        inductionHypothesis (place + 1) ofRest, List.map_cons]

/-- The items of a written group are its written terms. -/
theorem items_of_intercalate
    {terms : List Term}
    (clean : ∀ term ∈ terms, ',' ∉ term.text.toList) :
    (Text.splitAt Search.termSeparator
        ((String.singleton Search.termSeparator).intercalate (terms.map spec)).toList).filter
        (fun item => !item.isEmpty) =
      (terms.map spec).map String.toList := by
  by_cases empty : terms = []
  · subst empty
    rfl
  · rw [Text.splitAt_intercalate, List.filter_eq_self]
    · rw [List.forall_mem_map, List.forall_mem_map]
      intro term _
      simp [spec_ne_empty]
    · simpa using empty
    · rw [List.forall_mem_map]
      intro term member
      exact comma_not_mem_spec (clean term member)

/-- The parameters of a group have its modifiers. -/
theorem groupEntries_holdModifiers (group : Group) (terms : List Term) :
    HoldModifiers (groupEntries group terms) group 0 terms := by
  intro index term found
  have nonempty : ¬terms.isEmpty = true := by
    intro empty
    rw [List.isEmpty_iff.1 empty] at found
    cases found
  obtain ⟨definite, proclitic⟩ := modifierEntries_holdModifiers group 0 terms index term found
  unfold groupEntries
  rw [if_neg nonempty, Entries.get?_append, Entries.get?_append, definite, proclitic]
  exact ⟨rfl, rfl⟩

/-- The parameters of a group have its items. -/
theorem parameter_groupEntries (group : Group) (terms : List Term) :
    parameter (groupEntries group terms) (groupKey group ++ "_terms") =
      (String.singleton Search.termSeparator).intercalate (terms.map spec) := by
  unfold groupEntries parameter
  split
  next empty =>
    rw [List.isEmpty_iff.1 empty]
    rfl
  next nonempty =>
    rw [Entries.get?_append, get?_modifierEntries_eq_none group 0 terms fun place _ clean =>
      modifierKey_ne_terms group group place clean]
    simp

/-- The parameters of a group have no other keys. -/
theorem get?_groupEntries_eq_none
    {group : Group}
    (terms : List Term)
    {key : String}
    (foreign : ¬IsKeyOf group key) :
    (groupEntries group terms).get? key = none := by
  have noModifier (place : Nat) (modifier : String) (clean : '_' ∉ modifier.toList) :
      modifierKey group place modifier ≠ key := fun same =>
    foreign (Or.inl ⟨place, modifier, clean, same⟩)
  have noItems : groupKey group ++ "_terms" ≠ key := fun same => foreign (Or.inr same)
  unfold groupEntries
  split
  · rfl
  · rw [Entries.get?_append, get?_modifierEntries_eq_none group 0 terms noModifier]
    simp [noItems]

/-- Parameters that agree with those of a written group on its keys are read as the group, with
its tag. -/
theorem readGroup_of_agrees
    {parameters : Entries String}
    {group : Group}
    {terms : List Term}
    (clean : ∀ term ∈ terms, ',' ∉ term.text.toList)
    (agrees : ∀ key, IsKeyOf group key ->
      parameters.get? key = (groupEntries group terms).get? key) :
    readGroup parameters group = terms.map fun term => { term with group := some group } := by
  have items :
      parameter parameters (groupKey group ++ "_terms") =
        (String.singleton Search.termSeparator).intercalate (terms.map spec) := by
    rw [parameter, agrees _ (Or.inr rfl)]
    exact parameter_groupEntries group terms
  have modifiers : HoldModifiers parameters group 0 terms := by
    intro index term found
    rw [agrees _ (Or.inl ⟨_, "d", by decide, rfl⟩), agrees _ (Or.inl ⟨_, "p", by decide, rfl⟩)]
    exact groupEntries_holdModifiers group terms index term found
  have written : ((terms.map spec).map String.toList).map String.ofList = terms.map spec := by
    simp
  unfold readGroup
  rw [items]
  simp only [items_of_intercalate clean, written]
  exact readItems_map_spec group 0 terms modifiers

end Link
end Concordance
