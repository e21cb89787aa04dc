import Concordance.Proofs.Outcome
import Concordance.Query.Compile

/-!
# When a search compiles

A search compiles when the page and the sizes are positive and its question yields
a clause. Which clauses these are does not depend on the page: the page decides the
offset of the request and nothing else.
-/

namespace Concordance
namespace Query

/-- The request for a window of the hits of a compiled search. -/
def ofCompiled
    (layout : Layout)
    (search : Search)
    (compiled : Compiled)
    (offset size : Int) : Query :=
  { offset
    size
    must := compiled.must
    filter := textFilter layout search.texts
    sort := [.obj [(layout.sortField, .obj [("order", .str "asc")])]]
    sourceFields := layout.sourceFields
    highlight :=
      { preTags := [layout.style.preTag]
        postTags := [layout.style.postTag]
        fields := compiled.fields } }

/-- What it takes for a search to compile, and what it compiles to. -/
theorem compile_eq_ok_iff
    (layout : Layout)
    (search : Search)
    (page batchSize pageSize : Int)
    (query : Query) :
    compile layout search page batchSize pageSize = .ok query ↔
      1 ≤ page ∧ 0 < batchSize ∧ 0 < pageSize ∧
        ∃ compiled,
          compileQuestion layout search.question = .ok compiled ∧
          compiled.must ≠ [] ∧
          query = ofCompiled layout search compiled ((page - 1) * pageSize) batchSize := by
  unfold compile
  by_cases pageBad : page < 1
  · have pageTooSmall : ¬1 ≤ page := by omega
    simp [pageBad, pageTooSmall, throw_eq_error, error_bind]
  · by_cases sizesBad : batchSize ≤ 0 ∨ pageSize ≤ 0
    · have sizesTooSmall : ¬(0 < batchSize ∧ 0 < pageSize) := by omega
      simp only [if_neg pageBad, if_pos sizesBad, throw_eq_error, error_bind]
      constructor
      · intro impossible
        cases impossible
      · rintro ⟨_, batchPositive, pagePositive, _⟩
        exact absurd ⟨batchPositive, pagePositive⟩ sizesTooSmall
    · have sizesPositive : 1 ≤ page ∧ 0 < batchSize ∧ 0 < pageSize := by omega
      simp only [if_neg pageBad, if_neg sizesBad, throw_eq_error]
      cases outcome : compileQuestion layout search.question with
      | error cause => simp [error_bind]
      | ok compiled =>
          rw [ok_bind]
          by_cases empty : compiled.must = []
          · simp [empty]
          · simp only [List.isEmpty_iff, empty, if_false, pure_eq_ok, sizesPositive, true_and,
              ne_eq, not_false_eq_true, Except.ok.injEq, exists_eq_left']
            exact eq_comm

/-- A search that compiles for one page compiles for every page. -/
theorem compile_isOk_of_compile
    {layout : Layout}
    {search : Search}
    {page other batchSize pageSize : Int}
    {query : Query}
    (compiles : compile layout search page batchSize pageSize = .ok query)
    (positive : 1 ≤ other) :
    ∃ otherQuery, compile layout search other batchSize pageSize = .ok otherQuery := by
  obtain ⟨_, batchPositive, pagePositive, compiled, question, nonempty, _⟩ :=
    (compile_eq_ok_iff layout search page batchSize pageSize query).1 compiles
  exact ⟨_, (compile_eq_ok_iff layout search other batchSize pageSize _).2
    ⟨positive, batchPositive, pagePositive, compiled, question, nonempty, rfl⟩⟩

end Query
end Concordance
