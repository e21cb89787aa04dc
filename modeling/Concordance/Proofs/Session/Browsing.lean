import Concordance.Proofs.Session.CachedPaging
import Concordance.Proofs.Session.Export

/-!
# Browsing an index with elements that are no hits

A session pages through an index behind a gateway, from the first page on and to the last page
that begins before the end of the index. Each page is reached by a search that names it or by
a page change. Elements that are no hits are left out of a batch, so the hits behind them move
up inside their batch, and a page can stay without hits although the index goes on behind it.

The main statement says that this loses no hit and repeats none. A page shows its part of the
hits of its batch, whatever the cache holds, the pages of a batch show the hits of the batch
one after another, and no hit moves from one batch to another.
-/

namespace Concordance

namespace Paging

/-- The pages that begin before the end of a list, in order. -/
def pagesBefore (paging : Paging) (count : Nat) : List Nat :=
  (List.range' 1 count).filter fun page => paging.pageStart page < count

/-- The hits that belong on a page of an index: its part of the hits of its batch. -/
def indexPage (paging : Paging) (index : List Value) (page : Nat) : List Hit :=
  ((Session.chunkHits paging.batchSize
      (index.drop (paging.batchStart (paging.pageStart page)))).drop
    (paging.pageStart page - paging.batchStart (paging.pageStart page))).take paging.pageSize

/-- A page that begins behind an index has no hits. -/
theorem indexPage_eq_nil
    (paging : Paging)
    {index : List Value}
    {page : Nat}
    (behind : index.length ≤ paging.pageStart page) :
    paging.indexPage index page = [] := by
  have begins := paging.batchStart_le (paging.pageStart page)
  have fits := Session.length_chunkHits_le paging.batchSize
    (index.drop (paging.batchStart (paging.pageStart page)))
  rw [List.length_drop] at fits
  unfold indexPage
  rw [List.drop_of_length_le (by omega), List.take_nil]

/-- The pages of a batch, counted from zero, begin inside it. -/
theorem batchStart_pageStart
    (paging : Paging)
    {pages : Nat}
    (whole : paging.batchSize = paging.pageSize * pages)
    (batch : Nat)
    {place : Nat}
    (inside : place < pages) :
    paging.pageStart (pages * batch + place + 1) =
        paging.batchSize * batch + place * paging.pageSize ∧
      paging.batchStart (paging.pageStart (pages * batch + place + 1)) =
        paging.batchSize * batch := by
  have start_eq :
      paging.pageStart (pages * batch + place + 1) =
        paging.batchSize * batch + place * paging.pageSize := by
    rw [pageStart, Nat.add_sub_cancel, whole, Nat.add_mul, Nat.mul_comm (pages * batch),
      Nat.mul_assoc]
  have ends : place * paging.pageSize < paging.batchSize := by
    rw [whole, Nat.mul_comm]
    exact Nat.mul_lt_mul_of_pos_left inside paging.pageSize_pos
  refine ⟨start_eq, ?_⟩
  rw [start_eq]
  exact paging.batchStart_eq (Nat.dvd_mul_right _ _) (Nat.le_add_right _ _) (by omega)

/-- Taking the pages of a list one after another gives the list up to their end. -/
theorem flatMap_range_drop_take {α : Type} (items : List α) (size count : Nat) :
    (List.range count).flatMap (fun place => (items.drop (place * size)).take size) =
      items.take (count * size) := by
  induction count with
  | zero => simp
  | succ count inductionHypothesis =>
      rw [List.range_succ, List.flatMap_append, inductionHypothesis, Nat.succ_mul, List.take_add]
      simp

/-- The pages of a batch hold the hits of the batch. -/
theorem flatMap_indexPage_of_batch
    (paging : Paging)
    (index : List Value)
    {pages : Nat}
    (whole : paging.batchSize = paging.pageSize * pages)
    (batch : Nat) :
    (List.range pages).flatMap (fun place => paging.indexPage index (pages * batch + place + 1)) =
      Session.chunkHits paging.batchSize (index.drop (paging.batchSize * batch)) := by
  have page_eq : ∀ place ∈ List.range pages,
      paging.indexPage index (pages * batch + place + 1) =
        ((Session.chunkHits paging.batchSize (index.drop (paging.batchSize * batch))).drop
          (place * paging.pageSize)).take paging.pageSize := by
    intro place member
    obtain ⟨start_eq, batch_eq⟩ :=
      paging.batchStart_pageStart whole batch (List.mem_range.1 member)
    unfold indexPage
    rw [batch_eq, start_eq, Nat.add_sub_cancel_left]
  have fits := Session.length_chunkHits_le paging.batchSize
    (index.drop (paging.batchSize * batch))
  rw [List.flatMap_congr page_eq, flatMap_range_drop_take, Nat.mul_comm, ← whole]
  exact List.take_of_length_le (by omega)

/-- The pages of the first batches hold the hits of the elements in these batches. -/
theorem flatMap_indexPage_of_batches
    (paging : Paging)
    (index : List Value)
    {pages : Nat}
    (whole : paging.batchSize = paging.pageSize * pages)
    (batches : Nat) :
    (List.range (pages * batches)).flatMap (fun place => paging.indexPage index (place + 1)) =
      (index.take (paging.batchSize * batches)).filterMap Value.hit? := by
  induction batches with
  | zero => simp
  | succ batches inductionHypothesis =>
      rw [Nat.mul_succ, List.range_add, List.flatMap_append, inductionHypothesis,
        List.flatMap_map, flatMap_indexPage_of_batch paging index whole, Nat.mul_succ,
        List.take_add, List.filterMap_append]
      rfl

theorem mem_pagesBefore_iff (paging : Paging) (count page : Nat) :
    page ∈ paging.pagesBefore count ↔ 1 ≤ page ∧ paging.pageStart page < count := by
  have spread := Nat.le_mul_of_pos_right (page - 1) paging.pageSize_pos
  rw [pagesBefore, List.mem_filter, decide_eq_true_iff, List.mem_range'_1, pageStart]
  omega

/-- The first page before the end of a list is the first page. -/
theorem head?_pagesBefore (paging : Paging) (count : Nat) :
    ∀ page ∈ (paging.pagesBefore count).head?, page = 1 := by
  cases count with
  | zero =>
      intro page first
      cases first
  | succ count =>
      have begins : paging.pageStart 1 < count + 1 := by
        rw [pageStart, Nat.sub_self, Nat.zero_mul]
        exact Nat.succ_pos count
      rw [pagesBefore, List.range'_succ, List.filter_cons_of_pos (by simpa using begins)]
      intro page first
      cases first
      rfl

/-- Pages that begin behind the end of a list need not be looked at. -/
theorem pagesBefore_eq_filter
    (paging : Paging)
    {count limit : Nat}
    (enough : count ≤ limit) :
    paging.pagesBefore count =
      (List.range' 1 limit).filter fun page => paging.pageStart page < count := by
  have behind :
      (List.range' (1 + count) (limit - count)).filter
        (fun page => paging.pageStart page < count) = [] := by
    apply List.filter_eq_nil_iff.2
    intro page member begins
    have after := (List.mem_range'_1.1 member).1
    have before := of_decide_eq_true begins
    have spread := Nat.le_mul_of_pos_right (page - 1) paging.pageSize_pos
    rw [pageStart] at before
    omega
  have split_eq :
      List.range' 1 limit = List.range' 1 count ++ List.range' (1 + count) (limit - count) := by
    rw [List.range'_append_1, Nat.add_sub_of_le enough]
  rw [split_eq, List.filter_append, behind, List.append_nil]
  rfl

/-- Members that contribute nothing can be left out. -/
theorem flatMap_filter_of_eq_nil {α β : Type}
    {items : List α}
    {keep : α -> Bool}
    {part : α -> List β}
    (nothing : ∀ item, keep item = false -> part item = []) :
    (items.filter keep).flatMap part = items.flatMap part := by
  induction items with
  | nil => rfl
  | cons item rest inductionHypothesis =>
      cases kept : keep item with
      | true => simp [kept, inductionHypothesis]
      | false => simp [kept, nothing item kept, inductionHypothesis]

/-- The pages that begin before the end of an index hold every hit of the index once. -/
theorem flatMap_indexPage_pagesBefore (paging : Paging) (index : List Value) :
    (paging.pagesBefore index.length).flatMap (paging.indexPage index) =
      index.filterMap Value.hit? := by
  obtain ⟨pages, whole⟩ := paging.pageSize_dvd_batchSize
  have batchPositive := paging.batchSize_pos
  have pagesPositive : 0 < pages := by
    apply Nat.pos_of_ne_zero
    intro none_fits
    rw [none_fits, Nat.mul_zero] at whole
    omega
  have hidden : ∀ page, decide (paging.pageStart page < index.length) = false ->
      paging.indexPage index page = [] := by
    intro page behind
    exact paging.indexPage_eq_nil (Nat.not_lt.1 (of_decide_eq_false behind))
  calc
    (paging.pagesBefore index.length).flatMap (paging.indexPage index)
    _ = (List.range' 1 (pages * index.length)).flatMap (paging.indexPage index) := by
      rw [paging.pagesBefore_eq_filter (Nat.le_mul_of_pos_left _ pagesPositive),
        flatMap_filter_of_eq_nil hidden]
    _ = (List.range (pages * index.length)).flatMap
          (fun place => paging.indexPage index (place + 1)) := by
      rw [List.range'_eq_map_range, List.flatMap_map]
      simp only [Nat.add_comm]
    _ = (index.take (paging.batchSize * index.length)).filterMap Value.hit? :=
      paging.flatMap_indexPage_of_batches index whole index.length
    _ = index.filterMap Value.hit? := by
      rw [List.take_of_length_le (Nat.le_mul_of_pos_left _ batchPositive)]

end Paging

namespace Session

/-- How a page is reached: by a search that names it, or by a page change. -/
inductive Way
  | search
  | turn

/-- The call that reaches a page of a search. -/
def Way.call (search : Search) (page : Nat) : Way -> Call
  | .search => .search search none page
  | .turn => .changePage page

/-- The hits that a session shows for a page, none where another page is on display. -/
def State.shownAt {ε : Type} (state : State ε) (page : Nat) : List Hit :=
  if state.page = page then state.displayed else []

theorem State.shownAt_of_page_eq {ε : Type}
    {state : State ε}
    {page : Nat}
    (here : state.page = page) :
    state.shownAt page = state.displayed :=
  if_pos here

section Browse

variable
  (setup : Setup)
  (gateway : Backend.Gateway)
  (send : Backend.Post -> Except Backend.TransportError Backend.Reply)

/-- Reach a page of a search through a gateway. -/
def reach
    (search : Search)
    (page : Nat) :
    Way -> Alone Backend.GatewayError (Except CallError Unit)
  | .search => runSearch setup (gateway.executeAlone send) search none page
  | .turn => changePage setup (gateway.executeAlone send) page

/-- Reach pages one after another, and collect what is shown for each. A call that is refused
ends it. -/
def browse
    (search : Search)
    (ways : Nat -> Way) :
    List Nat -> Alone Backend.GatewayError (Except CallError (List (List Hit)))
  | [] => pure (.ok [])
  | page :: pages => do
      match <- reach setup gateway send search page (ways page) with
      | .error cause => pure (.error cause)
      | .ok () =>
          let state <- get
          let others <- browse search ways pages
          pure (others.map (state.shownAt page :: ·))

/-- A page is reached by a whole call. -/
theorem reach_eq_perform (search : Search) (page : Nat) (way : Way) :
    reach setup gateway send search page way =
      perform setup (gateway.answer send) (way.call search page) := by
  have asked :
      gateway.executeAlone send = fun query => pure (gateway.answer send query) := by
    funext query
    exact gateway.executeAlone_eq_pure send query
  cases way with
  | search => simp only [reach, perform, Way.call, asked]
  | turn => simp only [reach, perform, Way.call, asked]

end Browse

/-- Two backends that answer the query of a page alike change the page alike. -/
theorem State.after_changePage_congr {ε : Type} [Worded ε]
    {setup : Setup}
    {state : State ε}
    {page : Int}
    {backend other : Query -> Except ε Batch}
    (alike : ∀ search query, state.search = some search ->
      batchQuery setup search
          (setup.paging.batchStart (setup.paging.pageStart page.toNat)) = .ok query ->
        backend query = other query) :
    state.after setup backend (.changePage page) = state.after setup other (.changePage page) := by
  rw [State.after_changePage, State.after_changePage]
  cases begins : state.beginPageChange setup page with
  | error cause => rfl
  | ok begun =>
      obtain ⟨changing, call⟩ := begun
      obtain ⟨_, rfl, rfl⟩ := (beginPageChange_eq_ok_iff ..).1 begins
      cases target_eq : (state.pageCall setup page.toNat).target with
      | none => simp only [PageCall.afterBegin, PageCall.query?, target_eq, Pending.finish]
      | some search =>
          have active : state.search = some search := search_of_target target_eq
          cases compiles : batchQuery setup search
              ((state.pageCall setup page.toNat).batchStart setup) with
          | error cause =>
              simp only [PageCall.afterBegin, PageCall.query?, target_eq, compiles, Except.map,
                Pending.finish]
          | ok query =>
              simp only [PageCall.afterBegin, PageCall.query?, target_eq, compiles, Except.map,
                Pending.finish, alike search query active compiles]

/-- A page change is not refused where the page is at least the first one and the active search
compiles. -/
theorem perform_changePage_eq_ok {ε : Type} [Worded ε]
    {setup : Setup}
    {state : State ε}
    {page : Int}
    (positive : 1 ≤ page)
    (compiles : ∀ search, state.search = some search -> ∀ start,
      ∃ query, batchQuery setup search start = .ok query)
    (backend : Query -> Except ε Batch) :
    ((perform setup backend (.changePage page)).run state).run.1 = .ok () := by
  have begins := (State.beginPageChange_eq_ok_iff setup state state.changingPage page
    (state.pageCall setup page.toNat)).2 ⟨positive, rfl, rfl⟩
  simp only [perform, changePage]
  cases asks : (state.pageCall setup page.toNat).query? setup with
  | error cause =>
      simp only [PageCall.query?] at asks
      split at asks
      · cases asks
      · rename_i search target_eq
        have active : state.search = some search := State.search_of_target target_eq
        obtain ⟨query, ok⟩ := compiles search active
          ((state.pageCall setup page.toNat).batchStart setup)
        rw [ok] at asks
        cases asks
  | ok query? =>
      cases query? with
      | none => simp [begins, asks, finishPageChange]
      | some query =>
          cases arrives :
              (state.changingPage.receivePage setup (state.pageCall setup page.toNat)
                (backend query)).1.2 with
          | stored => simp [begins, asks, arrives, finishPageChange]
          | superseded => simp [begins, asks, arrives]
          | failed => simp [begins, asks, arrives]

/-- A session that has a search on display. -/
structure State.Displays {ε : Type}
    (setup : Setup)
    (answers : Query -> Batch)
    (search : Search)
    (state : State ε) :
    Prop where
  faithful : state.Faithful setup answers
  active : state.search = some search
  shown : state.status = .ready ∨ state.status = .pageFailed

section Index

variable
  {setup : Setup}
  {gateway : Backend.Gateway}
  {send : Backend.Post -> Except Backend.TransportError Backend.Reply}
  {search : Search}
  {base : Query}
  {index : List Value}
  (compiles : batchQuery setup search 0 = .ok base)
  (serves : gateway.ServesBatches send base setup.paging.batchSize index)
  (harmless : ∀ element ∈ index, element.Harmless)
  (reaches : (index.length : Int) ≤ gateway.window)

include compiles serves harmless reaches

/-- The gateway brings the hits of a batch that begins before the end of the index. -/
theorem answer_eq_brought
    {start : Nat}
    {query : Query}
    (aligned : setup.paging.pageSize ∣ start)
    (before : start < index.length)
    (asks : batchQuery setup search start = .ok query) :
    gateway.answer send query = .ok (gateway.brought send query) ∧
      (gateway.brought send query).hits =
        chunkHits setup.paging.batchSize (index.drop start) := by
  have inWindow : (start : Int) < gateway.window := by omega
  obtain ⟨took, answer_eq⟩ := serves.answer_eq harmless inWindow
  rw [← batchQuery_eq_window aligned asks compiles] at answer_eq
  unfold Backend.Gateway.brought
  rw [answer_eq]
  exact ⟨rfl, rfl⟩

variable (fits : index.length ≤ setup.paging.window)

include fits

/-- Without a cache a page that begins before the end of the index shows its part of the hits of
its batch. -/
theorem uncachedPage_eq_indexPage
    {page : Nat}
    (before : setup.paging.pageStart page < index.length) :
    uncachedPage setup (gateway.brought send) search page =
      setup.paging.indexPage index page := by
  have begins := setup.paging.batchStart_le (setup.paging.pageStart page)
  obtain ⟨query, asks⟩ :=
    batchQuery_isOk compiles (setup.paging.batchStart (setup.paging.pageStart page))
  obtain ⟨_, hits_eq⟩ :=
    answer_eq_brought compiles serves harmless reaches
      (setup.paging.pageSize_dvd_batchStart _) (by omega) asks
  have few := length_chunkHits_le setup.paging.batchSize
    (index.drop (setup.paging.batchStart (setup.paging.pageStart page)))
  rw [List.length_drop] at few
  rw [uncachedPage, asks]
  simp only [hits_eq]
  rw [List.take_of_length_le (Nat.le_trans few (by omega))]
  rfl

/-- A search for a page shows the page. -/
theorem after_search_displays
    (state : State Backend.GatewayError)
    {page : Nat}
    (positive : 1 ≤ page)
    (before : setup.paging.pageStart page < index.length) :
    ((perform setup (gateway.answer send) (.search search none page)).run state).run.1 = .ok () ∧
      (state.after setup (gateway.answer send) (.search search none page)).Displays
        setup (gateway.brought send) search ∧
      (state.after setup (gateway.answer send) (.search search none page)).shownAt page =
        setup.paging.indexPage index page := by
  have begins := setup.paging.batchStart_le (setup.paging.pageStart page)
  have numbered : (1 : Int) ≤ (page : Int) := by omega
  obtain ⟨query, asks⟩ :=
    batchQuery_isOk compiles (setup.paging.batchStart (setup.paging.pageStart page))
  obtain ⟨answer_eq, _⟩ :=
    answer_eq_brought compiles serves harmless reaches
      (setup.paging.pageSize_dvd_batchStart _) (by omega) asks
  have after_eq :
      state.after setup (gateway.answer send) (.search search none page) =
        ((state.searchingFor search).finishSearch setup
          (state.searchCall setup search (page : Int).toNat query)
          (gateway.answer send query)).1 :=
    State.after_search_of_ok numbered rfl asks (gateway.answer send)
  have faithful := State.Faithful.answered setup (gateway.brought send) state asks
  have begun := (State.beginSearch_eq_ok_iff setup state (state.searchingFor search) search none
    page (state.searchCall setup search page query)).2
      ⟨numbered, search, query, rfl, asks, rfl, rfl⟩
  refine ⟨(perform_search_eq_ok_iff ..).2 ⟨_, begun⟩, ?_⟩
  rw [after_eq, answer_eq, Int.toNat_natCast]
  rw [State.finishSearch_ok rfl] at faithful ⊢
  refine ⟨⟨faithful, rfl, .inl rfl⟩, ?_⟩
  obtain ⟨active, same, displayed_eq⟩ := faithful.displayed_eq (.inl rfl)
  cases same
  calc
    State.shownAt _ page
    _ = State.displayed _ := State.shownAt_of_page_eq rfl
    _ = uncachedPage setup (gateway.brought send) search page := displayed_eq
    _ = setup.paging.indexPage index page :=
      uncachedPage_eq_indexPage compiles serves harmless reaches fits before

/-- A page change shows the page, or keeps another one where the page has no hit. -/
theorem after_changePage_displays
    {state : State Backend.GatewayError}
    (displays : state.Displays setup (gateway.brought send) search)
    {page : Nat}
    (positive : 1 ≤ page)
    (before : setup.paging.pageStart page < index.length) :
    ((perform setup (gateway.answer send) (.changePage page)).run state).run.1 = .ok () ∧
      (state.after setup (gateway.answer send) (.changePage page)).Displays
        setup (gateway.brought send) search ∧
      (state.after setup (gateway.answer send) (.changePage page)).shownAt page =
        setup.paging.indexPage index page := by
  have begins := setup.paging.batchStart_le (setup.paging.pageStart page)
  have numbered : (1 : Int) ≤ (page : Int) := by omega
  have everyBatch :
      ∀ active, state.search = some active -> ∀ start,
        ∃ query, batchQuery setup active start = .ok query := by
    intro active same start
    cases displays.active.symm.trans same
    exact batchQuery_isOk compiles start
  have alike :
      ∀ active query, state.search = some active ->
        batchQuery setup active
            (setup.paging.batchStart (setup.paging.pageStart (page : Int).toNat)) = .ok query ->
          gateway.answer send query = served (gateway.brought send) none query := by
    intro active query same asks
    cases displays.active.symm.trans same
    exact (answer_eq_brought compiles serves harmless reaches
      (setup.paging.pageSize_dvd_batchStart _) (by simpa using by omega) asks).1
  refine ⟨perform_changePage_eq_ok numbered everyBatch _, ?_⟩
  rw [State.after_changePage_congr alike]
  obtain ⟨cache, lastError, failed, hits, whole, after_eq, found, _⟩ :=
    displays.faithful.after_changePage numbered none
  have hits_eq : hits = setup.paging.indexPage index page := by
    rw [found search displays.active (.inr rfl)]
    exact uncachedPage_eq_indexPage compiles serves harmless reaches fits before
  rw [after_eq]
  refine ⟨⟨displays.faithful.turned whole lastError failed ?_, displays.active, ?_⟩, ?_⟩
  · intro _
    exact ⟨search, displays.active, found search displays.active (.inr rfl)⟩
  · simp only [State.turned, displays.shown, if_true]
    cases failed
    · exact .inl rfl
    · exact .inr rfl
  · by_cases empty : hits = []
    · obtain ⟨active, same, displayed_eq⟩ := displays.faithful.displayed_eq displays.shown
      cases displays.active.symm.trans same
      simp only [State.shownAt, State.turned, empty, List.isEmpty_nil, if_true]
      split
      · rename_i here
        rw [displayed_eq, here]
        exact uncachedPage_eq_indexPage compiles serves harmless reaches fits before
      · rw [← hits_eq, empty]
    · have visible : hits.isEmpty = false := by simpa using empty
      simp only [State.shownAt, State.turned, visible, Bool.false_eq_true, if_false,
        Int.toNat_natCast, if_true]
      exact hits_eq

/-- A page that is reached, by a search or by a page change while the search is on display, shows
its part of the hits of its batch. -/
theorem reach_displays
    {state : State Backend.GatewayError}
    {way : Way}
    (opened : way = .search ∨ state.Displays setup (gateway.brought send) search)
    {page : Nat}
    (positive : 1 ≤ page)
    (before : setup.paging.pageStart page < index.length) :
    ∃ next : State Backend.GatewayError,
      (reach setup gateway send search page way).run state = pure (.ok (), next) ∧
      next.Displays setup (gateway.brought send) search ∧
      next.shownAt page = setup.paging.indexPage index page := by
  have reached :
      ((perform setup (gateway.answer send) (way.call search page)).run state).run.1 = .ok () ∧
        (state.after setup (gateway.answer send) (way.call search page)).Displays
          setup (gateway.brought send) search ∧
        (state.after setup (gateway.answer send) (way.call search page)).shownAt page =
          setup.paging.indexPage index page := by
    cases way with
    | search =>
        exact after_search_displays compiles serves harmless reaches fits state positive before
    | turn =>
        rcases opened with impossible | displays
        · cases impossible
        · exact after_changePage_displays compiles serves harmless reaches fits displays
            positive before
  obtain ⟨accepted, displays, shown⟩ := reached
  refine ⟨_, ?_, displays, shown⟩
  rw [reach_eq_perform, ← accepted]
  rfl

/-- Pages that are reached one after another show their parts of the hits of their batches. -/
theorem browse_run
    {state : State Backend.GatewayError}
    {ways : Nat -> Way}
    {pages : List Nat}
    (opened : ∀ page ∈ pages.head?,
      ways page = .search ∨ state.Displays setup (gateway.brought send) search)
    (inside : ∀ page ∈ pages, 1 ≤ page ∧ setup.paging.pageStart page < index.length) :
    ((browse setup gateway send search ways pages).run state).run.1 =
      .ok (pages.map (setup.paging.indexPage index)) := by
  induction pages generalizing state with
  | nil => rfl
  | cons page pages inductionHypothesis =>
      obtain ⟨⟨positive, before⟩, others⟩ := List.forall_mem_cons.1 inside
      obtain ⟨next, reached, displays, shown⟩ :=
        reach_displays compiles serves harmless reaches fits (opened page rfl) positive before
      have rest := inductionHypothesis (fun _ _ => .inr displays) others
      simp only [browse, StateT.run_bind, reached, pure_bind, StateT.run_get, StateT.run_pure,
        Id.run_bind, Id.run_pure, rest, Except.map, shown, List.map_cons]

end Index

/-- Browsing loses no hit and repeats none. After any run of whole calls, where calls may fail,
the pages that begin before the end of an index are reached one after another: each by a search
that names it, or by a page change when the search is already on display. No call is refused,
each page shows its part of the hits of its batch, and all pages together show every hit among
the elements of the index once and in order. -/
theorem browsing_shows_every_hit_once
    {setup : Setup}
    {gateway : Backend.Gateway}
    {send : Backend.Post -> Except Backend.TransportError Backend.Reply}
    {search : Search}
    {base : Query}
    {index : List Value}
    (compiles : batchQuery setup search 0 = .ok base)
    (serves : gateway.ServesBatches send base setup.paging.batchSize index)
    (harmless : ∀ element ∈ index, element.Harmless)
    (reaches : (index.length : Int) ≤ gateway.window)
    (fits : index.length ≤ setup.paging.window)
    {least greatest : Int}
    {earlier : List (Call × Option Backend.GatewayError)}
    {state : State Backend.GatewayError}
    (runs : (State.initial least greatest).afterAll setup (gateway.brought send) earlier = state)
    {ways : Nat -> Way}
    (opened : ways 1 = .search ∨
      (state.search = some search ∧ (state.status = .ready ∨ state.status = .pageFailed))) :
    ∃ shown : List (List Hit),
      ((browse setup gateway send search ways
        (setup.paging.pagesBefore index.length)).run state).run.1 = .ok shown ∧
      shown = (setup.paging.pagesBefore index.length).map (setup.paging.indexPage index) ∧
      shown.flatten = index.filterMap Value.hit? := by
  have faithful : state.Faithful setup (gateway.brought send) :=
    runs ▸ (State.Faithful.initial setup (gateway.brought send) least greatest).afterAll earlier
  refine ⟨_, ?_, rfl, ?_⟩
  · apply browse_run compiles serves harmless reaches fits
    · intro page first
      rw [setup.paging.head?_pagesBefore index.length page first]
      exact opened.imp_right fun ⟨active, shown⟩ => ⟨faithful, active, shown⟩
    · intro page member
      exact (setup.paging.mem_pagesBefore_iff index.length page).1 member
  · rw [← List.flatMap_def]
    exact setup.paging.flatMap_indexPage_pagesBefore index

/-- A search that fails, before the search for another word. -/
def failedSearch : List (Call × Option Backend.GatewayError) :=
  [(.search (wordSearch "other") none 1, some (.beyondWindow 2 0))]

/-- The first page is searched for, and the others are turned to. -/
def turnsAfterFirst (page : Nat) : Way :=
  if page = 1 then .search else .turn

/-- The hit behind an element that is none moves up to the first page, and the second page stays
without hits. -/
theorem browsing_hitBehind_shows_it_once :
    ∃ state shown,
      (State.initial 0 2000).afterAll narrowSetup
        (narrowGateway.brought (Backend.printedIndex hitBehind)) failedSearch = state ∧
      ((browse narrowSetup narrowGateway (Backend.printedIndex hitBehind) (wordSearch "word")
        turnsAfterFirst [1, 2]).run state).run.1 = .ok shown ∧
      shown.map (List.map Hit.textId) = [[7], []] ∧
      shown.flatten = hitBehind.filterMap Value.hit? := by
  have reads : ∀ offset ≤ hitBehind.length, Backend.ReadsBack hitBehind offset 2 := by
    decide +kernel
  have harmless : ∀ element ∈ hitBehind, element.Harmless := by
    simp [hitBehind, hitElement_harmless, null_harmless]
  obtain ⟨base, compiles⟩ : ∃ base, batchQuery narrowSetup (wordSearch "word") 0 = .ok base :=
    ⟨_, rfl⟩
  obtain ⟨shown, browsed, shown_eq, flat⟩ :=
    browsing_shows_every_hit_once compiles
      (Backend.printedIndex_servesBatches reads narrowGateway base) harmless (by decide)
      (by decide) (rfl : (State.initial 0 2000).afterAll narrowSetup _ failedSearch = _)
      (.inl (rfl : turnsAfterFirst 1 = .search))
  refine ⟨_, shown, rfl, browsed, ?_, flat⟩
  rw [shown_eq]
  rfl

end Session
end Concordance
