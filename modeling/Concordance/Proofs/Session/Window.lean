import Concordance.Proofs.Session.Posts
import Concordance.Proofs.Settings.Sizes

/-!
# Requests and the window

A session may be asked for searches, page changes and exports in any order, with settings that
have been accepted. All its requests begin inside the window of the index and are not empty. An
export cuts its last chunk to the window, but a batch is never cut: the last batch that begins
inside the window is asked for in full. So the requests stay inside the window exactly when the
window is a whole number of batches.
-/

namespace Concordance
namespace Session

open Backend (Gateway GatewayError Post)

/-- The ranks that a request asks for: `size` ranks from `offset` on. -/
def AsksFor (post : Post) (offset size : Int) : Prop :=
  Value.field post.body "from" = .int offset ∧ Value.field post.body "size" = .int size

/-- Whether a request asks for ranks inside a window, at least for one. -/
def InsideWindow (window : Int) (post : Post) : Prop :=
  ∃ offset size, AsksFor post offset size ∧ 0 ≤ offset ∧ 1 ≤ size ∧ offset + size ≤ window

/-- Whether a request asks for a whole batch that begins inside the window. -/
def AsksBatch (paging : Paging) (post : Post) : Prop :=
  ∃ start : Nat,
    AsksFor post start paging.batchSize ∧ paging.batchSize ∣ start ∧ start < paging.window

theorem asksFor_post (endpoint : Backend.Endpoint) (query : Query) :
    AsksFor (endpoint.post query.bodyEntries none) query.offset query.size :=
  ⟨rfl, rfl⟩

/-- A request asks for one range of ranks. -/
theorem AsksFor.unique
    {post : Post}
    {offset size otherOffset otherSize : Int}
    (asks : AsksFor post offset size)
    (asksOther : AsksFor post otherOffset otherSize) :
    offset = otherOffset ∧ size = otherSize :=
  ⟨Value.int.inj (asks.1.symm.trans asksOther.1), Value.int.inj (asks.2.symm.trans asksOther.2)⟩

/-- What a session is asked to do: a call, or an export of which at most `limit` hits are
taken. -/
inductive Errand
  | call (call : Call)
  | collect (chunkSize : Option Int) (limit : Option Nat)

/-- The chunk size of an export, where one is given, is positive. -/
def Errand.IsSized : Errand -> Prop
  | .call _ => True
  | .collect chunkSize _ => ∀ size, chunkSize = some size -> 1 ≤ size

/-- Do what a session is asked to do. What comes of it is left to the caller. -/
def Errand.run
    (setup : Setup)
    (execute : Query -> Posting (Except GatewayError Batch)) :
    Errand -> Posting Unit
  | .call (.search search texts page) => do
      let _ <- runSearch setup execute search texts page
      pure ()
  | .call (.changePage page) => do
      let _ <- changePage setup execute page
      pure ()
  | .call .reset => reset GatewayError
  | .call (.choose choice) => modifyThe (State GatewayError) fun state =>
      (state.choose? choice).getD state
  | .collect chunkSize limit => do
      let _ <- exportHits setup execute chunkSize limit
      pure ()

/-- The requests that a new session sends when it is asked to do some things. -/
def posts
    (setup : Setup)
    (gateway : Gateway)
    (network : Network)
    (least greatest : Int)
    (errands : List Errand) :
    List Post :=
  (Asking.course (errands.forM (Errand.run setup (gateway.execute network.ask)))
    (.initial least greatest)).queries

/-- The requests are allowed ones when those for batches and for chunks are. -/
theorem PostsOnly.errand
    {setup : Setup}
    {allowed : Post -> Prop}
    {execute : Query -> Posting (Except GatewayError Batch)}
    (batchAllowed : ∀ search start query,
      setup.paging.batchSize ∣ start ->
      batchQuery setup search start = .ok query ->
      PostsOnly allowed (execute query))
    (chunkAllowed : ∀ (base : Query) (offset size : Nat),
      0 < size -> offset + size ≤ setup.paging.window ->
        PostsOnly allowed (execute { base with offset, size }))
    {errand : Errand}
    (sized : errand.IsSized) :
    PostsOnly allowed (errand.run setup execute) := by
  cases errand with
  | call call =>
      cases call with
      | search search texts page =>
          exact .bind (.runSearch batchAllowed search texts page) fun _ _ => .pure nofun
      | changePage page => exact .bind (.changePage batchAllowed page) fun _ _ => .pure nofun
      | reset => exact fun _ => .bind (.get (.commit nofun))
      | choose choice => exact fun _ => .modify nofun
  | collect chunkSize limit =>
      exact .bind (.exportHits chunkAllowed sized limit) fun _ _ => .pure nofun

section Posts

variable {setup : Setup} {gateway : Gateway}

/-- The requests of a session are allowed ones when those for batches that begin inside the
window, and those for ranks inside the window, are. -/
theorem forall_mem_posts
    (sameWindow : gateway.window = setup.paging.window)
    {allowed : Post -> Prop}
    (batchAllowed : ∀ post, AsksBatch setup.paging post -> allowed post)
    (insideAllowed : ∀ post, InsideWindow setup.paging.window post -> allowed post)
    (network : Network)
    (least greatest : Int)
    {errands : List Errand}
    (sized : ∀ errand ∈ errands, errand.IsSized) :
    ∀ post ∈ posts setup gateway network least greatest errands, allowed post := by
  have batches : ∀ search start query,
      setup.paging.batchSize ∣ start ->
      batchQuery setup search start = .ok query ->
      PostsOnly allowed (gateway.execute network.ask query : Posting _) := by
    intro search start query aligned compiles
    have wholePages := Nat.dvd_trans setup.paging.pageSize_dvd_batchSize aligned
    have offset_eq := batchQuery_offset wholePages compiles
    refine .execute gateway network fun begins => batchAllowed _ ⟨start, ?_, aligned, by omega⟩
    rw [← offset_eq, ← batchQuery_size compiles]
    exact asksFor_post gateway.endpoint query
  have chunks : ∀ (base : Query) (offset size : Nat),
      0 < size -> offset + size ≤ setup.paging.window ->
        PostsOnly allowed
          (gateway.execute network.ask { base with offset, size } : Posting _) := by
    intro base offset size size_pos inside
    refine .execute gateway network fun _ => insideAllowed _ ⟨offset, size, ?_, ?_⟩
    · exact asksFor_post gateway.endpoint _
    · omega
  have all :
      PostsOnly allowed (errands.forM (Errand.run setup (gateway.execute network.ask))) := by
    induction errands with
    | nil => exact fun _ => .pure nofun
    | cons errand errands inductionHypothesis =>
        obtain ⟨firstSized, restSized⟩ := List.forall_mem_cons.1 sized
        exact .bind (.errand batches chunks firstSized) fun _ => inductionHypothesis restSized
  exact (all (.initial least greatest)).course

/-- A whole batch that begins inside a window of whole batches ends inside it. -/
theorem AsksBatch.insideWindow
    {post : Post}
    (asks : AsksBatch setup.paging post)
    (whole : setup.paging.batchSize ∣ setup.paging.window) :
    InsideWindow setup.paging.window post := by
  obtain ⟨start, ranks, aligned, begins⟩ := asks
  have batchPositive := setup.paging.batchSize_pos
  have ends : start + setup.paging.batchSize ≤ setup.paging.window := by
    obtain ⟨before, rfl⟩ := aligned
    obtain ⟨count, count_eq⟩ := whole
    rw [count_eq] at begins ⊢
    have next := Nat.succ_le_of_lt (Nat.lt_of_mul_lt_mul_left begins)
    exact Nat.mul_le_mul_left setup.paging.batchSize next
  exact ⟨start, setup.paging.batchSize, ranks, by omega, by omega, by omega⟩

/-- A network without a connection. -/
def disconnected : Network := fun _ _ => pure (.error (.unreachable ""))

/-- A search that begins posts its query where this begins inside the window of the gateway. -/
theorem posts_search
    (network : Network)
    {least greatest : Int}
    {search : Search}
    {page : Int}
    {searching : State GatewayError}
    {call : SearchCall}
    (begins :
      (State.initial least greatest).beginSearch setup search none page = .ok (searching, call))
    (insideWindow : call.query.offset < gateway.window) :
    posts setup gateway network least greatest [.call (.search search none page)] =
      [gateway.endpoint.post call.query.bodyEntries none] := by
  have searches :
      Yields (.initial least greatest)
          (runSearch setup (gateway.execute network.ask) search none page) fun _ posts _ =>
        posts = [gateway.endpoint.post call.query.bodyEntries none] := by
    unfold runSearch
    refine .bind (.get ?_)
    rw [begins]
    refine .bind (.set (.bind (.record (.bind ?_))))
    refine (execute_yields gateway network call.query searching).mono ?_
    rintro answer _ middle rfl
    rw [if_pos insideWindow]
    exact .bind (.get (.bind (.commit (.pure rfl))))
  have runs :
      Yields (.initial least greatest)
          ([Errand.call (.search search none page)].forM
            (Errand.run setup (gateway.execute network.ask))) fun _ posts _ =>
        posts = [gateway.endpoint.post call.query.bodyEntries none] := by
    refine .bind (.bind (searches.mono ?_))
    rintro result _ middle rfl
    exact .pure (.pure rfl)
  exact runs.course

/-- A search for the first page of a batch that begins inside the window asks for the whole
batch. -/
theorem exists_mem_posts_of_batchStart
    (sameWindow : gateway.window = setup.paging.window)
    {start : Nat}
    (aligned : setup.paging.batchSize ∣ start)
    (inside : start < setup.paging.window)
    (least greatest : Int) :
    ∃ post ∈ posts setup gateway disconnected least greatest
        [.call (.search (wordSearch "word") none (setup.paging.batchPage start))],
      AsksFor post start setup.paging.batchSize := by
  have wholePages := Nat.dvd_trans setup.paging.pageSize_dvd_batchSize aligned
  have start_eq :
      setup.paging.batchStart (setup.paging.pageStart (setup.paging.batchPage start)) = start := by
    rw [setup.paging.pageStart_batchPage wholePages]
    exact setup.paging.batchStart_eq aligned (Nat.le_refl start)
      (Nat.lt_add_of_pos_right setup.paging.batchSize_pos)
  obtain ⟨query, compiles⟩ := wordSearch_compiles setup start
  have offset_eq := batchQuery_offset wholePages compiles
  have begins :=
    (State.beginSearch_eq_ok_iff (ε := GatewayError) setup (.initial least greatest) _
      (wordSearch "word") none (setup.paging.batchPage start) _).2
      ⟨Int.ofNat_le.2 (Nat.le_add_left 1 _), wordSearch "word", query, rfl,
        by rw [Int.toNat_natCast, start_eq, compiles], rfl, rfl⟩
  have asked : query.offset < gateway.window := by omega
  rw [posts_search disconnected begins asked]
  refine ⟨_, List.mem_singleton_self _, ?_⟩
  rw [← offset_eq, ← batchQuery_size compiles]
  exact asksFor_post gateway.endpoint query

/-- The window is a whole number of batches when all searches for a word stay inside it: the last
batch that begins inside the window does not end behind it then. -/
theorem batchSize_dvd_window
    (sameWindow : gateway.window = setup.paging.window)
    (least greatest : Int)
    (inside : ∀ page,
      ∀ post ∈ posts setup gateway disconnected least greatest
          [.call (.search (wordSearch "word") none page)],
        InsideWindow setup.paging.window post) :
    setup.paging.batchSize ∣ setup.paging.window := by
  by_contra broken
  have begins_le := setup.paging.batchStart_le setup.paging.window
  have ends := setup.paging.lt_batchStart_add setup.paging.window
  have aligned := setup.paging.batchSize_dvd_batchStart setup.paging.window
  have begins : setup.paging.batchStart setup.paging.window < setup.paging.window := by
    refine Nat.lt_of_le_of_ne begins_le fun same => broken ?_
    rwa [same] at aligned
  obtain ⟨post, posted, asks⟩ :=
    exists_mem_posts_of_batchStart sameWindow aligned begins least greatest
  obtain ⟨offset, size, asksInside, _, _, insideWindow⟩ := inside _ post posted
  obtain ⟨rfl, rfl⟩ := asks.unique asksInside
  omega

end Posts

/-- The requests of a session whose settings have been accepted. Such a session can be set up,
and whatever it is asked to do, its requests begin inside the window and ask for something; each
of them stays inside the window or asks for the whole batch that begins there. All of them stay
inside the window, in every run, exactly when the window is a whole number of batches. -/
theorem posts_stay_inside_window_iff
    (root : Entries Value)
    (environment : Entries String)
    (settings : Settings)
    (accepted : Settings.read root environment = .ok settings)
    (least greatest : Int) :
    ∃ setup, settings.sessionSetup = .ok setup ∧
      (∀ network errands, (∀ errand ∈ errands, errand.IsSized) ->
        ∀ post ∈ posts setup settings.gateway network least greatest errands,
          ∃ offset size, AsksFor post offset size ∧
            0 ≤ offset ∧ offset < settings.backend.window ∧ 1 ≤ size ∧
            (offset + size ≤ settings.backend.window ∨
              settings.search.batchSize ∣ offset ∧ size = settings.search.batchSize)) ∧
      ((∀ network errands, (∀ errand ∈ errands, errand.IsSized) ->
        ∀ post ∈ posts setup settings.gateway network least greatest errands,
          InsideWindow settings.backend.window post) ↔
        settings.search.batchSize ∣ settings.backend.window) := by
  obtain ⟨setup, setUp, batch_eq, _, window_eq⟩ :=
    (Settings.sizesFit_of_check (Settings.check_of_read accepted)).sessionSetup_eq_ok
  have sameWindow : settings.gateway.window = setup.paging.window := window_eq.symm
  have batchPositive := setup.paging.batchSize_pos
  rw [← batch_eq, ← window_eq]
  refine ⟨setup, setUp, ?_, ?_, ?_⟩
  · intro network errands sized
    refine forall_mem_posts sameWindow ?_ ?_ network least greatest sized
    · rintro post ⟨start, ranks, aligned, begins⟩
      exact ⟨start, setup.paging.batchSize, ranks, by omega, by omega, by omega,
        .inr ⟨Int.natCast_dvd_natCast.2 aligned, rfl⟩⟩
    · rintro post ⟨offset, size, ranks, reached, nonempty, ends⟩
      exact ⟨offset, size, ranks, reached, by omega, nonempty, .inl ends⟩
  · intro inside
    refine Int.natCast_dvd_natCast.2 (batchSize_dvd_window sameWindow least greatest fun page => ?_)
    exact inside disconnected _ (by simp [Errand.IsSized])
  · intro whole network errands sized
    have wholeBatches := Int.natCast_dvd_natCast.1 whole
    exact forall_mem_posts sameWindow (fun post asks => asks.insideWindow wholeBatches)
      (fun post inside => inside) network least greatest sized

/-- Settings with two hits on a page, four in a batch, and a window. -/
def windowRoot (window : Int) : Entries Value :=
  [("log", .obj [("level", .str "INFO"), ("to_file", .bool false), ("dir", .str "log")]),
    ("opensearch", .obj
      [("base_url", .str "http://index"), ("index", .str "pages"), ("user_env", .str "USER"),
        ("password_env", .str "PASSWORD"), ("timeout", .int 30), ("verify_tls", .bool true),
        ("max_result_window", .int window)]),
    ("search", .obj
      [("results_per_fetch", .int 4), ("items_per_page", .int 2),
        ("highlight", .obj
          [("fragment_size", .int 150), ("phrase_limit", .int 150),
            ("number_of_fragments", .int 100), ("pre_tag", .str "<b>"), ("post_tag", .str "</b>"),
            ("boundary_locale", .str "ar")])])]

/-- With a window of two batches no request leaves the window. -/
theorem posts_stay_inside_window_of_two_batches :
    ∃ settings setup,
      Settings.read (windowRoot 8) [] = .ok settings ∧
      settings.sessionSetup = .ok setup ∧
      ∀ network,
        ∀ post ∈ posts setup settings.gateway network 0 2000
            [.call (.search (wordSearch "word") none 3), .call (.changePage 1),
              .collect none none, .collect (some 3) (some 5)],
          InsideWindow 8 post := by
  have sizes :
      (Settings.read (windowRoot 8) []).toOption.map
          (fun settings => (settings.search.batchSize, settings.backend.window)) =
        some (4, 8) := by
    decide +kernel
  obtain ⟨settings, taken, equal⟩ := Option.map_eq_some_iff.1 sizes
  have accepted := eq_ok_of_toOption_eq_some taken
  obtain ⟨batch_eq, window_eq⟩ := Prod.mk.inj equal
  obtain ⟨setup, setUp, _, stays⟩ :=
    posts_stay_inside_window_iff (windowRoot 8) [] settings accepted 0 2000
  rw [batch_eq, window_eq] at stays
  refine ⟨settings, setup, accepted, setUp, fun network => ?_⟩
  exact stays.2 (by decide) network _ (by simp [Errand.IsSized])

/-- With a window of five hits and batches of four, the search for the third page asks for the
ranks from four to seven. -/
theorem lastBatch_leaves_window :
    ∃ settings setup,
      Settings.read (windowRoot 5) [] = .ok settings ∧
      settings.sessionSetup = .ok setup ∧
      ∃ post ∈ posts setup settings.gateway disconnected 0 2000
          [.call (.search (wordSearch "word") none 3)],
        AsksFor post 4 4 ∧ ¬InsideWindow settings.backend.window post := by
  have sizes :
      (Settings.read (windowRoot 5) []).toOption.map
          (fun settings =>
            (settings.search.batchSize, settings.search.pageSize, settings.backend.window)) =
        some (4, 2, 5) := by
    decide +kernel
  obtain ⟨settings, taken, equal⟩ := Option.map_eq_some_iff.1 sizes
  have accepted := eq_ok_of_toOption_eq_some taken
  simp only [Prod.mk.injEq] at equal
  obtain ⟨four, two, five⟩ := equal
  obtain ⟨setup, setUp, batch_eq, page_eq, window_eq⟩ :=
    (Settings.sizesFit_of_check (Settings.check_of_read accepted)).sessionSetup_eq_ok
  have batchSize_eq : setup.paging.batchSize = 4 := by omega
  have pageSize_eq : setup.paging.pageSize = 2 := by omega
  have sameWindow : settings.gateway.window = setup.paging.window := window_eq.symm
  have aligned : setup.paging.batchSize ∣ 4 := by simp [batchSize_eq]
  obtain ⟨post, posted, asks⟩ :=
    exists_mem_posts_of_batchStart sameWindow aligned (by omega) 0 2000
  rw [Paging.batchPage, pageSize_eq] at posted
  rw [batchSize_eq] at asks
  refine ⟨settings, setup, accepted, setUp, post, posted, asks, ?_⟩
  rintro ⟨offset, size, asksInside, _, _, inside⟩
  obtain ⟨rfl, rfl⟩ := asks.unique asksInside
  omega

end Session
end Concordance
