import Concordance.Proofs.Backend.Endpoint
import Concordance.Proofs.Session.Chunks
import Concordance.Proofs.Session.Queries

/-!
# What a session posts

A session that asks a gateway has its queries written down as posts. The network that answers the
posts may do anything to the session meanwhile, and nothing is assumed of its answers.

The statements are about all posts of a procedure at once. A search and a page change ask for
whole batches, an export for chunks that end inside the window, and a gateway posts a query only
where it begins inside its own window.
-/

namespace Concordance
namespace Session

open Backend (Gateway GatewayError Post Reply TransportError)

/-- Procedures of a session whose posts are written down. -/
abbrev Posting := Asking Post GatewayError

/-- A responder in the place of the network. -/
abbrev Network := Responder Post GatewayError (Except TransportError Reply)

/-- A procedure that posts allowed requests only. -/
def PostsOnly {α : Type} (allowed : Post -> Prop) (procedure : Posting α) : Prop :=
  ∀ state, Yields state procedure fun _ posts _ => ∀ post ∈ posts, allowed post

/-- A procedure goes on posting allowed requests. -/
theorem PostsOnly.bind
    {α β : Type}
    {allowed : Post -> Prop}
    {first : Posting α}
    {next : α -> Posting β}
    (firstPosts : PostsOnly allowed first)
    (nextPosts : ∀ value, PostsOnly allowed (next value)) :
    PostsOnly allowed (first >>= next) := by
  intro state
  refine .bind ((firstPosts state).mono fun value posts middle firstAllowed => ?_)
  refine (nextPosts value middle).mono fun _ more _ moreAllowed => ?_
  exact List.forall_mem_append.2 ⟨firstAllowed, moreAllowed⟩

/-- A gateway posts a query that begins inside its window, and refuses all others. -/
theorem execute_yields
    (gateway : Gateway)
    (network : Network)
    (query : Query)
    (state : State GatewayError) :
    Yields state (gateway.execute network.ask query : Posting _) fun _ posts _ =>
      posts =
        if query.offset < gateway.window then [gateway.endpoint.post query.bodyEntries none]
        else [] := by
  unfold Gateway.execute
  refine .ite (fun outside => .pure ?_) fun inside => ?_
  · rw [if_neg (Int.not_lt.2 outside)]
  · rw [if_pos (Int.not_le.1 inside)]
    simp only [Backend.Endpoint.search_eq, record_eq_pure, recordAll_eq_pure, pure_bind, bind_assoc]
    refine .bind (.ask fun answer next gives => ?_)
    cases (Backend.taken answer).1 with
    | error cause => exact .pure rfl
    | ok payload => exact .pure rfl

/-- The posts of a gateway are allowed ones when the post of its query is. -/
theorem PostsOnly.execute
    {allowed : Post -> Prop}
    (gateway : Gateway)
    (network : Network)
    {query : Query}
    (isAllowed :
      query.offset < gateway.window -> allowed (gateway.endpoint.post query.bodyEntries none)) :
    PostsOnly allowed (gateway.execute network.ask query : Posting _) := by
  intro state
  refine (execute_yields gateway network query state).mono ?_
  rintro _ _ _ rfl post member
  split at member
  next begins =>
    rw [List.mem_singleton.1 member]
    exact isAllowed begins
  next => cases member

/-- A page change that asks for something asks for a batch of its search. -/
theorem PageCall.query?_eq_some
    {setup : Setup}
    {call : PageCall}
    {query : Query}
    (asks : call.query? setup = .ok (some query)) :
    ∃ search, setup.paging.batchSize ∣ call.batchStart setup ∧
      batchQuery setup search (call.batchStart setup) = .ok query := by
  unfold PageCall.query? at asks
  split at asks
  · cases asks
  · rename_i search _
    cases compiles : batchQuery setup search (call.batchStart setup) with
    | error cause => simp [compiles, Except.map] at asks
    | ok asked =>
        simp only [compiles, Except.map, Except.ok.injEq, Option.some.injEq] at asks
        subst asks
        exact ⟨search, setup.paging.batchSize_dvd_batchStart _, compiles⟩

section Procedures

variable
  {setup : Setup}
  {allowed : Post -> Prop}
  {execute : Query -> Posting (Except GatewayError Batch)}

section Batches

variable
  (batchAllowed : ∀ search start query,
    setup.paging.batchSize ∣ start ->
    batchQuery setup search start = .ok query ->
    PostsOnly allowed (execute query))

include batchAllowed

/-- A search asks for the batch of its page. -/
theorem PostsOnly.runSearch (search : Search) (texts : Option Value) (page : Int) :
    PostsOnly allowed (Session.runSearch setup execute search texts page) := by
  unfold Session.runSearch
  refine .bind (fun _ => .get nofun) fun state => ?_
  cases begins : state.beginSearch setup search texts page with
  | error cause => exact fun _ => .pure nofun
  | ok begun =>
      obtain ⟨searching, call⟩ := begun
      obtain ⟨_, active, query, _, compiles, rfl, rfl⟩ :=
        (State.beginSearch_eq_ok_iff ..).1 begins
      refine .bind (fun _ => .set nofun) fun _ => .bind (fun _ => .record nofun) fun _ => ?_
      refine .bind ?_ fun answer _ => .bind (.get (.bind (.commit (.pure nofun))))
      exact batchAllowed active _ query (setup.paging.batchSize_dvd_batchStart _) compiles

/-- A page change asks for the batch of its page, or for nothing. -/
theorem PostsOnly.changePage (page : Int) :
    PostsOnly allowed (Session.changePage setup execute page) := by
  have finishes : ∀ call, PostsOnly allowed (finishPageChange (ε := GatewayError) setup call) :=
    fun call _ => .bind (.get (.bind (.commit (.bind (.get (.set nofun))))))
  unfold Session.changePage
  refine .bind (fun _ => .get nofun) fun state => ?_
  cases begins : state.beginPageChange setup page with
  | error cause => exact fun _ => .pure nofun
  | ok begun =>
      obtain ⟨changing, call⟩ := begun
      refine .bind (fun _ => .set nofun) fun _ => ?_
      cases asks : call.query? setup with
      | error cause => exact fun _ => .bind (.set (.pure nofun))
      | ok query? =>
          cases query? with
          | none => exact .bind (finishes call) fun _ _ => .pure nofun
          | some query =>
              obtain ⟨search, aligned, compiles⟩ := PageCall.query?_eq_some asks
              refine .bind (fun _ => .record nofun) fun _ => .bind ?_ fun answer => ?_
              · exact batchAllowed search _ query aligned compiles
              · refine .bind (fun _ => .get nofun) fun _ => ?_
                refine .bind (fun _ => .commit nofun) fun _ => ?_
                split
                · exact .bind (finishes call) fun _ _ => .pure nofun
                · exact fun _ => .bind (.set (.pure nofun))
                · exact fun _ => .bind (.set (.pure nofun))

end Batches

/-- A walk asks for chunks that end inside its window. -/
theorem PostsOnly.collectFrom
    {ε : Type}
    {execute : Query -> Posting (Except ε Batch)}
    {walk : Export}
    {size : Nat}
    (size_pos : 0 < size)
    (size_eq : walk.chunkSize = size)
    (chunkAllowed : ∀ offset size : Nat,
      0 < size -> offset + size ≤ walk.window ->
        PostsOnly allowed (execute { walk.base with offset, size }))
    (limit : Option Nat)
    (offset : Nat) :
    PostsOnly allowed (walk.collectFrom execute limit offset) := by
  induction remaining : walk.window - offset using Nat.strongRecOn generalizing offset limit with
  | ind remaining inductionHypothesis =>
      rw [Export.collectFrom]
      split
      · rename_i inWindow
        rw [Export.chunkQuery_eq size_eq size_pos inWindow]
        refine .bind (chunkAllowed offset _ (by omega) (by omega)) fun answer => ?_
        cases answer with
        | error failure => exact fun _ => .pure nofun
        | ok batch =>
            by_cases noHits : batch.hits = []
            · simp only [dif_pos noHits]
              exact fun _ => .pure nofun
            · have nearer := List.length_pos_iff.2 noHits
              simp only [dif_neg noHits]
              have goesOn := inductionHypothesis _ (by omega)
                (limit.map (· - batch.hits.length)) (offset + batch.hits.length) rfl
              intro state
              refine .ite (fun _ => .pure nofun) fun _ => .ite (fun _ => .pure nofun) fun _ => ?_
              exact PostsOnly.bind goesOn (fun _ _ => .pure nofun) state
      · exact fun _ => .pure nofun

/-- An export asks for chunks that end inside the window. -/
theorem PostsOnly.exportHits
    (chunkAllowed : ∀ (base : Query) (offset size : Nat),
      0 < size -> offset + size ≤ setup.paging.window ->
        PostsOnly allowed (execute { base with offset, size }))
    {chunkSize : Option Int}
    (positive : ∀ size, chunkSize = some size -> 1 ≤ size)
    (limit : Option Nat) :
    PostsOnly allowed (Session.exportHits setup execute chunkSize limit) := by
  unfold Session.exportHits
  split
  · exact fun _ => .pure nofun
  · refine .bind (fun _ => .get nofun) fun state => ?_
    cases begins : Export.ofState setup state chunkSize with
    | error cause => exact fun _ => .pure nofun
    | ok walk =>
        obtain ⟨size, size_pos, size_eq, window_eq⟩ := Export.sizes_of_ofState positive begins
        refine .collectFrom size_pos size_eq (fun offset size size_pos inside => ?_) limit 0
        exact chunkAllowed walk.base offset size size_pos (window_eq ▸ inside)

end Procedures

end Session
end Concordance
