import Highlighter.Proofs.Queue.Discipline
import Highlighter.Service.Serial

/-! The steps of the service one by one: when each can happen, which document it is about, and how
the steps of a call make up its performance on the store alone.
-/

namespace Highlighter

-----------------------------------------------------------------------------------------
-- When a step can happen
-----------------------------------------------------------------------------------------

/-- The steps of the service as a relation, one case for each kind of event. -/
inductive Service.Steps (publishes : Bool) (service : Service)
    : Event → Service × List Effect → Prop
  | arrive (request : Request)
    : Steps publishes service (.arrive request)
        (⟨service.store, service.queue.arrive request.uri request⟩, [])
  | start {call} (member : call ∈ service.queue.jobs) (waiting : call.stage = .waiting)
    (free : service.queue.free call = true)
    : Steps publishes service (.start call.ticket)
        (service.advance call (.ofTurn service.store call.task))
  | loaded {call request base} (member : call ∈ service.queue.jobs)
    (loading : call.stage = .running (.loading request base)) (tree : Except LoadFault Tree)
    : Steps publishes service (.loaded call.ticket tree)
        (service.advance call (.ofLoad publishes service.store request base tree))
  | published {call answer} (member : call ∈ service.queue.jobs)
    (publishing : call.stage = .running (.publishing answer)) (result : Except String Unit)
    : Steps publishes service (.published call.ticket result)
        (service.advance call (.ofResult service.store answer result))
  | leave {call answer} (member : call ∈ service.queue.jobs)
    (ended : call.stage = .ended answer)
    : Steps publishes service (.leave call.ticket)
        (⟨service.store, service.queue.leave call⟩,
          [.returned call.uri call.ticket answer])

/-- Every step is one of these, by inversion of the event and of the stage of its call. -/
theorem Service.step_steps {publishes : Bool} {service : Service} {event : Event}
    {result : Service × List Effect} (stepped : service.step publishes event = some result)
    : service.Steps publishes event result := by
  cases event with
  | arrive request =>
      rw [← Option.some.inj stepped]
      exact .arrive request
  | start ticket =>
      obtain ⟨call, found, moved⟩ := Option.bind_eq_some_iff.mp stepped
      obtain ⟨move, can, rfl⟩ := Option.map_eq_some_iff.mp moved
      simp only [move?] at can
      split at can
      next waiting =>
        split at can
        next free =>
          rw [← Queue.ticket_of_job? found, ← Option.some.inj can]
          exact .start (Queue.mem_of_job? found) waiting free
        next => contradiction
      next => contradiction
  | loaded ticket tree =>
      obtain ⟨call, found, moved⟩ := Option.bind_eq_some_iff.mp stepped
      obtain ⟨move, can, rfl⟩ := Option.map_eq_some_iff.mp moved
      simp only [move?] at can
      split at can
      next request base loading =>
        rw [← Queue.ticket_of_job? found, ← Option.some.inj can]
        exact .loaded (Queue.mem_of_job? found) loading tree
      next => contradiction
  | published ticket outcome =>
      obtain ⟨call, found, moved⟩ := Option.bind_eq_some_iff.mp stepped
      obtain ⟨move, can, rfl⟩ := Option.map_eq_some_iff.mp moved
      simp only [move?] at can
      split at can
      next answer publishing =>
        rw [← Queue.ticket_of_job? found, ← Option.some.inj can]
        exact .published (Queue.mem_of_job? found) publishing outcome
      next => contradiction
  | leave ticket =>
      obtain ⟨call, found, left⟩ := Option.bind_eq_some_iff.mp stepped
      simp only [leave?] at left
      split at left
      next answer ended =>
        rw [← Queue.ticket_of_job? found, ← Option.some.inj left]
        exact .leave (Queue.mem_of_job? found) ended
      next => contradiction

-----------------------------------------------------------------------------------------
-- What a commit is
-----------------------------------------------------------------------------------------

/-- What highlighting a tree leads to, one case for each way in which it ends. -/
inductive HighlightRequest.Commits (request : HighlightRequest) (base : Option Snapshot)
    (tree : Tree)
    : Prop
  | endless {fault}
    (lost : tree.highlights = .error fault)
    (same : request.commit base tree = ⟨[], none, .error (.endless fault)⟩)
  | unsorted {found fault}
    (highlighted : tree.highlights = .ok found)
    (mixed : Line.changes found.tokens (Snapshot.baseline base) = .error fault)
    (same : request.commit base tree = ⟨found.diagnostics, none, .error (.unsorted fault)⟩)
  | overflow {found lines fault}
    (highlighted : tree.highlights = .ok found)
    (changed : Line.changes found.tokens (Snapshot.baseline base) = .ok lines)
    (wide : EncodedLine.ofLines lines = .error fault)
    (same
      : request.commit base tree
        = ⟨found.diagnostics, some ⟨request.version, found.tokens⟩, .error (.overflow fault)⟩)
  | answered {found lines encoded}
    (highlighted : tree.highlights = .ok found)
    (changed : Line.changes found.tokens (Snapshot.baseline base) = .ok lines)
    (lined : EncodedLine.ofLines lines = .ok encoded)
    (same
      : request.commit base tree
        = ⟨found.diagnostics, some ⟨request.version, found.tokens⟩,
          .ok ⟨request.uri, request.version, encoded, found.diagnostics.length⟩⟩)

/-- A commit ends in one of these ways, by cases on its steps. -/
theorem HighlightRequest.commits (request : HighlightRequest) (base : Option Snapshot)
    (tree : Tree)
    : request.Commits base tree := by
  cases highlighted : tree.highlights with
  | error fault => exact .endless highlighted (commit_of_endless highlighted request base)
  | ok found =>
      have compared := commit_of_highlights highlighted request base
      cases changed : Line.changes found.tokens (Snapshot.baseline base) with
      | error fault =>
          exact .unsorted highlighted changed (by simp [compared, commitFound, changed])
      | ok lines =>
          cases lined : EncodedLine.ofLines lines with
          | error fault =>
              exact .overflow highlighted changed lined
                (by simp [compared, commitFound, changed, lined])
          | ok encoded =>
              exact .answered highlighted changed lined
                (by simp [compared, commitFound, changed, lined])

/-- An answer names the document of its request, by cases on what a commit is. -/
theorem HighlightRequest.uri_of_commit {request : HighlightRequest} {base : Option Snapshot}
    {tree : Tree} {answer : Highlighted}
    (answered : (request.commit base tree).answer = .ok answer)
    : answer.uri = request.uri := by
  cases request.commits base tree with
  | endless _ same | unsorted _ _ same | overflow _ _ _ same =>
      rw [same] at answered
      contradiction
  | answered _ _ _ same =>
      rw [same] at answered
      rw [← Except.ok.inj answered]

/-- A snapshot that is kept is of the version that was asked for, with what is found in the tree. -/
theorem HighlightRequest.snapshot_of_commit {request : HighlightRequest} {base : Option Snapshot}
    {tree : Tree} {snapshot : Snapshot}
    (kept : (request.commit base tree).snapshot = some snapshot)
    : ∃ found, tree.highlights = .ok found ∧ snapshot = ⟨request.version, found.tokens⟩ := by
  cases request.commits base tree with
  | endless _ same | unsorted _ _ same =>
      rw [same] at kept
      contradiction
  | overflow highlighted _ _ same | answered highlighted _ _ same =>
      rw [same] at kept
      exact ⟨_, highlighted, (Option.some.inj kept).symm⟩

-----------------------------------------------------------------------------------------
-- Which document a move is about
-----------------------------------------------------------------------------------------

/-- A move works on one document, tells in its effects what becomes of it, and leaves the others as
they are; that its call is over is not among these effects.
-/
structure Move.About (uri : String) (store : Store) (move : Move) : Prop where
  work : ∀ effect ∈ move.effects, effect.uri = uri ∧ effect.isWork = true
  unsettled : ∀ other, Effect.settlements other move.effects = []
  others : ∀ other, other ≠ uri → move.store.get? other = store.get? other
  content : move.effects.foldl (Effect.replay uri) (store.get? uri) = move.store.get? uri

/-- Effects none of which changes a state leave it as it is, by induction over them. -/
theorem Effect.foldl_unchanged {α : Type} {change : α → Effect → α} {state : α}
    {effects : List Effect} (unchanged : ∀ effect ∈ effects, change state effect = state)
    : effects.foldl change state = state := by
  induction effects with
  | nil => rfl
  | cons effect rest ih =>
      rw [List.foldl_cons, unchanged effect List.mem_cons_self]
      exact ih fun later member => unchanged later (List.mem_cons_of_mem effect member)

/-- Warnings change no document. -/
theorem Effect.replay_warnings (uri other : String) (content : Option Snapshot)
    (places : List FileLocation)
    : (places.map (.warned other)).foldl (replay uri) content = content := by
  refine foldl_unchanged fun effect member => ?_
  obtain ⟨place, _, rfl⟩ := List.mem_map.mp member
  rfl

/-- Storing a snapshot is about the document that it is of. -/
theorem Move.about_keep (store : Store) (uri : String) (commit : Commit)
    (stage : Stage Progress (Except Failure Answer)) (places : List FileLocation)
    : Move.About uri store
        ⟨(store.keep uri commit).1, stage,
          places.map (.warned uri) ++ (store.keep uri commit).2⟩ := by
  cases kept : commit.snapshot with
  | none =>
      constructor
      · simp [Store.keep, kept, Effect.uri, Effect.isWork]
      · simp [Store.keep, kept, Effect.settlements, Effect.settled?]
      · simp [Store.keep, kept]
      · simp [Store.keep, kept, Effect.replay_warnings]
  | some snapshot =>
      constructor
      · intro effect member
        simp only [Store.keep, kept, List.mem_append, List.mem_map, List.mem_singleton] at member
        rcases member with ⟨place, _, rfl⟩ | rfl <;> exact ⟨rfl, rfl⟩
      · simp [Store.keep, kept, Effect.settlements, Effect.settled?]
      · intro other different
        simp [Store.keep, kept, different]
      · simp [Store.keep, kept, Effect.replay]

/-- A request that takes its turn works on its own document, by cases on what it finds. -/
theorem Move.about_ofTurn (store : Store) (request : Request)
    : (Move.ofTurn store request).About request.uri store := by
  cases request with
  | close uri =>
      simp only [ofTurn, Request.uri]
      split
      next absent => exact ⟨by simp, fun _ => rfl, by simp, rfl⟩
      next snapshot present =>
        refine ⟨?_, fun _ => rfl, ?_, ?_⟩
        · simp [Effect.uri, Effect.isWork]
        · intro other different
          simp [different]
        · simp [Effect.replay]
  | highlight request =>
      simp only [ofTurn, Request.uri]
      split <;> exact ⟨by simp, fun _ => rfl, by simp, rfl⟩

/-- A highlight whose load has ended works on its own document, by cases on tree and answer. -/
theorem Move.about_ofLoad (publishes : Bool) (store : Store) (request : HighlightRequest)
    (base : Option Snapshot) (tree : Except LoadFault Tree)
    : (Move.ofLoad publishes store request base tree).About request.uri store := by
  cases tree with
  | error fault => exact ⟨by simp [ofLoad], fun _ => rfl, by simp [ofLoad], rfl⟩
  | ok tree =>
      have kept := about_keep store request.uri (request.commit base tree)
      simp only [ofLoad, ofTree]
      split
      next failure _ => exact kept (.ended (.error failure)) _
      next answer answered =>
        have named := HighlightRequest.uri_of_commit answered
        simp only [ofAnswer]
        split
        next =>
          obtain ⟨work, unsettled, others, content⟩ := kept (.running (.publishing answer)) _
          refine ⟨?_, ?_, others, ?_⟩
          · intro effect member
            rcases List.mem_append.mp member with earlier | handed
            · exact work effect earlier
            · rw [List.mem_singleton.mp handed]
              exact ⟨named, rfl⟩
          · intro other
            simpa [Effect.settlements, Effect.settled?] using unsettled other
          · rw [List.foldl_append, content]
            rfl
        next =>
          simpa only [List.append_nil] using kept (.ended (.ok (.highlighted answer))) _

/-- The end of a publication changes no document and works on none. -/
theorem Move.about_ofResult (uri : String) (store : Store) (answer : Highlighted)
    (result : Except String Unit)
    : (Move.ofResult store answer result).About uri store :=
  ⟨by simp [ofResult], fun _ => rfl, by simp [ofResult], rfl⟩

/-- The effects of a call that gets on are work on its document. -/
theorem Service.work_advance {service : Service} {call : Call} {move : Move}
    (about : move.About call.uri service.store)
    : ∀ effect ∈ (service.advance call move).2,
        effect.uri = call.uri ∧ effect.isWork = true := by
  intro effect member
  rcases List.mem_append.mp member with worked | settled
  · exact about.work effect worked
  · split at settled
    · rw [List.mem_singleton.mp settled]
      exact ⟨rfl, rfl⟩
    · contradiction

-----------------------------------------------------------------------------------------
-- The moves of a call and its performance on the store alone
-----------------------------------------------------------------------------------------

/-- Two moves lead a call to the same stage with the same effects, and a document to the same
content.
-/
structure Move.Alike (uri : String) (a b : Move) : Prop where
  stage : a.stage = b.stage
  effects : a.effects = b.effects
  content : a.store.get? uri = b.store.get? uri

/-- A turn looks at nothing but its own document, by cases on the request. -/
theorem Move.alike_ofTurn {store other : Store} {request : Request}
    (same : store.get? request.uri = other.get? request.uri)
    : Alike request.uri (ofTurn store request) (ofTurn other request) := by
  cases request with
  | close uri =>
      simp only [Request.uri] at same ⊢
      simp only [ofTurn, ← same]
      split
      · exact ⟨rfl, rfl, same⟩
      · exact ⟨rfl, rfl, by simp⟩
  | highlight request =>
      simp only [Request.uri] at same ⊢
      simp only [ofTurn, ← same]
      split <;> exact ⟨rfl, rfl, same⟩

/-- Storing a commit gives a document the same content wherever it had the same. -/
theorem Store.get?_keep_congr {store other : Store} {uri : String} (commit : Commit)
    (same : store.get? uri = other.get? uri)
    : (store.keep uri commit).1.get? uri = (other.keep uri commit).1.get? uri := by
  cases kept : commit.snapshot <;> simp [keep, kept, same]

/-- The effects of storing a commit are those of the commit alone. -/
theorem Store.effects_keep_congr (store other : Store) (uri : String) (commit : Commit)
    : (store.keep uri commit).2 = (other.keep uri commit).2 := by
  cases kept : commit.snapshot <;> simp [keep, kept]

/-- The end of a load looks at nothing but its own document, by cases on tree and answer. -/
theorem Move.alike_ofLoad {publishes : Bool} {store other : Store}
    {request : HighlightRequest} (base : Option Snapshot) (tree : Except LoadFault Tree)
    (same : store.get? request.uri = other.get? request.uri)
    : Alike request.uri (ofLoad publishes store request base tree)
        (ofLoad publishes other request base tree) := by
  cases tree with
  | error fault => exact ⟨rfl, rfl, same⟩
  | ok tree =>
      have content := Store.get?_keep_congr (request.commit base tree) same
      have effects := Store.effects_keep_congr store other request.uri (request.commit base tree)
      simp only [ofLoad, ofTree]
      split
      next failure _ => exact ⟨rfl, by simp only [effects], content⟩
      next answer answered =>
        have named := HighlightRequest.uri_of_commit answered
        simp only [ofAnswer]
        split
        · exact ⟨rfl, by simp only [effects, named, content], content⟩
        · exact ⟨rfl, by simp only [effects], content⟩

/-- A request is over with its turn, or it is a highlight that waits for its tree. -/
theorem Move.ofTurn_cases (store : Store) (request : Request)
    : (∃ answer, (ofTurn store request).stage = .ended answer)
      ∨ ∃ wanted,
          request = .highlight wanted
          ∧ wanted.checkVersion (store.get? wanted.uri) = .ok ()
          ∧ ofTurn store request
            = ⟨store, .running (.loading wanted (store.get? wanted.uri)), []⟩ := by
  cases request with
  | close uri =>
      simp only [ofTurn]
      split <;> exact Or.inl ⟨_, rfl⟩
  | highlight wanted =>
      simp only [ofTurn]
      split
      · exact Or.inl ⟨_, rfl⟩
      next accepted => exact Or.inr ⟨wanted, rfl, accepted, rfl⟩

/-- A highlight is over with its load, or it waits for the publication of its answer. -/
theorem Move.ofLoad_cases (publishes : Bool) (store : Store) (request : HighlightRequest)
    (base : Option Snapshot) (tree : Except LoadFault Tree)
    : (∃ answer, (ofLoad publishes store request base tree).stage = .ended answer)
      ∨ ∃ answer,
          (ofLoad publishes store request base tree).stage = .running (.publishing answer)
          ∧ publishes = true := by
  cases tree with
  | error fault => exact Or.inl ⟨_, rfl⟩
  | ok tree =>
      simp only [ofLoad, ofTree]
      split
      · exact Or.inl ⟨_, rfl⟩
      next answer _ =>
        simp only [ofAnswer]
        split
        next handed => exact Or.inr ⟨answer, rfl, (Bool.and_eq_true_iff.mp handed).1⟩
        next => exact Or.inl ⟨_, rfl⟩

/-- A highlight of a tree whose walk never ends stores nothing, by definition. -/
theorem Move.ofLoad_of_endless (publishes : Bool) (store : Store) (request : HighlightRequest)
    (base : Option Snapshot) {tree : Tree} {fault : Endless}
    (lost : tree.highlights = .error fault)
    : ofLoad publishes store request base (.ok tree)
      = ⟨store, .ended (.error (.endless fault)), []⟩ := by
  simp only [ofLoad, ofTree, HighlightRequest.commit_of_endless lost, Store.keep, List.map_nil,
    List.append_nil]

/-- A highlight whose answer cannot be encoded has stored its snapshot nevertheless. -/
theorem Move.ofLoad_of_failure (publishes : Bool) (store : Store) {request : HighlightRequest}
    {base : Option Snapshot} {tree : Tree} {snapshot : Snapshot} {failure : Failure}
    (kept : (request.commit base tree).snapshot = some snapshot)
    (failed : (request.commit base tree).answer = .error failure)
    : ofLoad publishes store request base (.ok tree)
      = ⟨store.set request.uri snapshot, .ended (.error failure),
        (request.commit base tree).diagnostics.map (.warned request.uri)
          ++ [.stored request.uri snapshot]⟩ := by
  simp only [ofLoad, ofTree, failed, Store.keep, kept]

/-- A highlight with an answer has stored its snapshot, and hands the answer over to a publisher if
it changes lines.
-/
theorem Move.ofLoad_of_answer (publishes : Bool) (store : Store) {request : HighlightRequest}
    {base : Option Snapshot} {tree : Tree} {snapshot : Snapshot} {answer : Highlighted}
    (kept : (request.commit base tree).snapshot = some snapshot)
    (answered : (request.commit base tree).answer = .ok answer)
    : ofLoad publishes store request base (.ok tree)
      = if publishes && !answer.lines.isEmpty then
          ⟨store.set request.uri snapshot, .running (.publishing answer),
            (request.commit base tree).diagnostics.map (.warned request.uri)
              ++ [.stored request.uri snapshot] ++ [.handed answer true]⟩
        else
          ⟨store.set request.uri snapshot, .ended (.ok (.highlighted answer)),
            (request.commit base tree).diagnostics.map (.warned request.uri)
              ++ [.stored request.uri snapshot]⟩ := by
  have named := HighlightRequest.uri_of_commit answered
  have isOpen : ((store.set request.uri snapshot).get? answer.uri).isSome = true := by
    simp [named]
  simp only [ofLoad, ofTree, answered, Store.keep, kept, ofAnswer, isOpen]
  split <;> simp

/-- A request that is over with its turn has been performed, by cases on what it finds. -/
theorem Store.perform_of_turn (surroundings : Surroundings) {store : Store} {request : Request}
    {answer : Except Failure Answer}
    (ended : (Move.ofTurn store request).stage = .ended answer)
    : store.perform surroundings request
      = ((Move.ofTurn store request).store, (Move.ofTurn store request).effects, answer) := by
  cases request with
  | close uri =>
      cases found : store.get? uri <;>
        simp only [Move.ofTurn, perform, found, Stage.ended.injEq] at ended ⊢ <;>
        rw [ended]
  | highlight request =>
      cases checked : request.checkVersion (store.get? request.uri) with
      | error failure =>
          simp only [Move.ofTurn, perform, checked, Stage.ended.injEq] at ended ⊢
          rw [ended]
      | ok _ =>
          simp only [Move.ofTurn, checked] at ended
          contradiction

/-- A highlight of a newer version has been performed when its load has ended, or with the end of
the publication that it waits for then.
-/
theorem Store.perform_of_load {surroundings : Surroundings} {store : Store}
    {request : HighlightRequest}
    (accepted : request.checkVersion (store.get? request.uri) = .ok ())
    {move : Move}
    (load : Move.ofLoad surroundings.publishes store request (store.get? request.uri)
        (surroundings.load request.path) = move)
    : (∀ answer,
        move.stage = .ended answer
        → store.perform surroundings (.highlight request)
          = (move.store, move.effects, answer))
      ∧ ∀ answer,
          move.stage = .running (.publishing answer)
          → store.perform surroundings (.highlight request)
            = (move.store, move.effects,
              answer.afterPublication (surroundings.publish answer)) := by
  subst load
  simp only [perform, accepted]
  cases surroundings.load request.path with
  | error fault => simp [Move.ofLoad]
  | ok tree =>
      simp only [Move.ofLoad, Move.ofTree]
      cases (request.commit (store.get? request.uri) tree).answer with
      | error failure => simp
      | ok answer =>
          simp only [Move.ofAnswer]
          split
          next handed => simp [List.append_assoc]
          next quiet => simp

end Highlighter
