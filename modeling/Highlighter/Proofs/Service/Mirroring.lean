import Highlighter.Proofs.Line.Payloads
import Highlighter.Proofs.Service.Soundness
import Highlighter.Proofs.Tree.Resolved
import Highlighter.Service.Mirror
import Mathlib

/-! Clients converge. As long as nothing fails to be encoded or published, the sheet that a client
keeps of a document has the payloads of the snapshot's lines after every step, and is empty if the
document is not open. Failures of other kinds leave both as they are, and a close resets both.
-/

namespace Highlighter

-----------------------------------------------------------------------------------------
-- A commit and its answer
-----------------------------------------------------------------------------------------

/-- A snapshot has sorted tokens on lines from 0 on. -/
structure Snapshot.Canonical (snapshot : Snapshot) : Prop where
  sorted : Token.Sorted snapshot.tokens
  least : ∀ token ∈ snapshot.tokens, 0 ≤ token.line

/-- What a new version is compared with is sorted, on lines from 0 on. -/
theorem Snapshot.canonical_baseline {base : Option Snapshot}
    (canonical : ∀ snapshot, base = some snapshot → snapshot.Canonical)
    : Token.Sorted (baseline base) ∧ ∀ token ∈ baseline base, 0 ≤ token.line := by
  cases base with
  | none => exact ⟨.nil, by simp [baseline]⟩
  | some snapshot => exact ⟨(canonical snapshot rfl).sorted, (canonical snapshot rfl).least⟩

/-- A sheet that shows a document has the payloads of its tokens by line, be it open or not. -/
theorem Sheet.Shows.encodes {sheet : Sheet String} {base : Option Snapshot}
    (sorted : Token.Sorted (Snapshot.baseline base)) (shows : sheet.Shows base)
    : (Line.sheet (Line.group (Snapshot.baseline base))).Encodes sheet := by
  refine (Line.group_groups sorted.lines).encodes_sheet_iff.mpr ?_
  cases base with
  | none => exact ⟨[], rfl, shows⟩
  | some snapshot => exact shows

/-- What a highlight of a resolved tree leads to: its snapshot is kept, and a sheet that shows what
it was compared with shows it when amended by the answer, unless a line cannot be encoded.
-/
theorem HighlightRequest.shows_commit {request : HighlightRequest} {base : Option Snapshot}
    {tree : Tree} (resolved : tree.Resolved) {found : Highlights}
    (highlighted : tree.highlights = .ok found)
    (canonical : ∀ snapshot, base = some snapshot → snapshot.Canonical)
    : ∃ snapshot : Snapshot,
        (request.commit base tree).snapshot = some snapshot
        ∧ snapshot.Canonical
        ∧ ((∃ fault, (request.commit base tree).answer = .error (.overflow fault))
          ∨ ∃ answer,
              (request.commit base tree).answer = .ok answer
              ∧ ∀ sheet : Sheet String,
                  sheet.Shows base
                  → (sheet.patch (answer.lines.map EncodedLine.record)).Shows
                      (some snapshot)) := by
  obtain ⟨sortedPrevious, leastPrevious⟩ := Snapshot.canonical_baseline canonical
  obtain ⟨sortedNext, leastNext⟩ := resolved.sorted highlighted
  have cuts := Slice.cuts_all sortedNext.lines sortedPrevious.lines
    (List.forall_mem_append.mpr ⟨leastNext, leastPrevious⟩)
  have groups := Line.group_groups sortedNext.lines
  have patched := cuts.patch_sheet (Line.group_groups sortedPrevious.lines) groups
  have changes := Line.changes_of_sorted sortedNext sortedPrevious
  rw [commit_of_highlights highlighted]
  refine ⟨⟨request.version, found.tokens⟩, ?_, ⟨sortedNext, leastNext⟩, ?_⟩
  · simp only [commitFound, changes]
  · simp only [commitFound, changes]
    split
    next fault _ => exact Or.inl ⟨fault, rfl⟩
    next encoded lined =>
      refine Or.inr ⟨_, rfl, fun sheet shows => groups.encodes_sheet_iff.mp ?_⟩
      rw [← patched]
      exact (shows.encodes sortedPrevious).patch (EncodedLine.ofLines_eq_ok.mp lined)

-----------------------------------------------------------------------------------------
-- Effects that tell a client nothing
-----------------------------------------------------------------------------------------

namespace Effect

variable {channel : Channel} {uri : String}

/-- An effect tells a client nothing of a document if its sheet stays as it is. -/
def Silent (channel : Channel) (uri : String) (effect : Effect) : Prop :=
  ∀ sheet, amend channel uri sheet effect = sheet

/-- Silent effects leave a sheet as it is. -/
theorem amend_silent {effects : List Effect}
    (silent : ∀ effect ∈ effects, effect.Silent channel uri) (sheet : Sheet String)
    : effects.foldl (amend channel uri) sheet = sheet :=
  foldl_unchanged fun effect member => silent effect member sheet

/-- An effect on another document is silent, by definition. -/
theorem silent_other {effect : Effect} (different : effect.uri ≠ uri)
    : effect.Silent channel uri :=
  fun _ => if_neg different

/-- What is done before an answer is delivered is silent: warnings and a stored snapshot. -/
theorem silent_done (other : String) (places : List FileLocation) (snapshot : Snapshot)
    : ∀ effect ∈ places.map (Effect.warned other) ++ [.stored other snapshot],
        effect.Silent channel uri := by
  intro effect member sheet
  rcases List.mem_append.mp member with warned | stored
  · obtain ⟨place, _, rfl⟩ := List.mem_map.mp warned
    cases channel <;> simp [amend]
  · rw [List.mem_singleton.mp stored]
    cases channel <;> simp [amend]

/-- A settlement with a failure is silent. -/
theorem silent_failure (other : String) (ticket : Nat) (failure : Failure)
    : (Effect.settled other ticket (.error failure)).Silent channel uri := by
  intro sheet
  cases channel <;> simp [amend]

end Effect

-----------------------------------------------------------------------------------------
-- What a client is told too late
-----------------------------------------------------------------------------------------

/-- The lines that a call has stored and is about to return. -/
def Call.pending (call : Call) : List EncodedLine :=
  match call.stage with
  | .running (.publishing answer) => answer.lines
  | _ => []

/-- The lines of a document that are stored and not yet returned. -/
def Service.pending (service : Service) (uri : String) : List EncodedLine :=
  match (service.queue.lane uri).head? with
  | some call => Call.pending call
  | none => []

/-- Snapshots are canonical. A client to whom answers are published knows what they show; one that
has results knows it but for the lines that are pending, which only publications delay.
-/
structure Mirrored (publishes : Bool) (effects : List Effect) (service : Service) : Prop where
  canonical : ∀ uri snapshot, service.store.get? uri = some snapshot → snapshot.Canonical
  published
    : publishes = true
      → ∀ uri, (Effect.sheet .published uri effects).Shows (service.store.get? uri)
  returned
    : ∀ uri,
        ((Effect.sheet .returned uri effects).patch
          ((service.pending uri).map EncodedLine.record)).Shows (service.store.get? uri)
  unpublished : publishes = false → ∀ uri, service.pending uri = []

variable {publishes : Bool} {service : Service} {effects : List Effect}

/-- A call that moves is the head of its lane, so its own lines are pending before and after. -/
theorem Service.Moves.pending {call : Call} {move : Move} (moves : service.Moves call move)
    (sound : service.Sound) (uri : String)
    : service.pending call.uri = call.pending
      ∧ (service.advance call move).1.pending uri
        = if uri = call.uri then Call.pending { call with stage := move.stage }
          else service.pending uri := by
  obtain ⟨rest, head⟩ := moves.head
  have lane := sound.orderly.lane_advance moves.member head move.stage uri
  refine ⟨by rw [Service.pending, head]; rfl, ?_⟩
  simp only [Service.pending, Service.advance, lane]
  by_cases same : uri = call.uri
  · rw [if_pos same, if_pos same]
    cases stage : move.stage with
    | waiting | running _ => rfl
    | ended answer =>
        simp only [Stage.isOver, if_true]
        cases behind : rest.head? with
        | none => rfl
        | some next =>
            have waits := sound.orderly.next_waits head behind
            cases turn : next.stage with
            | waiting => simp [Call.pending, turn]
            | running _ | ended _ => simp [turn, Stage.isWaiting] at waits
  · rw [if_neg same, if_neg same]

-----------------------------------------------------------------------------------------
-- Every step keeps clients up to date
-----------------------------------------------------------------------------------------

namespace Mirrored

/-- At the start no document is open and no client knows of any. -/
theorem initial (publishes : Bool) : Mirrored publishes [] .initial where
  canonical := by simp [Service.initial]
  published := fun _ _ => rfl
  returned := fun _ => rfl
  unpublished := fun _ _ => rfl

/-- A call that moves leaves the clients of other documents up to date. -/
theorem advance (mirrored : Mirrored publishes effects service) (sound : service.Sound)
    {call : Call} {move : Move} (moves : service.Moves call move)
    (canonical : ∀ snapshot, move.store.get? call.uri = some snapshot → snapshot.Canonical)
    (published
      : publishes = true
        → ((service.advance call move).2.foldl (Effect.amend .published call.uri)
            (Effect.sheet .published call.uri effects)).Shows (move.store.get? call.uri))
    (returned
      : (((service.advance call move).2.foldl (Effect.amend .returned call.uri)
            (Effect.sheet .returned call.uri effects)).patch
          ((Call.pending { call with stage := move.stage }).map EncodedLine.record)).Shows
            (move.store.get? call.uri))
    (unpublished : publishes = false → Call.pending { call with stage := move.stage } = [])
    : Mirrored publishes (effects ++ (service.advance call move).2)
        (service.advance call move).1 := by
  have work := Service.work_advance moves.about
  have silent {uri : String} (different : uri ≠ call.uri) {channel : Channel}
      : Effect.sheet channel uri (effects ++ (service.advance call move).2)
        = Effect.sheet channel uri effects := by
    rw [Effect.sheet, List.foldl_append]
    refine Effect.amend_silent (fun effect member => Effect.silent_other ?_) _
    rw [(work effect member).1]
    exact Ne.symm different
  constructor
  case canonical =>
    intro uri snapshot present
    by_cases same : uri = call.uri
    · exact canonical snapshot (same ▸ present)
    · refine mirrored.canonical uri snapshot ?_
      rwa [← moves.about.others uri same]
  case published =>
    intro publisher uri
    by_cases same : uri = call.uri
    · subst same
      rw [Effect.sheet, List.foldl_append]
      exact published publisher
    · rw [silent same]
      have shown := mirrored.published publisher uri
      rwa [← moves.about.others uri same] at shown
  case returned =>
    intro uri
    rw [(moves.pending sound uri).2]
    by_cases same : uri = call.uri
    · subst same
      rw [if_pos rfl, Effect.sheet, List.foldl_append]
      exact returned
    · rw [if_neg same, silent same]
      have shown := mirrored.returned uri
      rwa [← moves.about.others uri same] at shown
  case unpublished =>
    intro publisher uri
    rw [(moves.pending sound uri).2]
    split
    · exact unpublished publisher
    · exact mirrored.unpublished publisher uri

/-- A call that moves without telling anything and keeps its document leaves all clients up to
date.
-/
theorem silence (mirrored : Mirrored publishes effects service) (sound : service.Sound)
    {call : Call} {move : Move} (moves : service.Moves call move)
    (kept : move.store.get? call.uri = service.store.get? call.uri)
    (silent
      : ∀ channel, ∀ effect ∈ (service.advance call move).2, effect.Silent channel call.uri)
    (before : Call.pending call = []) (after : Call.pending { call with stage := move.stage } = [])
    : Mirrored publishes (effects ++ (service.advance call move).2)
        (service.advance call move).1 := by
  refine mirrored.advance sound moves ?_ ?_ ?_ (fun _ => after)
  · rw [kept]
    exact mirrored.canonical call.uri
  · intro publisher
    rw [Effect.amend_silent (silent .published), kept]
    exact mirrored.published publisher call.uri
  · have shown := mirrored.returned call.uri
    rw [(moves.pending sound call.uri).1, before] at shown
    rw [Effect.amend_silent (silent .returned), after, kept]
    exact shown

/-- A call that fails before it stores anything leaves all clients up to date. -/
theorem failure (mirrored : Mirrored publishes effects service) (sound : service.Sound)
    {call : Call} {failure : Failure}
    (moves : service.Moves call ⟨service.store, .ended (.error failure), []⟩)
    (before : Call.pending call = [])
    : Mirrored publishes
        (effects ++ (service.advance call ⟨service.store, .ended (.error failure), []⟩).2)
        (service.advance call ⟨service.store, .ended (.error failure), []⟩).1 := by
  refine mirrored.silence sound moves rfl (fun channel effect told => ?_) before rfl
  rw [List.mem_singleton.mp told]
  exact Effect.silent_failure _ _ _

/-- A request that takes its turn tells of nothing but a close, by cases on what it finds. -/
theorem start (mirrored : Mirrored publishes effects service) (sound : service.Sound)
    {call : Call} (member : call ∈ service.queue.jobs) (waiting : call.stage = .waiting)
    (free : service.queue.free call = true)
    : Mirrored publishes
        (effects ++ (service.advance call (.ofTurn service.store call.task)).2)
        (service.advance call (.ofTurn service.store call.task)).1 := by
  have moves := sound.moves_start member waiting free
  have before : Call.pending call = [] := by simp [Call.pending, waiting]
  have named := sound.named call member
  cases task : call.task with
  | close uri =>
      rw [task] at moves named
      rw [Request.uri] at named
      subst named
      cases found : service.store.get? call.uri with
      | none =>
          have turn
              : Move.ofTurn service.store (.close call.uri)
                = ⟨service.store, .ended (.error (.notOpen call.uri)), []⟩ := by
            simp only [Move.ofTurn, found]
          rw [turn] at moves ⊢
          exact mirrored.failure sound moves before
      | some snapshot =>
          have turn
              : Move.ofTurn service.store (.close call.uri)
                = ⟨service.store.erase call.uri, .ended (.ok (.closed call.uri)),
                  [.removed call.uri]⟩ := by
            simp only [Move.ofTurn, found]
          have closed : (service.store.erase call.uri).get? call.uri = none := by simp
          rw [turn] at moves ⊢
          refine mirrored.advance sound moves ?_ ?_ ?_ (fun _ => rfl)
          · simp
          · intro _
            rw [closed]
            simp [Service.advance, Effect.amend, Effect.uri, Sheet.Shows]
          · rw [closed]
            simp [Service.advance, Effect.amend, Effect.uri, Sheet.Shows, Call.pending, Sheet.patch]
  | highlight request =>
      rw [task] at moves
      cases checked : request.checkVersion (service.store.get? request.uri) with
      | error failure =>
          have turn
              : Move.ofTurn service.store (.highlight request)
                = ⟨service.store, .ended (.error failure), []⟩ := by
            simp only [Move.ofTurn, checked]
          rw [turn] at moves ⊢
          exact mirrored.failure sound moves before
      | ok _ =>
          have turn
              : Move.ofTurn service.store (.highlight request)
                = ⟨service.store,
                  .running (.loading request (service.store.get? request.uri)), []⟩ := by
            simp only [Move.ofTurn, checked]
          rw [turn] at moves ⊢
          exact mirrored.silence sound moves rfl (fun channel effect told => by contradiction)
            before rfl

/-- A call that stores a snapshot tells of its answer in time, if the answer turns sheets that show
what was stored before into sheets that show the snapshot.
-/
theorem answered (mirrored : Mirrored publishes effects service) (sound : service.Sound)
    {call : Call} {move : Move} (moves : service.Moves call move)
    (before : Call.pending call = []) {snapshot : Snapshot} {answer : Highlighted}
    {places : List FileLocation}
    (turn
      : move
        = if publishes && !answer.lines.isEmpty then
            ⟨service.store.set call.uri snapshot, .running (.publishing answer),
              places.map (.warned call.uri) ++ [.stored call.uri snapshot]
                ++ [.handed answer true]⟩
          else
            ⟨service.store.set call.uri snapshot, .ended (.ok (.highlighted answer)),
              places.map (.warned call.uri) ++ [.stored call.uri snapshot]⟩)
    (named : answer.uri = call.uri) (canonical : snapshot.Canonical)
    (shows
      : ∀ sheet : Sheet String,
          sheet.Shows (service.store.get? call.uri)
          → (sheet.patch (answer.lines.map EncodedLine.record)).Shows (some snapshot))
    : Mirrored publishes (effects ++ (service.advance call move).2)
        (service.advance call move).1 := by
  have present : (service.store.set call.uri snapshot).get? call.uri = some snapshot := by simp
  have fits
      : ∀ stored,
          (service.store.set call.uri snapshot).get? call.uri = some stored
          → stored.Canonical := by
    intro stored isStored
    rw [present] at isStored
    exact Option.some.inj isStored ▸ canonical
  have known := mirrored.returned call.uri
  rw [(moves.pending sound call.uri).1, before] at known
  have silent (channel : Channel) (sheet : Sheet String)
      : (places.map (Effect.warned call.uri) ++ [Effect.stored call.uri snapshot]).foldl
          (Effect.amend channel call.uri) sheet
        = sheet :=
    Effect.amend_silent (Effect.silent_done _ _ _) sheet
  by_cases handed : (publishes && !answer.lines.isEmpty) = true
  · rw [if_pos handed] at turn
    subst turn
    refine mirrored.advance sound moves fits ?_ ?_ ?_
    · intro publisher
      simp only [Service.advance, List.foldl_append, silent, present, List.foldl_cons,
        List.foldl_nil, Effect.amend, Effect.uri, named, if_true]
      exact shows _ (mirrored.published publisher call.uri)
    · simp only [Service.advance, List.foldl_append, silent, present, List.foldl_cons,
        List.foldl_nil, Effect.amend, Effect.uri, named, if_true]
      exact shows _ known
    · intro none
      simp [none] at handed
  · rw [if_neg handed] at turn
    subst turn
    refine mirrored.advance sound moves fits ?_ ?_ (fun _ => rfl)
    · intro publisher
      have unchanged : answer.lines = [] := by simpa [publisher] using handed
      have shown := shows _ (mirrored.published publisher call.uri)
      rw [unchanged] at shown
      simp only [Service.advance, List.foldl_append, silent, present, List.foldl_cons,
        List.foldl_nil, Effect.amend, Effect.uri, if_true]
      exact shown
    · simp only [Service.advance, List.foldl_append, silent, present, List.foldl_cons,
        List.foldl_nil, Effect.amend, Effect.uri, if_true]
      exact shows _ known

/-- A call whose load has ended leaves all clients up to date. Witness: what it was compared with is
what they still know.
-/
theorem loaded (mirrored : Mirrored publishes effects service) (sound : service.Sound)
    {call : Call} (member : call ∈ service.queue.jobs) {request : HighlightRequest}
    {base : Option Snapshot} (loading : call.stage = .running (.loading request base))
    {tree : Except LoadFault Tree} (resolved : ∀ found, tree = .ok found → found.Resolved)
    (delivered
      : ∀ effect ∈ (service.advance call (.ofLoad publishes service.store request base tree)).2,
          effect.losesAnswer = false)
    : Mirrored publishes
        (effects
          ++ (service.advance call (.ofLoad publishes service.store request base tree)).2)
        (service.advance call (.ofLoad publishes service.store request base tree)).1 := by
  have moves : service.Moves call (.ofLoad publishes service.store request base tree) :=
    sound.moves_loaded member loading tree
  have before : Call.pending call = [] := by simp [Call.pending, loading]
  obtain ⟨task, compared, _⟩ := sound.loading call member request base loading
  have uri : request.uri = call.uri := by
    rw [← sound.named call member, task, Request.uri]
  cases tree with
  | error fault => exact mirrored.failure sound moves before
  | ok tree =>
      have canonical : ∀ snapshot, base = some snapshot → snapshot.Canonical :=
        fun snapshot same => mirrored.canonical call.uri snapshot (compared ▸ same)
      cases highlighted : tree.highlights with
      | error fault =>
          rw [Move.ofLoad_of_endless publishes service.store request base highlighted] at moves ⊢
          exact mirrored.failure sound moves before
      | ok found =>
          obtain ⟨snapshot, kept, canonicalNext, failed | ⟨answer, answered, shows⟩⟩ :=
            HighlightRequest.shows_commit (resolved tree rfl) highlighted canonical
          · obtain ⟨fault, failed⟩ := failed
            have turn := Move.ofLoad_of_failure publishes service.store kept failed
            rw [turn] at delivered
            have lost := delivered _ (List.mem_append_right _ List.mem_cons_self)
            contradiction
          · have turn := Move.ofLoad_of_answer publishes service.store kept answered
            rw [uri] at turn
            exact mirrored.answered sound moves before turn
              ((HighlightRequest.uri_of_commit answered).trans uri) canonicalNext
              (compared ▸ shows)

/-- A call whose publication has succeeded returns the lines that were pending. -/
theorem publication (mirrored : Mirrored publishes effects service) (sound : service.Sound)
    {call : Call} (member : call ∈ service.queue.jobs) {answer : Highlighted}
    (publishing : call.stage = .running (.publishing answer)) {result : Except String Unit}
    (delivered
      : ∀ effect ∈ (service.advance call (.ofResult service.store answer result)).2,
          effect.losesAnswer = false)
    : Mirrored publishes
        (effects ++ (service.advance call (.ofResult service.store answer result)).2)
        (service.advance call (.ofResult service.store answer result)).1 := by
  have moves := sound.moves_published member publishing result
  have pending : Call.pending call = answer.lines := by simp [Call.pending, publishing]
  cases result with
  | error message =>
      have lost := delivered _ List.mem_cons_self
      contradiction
  | ok _ =>
      refine mirrored.advance sound moves (mirrored.canonical call.uri) ?_ ?_ (fun _ => rfl)
      · intro publisher
        simp only [Service.advance, Move.ofResult, Highlighted.afterPublication, List.nil_append,
          List.foldl_cons, List.foldl_nil, Effect.amend, Effect.uri, if_true]
        exact mirrored.published publisher call.uri
      · have shown := mirrored.returned call.uri
        rw [(moves.pending sound call.uri).1, pending] at shown
        simp only [Service.advance, Move.ofResult, Highlighted.afterPublication, List.nil_append,
          List.foldl_cons, List.foldl_nil, Effect.amend, Effect.uri, if_true]
        exact shown

/-- A step that moves no call leaves all clients up to date: it changes no document, and no head of
a lane that has stored anything.
-/
theorem still (mirrored : Mirrored publishes effects service)
    {queue : Queue Request Progress (Except Failure Answer)} {others : List Effect}
    (silent : ∀ channel uri, ∀ effect ∈ others, effect.Silent channel uri)
    (pending : ∀ uri, Service.pending ⟨service.store, queue⟩ uri = service.pending uri)
    : Mirrored publishes (effects ++ others) ⟨service.store, queue⟩ where
  canonical := mirrored.canonical
  published publisher uri := by
    rw [Effect.sheet, List.foldl_append, Effect.amend_silent (silent .published uri)]
    exact mirrored.published publisher uri
  returned uri := by
    rw [Effect.sheet, List.foldl_append, Effect.amend_silent (silent .returned uri), pending]
    exact mirrored.returned uri
  unpublished publisher uri := by
    rw [pending]
    exact mirrored.unpublished publisher uri

/-- Every step keeps all clients up to date, by cases on the event. -/
theorem step (mirrored : Mirrored publishes effects service) (sound : service.Sound)
    {event : Event} {result : Service × List Effect}
    (stepped : service.step publishes event = some result)
    (resolved : ∀ ticket tree, event = .loaded ticket (.ok tree) → tree.Resolved)
    (delivered : ∀ effect ∈ result.2, effect.losesAnswer = false)
    : Mirrored publishes (effects ++ result.2) result.1 := by
  cases Service.step_steps stepped with
  | arrive request =>
      refine mirrored.still (fun _ _ effect told => by contradiction) fun uri => ?_
      simp only [Service.pending, Queue.lane_arrive]
      by_cases same : uri = request.uri
      · rw [if_pos same, same]
        cases service.queue.lane request.uri <;> rfl
      · rw [if_neg same]
  | start member waiting free => exact mirrored.start sound member waiting free
  | @loaded call request base member loading tree =>
      exact mirrored.loaded sound member loading
        (fun found same => resolved call.ticket found (same ▸ rfl)) delivered
  | published member publishing outcome =>
      exact mirrored.publication sound member publishing delivered
  | @leave call answer member ended =>
      refine mirrored.still (fun channel uri effect told sheet => ?_) fun uri => ?_
      · rw [List.mem_singleton.mp told]
        cases channel <;> simp [Effect.amend]
      · have lane := sound.orderly.lane_leave member (by simp [ended, Stage.isOver]) uri
        simp only [Service.pending, lane]

end Mirrored

-----------------------------------------------------------------------------------------
-- Clients after every run
-----------------------------------------------------------------------------------------

/-- Nothing is pending of a document if none of its calls is being published. -/
theorem Service.pending_eq_nil {service : Service} {uri : String}
    (quiet
      : ∀ call ∈ service.queue.jobs, ∀ answer,
          call.uri = uri → call.stage ≠ .running (.publishing answer))
    : service.pending uri = [] := by
  rw [Service.pending]
  cases head : (service.queue.lane uri).head? with
  | none => rfl
  | some call =>
      obtain ⟨member, named, _⟩ := Queue.mem_lane.mp (List.mem_of_mem_head? head)
      simp only [Call.pending]
      split
      next answer publishing => exact absurd publishing (quiet call member answer named)
      next => rfl

/-- After every run in which nothing fails to be encoded or published, a client to whom answers are
published has of each document what its snapshot shows, and nothing of one that is not open. So has
a client with the results of its calls, unless a call on the document is still being published.
-/
theorem Service.sheet_shows_of_run {publishes : Bool} {events : List Event} {service : Service}
    {effects : List Effect}
    (ran : Service.run publishes .initial events = some (service, effects))
    (resolved : ∀ ticket tree, .loaded ticket (.ok tree) ∈ events → tree.Resolved)
    (delivered : ∀ effect ∈ effects, effect.losesAnswer = false) (uri : String)
    : (publishes = true
        → (Effect.sheet .published uri effects).Shows (service.store.get? uri))
      ∧ (publishes = false
          ∨ (∀ call ∈ service.queue.jobs, ∀ answer,
              call.uri = uri → call.stage ≠ .running (.publishing answer))
        → (Effect.sheet .returned uri effects).Shows (service.store.get? uri)) := by
  have mirrored : Mirrored publishes effects service := by
    refine (Sound.of_run
      (fun events effects service =>
        (∀ ticket tree, .loaded ticket (.ok tree) ∈ events → tree.Resolved)
        → (∀ effect ∈ effects, effect.losesAnswer = false)
        → Mirrored publishes effects service)
      (fun _ _ => .initial publishes) ?_ ran).2 resolved delivered
    intro events effects service event result sound holds stepped resolved delivered
    obtain ⟨before, now⟩ := List.forall_mem_append.mp delivered
    have earlier := holds
      (fun ticket tree loaded => resolved ticket tree (List.mem_append_left _ loaded)) before
    refine earlier.step sound stepped (fun ticket tree isLoaded => ?_) now
    exact resolved ticket tree (List.mem_append_right _ (List.mem_singleton.mpr isLoaded.symm))
  refine ⟨fun publisher => mirrored.published publisher uri, fun quiet => ?_⟩
  have nothing : service.pending uri = [] := by
    rcases quiet with publisher | quiet
    · exact mirrored.unpublished publisher uri
    · exact Service.pending_eq_nil quiet
  have shown := mirrored.returned uri
  rw [nothing] at shown
  exact shown

/-- A document that is highlighted, closed and highlighted again. In between a version is stale and
a tree is missing; the last version changes a line and empties another.
-/
def Service.reopened : List Event :=
  [.arrive (.highlight ⟨"main.cpp", .ofInt 7, "first.json"⟩), .start 0,
    .loaded 0 (.ok (.ofMacro 2 0 3)), .published 0 (.ok ()), .leave 0,
    .arrive (.highlight ⟨"main.cpp", .ofInt 7, "first.json"⟩), .start 1, .leave 1,
    .arrive (.close "main.cpp"), .start 2, .leave 2,
    .arrive (.highlight ⟨"main.cpp", .ofInt 1, "first.json"⟩), .start 3,
    .loaded 3 (.ok (.ofMacro 2 0 3)), .published 3 (.ok ()), .leave 3,
    .arrive (.highlight ⟨"main.cpp", .ofInt 2, "missing.json"⟩), .start 4,
    .loaded 4 (.error (.notFound "missing.json")), .leave 4,
    .arrive (.highlight ⟨"main.cpp", .ofInt 2, "second.json"⟩), .start 5,
    .loaded 5 (.ok (.ofMacro 0 4 9)), .published 5 (.ok ()), .leave 5]

/-- A client knows the document that is highlighted again, by what was published of it. -/
theorem Service.sheet_shows_of_run_reopened
    : ∃ service effects,
        Service.run true .initial reopened = some (service, effects)
        ∧ (∀ effect ∈ effects, effect.losesAnswer = false)
        ∧ (service.store.get? "main.cpp").isSome = true
        ∧ (Effect.sheet .published "main.cpp" effects).Shows (service.store.get? "main.cpp")
        ∧ (Effect.sheet .returned "main.cpp" effects).Shows (service.store.get? "main.cpp") := by
  have runs
      : (Service.run true .initial reopened).any (fun result =>
          result.2.all (fun effect => !effect.losesAnswer)
            && (result.1.store.get? "main.cpp").isSome && result.1.queue.jobs.isEmpty) = true := by
    cbv
  obtain ⟨⟨service, effects⟩, ran, checked⟩ := (Option.any_eq_true _ _).mp runs
  simp only [Bool.and_eq_true, List.all_eq_true, Bool.not_eq_true', List.isEmpty_iff] at checked
  obtain ⟨⟨delivered, isOpen⟩, idle⟩ := checked
  have resolved : ∀ ticket tree, .loaded ticket (.ok tree) ∈ reopened → tree.Resolved := by
    intro ticket tree member
    simp only [reopened, List.mem_cons, reduceCtorEq, Event.loaded.injEq, Except.ok.injEq,
      and_false, List.not_mem_nil, false_or, or_false] at member
    obtain ⟨_, rfl⟩ | ⟨_, rfl⟩ | ⟨_, rfl⟩ := member <;>
      exact Tree.resolved_ofMacro (by decide) (by decide) (by decide)
  have shows := Service.sheet_shows_of_run ran resolved delivered "main.cpp"
  exact ⟨service, effects, ran, delivered, isOpen, shows.1 rfl,
    shows.2 (Or.inr (by simp [idle]))⟩

end Highlighter
