import Highlighter.Proofs.Service.Mirroring
import Highlighter.Service.Surroundings

/-! Rejected highlights. A request that is rejected by anything but the publisher leaves no trace
and can be repeated with a better tree, unless its changed lines cannot be encoded: its snapshot is
stored before they are. Then the document has tokens that no client has been sent, and the version
is taken.
-/

namespace Highlighter

variable {surroundings : Surroundings} {store next : Store} {request : HighlightRequest}
variable {effects : List Effect} {failure : Failure}

/-- A version is newer and has a tree whose walk ends, and its changed lines have a token that no
record can hold.
-/
def HighlightRequest.Overflows (request : HighlightRequest) (surroundings : Surroundings)
    (store : Store)
    : Prop :=
  request.checkVersion (store.get? request.uri) = .ok ()
  ∧ ∃ tree found lines,
      surroundings.load request.path = .ok tree
      ∧ tree.highlights = .ok found
      ∧ Line.changes found.tokens (Snapshot.baseline (store.get? request.uri)) = .ok lines
      ∧ ∃ line ∈ lines, ∃ token ∈ line.tokens, ¬ token.Fits

-----------------------------------------------------------------------------------------
-- How a highlight is rejected
-----------------------------------------------------------------------------------------

/-- The ways in which a highlight is rejected before it is published, each with the documents that
are open then and with its effects.
-/
inductive Store.Rejects (surroundings : Surroundings) (store : Store) (request : HighlightRequest)
    : Store → List Effect → Failure → Prop
  | stale {current}
    (taken
      : request.checkVersion (store.get? request.uri)
        = .error (.stale request.uri request.version current))
    : Rejects surroundings store request store [] (.stale request.uri request.version current)
  | unloaded {fault}
    (accepted : request.checkVersion (store.get? request.uri) = .ok ())
    (missing : surroundings.load request.path = .error fault)
    : Rejects surroundings store request store [] (.load fault)
  | endless {tree fault}
    (accepted : request.checkVersion (store.get? request.uri) = .ok ())
    (loaded : surroundings.load request.path = .ok tree)
    (lost : tree.highlights = .error fault)
    : Rejects surroundings store request store [] (.endless fault)
  | unsorted {tree found fault}
    (accepted : request.checkVersion (store.get? request.uri) = .ok ())
    (loaded : surroundings.load request.path = .ok tree)
    (highlighted : tree.highlights = .ok found)
    (mixed
      : Line.changes found.tokens (Snapshot.baseline (store.get? request.uri)) = .error fault)
    : Rejects surroundings store request store
        (found.diagnostics.map (.warned request.uri)) (.unsorted fault)
  | overflow {tree found lines fault}
    (accepted : request.checkVersion (store.get? request.uri) = .ok ())
    (loaded : surroundings.load request.path = .ok tree)
    (highlighted : tree.highlights = .ok found)
    (changed
      : Line.changes found.tokens (Snapshot.baseline (store.get? request.uri)) = .ok lines)
    (wide : EncodedLine.ofLines lines = .error fault)
    : Rejects surroundings store request
        (store.set request.uri ⟨request.version, found.tokens⟩)
        (found.diagnostics.map (.warned request.uri)
          ++ [.stored request.uri ⟨request.version, found.tokens⟩])
        (.overflow fault)

/-- Only a version that is taken fails the check of versions, by its definition. -/
theorem HighlightRequest.stale_of_checkVersion {base : Option Snapshot}
    (taken : request.checkVersion base = .error failure)
    : ∃ current, failure = .stale request.uri request.version current := by
  unfold checkVersion at taken
  split at taken
  · contradiction
  · split at taken
    · exact ⟨_, (Except.error.inj taken).symm⟩
    · contradiction

/-- Only the publisher can still fail an answer that was handed over, by cases on its result. -/
theorem Highlighted.failure_of_afterPublication {answer : Highlighted}
    {result : Except String Unit} (failed : answer.afterPublication result = .error failure)
    : ∃ message, failure = .publication message := by
  cases result with
  | error message => exact ⟨message, (Except.error.inj failed).symm⟩
  | ok _ => contradiction

/-- Every rejection that is not the publisher's is one of these, by cases on what is found. -/
theorem Store.rejects_of_perform
    (rejected
      : store.perform surroundings (.highlight request) = (next, effects, .error failure))
    (unpublished : ∀ message, failure ≠ .publication message)
    : store.Rejects surroundings request next effects failure := by
  unfold perform at rejected
  cases accepted : request.checkVersion (store.get? request.uri) with
  | error stale =>
      obtain ⟨current, rfl⟩ := HighlightRequest.stale_of_checkVersion accepted
      simp only [accepted, Prod.mk.injEq, Except.error.injEq] at rejected
      obtain ⟨rfl, rfl, rfl⟩ := rejected
      exact .stale accepted
  | ok _ =>
      cases loaded : surroundings.load request.path with
      | error fault =>
          simp only [accepted, loaded, Prod.mk.injEq, Except.error.injEq] at rejected
          obtain ⟨rfl, rfl, rfl⟩ := rejected
          exact .unloaded accepted loaded
      | ok tree =>
          simp only [accepted, loaded] at rejected
          cases request.commits (store.get? request.uri) tree with
          | endless lost same =>
              simp only [same, keep, List.map_nil, List.append_nil, Prod.mk.injEq,
                Except.error.injEq] at rejected
              obtain ⟨rfl, rfl, rfl⟩ := rejected
              exact .endless accepted loaded lost
          | unsorted highlighted mixed same =>
              simp only [same, keep, List.append_nil, Prod.mk.injEq, Except.error.injEq] at rejected
              obtain ⟨rfl, rfl, rfl⟩ := rejected
              exact .unsorted accepted loaded highlighted mixed
          | overflow highlighted changed wide same =>
              simp only [same, keep, Prod.mk.injEq, Except.error.injEq] at rejected
              obtain ⟨rfl, rfl, rfl⟩ := rejected
              exact .overflow accepted loaded highlighted changed wide
          | answered _ _ _ same =>
              simp only [same, keep] at rejected
              split at rejected
              · obtain ⟨message, refused⟩ :=
                  Highlighted.failure_of_afterPublication (congrArg (·.2.2) rejected)
                exact absurd refused (unpublished message)
              · simp at rejected

/-- No rejected highlight tells a client anything of its document or of another one. -/
theorem Store.Rejects.silent (rejects : store.Rejects surroundings request next effects failure)
    (channel : Channel) (uri : String)
    : ∀ effect ∈ effects, effect.Silent channel uri := by
  cases rejects with
  | stale _ | unloaded _ _ | endless _ _ _ => simp
  | unsorted _ _ _ _ =>
      intro effect member sheet
      obtain ⟨place, _, rfl⟩ := List.mem_map.mp member
      cases channel <;> simp [Effect.amend]
  | overflow _ _ _ _ _ => exact Effect.silent_done _ _ _

/-- A version that is rejected for another reason than being stale is newer than the stored one. -/
theorem Store.Rejects.accepted (rejects : store.Rejects surroundings request next effects failure)
    (fresh : ∀ uri version current, failure ≠ .stale uri version current)
    : request.checkVersion (store.get? request.uri) = .ok () := by
  cases rejects with
  | stale _ => exact absurd rfl (fresh _ _ _)
  | unloaded accepted _ | endless accepted _ _ | unsorted accepted _ _ _
  | overflow accepted _ _ _ _ => exact accepted

/-- A rejection leaves all documents as they were, or one that overflows stores its version. -/
theorem Store.Rejects.overflows_or_unchanged
    (rejects : store.Rejects surroundings request next effects failure)
    : (request.Overflows surroundings store
          ∧ ∃ tree found,
              surroundings.load request.path = .ok tree
              ∧ tree.highlights = .ok found
              ∧ next = store.set request.uri ⟨request.version, found.tokens⟩)
      ∨ ¬ request.Overflows surroundings store ∧ next = store := by
  cases rejects with
  | stale taken =>
      refine Or.inr ⟨fun ⟨accepted, _⟩ => ?_, rfl⟩
      simp [taken] at accepted
  | unloaded _ missing =>
      refine Or.inr ⟨fun ⟨_, tree, _, _, loaded, _⟩ => ?_, rfl⟩
      simp [missing] at loaded
  | endless _ loaded lost =>
      refine Or.inr ⟨fun ⟨_, other, _, _, same, highlighted, _⟩ => ?_, rfl⟩
      obtain rfl := Except.ok.inj (loaded.symm.trans same)
      simp [lost] at highlighted
  | unsorted _ loaded highlighted mixed =>
      refine Or.inr ⟨fun ⟨_, other, _, _, same, alike, compared, _⟩ => ?_, rfl⟩
      obtain rfl := Except.ok.inj (loaded.symm.trans same)
      obtain rfl := Except.ok.inj (highlighted.symm.trans alike)
      simp [mixed] at compared
  | @overflow tree found lines fault accepted loaded highlighted changed wide =>
      refine Or.inl ⟨⟨accepted, tree, found, lines, loaded, highlighted, changed, ?_⟩, tree, found,
        loaded, highlighted, rfl⟩
      by_contra fits
      simp only [not_exists, not_and, not_not] at fits
      obtain ⟨encoded, lined⟩ := EncodedLine.exists_ofLines.mpr fits
      rw [wide] at lined
      contradiction

-----------------------------------------------------------------------------------------
-- What a version that overflows leaves behind
-----------------------------------------------------------------------------------------

/-- A number is at most itself, by the order of the extended line. -/
theorem Number.atMost_refl (number : Number) : number.atMost number = true := by
  simp [atMost]

/-- A version that is stored is taken for every tree that a request may find. -/
theorem Store.perform_set (repeated : Surroundings) (store : Store) (request : HighlightRequest)
    (tokens : List Token)
    : perform repeated (store.set request.uri ⟨request.version, tokens⟩) (.highlight request)
      = (store.set request.uri ⟨request.version, tokens⟩, [],
        .error (.stale request.uri request.version request.version)) := by
  simp [perform, HighlightRequest.checkVersion, Number.atMost_refl]

/-- A request that is not stale is not so with any other tree: its version is checked first. -/
theorem Store.perform_ne_stale {repeated : Surroundings}
    (accepted : request.checkVersion (store.get? request.uri) = .ok ()) (uri : String)
    (version current : Number)
    : (store.perform repeated (.highlight request)).2.2 ≠ .error (.stale uri version current) := by
  rcases performed : store.perform repeated (.highlight request) with ⟨next, effects, answer⟩
  rintro rfl
  cases Store.rejects_of_perform performed (by simp) with
  | stale taken => simp [taken] at accepted

/-- No sheet shows a version that overflows. Witness: the token that no record can hold is on a line
of the document.
-/
theorem HighlightRequest.Overflows.not_shows (overflows : request.Overflows surroundings store)
    {tree : Tree} (loaded : surroundings.load request.path = .ok tree) {found : Highlights}
    (highlighted : tree.highlights = .ok found) (sheet : Sheet String)
    : ¬ sheet.Shows (some ⟨request.version, found.tokens⟩) := by
  obtain ⟨_, other, _, lines, same, alike, changed, line, member, token, inside, wide⟩ := overflows
  obtain rfl := Except.ok.inj (loaded.symm.trans same)
  obtain rfl := Except.ok.inj (highlighted.symm.trans alike)
  have sorted : Token.Sorted found.tokens := Tree.sorted_highlights highlighted
  obtain ⟨whole, grouped, within⟩ := (Line.group_groups sorted.lines).exists_mem
    (Line.mem_of_changes changed line member token inside)
  rintro ⟨encoded, lined, _⟩
  exact wide (EncodedLine.exists_ofLines.mp ⟨encoded, lined⟩ whole grouped token within)

/-- A highlight that is rejected by anything but the publisher leaves all documents as they were,
exactly if it does not overflow. Its clients know then what they knew, and if it was not stale, it
will not be so with another tree. One that overflows leaves its version behind, which no client can
be shown, and is stale with every tree from then on.
-/
theorem Store.perform_rejected
    (rejected
      : store.perform surroundings (.highlight request) = (next, effects, .error failure))
    (unpublished : ∀ message, failure ≠ .publication message)
    : (next = store ↔ ¬ request.Overflows surroundings store)
      ∧ (next = store
        → (∀ channel uri sheet,
            Sheet.Shows sheet (store.get? uri)
            → (effects.foldl (Effect.amend channel uri) sheet).Shows (next.get? uri))
          ∧ ((∀ uri version current, failure ≠ .stale uri version current)
            → ∀ repeated uri version current,
                (next.perform repeated (.highlight request)).2.2
                  ≠ .error (.stale uri version current)))
      ∧ (request.Overflows surroundings store
        → (∃ tree found,
              surroundings.load request.path = .ok tree
              ∧ tree.highlights = .ok found
              ∧ next = store.set request.uri ⟨request.version, found.tokens⟩)
          ∧ (∀ channel sheet,
              ¬ (effects.foldl (Effect.amend channel request.uri) sheet).Shows
                (next.get? request.uri))
          ∧ ∀ repeated,
              next.perform repeated (.highlight request)
              = (next, [], .error (.stale request.uri request.version request.version))) := by
  have rejects := Store.rejects_of_perform rejected unpublished
  have silent (channel : Channel) (uri : String) (sheet : Sheet String)
      : effects.foldl (Effect.amend channel uri) sheet = sheet :=
    Effect.amend_silent (rejects.silent channel uri) sheet
  simp only [silent]
  have unchanged_iff : next = store ↔ ¬ request.Overflows surroundings store := by
    rcases rejects.overflows_or_unchanged with
      ⟨overflows, _, found, _, _, stored⟩ | ⟨fits, unchanged⟩
    · refine iff_of_false (fun unchanged => ?_) (not_not_intro overflows)
      have accepted := overflows.1
      have taken : store.get? request.uri = some ⟨request.version, found.tokens⟩ := by
        rw [← unchanged, stored, ByUri.get?_set, if_pos rfl]
      simp [taken, HighlightRequest.checkVersion, Number.atMost_refl] at accepted
    · exact iff_of_true unchanged fits
  refine ⟨unchanged_iff, ?_, ?_⟩
  · rintro rfl
    refine ⟨fun _ _ _ shows => shows, fun fresh repeated uri version current => ?_⟩
    exact Store.perform_ne_stale (rejects.accepted fresh) uri version current
  · intro overflows
    rcases rejects.overflows_or_unchanged with
      ⟨_, tree, found, loaded, highlighted, stored⟩ | ⟨fits, _⟩
    · refine ⟨⟨tree, found, loaded, highlighted, stored⟩, fun _ sheet => ?_, fun repeated => ?_⟩
      · rw [stored, ByUri.get?_set, if_pos rfl]
        exact overflows.not_shows loaded highlighted sheet
      · rw [stored]
        exact Store.perform_set repeated store request found.tokens
    · exact absurd overflows fits

/-- Every path leads to one tree or to one fault, and nothing is published. -/
def Surroundings.always (tree : Except LoadFault Tree) : Surroundings := ⟨fun _ => tree, none⟩

/-- The first version of a document. -/
def HighlightRequest.first : HighlightRequest := ⟨"main.cpp", .ofInt 1, "main.json"⟩

/-- A first version whose tree is missing leaves the document closed, and is not stale later. -/
theorem Store.perform_rejected_missing
    : ∃ next effects,
        Store.perform (.always (.error (.notFound "main.json"))) .empty (.highlight .first)
          = (next, effects, .error (.load (.notFound "main.json")))
        ∧ next = .empty
        ∧ ∀ repeated uri version current,
            (next.perform repeated (.highlight .first)).2.2
              ≠ .error (.stale uri version current) := by
  have rejected
      : Store.perform (.always (.error (.notFound "main.json"))) .empty (.highlight .first)
        = (.empty, [], .error (.load (.notFound "main.json"))) :=
    rfl
  have left := Store.perform_rejected rejected (by simp)
  exact ⟨_, _, rejected, rfl, (left.2.1 rfl).2 (by simp)⟩

/-- A first version with a macro beyond the columns that a record can hold is rejected, but leaves
the document open, and its request is stale with a tree that fits.
-/
theorem Store.perform_rejected_wide
    : (Tree.ofMacro 2 4294967296 4294967299).Resolved
      ∧ ∃ next effects,
          Store.perform (.always (.ok (.ofMacro 2 4294967296 4294967299))) .empty
              (.highlight .first)
            = (next, effects, .error (.overflow ⟨4294967295, 4294967296⟩))
          ∧ next ≠ .empty
          ∧ (next.perform (.always (.ok (.ofMacro 2 0 3))) (.highlight .first)).2.2
            = .error (.stale "main.cpp" (.ofInt 1) (.ofInt 1)) := by
  refine ⟨Tree.resolved_ofMacro (by decide) (by decide) (by decide), ?_⟩
  have rejected
      : (Store.perform (.always (.ok (.ofMacro 2 4294967296 4294967299))) .empty
          (.highlight .first)).2.2
        = .error (.overflow ⟨4294967295, 4294967296⟩) := by
    cbv
  rcases performed : Store.perform (.always (.ok (.ofMacro 2 4294967296 4294967299))) .empty
      (.highlight .first) with ⟨next, effects, answer⟩
  rw [performed] at rejected
  dsimp only at rejected
  subst rejected
  cases Store.rejects_of_perform performed (by simp) with
  | overflow _ _ _ _ _ =>
      refine ⟨_, _, rfl, fun unchanged => ?_, ?_⟩
      · have closed := congrArg (fun store : Store => store.get? "main.cpp") unchanged
        simp [HighlightRequest.first] at closed
      · exact congrArg (·.2.2) (Store.perform_set _ _ _ _)

end Highlighter
