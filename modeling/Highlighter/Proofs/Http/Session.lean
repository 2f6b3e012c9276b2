import Highlighter.Http.Session
import Highlighter.Proofs.Service.Publication
import Highlighter.Proofs.Service.Rejection
import Highlighter.Proofs.Service.Serializability

/-! What an answer says has happened. A request changes documents only by a highlight or a close
that its route and its checked arguments give, so every status tells what has become of the document
that the body names. Versions are natural numbers, but for one gap: a text that reads as an infinity
is taken for a whole number.
-/

namespace Highlighter

-----------------------------------------------------------------------------------------
-- Highlights that succeed
-----------------------------------------------------------------------------------------

/-- A highlight that succeeds was newer, and its document is open with its version then. -/
theorem Store.accepted_of_perform {surroundings : Surroundings} {store next : Store}
    {request : HighlightRequest} {effects : List Effect} {answer : Answer}
    (performed
      : store.perform surroundings (.highlight request) = (next, effects, .ok answer))
    : request.checkVersion (store.get? request.uri) = .ok ()
      ∧ ∃ tokens, next.get? request.uri = some ⟨request.version, tokens⟩ := by
  unfold perform at performed
  cases accepted : request.checkVersion (store.get? request.uri) with
  | error stale => simp [accepted] at performed
  | ok _ =>
      refine ⟨rfl, ?_⟩
      cases found : surroundings.load request.path with
      | error fault => simp [accepted, found] at performed
      | ok tree =>
          cases answered : (request.commit (store.get? request.uri) tree).answer with
          | error failure => simp [accepted, found, answered] at performed
          | ok delivered =>
              obtain ⟨⟨tokens, kept⟩, -, -⟩ := HighlightRequest.commit_of_answer answered
              have stored : next = store.set request.uri ⟨request.version, tokens⟩ := by
                simp only [accepted, found, answered, keep, kept] at performed
                split at performed <;> exact (congrArg Prod.fst performed).symm
              exact ⟨tokens, by rw [stored, ByUri.get?_set, if_pos rfl]⟩

/-- A highlight leaves its document as it was, or open with the version that was asked for. -/
theorem Store.get?_perform_highlight (surroundings : Surroundings) (store : Store)
    (request : HighlightRequest)
    : (store.perform surroundings (.highlight request)).1.get? request.uri
        = store.get? request.uri
      ∨ ∃ tokens,
          (store.perform surroundings (.highlight request)).1.get? request.uri
          = some ⟨request.version, tokens⟩ := by
  unfold perform
  dsimp only
  split
  next => exact .inl rfl
  next =>
    split
    next => exact .inl rfl
    next tree _ =>
      have kept := Service.Store.get?_keep_commit store request (store.get? request.uri) tree
      split
      next => exact kept
      next => split <;> exact kept

/-- No number is greater than infinity. -/
theorem Number.atMost_infinite (number : Number) : number.atMost (.infinite false) = true := by
  cases number with
  | finite _ | negativeZero => simp [atMost, rank]
  | infinite negative => cases negative <;> simp [atMost, rank]

namespace Http

-----------------------------------------------------------------------------------------
-- Arguments that are checked
-----------------------------------------------------------------------------------------

/-- A whole number that is not below zero is a natural number or an infinity. -/
theorem natural_or_infinite {value : Json} {number : Number}
    (whole : toWhole? value = some number) (bounded : isBelowZero number = false)
    : number.toNat? ≠ none ∨ ∃ negative, number = .infinite negative := by
  have even : isWhole number = true := by
    unfold toWhole? at whole
    split at whole
    next given =>
      split at whole
      · contradiction
      · split at whole
        next holds => exact Option.some.inj whole ▸ holds
        next => contradiction
    next truth =>
      rw [← Option.some.inj whole]
      cases truth <;> rfl
    next =>
      rw [← Option.some.inj whole]
      rfl
    next text =>
      split at whole
      · contradiction
      · split at whole
        next read =>
          split at whole
          next holds => exact Option.some.inj whole ▸ holds
          next => contradiction
        next => contradiction
    next => contradiction
  cases number with
  | infinite negative => exact .inr ⟨negative, rfl⟩
  | negativeZero => exact .inl (by simp [Number.toNat?, Number.toInt?])
  | finite value =>
      simp only [isWhole, isBelowZero, decide_eq_true_eq, decide_eq_false_iff_not] at even bounded
      obtain ⟨n, natural⟩ := Int.eq_ofNat_of_zero_le (Rat.num_nonneg.mpr (not_lt.mp bounded))
      exact .inl (by simp [Number.toNat?, Number.toInt?, even, natural])

theorem Parameter.check_text {name : String} {value : Json} {argument : Argument}
    (checked : check ⟨name, .text⟩ value = .ok argument)
    : ∃ text, argument = .text text ∧ toText? (unwrapScalar value) = some text ∧ text ≠ "" := by
  simp only [check] at checked
  split at checked
  · contradiction
  next text found =>
    split at checked
    · contradiction
    next filled => exact ⟨text, (Except.ok.inj checked).symm, found, filled⟩

theorem Parameter.check_count {name : String} {value : Json} {argument : Argument}
    (checked : check ⟨name, .count⟩ value = .ok argument)
    : ∃ number,
        argument = .count number
        ∧ toWhole? (unwrapScalar value) = some number
        ∧ isBelowZero number = false := by
  simp only [check] at checked
  split at checked
  · contradiction
  next number found =>
    split at checked
    · contradiction
    next bounded =>
      exact ⟨number, (Except.ok.inj checked).symm, found, Bool.eq_false_iff.mpr bounded⟩

/-- Arguments that are checked are members of an object, each checked for itself. -/
theorem Parameter.validate_ok {parameters : List Parameter} {body : Option Json}
    {arguments : List Argument} (valid : validate parameters body = .ok arguments)
    : ∃ value,
        body = some value
        ∧ List.Forall₂
            (fun parameter argument =>
              ∃ member, value.get? parameter.name = some member ∧ parameter.check member = .ok argument)
            parameters arguments := by
  unfold validate at valid
  split at valid
  next members =>
    refine ⟨.object members, rfl, ?_⟩
    split at valid
    · contradiction
    · clear * - valid
      induction parameters generalizing arguments with
      | nil =>
          rw [← Except.ok.inj valid]
          exact .nil
      | cons parameter rest ih =>
          unfold checkAll at valid
          split at valid
          · contradiction
          next member found =>
            obtain ⟨first, checked, more⟩ := ok_of_bind_iff.mp valid
            obtain ⟨others, remaining, whole⟩ := ok_of_bind_iff.mp more
            rw [← Except.ok.inj whole]
            exact .cons ⟨member, found, checked⟩ (ih remaining)
  next => contradiction

-----------------------------------------------------------------------------------------
-- What a request leads to
-----------------------------------------------------------------------------------------

variable {surroundings : Surroundings} {store : Store} {call : Call}

/-- The request to the service that a request gives by its route and its checked arguments. -/
inductive Call.Gives (call : Call) : Request → Prop
  | highlight {uri version path} (asks : call.Asks "POST" "/highlight")
    (document : call.document? = some uri) (named : uri ≠ "")
    (numbered : call.version? = some version) (bounded : isBelowZero version = false)
    : Gives call (.highlight ⟨uri, version, path⟩)
  | close {uri} (asks : call.Asks "POST" "/close") (document : call.document? = some uri)
    (named : uri ≠ "")
    : Gives call (.close uri)

/-- A request is about the document that the body names. -/
theorem Call.Gives.document {request : Request} (gives : call.Gives request)
    : call.document? = some request.uri := by
  cases gives <;> assumption

theorem Call.Asks.not_close (asks : call.Asks "POST" "/highlight")
    : ¬ call.Asks "POST" "/close" := by
  intro close
  have path := Option.some.inj (asks.2.symm.trans close.2)
  simp at path

theorem Call.gives_highlight {arguments : List Argument} {request : Request}
    (asks : call.Asks "POST" "/highlight")
    (valid
      : Parameter.validate highlightParameters (arrivedBody call.method.toUpper call.body)
        = .ok arguments)
    (given : highlightOf? arguments = some request)
    : call.Gives request := by
  obtain ⟨body, arrived, pairs⟩ := Parameter.validate_ok valid
  obtain _ | ⟨⟨uriMember, uriFound, uriChecked⟩, pairs⟩ := pairs
  obtain _ | ⟨⟨versionMember, versionFound, versionChecked⟩, pairs⟩ := pairs
  obtain _ | ⟨⟨pathMember, pathFound, pathChecked⟩, pairs⟩ := pairs
  cases pairs
  obtain ⟨uri, rfl, isText, named⟩ := Parameter.check_text uriChecked
  obtain ⟨version, rfl, isWhole, bounded⟩ := Parameter.check_count versionChecked
  obtain ⟨path, rfl, -, -⟩ := Parameter.check_text pathChecked
  rw [← Option.some.inj given]
  refine .highlight asks ?_ named ?_ bounded
  · simpa [document?, argument?, arrived, uriFound] using isText
  · simpa [version?, argument?, arrived, versionFound] using isWhole

theorem Call.gives_close {arguments : List Argument} {request : Request}
    (asks : call.Asks "POST" "/close")
    (valid
      : Parameter.validate closeParameters (arrivedBody call.method.toUpper call.body)
        = .ok arguments)
    (given : closeOf? arguments = some request)
    : call.Gives request := by
  obtain ⟨body, arrived, pairs⟩ := Parameter.validate_ok valid
  obtain _ | ⟨⟨uriMember, uriFound, uriChecked⟩, pairs⟩ := pairs
  cases pairs
  obtain ⟨uri, rfl, isText, named⟩ := Parameter.check_text uriChecked
  rw [← Option.some.inj given]
  refine .close asks ?_ named
  simpa [document?, argument?, arrived, uriFound] using isText

theorem performBody_cases (surroundings : Surroundings) (store : Store) (body : Option Json)
    (parameters : List Parameter) (request? : List Argument → Option Request)
    : (∃ fault,
        performBody surroundings store body parameters request?
        = (store, .badArguments "body" fault))
      ∨ ∃ arguments request,
          Parameter.validate parameters body = .ok arguments
          ∧ request? arguments = some request
          ∧ performBody surroundings store body parameters request?
            = perform surroundings store request := by
  unfold performBody
  split
  next fault _ => exact .inl ⟨fault, rfl⟩
  next arguments valid =>
    split
    next request given => exact .inr ⟨arguments, request, valid, given, rfl⟩
    next => exact .inl ⟨.notObject, rfl⟩

/-- Sending a response keeps its status, by definition. -/
theorem Response.status_sentTo (method : String) (response : Response)
    : (response.sentTo method).status = response.status := by
  unfold sentTo
  split <;> rfl

/-- Only a POST is routed like one, by the definition of how a head is. -/
theorem method_of_routed {method : String} (post : routedMethod method = "POST")
    : method = "POST" := by
  unfold routedMethod at post
  split at post
  · contradiction
  · exact post

/-- A route performs what the checked arguments of a POST say, or it changes nothing; then neither a
highlight nor a close has succeeded.
-/
theorem answer_cases (surroundings : Surroundings) (store : Store) (call : Call)
    : (∃ response,
        answer surroundings store call.method.toUpper (Address.ofText call.url)
            (Address.ofText call.url).route? (arrivedBody call.method.toUpper call.body)
          = (store, response)
        ∧ (response.status = 200
          → ¬ call.Asks "POST" "/highlight" ∧ ¬ call.Asks "POST" "/close"))
      ∨ ∃ request,
          call.Gives request
          ∧ call.method.toUpper = "POST"
          ∧ answer surroundings store call.method.toUpper (Address.ofText call.url)
              (Address.ofText call.url).route? (arrivedBody call.method.toUpper call.body)
            = perform surroundings store request := by
  unfold answer
  split
  next get tokens =>
    have elsewhere (path : String) : ¬ call.Asks "POST" path := by
      rintro ⟨post, -⟩
      rw [post] at get
      contradiction
    dsimp only
    split <;> exact .inl ⟨_, rfl, fun _ => ⟨elsewhere _, elsewhere _⟩⟩
  next routed highlight =>
    have post := method_of_routed routed
    rcases performBody_cases surroundings store (arrivedBody call.method.toUpper call.body)
        highlightParameters highlightOf? with
      ⟨fault, refused⟩ | ⟨arguments, request, valid, given, performed⟩
    · exact .inl ⟨_, refused, by simp [Response.badArguments, Response.plain]⟩
    · exact .inr ⟨request, Call.gives_highlight ⟨post, highlight⟩ valid given, post, performed⟩
  next routed close =>
    have post := method_of_routed routed
    rcases performBody_cases surroundings store (arrivedBody call.method.toUpper call.body)
        closeParameters closeOf? with
      ⟨fault, refused⟩ | ⟨arguments, request, valid, given, performed⟩
    · exact .inl ⟨_, refused, by simp [Response.badArguments, Response.plain]⟩
    · exact .inr ⟨request, Call.gives_close ⟨post, close⟩ valid given, post, performed⟩
  next get scopes => exact .inl ⟨_, rfl, by simp [Call.Asks, scopes]⟩
  next get health => exact .inl ⟨_, rfl, by simp [Call.Asks, health]⟩
  next post shutdown => exact .inl ⟨_, rfl, by simp [Call.Asks, shutdown]⟩
  next => exact .inl ⟨_, rfl, by simp [Response.noRoute, Response.plain]⟩

/-- A request is performed as its checked arguments say, or it changes nothing; then neither a
highlight nor a close has succeeded.
-/
theorem handle_cases (surroundings : Surroundings) (store : Store) (call : Call)
    : (∃ response,
        handle surroundings store call = (store, response)
        ∧ (response.status = 200
          → ¬ call.Asks "POST" "/highlight" ∧ ¬ call.Asks "POST" "/close"))
      ∨ ∃ request,
          call.Gives request
          ∧ handle surroundings store call = perform surroundings store request := by
  unfold handle
  dsimp only
  split
  next =>
    refine .inl ⟨_, rfl, ?_⟩
    simp [Response.status_sentTo, Response.badAddress, Response.plain]
  next =>
    split
    next =>
      refine .inl ⟨_, rfl, ?_⟩
      simp [Response.status_sentTo, Response.badBody, Response.plain]
    next =>
      rcases answer_cases surroundings store call with
        ⟨response, unchanged, quiet⟩ | ⟨request, gives, post, performed⟩
      · rw [unchanged]
        refine .inl ⟨_, rfl, ?_⟩
        rwa [Response.status_sentTo]
      · rw [performed, post]
        exact .inr ⟨request, gives, rfl⟩

/-- A highlight whose body arrives whole is performed with its checked arguments. -/
theorem handle_of_highlight {arguments : List Argument} {request : Request}
    (asks : call.Asks "POST" "/highlight") (harmless : call.body.bind Body.fault? = none)
    (arrived : arrivedBody "POST" call.body = call.body)
    (valid : Parameter.validate highlightParameters call.body = .ok arguments)
    (given : highlightOf? arguments = some request)
    : handle surroundings store call = perform surroundings store request := by
  simp [handle, asks.1, asks.2, arrived, harmless, answer, routedMethod, performBody, valid, given,
    Response.sentTo]

-----------------------------------------------------------------------------------------
-- What an answer tells
-----------------------------------------------------------------------------------------

/-- What the answer to a request tells of the documents.

One of 400, 404 or 409 says that no document has changed. A highlight that is answered with 200 has
left the document that its body names open with the version that it names, which is greater than the
one before; a close that is answered with 200 has closed an open one. No other document ever changes.
-/
structure Truthful (surroundings : Surroundings) (store : Store) (call : Call) : Prop where
  refused
    : (handle surroundings store call).2.status ∈ [400, 404, 409]
      → (handle surroundings store call).1 = store
  highlighted
    : call.Asks "POST" "/highlight"
      → (handle surroundings store call).2.status = 200
      → ∃ uri version tokens,
          call.document? = some uri
          ∧ call.version? = some version
          ∧ (handle surroundings store call).1.get? uri = some ⟨version, tokens⟩
          ∧ ∀ snapshot,
              store.get? uri = some snapshot → version.atMost snapshot.version = false
  closed
    : call.Asks "POST" "/close"
      → (handle surroundings store call).2.status = 200
      → ∃ uri,
          call.document? = some uri
          ∧ store.get? uri ≠ none
          ∧ (handle surroundings store call).1.get? uri = none
  others
    : ∀ uri,
        call.document? ≠ some uri
        → (handle surroundings store call).1.get? uri = store.get? uri

/-- A highlight that fails after its snapshot was stored is answered with 500. -/
theorem unchanged_of_highlight {request : HighlightRequest}
    (refused
      : (perform surroundings store (.highlight request)).2.status ∈ [400, 404, 409])
    : (perform surroundings store (.highlight request)).1 = store := by
  unfold perform at refused ⊢
  rcases performed : store.perform surroundings (.highlight request) with ⟨next, effects, answer⟩
  rw [performed] at refused
  cases answer with
  | ok answer => simp [Response.ofAnswer] at refused
  | error failure =>
      have unpublished : ∀ message, failure ≠ .publication message := by
        intro message same
        subst same
        simp [Response.ofAnswer, Response.failed, Response.statusOf] at refused
      cases Store.rejects_of_perform performed unpublished with
      | stale _ | unloaded _ _ | endless _ _ _ | unsorted _ _ _ _ => rfl
      | overflow _ _ _ _ _ =>
          simp [Response.ofAnswer, Response.failed, Response.statusOf] at refused

theorem ok_of_status {request : Request}
    (succeeded : (perform surroundings store request).2.status = 200)
    : ∃ next effects answer, store.perform surroundings request = (next, effects, .ok answer) := by
  unfold perform at succeeded
  rcases performed : store.perform surroundings request with ⟨next, effects, answer⟩
  rw [performed] at succeeded
  cases answer with
  | ok answer => exact ⟨next, effects, answer, rfl⟩
  | error failure =>
      change Response.statusOf failure = 200 at succeeded
      unfold Response.statusOf at succeeded
      split at succeeded <;> contradiction

/-- A highlight that is not newer than what is open is answered with 409. -/
theorem status_of_stale {request : HighlightRequest} {snapshot : Snapshot}
    (shown : store.get? request.uri = some snapshot)
    (stale : request.version.atMost snapshot.version = true)
    : (perform surroundings store (.highlight request)).2.status = 409 := by
  simp [perform, Store.perform, HighlightRequest.checkVersion, shown, stale, Response.ofAnswer,
    Response.failed, Response.statusOf]

/-- A document that the body does not name stays as it was. -/
theorem others_of_perform (surroundings : Surroundings) (store : Store) {request : Request}
    {uri : String} (other : uri ≠ request.uri)
    : (perform surroundings store request).1.get? uri = store.get? uri :=
  (Store.about_perform surroundings store request .waiting).others uri other

theorem truthful (surroundings : Surroundings) (store : Store) (call : Call)
    : Truthful surroundings store call := by
  rcases handle_cases surroundings store call with
    ⟨response, unchanged, quiet⟩ | ⟨request, gives, performed⟩
  · refine ⟨?_, ?_, ?_, ?_⟩ <;> rw [unchanged]
    · intro _
      rfl
    · intro asks succeeded
      exact absurd asks (quiet succeeded).1
    · intro asks succeeded
      exact absurd asks (quiet succeeded).2
    · intro _ _
      rfl
  · have others : ∀ uri, call.document? ≠ some uri
        → (perform surroundings store request).1.get? uri = store.get? uri := by
      intro uri different
      refine others_of_perform surroundings store fun same => different ?_
      rw [gives.document, same]
    cases gives with
    | @highlight uri version path asks document named numbered bounded =>
        refine ⟨?_, ?_, ?_, ?_⟩ <;> rw [performed]
        · exact unchanged_of_highlight
        · intro _ succeeded
          obtain ⟨next, effects, answer, result⟩ := ok_of_status succeeded
          obtain ⟨accepted, tokens, stored⟩ := Store.accepted_of_perform result
          refine ⟨uri, version, tokens, document, numbered, by rw [perform, result]; exact stored, ?_⟩
          intro snapshot shown
          rw [show store.get? uri = some snapshot from shown] at accepted
          exact HighlightRequest.newer_of_accepted accepted
        · intro close
          exact absurd close asks.not_close
        · exact others
    | @close uri asks document named =>
        refine ⟨?_, ?_, ?_, ?_⟩ <;> rw [performed]
        · cases found : store.get? uri with
          | none => simp [perform, Store.perform, found]
          | some snapshot => simp [perform, Store.perform, found, Response.ofAnswer]
        · intro highlight
          exact absurd asks highlight.not_close
        · intro _ succeeded
          refine ⟨uri, document, fun absent => ?_, ?_⟩
          · obtain ⟨next, effects, answer, result⟩ := ok_of_status succeeded
            simp [Store.perform, absent] at result
          · exact Store.get?_perform_close surroundings store uri
        · exact others

-----------------------------------------------------------------------------------------
-- Requests one after the other
-----------------------------------------------------------------------------------------

/-- A document is open as it was, or because a highlight gave its version. -/
theorem gives_of_open {uri : String} {snapshot : Snapshot}
    (shown : (handle surroundings store call).1.get? uri = some snapshot)
    : store.get? uri = some snapshot
      ∨ ∃ path, call.Gives (.highlight ⟨uri, snapshot.version, path⟩) := by
  rcases handle_cases surroundings store call with
    ⟨response, unchanged, -⟩ | ⟨request, gives, performed⟩
  · rw [unchanged] at shown
    exact .inl shown
  · rw [performed] at shown
    by_cases about : uri = request.uri
    · cases request with
      | close closed =>
          have shut := Store.get?_perform_close surroundings store closed
          rw [about] at shown
          exact absurd (shut.symm.trans shown) (by simp)
      | highlight request =>
          obtain rfl : uri = request.uri := about
          rcases Store.get?_perform_highlight surroundings store request with
            kept | ⟨tokens, stored⟩
          · exact .inl (kept.symm.trans shown)
          · obtain rfl := Option.some.inj (stored.symm.trans shown)
            exact .inr ⟨request.path, gives⟩
    · rw [others_of_perform surroundings store about] at shown
      exact .inl shown

/-- Whatever is open was opened by one of the requests, by induction from the last one. -/
theorem gives_of_served (requests : List (Surroundings × Call)) {uri : String}
    {snapshot : Snapshot} (shown : (served .empty requests).get? uri = some snapshot)
    : ∃ request ∈ requests, ∃ path, request.2.Gives (.highlight ⟨uri, snapshot.version, path⟩) := by
  induction requests using List.reverseRecOn with
  | nil => simp [served] at shown
  | append_singleton front latest ih =>
      rw [served, List.foldl_append, ← served] at shown
      rcases gives_of_open shown with earlier | gives
      · obtain ⟨request, member, gives⟩ := ih earlier
        exact ⟨request, List.mem_append_left _ member, gives⟩
      · exact ⟨latest, List.mem_append_right _ (List.mem_singleton.mpr rfl), gives⟩

theorem route_highlight : (Address.ofText "/highlight").route? = some "/highlight" := by
  -- an address is too large a term to be evaluated at once, so its parts are
  have meant : Address.meaningful "/highlight" = "/highlight".toList := by decide +kernel
  have relative : "/highlight".startsWith "//" = false := by decide +kernel
  have front : "/highlight".toList.takeWhile (· ≠ '?') = "/highlight".toList := by decide +kernel
  have query : ("/highlight".toList.dropWhile (· ≠ '?')).drop 1 = [] := by decide +kernel
  have path : Address.pathOf "/highlight".toList = "/highlight" := by
    have schemeless
        : Address.splitScheme "/highlight".toList = (none, "/highlight".toList) := by
      cbv
    have hostless : Address.behindMarkedHost "/highlight".toList = "/highlight".toList := by
      decide +kernel
    have slash : ("/highlight".toList.head?).any Address.isSlash = true := by decide +kernel
    have inner
        : String.ofList (("/highlight".toList.map fun c => if c = '\\' then '/' else c).drop 1)
          = "highlight" := by
      decide +kernel
    have segments : "highlight".splitOn "/" = ["highlight"] := by
      simp +decide [String.splitOn, String.splitOnAux]
    have followed : Address.follow [] ["highlight"] = ["highlight"] := by decide +kernel
    have encoded : Percent.encode Address.standsInPath "highlight" = "highlight" := by cbv
    rw [Address.pathOf, schemeless]
    simp only [hostless, Address.resolve, slash, if_true, inner, segments, followed, List.map,
      encoded]
    decide +kernel
  have address : Address.ofText "/highlight" = ⟨"/highlight", ""⟩ := by
    have blank : Percent.encode Address.standsInQuery "" = "" := by decide +kernel
    simp only [Address.ofText, meant, relative, front, query, path]
    simp [blank]
  rw [address]
  decide +kernel

/-- A highlight whose version is given as this text. -/
def Call.ofVersion (version : String) : Call where
  method := "POST"
  url := "/highlight"
  body := some (.object
    [("uri", .string "main.cpp"), ("version", .string version), ("path", .string "main.json")])

theorem asks_ofVersion (version : String)
    : (Call.ofVersion version).Asks "POST" "/highlight" :=
  ⟨show "POST".toUpper = "POST" by decide +kernel, route_highlight⟩

theorem handle_infinity (surroundings : Surroundings) (store : Store)
    : handle surroundings store (.ofVersion "Infinity")
      = perform surroundings store
        (.highlight ⟨"main.cpp", .infinite false, "main.json"⟩) :=
  handle_of_highlight (asks_ofVersion _) (by decide +kernel) (by cbv) rfl rfl

theorem handle_five (surroundings : Surroundings) (store : Store)
    : handle surroundings store (.ofVersion "5")
      = perform surroundings store (.highlight ⟨"main.cpp", .ofInt 5, "main.json"⟩) := by
  have valid
      : Parameter.validate highlightParameters (Call.ofVersion "5").body
        = .ok [.text "main.cpp", .count (.ofInt 5), .text "main.json"] := by
    decide +kernel
  exact handle_of_highlight (asks_ofVersion _) (by decide +kernel) (by cbv) valid rfl

/-- After any requests, whatever trees their paths have led to, every open document has a name, and
its version is a natural number unless a request has given an infinite one; and the answer to each
further request tells what it has changed.
-/
theorem serve_truthful (requests : List (Surroundings × Call))
    : (∀ uri snapshot,
        (served .empty requests).get? uri = some snapshot
        → uri ≠ ""
          ∧ (snapshot.version.toNat? ≠ none
            ∨ ∃ request ∈ requests,
                request.2.Asks "POST" "/highlight"
                ∧ request.2.document? = some uri
                ∧ request.2.version? = some snapshot.version
                ∧ ∃ negative, snapshot.version = .infinite negative))
      ∧ ∀ surroundings call, Truthful surroundings (served .empty requests) call := by
  refine ⟨fun uri snapshot shown => ?_, fun surroundings call => truthful surroundings _ call⟩
  obtain ⟨request, member, path, gives⟩ := gives_of_served requests shown
  cases gives with
  | highlight asks document named numbered bounded =>
      obtain ⟨value, _, whole⟩ := Option.bind_eq_some_iff.mp numbered
      refine ⟨named, (natural_or_infinite whole bounded).imp id fun infinite => ?_⟩
      exact ⟨request, member, asks, document, numbered, infinite⟩

/-- The text of a number is accepted as a version where nothing is open. -/
theorem serve_truthful_five
    : (handle (.always (.ok (.ofMacro 2 0 3))) .empty (.ofVersion "5")).2.status = 200
      ∧ ∃ uri version tokens,
          (Call.ofVersion "5").document? = some uri
          ∧ (Call.ofVersion "5").version? = some version
          ∧ (handle (.always (.ok (.ofMacro 2 0 3))) .empty (.ofVersion "5")).1.get? uri
            = some ⟨version, tokens⟩ := by
  have succeeded
      : (handle (.always (.ok (.ofMacro 2 0 3))) .empty (.ofVersion "5")).2.status = 200 := by
    rw [handle_five]
    cbv
  obtain ⟨uri, version, tokens, document, numbered, stored, -⟩ :=
    ((serve_truthful []).2 (.always (.ok (.ofMacro 2 0 3))) (.ofVersion "5")).highlighted
      (asks_ofVersion "5") succeeded
  exact ⟨succeeded, uri, version, tokens, document, numbered, stored⟩

/-- The word for infinity is accepted as a version. Its document is open with a version that is no
integer then, and no number is newer.
-/
theorem serve_truthful_infinite
    : ∃ snapshot,
        (handle (.always (.ok (.ofMacro 2 0 3))) .empty (.ofVersion "Infinity")).2.status = 200
        ∧ (served .empty [(.always (.ok (.ofMacro 2 0 3)), .ofVersion "Infinity")]).get? "main.cpp"
          = some snapshot
        ∧ snapshot.version = .infinite false
        ∧ snapshot.version.toNat? = none
        ∧ (handle (.always (.ok (.ofMacro 2 0 3)))
            (served .empty [(.always (.ok (.ofMacro 2 0 3)), .ofVersion "Infinity")])
            (.ofVersion "5")).2.status = 409 := by
  simp only [served, List.foldl, handle_infinity, handle_five]
  have succeeded
      : (perform (.always (.ok (.ofMacro 2 0 3))) .empty
          (.highlight ⟨"main.cpp", .infinite false, "main.json"⟩)).2.status = 200 := by
    cbv
  obtain ⟨next, effects, answer, performed⟩ := ok_of_status succeeded
  obtain ⟨-, tokens, stored⟩ := Store.accepted_of_perform performed
  have reached
      : (perform (.always (.ok (.ofMacro 2 0 3))) .empty
          (.highlight ⟨"main.cpp", .infinite false, "main.json"⟩)).1 = next := by
    rw [perform, performed]
  refine ⟨⟨.infinite false, tokens⟩, succeeded, ?_, rfl, rfl, ?_⟩ <;> rw [reached]
  · exact stored
  · exact status_of_stale stored (Number.atMost_infinite _)

end Http

end Highlighter
