import Highlighter.Document.Wire
import Highlighter.Http.Address
import Highlighter.Http.Body
import Highlighter.Http.Query
import Highlighter.Http.Validation
import Highlighter.Service.Surroundings

/-! The service over HTTP. A route's arguments are checked before anything else happens; what the
service then answers decides the status, and a failure is logged.
-/

namespace Highlighter.Http

/-- A request with its body, if it has one, as JSON. -/
structure Call where
  method : String
  url : String
  body : Option Json

/-- A response, with what was logged on the way. -/
structure Response where
  status : Nat
  /-- The body as JSON; none if it is empty. -/
  body : Option Json
  warnings : List FileLocation
  logged : Option Failure

namespace Response

/-- A response about which nothing is logged. -/
def plain (status : Nat) (body : Json) : Response := ⟨status, some body, [], none⟩

/-- What is sent of a response: its body is left out if only the head was asked for. -/
def sentTo (method : String) (response : Response) : Response :=
  if method = "HEAD" then { response with body := none } else response

/-- No route has that method and path. -/
def noRoute (method : String) (address : Address) : Response :=
  plain 404 (.object [
    ("message", .string ("Route " ++ method ++ ":" ++ address.text ++ " not found")),
    ("error", .string "Not Found"),
    ("statusCode", .int 404)])

/-- The arguments are refused. -/
def badArguments (subject : String) (fault : ArgumentFault) : Response :=
  plain 400 (.object [
    ("statusCode", .int 400),
    ("code", .string "FST_ERR_VALIDATION"),
    ("error", .string "Bad Request"),
    ("message", .string (fault.message subject))])

/-- The address is not encoded correctly. -/
def badAddress (address : Address) : Response :=
  plain 400 (.object [
    ("error", .string "Bad Request"),
    ("code", .string "FST_ERR_BAD_URL"),
    ("message", .string ("'" ++ address.text ++ "' is not a valid url component")),
    ("statusCode", .int 400)])

/-- The body is refused. -/
def badBody (fault : BodyFault) : Response :=
  plain 400 (.object [
    ("statusCode", .int 400),
    ("error", .string "Bad Request"),
    ("message", .string fault.message)])

/-- The status of a failure. -/
def statusOf : Failure → Nat
  | .notOpen _ | .load (.notFound _) => 404
  | .stale _ _ _ => 409
  | .load (.notJson _) | .load (.misfit _ _) => 400
  | _ => 500

/-- The body of a failure: its wording where the caller is at fault, and nothing of it else. -/
def bodyOf (failure : Failure) : Json :=
  match failure with
  | .stale _ _ current =>
      .object [("error", .string failure.message), ("currentVersion", .number current)]
  | _ =>
      let text := if statusOf failure = 500 then "Internal Server Error" else failure.message
      .object [("error", .string text)]

/-- The response to a failure. -/
def failed (failure : Failure) (warnings : List FileLocation) : Response :=
  ⟨statusOf failure, some (bodyOf failure), warnings, some failure⟩

/-- The body of an answer. -/
def answerBody : Answer → Json
  | .highlighted answer => answer.toJson
  | .closed uri => .object [("uri", .string uri), ("closed", .bool true)]

/-- The response to what the service made of a request. -/
def ofAnswer (warnings : List FileLocation) : Except Failure Answer → Response
  | .error failure => failed failure warnings
  | .ok answer => ⟨200, some (answerBody answer), warnings, none⟩

end Response

/-- The arguments of a highlight. -/
def highlightParameters : List Parameter :=
  [⟨"uri", .text⟩, ⟨"version", .count⟩, ⟨"path", .text⟩]

/-- The arguments of a close. -/
def closeParameters : List Parameter := [⟨"uri", .text⟩]

/-- The arguments of a listing. -/
def listingParameters : List Parameter := [⟨"path", .text⟩]

/-- Lists the tokens of a tree. -/
def listTokens (surroundings : Surroundings) (path : String) : Response :=
  match surroundings.load path with
  | .error fault => .failed (.load fault) []
  | .ok tree =>
      match tree.highlights with
      | .error fault => .failed (.endless fault) []
      | .ok found => ⟨200, some (Listing.ofHighlights found).toJson, found.diagnostics, none⟩

/-- Performs a request on the open documents. -/
def perform (surroundings : Surroundings) (store : Store) (request : Request)
    : Store × Response :=
  let (next, effects, answer) := store.perform surroundings request
  (next, .ofAnswer (effects.filterMap Effect.warned?) answer)

/-- Checks the arguments in a body and performs the request that they give. -/
def performBody (surroundings : Surroundings) (store : Store) (body : Option Json)
    (parameters : List Parameter) (request? : List Argument → Option Request)
    : Store × Response :=
  match Parameter.validate parameters body with
  | .error fault => (store, .badArguments "body" fault)
  | .ok arguments =>
      match request? arguments with
      | some request => perform surroundings store request
      | none => (store, .badArguments "body" .notObject)

/-- The highlight that checked arguments give. -/
def highlightOf? : List Argument → Option Request
  | [.text uri, .count version, .text path] => some (.highlight ⟨uri, version, path⟩)
  | _ => none

/-- The close that checked arguments give. -/
def closeOf? : List Argument → Option Request
  | [.text uri] => some (.close uri)
  | _ => none

/-- The method that chooses a route. Whoever asks for the head is routed like a GET. -/
def routedMethod (method : String) : String :=
  if method = "HEAD" then "GET" else method

/-- Answers a request whose body has arrived; the method and `path` choose the route. -/
def answer (surroundings : Surroundings) (store : Store) (method : String) (address : Address)
    (path : Option String) (body : Option Json) : Store × Response :=
  match routedMethod method, path with
  | "GET", some "/tokens" =>
      let arguments := Query.arguments address.arguments
      match Parameter.validate listingParameters (some (.object arguments)) with
      | .ok [.text path] => (store, listTokens surroundings path)
      | .ok _ => (store, .badArguments "querystring" .notObject)
      | .error fault => (store, .badArguments "querystring" fault)
  | "POST", some "/highlight" =>
      performBody surroundings store body highlightParameters highlightOf?
  | "POST", some "/close" => performBody surroundings store body closeParameters closeOf?
  | "GET", some "/scopes" => (store, .plain 200 Kind.tableJson)
  | "GET", some "/health" => (store, .plain 200 (.object [("status", .string "ok")]))
  | "POST", some "/shutdown" =>
      (store, .plain 200 (.object [("status", .string "shutting down")]))
  | _, _ => (store, .noRoute method address)

/-- The methods that some route has. -/
def routedMethods : List String := ["GET", "HEAD", "POST"]

/-- The body that is looked at. A body that is sent with a GET or for a head is not. -/
def arrivedBody (method : String) (body : Option Json) : Option Json :=
  if routedMethod method = "GET" then none else body.map Body.sent

/-- Routes a request to its answer, which is sent as its method wants it. An address that is not
encoded correctly is only noticed where there are routes to choose from, and before the body is.
-/
def handle (surroundings : Surroundings) (store : Store) (call : Call) : Store × Response :=
  let method := call.method.toUpper
  let address := Address.ofText call.url
  let path := address.route?
  let body := arrivedBody method call.body
  if routedMethods.contains method && path.isNone then
    (store, (Response.badAddress address).sentTo method)
  else
    match body.bind Body.fault? with
    | some fault => (store, (Response.badBody fault).sentTo method)
    | none =>
        let (next, response) := answer surroundings store method address path body
        (next, response.sentTo method)

end Highlighter.Http
