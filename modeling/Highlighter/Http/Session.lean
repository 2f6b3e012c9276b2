import Highlighter.Http.Server

/-! Requests that are answered one after the other, and what each of them says: which route it asks
for, and which document and which version its body names once they are brought to their types.
-/

namespace Highlighter.Http

/-- The documents that are open when requests have been answered, each in its surroundings. -/
def served (store : Store) (requests : List (Surroundings × Call)) : Store :=
  requests.foldl (fun store request => (handle request.1 store request.2).1) store

namespace Call

/-- A request asks for a route. -/
def Asks (call : Call) (method path : String) : Prop :=
  call.method.toUpper = method ∧ (Address.ofText call.url).route? = some path

/-- An argument as it is in the body that has arrived. -/
def argument? (call : Call) (name : String) : Option Json :=
  (arrivedBody call.method.toUpper call.body).bind fun body => body.get? name

/-- The document that a body names. -/
def document? (call : Call) : Option String :=
  (call.argument? "uri").bind fun value => toText? (unwrapScalar value)

/-- The version that a body names. -/
def version? (call : Call) : Option Number :=
  (call.argument? "version").bind fun value => toWhole? (unwrapScalar value)

end Call

end Highlighter.Http
