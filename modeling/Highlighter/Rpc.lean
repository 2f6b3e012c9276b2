import Highlighter.Document.Wire
import Highlighter.Service.Surroundings

/-! The service over a connection that announces new trees and closed documents. Announcements
have no answer: changed lines go out as notifications, and failures are only logged. A close of a
document that is not open is worth no more than a warning.
-/

namespace Highlighter.Rpc

/-- A line of the log about an announcement that failed. -/
structure LogEntry where
  text : String
  failure : Failure
deriving Repr

/-- What a connection shows of the work on announcements. -/
structure Traffic where
  notifications : List Highlighted
  warnings : List String
  log : List LogEntry
deriving Repr

namespace Traffic

/-- Nothing happened. -/
def empty : Traffic := ⟨[], [], []⟩

/-- One thing after another. -/
def append (first second : Traffic) : Traffic :=
  ⟨first.notifications ++ second.notifications, first.warnings ++ second.warnings,
    first.log ++ second.log⟩

/-- What is shown of a failed announcement. -/
def ofFailure (request : Request) (failure : Failure) : Traffic :=
  match request with
  | .highlight request =>
      { empty with log := [⟨"Failed to highlight " ++ request.uri ++ "@"
        ++ request.version.text ++ ":", failure⟩] }
  | .close uri =>
      match failure with
      | .notOpen _ => { empty with warnings := [failure.message] }
      | _ => { empty with log := [⟨"Failed to close " ++ uri ++ ":", failure⟩] }

/-- What is shown of an effect of the work on announcements, whose tickets count from 0. -/
def ofEffect (requests : List Request) : Effect → Traffic
  | .warned _ place => { empty with warnings := [place.diagnosticText] }
  | .handed answer _ => { empty with notifications := [answer] }
  | .returned _ ticket (.error failure) =>
      match requests[ticket]? with
      | some request => ofFailure request failure
      | none => empty
  | _ => empty

/-- What is shown of all effects. -/
def ofEffects (requests : List Request) (effects : List Effect) : Traffic :=
  effects.foldr (fun effect rest => (ofEffect requests effect).append rest) empty

end Traffic

/-- The connection takes every notification. -/
def surroundings (files : Files) : Surroundings :=
  ⟨Tree.load files, some fun _ => .ok ()⟩

/-- Announcements arrive one right after the other and are worked off. -/
def announce (files : Files) (service : Service) (requests : List Request)
    : Service × Traffic :=
  let (next, effects) := service.handle (surroundings files) requests
  (next, .ofEffects requests effects)

/-- The JSON form of a notification. -/
def notificationJson (answer : Highlighted) : Json :=
  .object [
    ("textDocument", .object [
      ("uri", .string answer.uri),
      ("version", .number answer.version)]),
    ("lines", .array (answer.lines.map EncodedLine.toJson))]

/-- The scopes of all kinds by ordinal, as clients ask for them. -/
def scopes : List (List String) := Kind.all.map fun kind => [kind.scope]

end Highlighter.Rpc
