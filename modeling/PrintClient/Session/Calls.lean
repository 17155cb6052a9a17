import PrintClient.Action
import PrintClient.Session.World

/-!
# Awaited requests

A caller may wait for the response to a request, or for the session to be logged in. When it looks,
what has happened to the request so far decides whether it goes on to wait; a request that was lost
tells by the state of the session at that moment whether a later one may succeed.

* `World.fate?`: what has happened to the request of a handler;
* `World.outcome?`: what a caller that waits for it finds;
* `World.connected?`: what a caller that waits for the login finds.
-/

namespace PrintClient.Session

/-- What can become of a caller's request. -/
inductive Fate where
  | answered (data : Json)
  | lost
  | refused
  deriving DecidableEq

/-- The end of the request of a handler, if an event is it. -/
def Event.fate? {H : Type} [DecidableEq H] (handler : H) : Event H → Option Fate
  | .replied h data => if h = handler then some (.answered data) else none
  | .lost h => if h = handler then some .lost else none
  | .refused h => if h = handler then some .refused else none
  | _ => none

namespace World

variable {H : Type} [DecidableEq H]

/-- What has happened to the request of a handler, if it has come to an end. -/
def fate? (w : World H) (handler : H) : Option Fate :=
  (w.trace.filterMap fun e => e.2.fate? handler).head?

/-- Whether the session will take no more requests. -/
def isClosed (w : World H) : Bool := w.cancelled || w.stage = .ended

/-- Why a request was lost, as a caller learns it that looks now. -/
def lossFailure (w : World H) : Failure := if w.isClosed then .sessionClosed else .disconnected

/-- What a caller finds that waits for the response to a request. -/
def outcome? (w : World H) (handler : H) : Option (Except Failure Json) :=
  (w.fate? handler).map fun
    | .answered data => .ok data
    | .lost => .error w.lossFailure
    | .refused => .error .sessionClosed

/-- What a caller finds that waits for the login. -/
def connected? (w : World H) : Option (Except Failure Unit) :=
  if w.session.state = .connected then some (.ok ())
  else if w.stage = .ended then some (.error .sessionClosed)
  else none

end World

end PrintClient.Session
