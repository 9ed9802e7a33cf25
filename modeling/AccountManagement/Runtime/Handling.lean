/-
**Handler results and the settlements they ask for.**

What a task handler answers, and what the executor asks the queue for. `settlementRequest_completed`:
a completion is asked for only after a handler returned without error.
-/

import AccountManagement.Task.Queue

namespace AccountManagement.Runtime

open AccountManagement.Library AccountManagement.Task

inductive TaskHandlerError where
  | retry (reason : String) (retryAfter : Option Duration)
  | permanent (reason : String)
deriving DecidableEq

/-- What a handler or its invocation ends with. -/
abbrev HandlerResult := Except TaskHandlerError Unit

/-- The result of a handler that is stopped at its deadline. -/
def handlerTimedOut : HandlerResult := .error (.retry "handler timed out" none)

/-- The result of a delivery whose lease leaves no time for its handler. -/
def insufficientLease : HandlerResult :=
  .error (.retry "insufficient lease budget before handler execution" none)

/-- The delay of a retry that does not name its own. -/
def fallbackDelay (result : HandlerResult) (attempt : Int) (jitter : Jitter) : Duration :=
  match result with
  | .error (.retry _ none) => redeliveryBackoff attempt jitter
  | _ => .fromSecs 0

def settlementRequest (result : HandlerResult) (fallbackDelay : Duration) : SettlementRequest :=
  match result with
  | .ok () => .completed
  | .error (.permanent reason) => .failed reason
  | .error (.retry reason retryAfter) => .retry (retryAfter.getD fallbackDelay) reason

theorem settlementRequest_completed {result : HandlerResult} {delay : Duration}
    (completed : settlementRequest result delay = .completed) : result = .ok () := by
  unfold settlementRequest at completed
  split at completed
  · rfl
  · cases completed
  · cases completed

end AccountManagement.Runtime
