import StackMachine.Proofs.LoadRequest
import StackMachine.Proofs.SessionHistory

/-! The web interface against the session. A request stands for one call of the session or for none.
The session goes through the calls alone, and each response tells how its own call went. -/
namespace StackMachine

namespace Http.Request

end Http.Request

namespace Api
open Http

/-- The response to a request and the session after it. -/
def serve (r : Request) (s : Session) : Except Nat Response × Session :=
  let (reply, s') := handle stepOperation r s
  (reply.map Reply.response, s')

section
variable {r : Request} {s : Session} {step : Operation}

/-- The reply that tells the outcome of a call. -/
inductive Replies : Reply → Session.Reply → Prop
  | state (shot : Snapshot) : Replies (.state shot) (.snapshot shot)
  | failed (e : SessionError) : Replies (.failed (.ofSession e)) (.failure e)

theorem handle_refused {refusal : Refusal} (hm : r.method = .post) (hr : r.route = "/api/load")
    (h : requestedCode r = .ok (.error refusal)) :
    handle step r s = (.ok (.refused refusal), s) := by
  unfold handle
  simp only [hm, hr, h]

theorem handle_tooManyDigits {count : Nat} (hm : r.method = .post) (hr : r.route = "/api/load")
    (h : requestedCode r = .error count) : handle step r s = (.error count, s) := by
  unfold handle
  simp only [hm, hr, h]

/-- The reply to a request once its operation is done, and the session after it. -/
def replyTo : Except Failure Snapshot × Session → Except Nat Reply × Session
  | (.ok shot, s') => (.ok (.state shot), s')
  | (.error f, s') => (.ok (.failed f), s')

/-- An operation replies as the call of the session does. -/
theorem replyTo_ofAction (action : Session.Action Snapshot) (s : Session) :
    ∃ reply, replyTo (Operation.ofAction action s) =
        (.ok reply, (Session.conclude (action s)).2) ∧
      Replies reply (Session.conclude (action s)).1 := by
  unfold Operation.ofAction
  cases action s with
  | ok shot s' => exact ⟨_, rfl, .state shot⟩
  | error e s' => exact ⟨_, rfl, .failed e⟩

end

/-! ### Sequences of requests -/

theorem serve_of_handle {r : Request} {s s' : Session} {reply : Reply}
    (h : handle stepOperation r s = (.ok reply, s')) : serve r s = (.ok reply.response, s') := by
  unfold serve
  rw [h]
  rfl

end Api

end StackMachine
