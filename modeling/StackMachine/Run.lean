import StackMachine.Session

/-! Runs of a session to its end, to a failure, or to a limit on the number of steps. -/
namespace StackMachine

/-- The number of steps after which a run stops unless told otherwise. -/
def defaultMaxSteps : Nat := 100000

/-- The outcome of a run: the session it leaves, the number of steps that succeeded, the error that
ended it, and what was seen after each step. -/
structure Run (α : Type) where
  session : Session
  steps : Nat
  error? : Option SessionError
  seen : Array α

namespace Run
variable {α : Type}

def snapshot (r : Run α) : Snapshot := r.session.snapshot

def ok (r : Run α) : Bool := r.error?.isNone

def text (r : Run α) : String := r.snapshot.text

end Run

namespace Session
variable {α : Type}

/-- The error of a run that has used up its steps. -/
def limitError (s : Session) (limit : Int) : SessionError :=
  .step (.fault { fault := .stepLimit limit, pc := some s.snapshot.pc })

/-- Makes at most `fuel` more steps; `watch` sees the session before and after each of them. -/
def runMore (watch : Session → Session → α) (limit : Int) :
    Nat → Nat → Array α → Session → Run α
  | 0, steps, seen, s =>
      if s.finished then ⟨s, steps, none, seen⟩ else ⟨s, steps, some (s.limitError limit), seen⟩
  | fuel + 1, steps, seen, s =>
      if s.finished then ⟨s, steps, none, seen⟩
      else match s.advance with
        | .ok _ s' => runMore watch limit fuel (steps + 1) (seen.push (watch s s')) s'
        | .error e s' => ⟨s', steps, some e, seen⟩

/-- Steps the session until it is finished, a step fails, or the limit is reached. -/
def runWatched (watch : Session → Session → α) (limit : Int) (s : Session) : Run α :=
  runMore watch limit limit.toNat 0 #[] s

def run (limit : Int) (s : Session) : Run Unit := s.runWatched (fun _ _ => ()) limit

end Session

/-- Assembles a text and runs it in a session of its own. -/
def runText (text : String) (limit : Int) : Except AssemblyError (Run Unit) := do
  return (Session.mk (Machine.ofProgram (← assemble text))).run limit

end StackMachine
