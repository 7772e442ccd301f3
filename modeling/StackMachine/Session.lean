import StackMachine.Assembly
import StackMachine.Snapshot
import StackMachine.Step

/-! A session: at most one loaded program and its machine. -/
namespace StackMachine

inductive SessionError where
  | assembly (e : AssemblyError)
  | step (e : StepError)
  deriving DecidableEq, Repr

namespace SessionError

def report? : SessionError → Option Report
  | assembly e => e.report?
  | step e => e.report?

def message : SessionError → String
  | assembly e => e.message
  | step e => e.message

end SessionError

structure Session where
  machine? : Option Machine := none

namespace Session

/-- An operation on a session. One that fails may still have changed it. -/
abbrev Action := EStateM SessionError Session

def snapshot (s : Session) : Snapshot := (s.machine?.map Snapshot.ofMachine).getD .empty

def status (s : Session) : Status := (s.machine?.map Machine.status).getD .idle

/-- Nothing is left to execute. A session without a program is not finished. -/
def finished (s : Session) : Bool := s.machine?.any Machine.finished

def state : Action Snapshot := do return (← get).snapshot

/-- A text that does not assemble leaves the session as it was. -/
def load (text : String) : Action Snapshot := do
  match assemble text with
  | .error e => throw (.assembly e)
  | .ok program =>
      set (Session.mk (Machine.ofProgram program))
      state

def advance : Action Unit := fun s =>
  match s.machine? with
  | none => .error (.step (.fault { fault := .nothingLoaded })) s
  | some m =>
      match m.step with
      | .ok _ m' => .ok () ⟨some m'⟩
      | .error e m' => .error (.step e) ⟨some m'⟩

def step : Action Snapshot := do
  advance
  state

def reset : Action Snapshot := do
  set (Session.mk none)
  state

end Session

end StackMachine
