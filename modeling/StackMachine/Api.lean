import StackMachine.Http
import StackMachine.Json.Printer
import StackMachine.Json.Reader
import StackMachine.Session

/-! The web interface to a session: four routes that answer with the state of the machine or with an
error, both in JSON. -/
namespace StackMachine

namespace Snapshot
open Json

def json (s : Snapshot) : Json :=
  object [
    ("stack", array (s.stack.map ofInt)),
    ("memory", object (s.memory.map fun (name, n) => (name, ofInt n))),
    ("program_counter", ofInt s.pc),
    ("instructions", array (s.instructions.map string)),
    ("output", array (s.output.map string)),
    ("halted", bool s.halted)]

end Snapshot

/-- What the interface tells of an error. -/
structure ErrorBody where
  error : String
  message : String
  line : Option Int := none
  pc : Option Int := none
  deriving DecidableEq, Repr

namespace ErrorBody
open Json

def ofReport (r : Report) : ErrorBody := ⟨r.kind.name, r.message, r.line, r.pc⟩

def json (e : ErrorBody) : Json :=
  object [
    ("error", string e.error),
    ("message", string e.message),
    ("line", ofOption ofInt e.line),
    ("pc", ofOption ofInt e.pc)]

end ErrorBody

namespace Api
open Http Text

/-- The largest body that is read, in bytes. -/
def maxBody : Nat := 1000000

/-- How an operation on the session fails: with a report, or inside the machine. -/
inductive Failure where
  | reported (r : Report)
  | internal (name message : String)
  deriving DecidableEq, Repr

namespace Failure

def ofSession (e : SessionError) : Failure :=
  match e.report? with
  | some r => reported r
  | none => internal "MachineError" e.message

def status : Failure → Nat
  | reported _ => 400
  | internal .. => 500

/-- An internal failure that has no message is told by its name. -/
def body : Failure → ErrorBody
  | reported r => .ofReport r
  | internal name message =>
      { error := "InternalError", message := if message.isEmpty then name else message }

end Failure

/-- Why a request to load a program is not carried out. -/
inductive Refusal where
  | badLength (value : String)
  | bodyTooLarge
  | notJson
  | notObject
  | codeMissing
  | codeNotString
  | codeHasNul
  deriving DecidableEq, Repr

/-- What is wrong with a body that is no JSON is left open. -/
def Refusal.message? : Refusal → Option String
  | badLength value => some ("invalid Content-Length header: " ++ quoted value)
  | bodyTooLarge => some ("request body exceeds " ++ toString maxBody ++ " bytes")
  | notJson => none
  | notObject => some "Input should be an object"
  | codeMissing => some "Field required"
  | codeNotString => some "Input should be a valid string"
  | codeHasNul => some "Value error, code must not contain NUL characters"

/-- The program text in the body of a load request. -/
def readCode (body : ByteArray) : Except Refusal String :=
  match (String.fromUTF8? body).bind Json.read? with
  | none => .error .notJson
  | some (.object members) =>
      match Json.member? "code" members with
      | none => .error .codeMissing
      | some (.string code) =>
          if code.toList.contains '\x00' then .error .codeHasNul else .ok code
      | some _ => .error .codeNotString
  | some _ => .error .notObject

/-- The length that a request claims for its body. The outer error is the number of digits of a
length that is too long to be converted. -/
def claimedLength (r : Request) : Except Nat (Except Refusal Nat) :=
  let claimed := match r.header? "Content-Length" with
    | none => "0"
    | some v => if v.isEmpty then "0" else v
  let digits := strip isBlank claimed.toList
  if digits.isEmpty || !digits.all Char.isDigit then
    .ok (.error (.badLength (String.ofList digits)))
  else match Numeral.convert digits with
    | .error count => .error count
    | .ok n => .ok (if n > maxBody then .error .bodyTooLarge else .ok n.toNat)

/-- A body may be longer or shorter than its claimed length. -/
def requestedCode (r : Request) : Except Nat (Except Refusal String) := do
  match ← claimedLength r with
  | .error refusal => return .error refusal
  | .ok n => return readCode (r.body.extract 0 n)

inductive Reply where
  | preflight
  | state (s : Snapshot)
  | failed (f : Failure)
  | refused (r : Refusal)
  | noRoute (method : Method) (path : String)

/-- An operation of the interface on the session. -/
abbrev Operation := Session → Except Failure Snapshot × Session

def Operation.ofAction (action : Session.Action Snapshot) : Operation := fun s =>
  match action s with
  | .ok snapshot s' => (.ok snapshot, s')
  | .error e s' => (.error (.ofSession e), s')

/-- The reply to a request and the session after it. The step operation is given, so that another
one may stand in for it. No reply is sent to a load request whose length is too long to be
converted. -/
def handle (step : Operation) (r : Request) (s : Session) : Except Nat Reply × Session :=
  let answer (op : Operation) : Except Nat Reply × Session :=
    match op s with
    | (.ok snapshot, s') => (.ok (.state snapshot), s')
    | (.error f, s') => (.ok (.failed f), s')
  match r.method, r.route with
  | .options, _ => (.ok .preflight, s)
  | .get, "/api/state" => answer (.ofAction Session.state)
  | .post, "/api/load" =>
      match requestedCode r with
      | .error digits => (.error digits, s)
      | .ok (.error refusal) => (.ok (.refused refusal), s)
      | .ok (.ok code) => answer (.ofAction (Session.load code))
  | .post, "/api/step" => answer step
  | .post, "/api/reset" => answer (.ofAction Session.reset)
  | method, path => (.ok (.noRoute method path), s)

def stepOperation : Operation := .ofAction Session.step

namespace Reply

def status : Reply → Nat
  | preflight => 204
  | state _ => 200
  | failed f => f.status
  | refused _ => 422
  | noRoute .. => 404

/-- The document that a reply carries; a preflight reply carries none. -/
def json? : Reply → Option Json
  | preflight => none
  | state s => some s.json
  | failed f => some f.body.json
  | refused r => some (ErrorBody.json
      { error := "InvalidRequest", message := r.message?.getD "Invalid JSON" })
  | noRoute method path =>
      some (ErrorBody.json
        { error := "NotFound", message := "no route for " ++ method.word ++ " " ++ path })

def anyOrigin : String × String := ("Access-Control-Allow-Origin", "*")

def response (r : Reply) : Response :=
  match r.json? with
  | none =>
      { status := r.status
        headers := [anyOrigin, ("Access-Control-Allow-Methods", "GET, POST, OPTIONS"),
          ("Access-Control-Allow-Headers", "Content-Type"), ("Content-Length", "0")]
        body := "" }
  | some json =>
      let body := json.render
      { status := r.status
        headers := [("Content-Type", "application/json"),
          ("Content-Length", toString body.utf8ByteSize), anyOrigin]
        body }

end Reply

end Api

end StackMachine
