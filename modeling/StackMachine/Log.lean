import StackMachine.Text.Uppercase

/-! Log records and the level from which they are shown. -/
namespace StackMachine

namespace Log

def levels : List (String × Int) :=
  [("CRITICAL", 50), ("FATAL", 50), ("ERROR", 40), ("WARNING", 30), ("WARN", 30), ("INFO", 20),
   ("DEBUG", 10), ("NOTSET", 0)]

/-- Level names are read in any case. -/
def levelOfName? (name : String) : Option Int := levels.lookup (Text.upper name)

def unknownLevelMessage (name : String) : String := "unknown log level: " ++ name

inductive Severity where
  | debug | info
  deriving DecidableEq, Repr

def Severity.word : Severity → String
  | debug => "DEBUG"
  | info => "INFO"

def Severity.level : Severity → Int
  | debug => 10
  | info => 20

structure Record where
  severity : Severity
  logger : String
  message : String
  deriving DecidableEq, Repr

def padRight (width : Nat) (s : String) : String :=
  s ++ String.ofList (List.replicate (width - s.length) ' ')

def Record.line (r : Record) : String :=
  padRight 5 r.severity.word ++ " " ++ r.logger ++ ": " ++ r.message

end Log

/-- Where log records go. The level 0 leaves the choice to the general default. -/
structure Log where
  level : Int := 0
  handlers : Nat := 0
  deriving DecidableEq, Repr

namespace Log

def defaultLevel : Int := 30

def effectiveLevel (log : Log) : Int := if log.level = 0 then defaultLevel else log.level

/-- The one handler takes the place of those before. -/
def atLevel (level : Int) : Log := { level, handlers := 1 }

def ofLevelName? (name : String) : Option Log := (levelOfName? name).map atLevel

def shows (log : Log) (r : Record) : Bool := log.effectiveLevel ≤ r.severity.level

/-- The line of a record, if it is shown. -/
def write (log : Log) (r : Record) : String := if log.shows r then r.line ++ "\n" else ""

end Log

end StackMachine
