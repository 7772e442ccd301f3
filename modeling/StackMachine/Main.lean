import StackMachine.CommandLine

/-! The program itself: it reads the files and variables that its arguments can call for, and prints
the outcome. -/
namespace StackMachine

def variableNames : List String :=
  ["STACKVM_HOST", "STACKVM_PORT", "STACKVM_MAX_STEPS", "STACKVM_LOG_LEVEL",
    "PYTHON_DOTENV_DISABLED"]

def readVariable (name : String) : IO (Option (String × String)) := do
  return (← IO.getEnv name).map (name, ·)

/-- What cannot be read as a file stands for none, except that a path can be refused for its length.
-/
def readEntry (path : String) : IO (String × Entry) := do
  let entry := match ← (IO.FS.readBinFile path).toBaseIO with
    | .ok content => .file content
    | .error (.invalidArgument _ _ "name too long") => .tooLong
    | .error _ => .missing
  return (normalPath path, entry)

def directoryDepth : IO Nat := do
  let parts := (← IO.currentDir).toString.splitOn "/"
  return (parts.filter (!·.isEmpty)).length

/-- The files that are read are those named by an argument, and those of settings above the working
directory and beside the program. -/
def readEnvironment (words : List String) : IO Environment := do
  let depth ← directoryDepth
  let home := (← IO.appDir).toString
  let settings := Environment.settingsPaths depth ++ [Environment.homeFile home]
  let files ← (words ++ settings).mapM readEntry
  return { vars := ← variableNames.filterMapM readVariable
           entry := fun path => (files.lookup path).getD .missing
           depth
           home }

def printOutcome (outcome : CommandLine.Outcome) : IO UInt32 := do
  (← IO.getStdout).putStr outcome.stdout
  let stderr ← IO.getStderr
  stderr.putStr outcome.stderr
  for (host, port) in outcome.served do
    stderr.putStrLn ("no listener for " ++ host ++ ":" ++ toString port)
  match outcome.exit with
  | .code n => return n.toUInt32
  | .message text =>
      stderr.putStrLn text
      return 1
  | .crash e =>
      stderr.putStrLn e.message
      return 1

end StackMachine

def main (args : List String) : IO UInt32 := do
  let e ← StackMachine.readEnvironment args
  StackMachine.printOutcome (StackMachine.CommandLine.main e args)
