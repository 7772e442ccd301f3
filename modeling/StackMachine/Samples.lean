import StackMachine.Text.Quoted

/-! Example programs that come with the machine. -/
namespace StackMachine.Samples

def basic : List String :=
  ["// Basic Arithmetic", "PUSH 10", "PUSH 5", "ADD        // 10 + 5", "PRINT      // Output: 15",
   "PUSH 15", "PUSH 3", "MUL        // 15 * 3", "PRINT      // Output: 45", "HALT"]

def memory : List String :=
  ["// Memory Operations", "PUSH 42", "STORE x    // Store 42 in variable 'x'", "PUSH 100",
   "STORE y    // Store 100 in variable 'y'", "LOAD x", "LOAD y", "ADD        // Add x and y",
   "PRINT      // Output: 142", "HALT"]

def arrays : List String :=
  ["// Array Operations", "PUSH 3       // Array size", "NEWARRAY     // Create array of size 3",
   "", "// Store values: [10, 20, 30]", "DUP", "PUSH 0", "PUSH 10", "ARRAYSET", "", "DUP",
   "PUSH 1", "PUSH 20", "ARRAYSET", "", "DUP", "PUSH 2", "PUSH 30", "ARRAYSET", "",
   "// Read and print values", "DUP", "PUSH 0", "ARRAYGET", "PRINT       // Output: 10", "", "DUP",
   "PUSH 1", "ARRAYGET", "PRINT       // Output: 20", "", "DUP", "PUSH 2", "ARRAYGET",
   "PRINT       // Output: 30", "", "FREEARR", "HALT"]

def strings : List String :=
  ["// String Operations", "NEWSTR \"Hello, \"", "NEWSTR \"Virtual \"",
   "STRCAT        // Concatenate strings", "", "NEWSTR \"Machine!\"",
   "STRCAT        // Concatenate again", "PRINT         // Output: Hello, Virtual Machine!", "",
   "PRINTSTR \"String Demo Complete\\n\"", "HALT"]

def loops : List String :=
  ["// Print numbers from 1 to 5", "PUSH 1        // Counter", "STORE i", "", "start_loop:",
   "  LOAD i", "  DUP", "  PRINT       // Print current number", "", "  PUSH 1",
   "  ADD         // Increment counter", "  DUP", "  STORE i     // Update counter", "",
   "  PUSH 5", "  LE          // Check if <= 5", "  JMPNZ start_loop", "", "HALT"]

def comparison : List String :=
  ["// Comparison Operations", "PUSH 10", "PUSH 20", "LT           // 10 < 20",
   "PRINT        // Output: 1", "", "PUSH 30", "PUSH 30", "EQ           // 30 == 30",
   "PRINT        // Output: 1", "", "PUSH 50", "PUSH 40", "GT           // 50 > 40",
   "PRINT        // Output: 1", "HALT"]

def calculator : List String :=
  ["// Simple Calculator", "PUSH 15", "STORE a", "PUSH 5", "STORE b", "", "PRINTSTR \"Sum: \"",
   "LOAD a", "LOAD b", "ADD", "PRINT", "", "PRINTSTR \"Difference: \"", "LOAD a", "LOAD b", "SUB",
   "PRINT", "", "PRINTSTR \"Product: \"", "LOAD a", "LOAD b", "MUL", "PRINT", "",
   "PRINTSTR \"Quotient: \"", "LOAD a", "LOAD b", "DIV", "PRINT", "HALT"]

def chars : List String :=
  ["// Print \"HELLO\" using character codes", "PUSH 72    // H", "PRINTCHAR", "PUSH 69    // E",
   "PRINTCHAR", "PUSH 76    // L", "PRINTCHAR", "PUSH 76    // L", "PRINTCHAR", "PUSH 79    // O",
   "PRINTCHAR", "HALT"]

def control : List String :=
  ["// Conditional execution", "    PUSH 15", "    DUP", "    PUSH 10", "    LT",
   "    JMPZ else_outer", "", "    PRINTSTR \"Number is less than 10\\n\"", "    JMP end_outer",
   "", "else_outer:", "    DUP", "    PUSH 20", "    LT", "    JMPZ else_inner", "",
   "    PRINTSTR \"Number is between 10 and 20\\n\"", "    JMP end_inner", "", "else_inner:",
   "    PRINTSTR \"Number is 20 or greater\\n\"", "", "end_inner:", "end_outer:", "    POP",
   "    HALT"]

/-- The programs by name, in increasing order of names. -/
def all : List (String × List String) :=
  [("arrays", arrays), ("basic", basic), ("calculator", calculator), ("chars", chars),
   ("comparison", comparison), ("control", control), ("loops", loops), ("memory", memory),
   ("strings", strings)]

def names : List String := all.map (·.1)

/-- Every line of a program ends with a line feed. -/
def text? (name : String) : Option String :=
  (all.lookup name).map fun lines => String.join (lines.map (· ++ "\n"))

def unknownMessage (name : String) : String :=
  "unknown sample " ++ Text.quoted name ++ "; choose from " ++ ", ".intercalate names

end StackMachine.Samples
