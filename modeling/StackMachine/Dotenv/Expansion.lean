import StackMachine.Dotenv

/-! References to variables in the values of a file of assignments, and what the file sets once they
are replaced. -/
namespace StackMachine.Dotenv

def endsName (c : Char) : Bool := c == '\x7d' || c == ':'

def endsDefault (c : Char) : Bool := c == '\x7d'

/-- The name and the default of a reference, and what follows it. The opening of the reference has
been read; a default stands after a colon and a minus sign. -/
def reference? (cs : List Char) : Option (List Char × List Char × List Char) :=
  match cs.dropWhile (!endsName ·) with
  | '\x7d' :: rest => some (cs.takeWhile (!endsName ·), [], rest)
  | ':' :: '-' :: more =>
      match more.dropWhile (!endsDefault ·) with
      | [] => none
      | _ :: rest => some (cs.takeWhile (!endsName ·), more.takeWhile (!endsDefault ·), rest)
  | _ => none

theorem reference?_length {cs name default rest : List Char}
    (h : reference? cs = some (name, default, rest)) : rest.length < cs.length := by
  have hcs : (cs.dropWhile (!endsName ·)).length ≤ cs.length :=
    (List.dropWhile_suffix _).length_le
  unfold reference? at h
  split at h
  next heq =>
    simp only [Option.some.injEq, Prod.mk.injEq] at h
    rw [heq, List.length_cons, h.2.2] at hcs
    exact hcs
  next more heq =>
    rw [heq, List.length_cons, List.length_cons] at hcs
    have hmore : (more.dropWhile (!endsDefault ·)).length ≤ more.length :=
      (List.dropWhile_suffix _).length_le
    split at h
    · simp at h
    next heq' =>
      simp only [Option.some.injEq, Prod.mk.injEq] at h
      rw [heq', List.length_cons, h.2.2] at hmore
      omega
  next => simp at h

/-- Replaces the references in a value. What is no whole reference stands for itself. -/
def expand (value? : String → Option String) (cs : List Char) : List Char :=
  match cs with
  | [] => []
  | '$' :: '\x7b' :: rest =>
      match _h : reference? rest with
      | some (name, default, after) =>
          ((value? (String.ofList name)).map String.toList).getD default ++ expand value? after
      | none => '$' :: expand value? ('\x7b' :: rest)
  | c :: rest => c :: expand value? rest
termination_by cs.length
decreasing_by
  · have := reference?_length _h
    simp only [List.length_cons]
    omega
  · simp
  · simp

/-- An assignment takes the place of an earlier one to the same name. -/
def put (a : Assignment) : List Assignment → List Assignment
  | [] => [a]
  | b :: rest => if b.name == a.name then a :: rest else b :: put a rest

/-- The text by which a reference to a name is replaced. A variable that is set already comes before
an assignment of the file; a name alone has no text. -/
def textOf? (get? : String → Option String) (done : List Assignment) (name : String) :
    Option String :=
  get? name <|> (done.find? (·.name == name)).map fun a => a.value?.getD ""

def record (get? : String → Option String) (done : List Assignment) (a : Assignment) :
    List Assignment :=
  let replace (value : String) : String :=
    String.ofList (expand (textOf? get? done) value.toList)
  put ⟨a.name, a.value?.map replace⟩ done

/-- What a file sets, given the variables that are set already. A reference sees the assignments
before it. -/
def settle (get? : String → Option String) (text : String) : List Assignment :=
  (assignments text).foldl (record get?) []

end StackMachine.Dotenv
