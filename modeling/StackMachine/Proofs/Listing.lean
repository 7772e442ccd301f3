import Mathlib.Data.List.Count
import Mathlib.Data.List.Nodup
import Mathlib.Data.List.Permutation
import StackMachine.Proofs.WireForm

/-! The listing of an assembled program. Instructions stand in their order, each behind headers for
the labels of its position, and labels of the end stand last. No label is left out, since none has a
position outside the program. -/
namespace StackMachine
open Text Assembly

namespace Program
variable {p : Program} {name : String} {position : Nat} {instructions : List Instruction}

theorem mem_labelsAt {position : Int} :
    name ∈ p.labelsAt position ↔ (name, position) ∈ p.labels := by
  rw [(labelsAt_perm p position).mem_iff]
  simp

/-- The labels of a position are in increasing order, and none occurs twice. -/
theorem labelsAt_increasing (hn : (p.labels.map (·.1)).Nodup) (position : Int) :
    (p.labelsAt position).Pairwise (· < ·) := by
  have hsorted : (p.labelsAt position).Pairwise (· ≤ ·) := by
    have htrans (a b c : String) (hab : decide (a ≤ b) = true) (hbc : decide (b ≤ c) = true) :
        decide (a ≤ c) = true :=
      decide_eq_true (String.le_trans (of_decide_eq_true hab) (of_decide_eq_true hbc))
    have htotal (a b : String) : (decide (a ≤ b) || decide (b ≤ a)) = true := by
      simpa using String.le_total a b
    have hle := List.pairwise_mergeSort htrans htotal
      ((p.labels.filter (·.2 == position)).map (·.1))
    simpa [labelsAt] using hle
  have hdistinct : (p.labelsAt position).Nodup := by
    rw [(labelsAt_perm p position).nodup_iff]
    exact hn.sublist (List.filter_sublist.map _)
  exact (hsorted.and hdistinct).imp fun ⟨hle, hne⟩ => Std.lt_of_le_of_ne hle hne

theorem listingFrom_eq (p : Program) (position : Nat) (instructions : List Instruction) :
    p.listingFrom position instructions =
      ((instructions.zipIdx position).flatMap fun (i, k) =>
        (p.labelsAt k).map header ++ [numbered k i]) ++
          (p.labelsAt (position + instructions.length : Nat)).map header := by
  induction instructions generalizing position with
  | nil => rfl
  | cons i rest ih =>
    have hend : position + 1 + rest.length = position + (i :: rest).length := by
      simp only [List.length_cons]
      omega
    rw [listingFrom, ih, hend]
    simp

/-- Nothing is behind the end of the program. -/
theorem filter_end (hp : p.Printable) :
    p.labels.filter ((p.size : Int) ≤ ·.2) = p.labels.filter (·.2 == (p.size : Int)) := by
  refine List.filter_congr fun e he => Bool.eq_iff_iff.mpr ?_
  have hle := (hp.positions e he).2
  simp only [decide_eq_true_eq, beq_iff_eq]
  omega

/-- The lines are the headers of all labels from the position on and the lines of the instructions,
each once. -/
theorem listingFrom_perm (hp : p.Printable) (hs : position + instructions.length = p.size) :
    (p.listingFrom position instructions).Perm
      ((p.labels.filter ((position : Int) ≤ ·.2)).map (fun e => header e.1) ++
        (instructions.zipIdx position).map fun (i, k) => numbered k i) := by
  have hheaders (k : Int) : ((p.labelsAt k).map header).Perm
      ((p.labels.filter (·.2 == k)).map fun e => header e.1) := by
    simpa [Function.comp_def] using (labelsAt_perm p k).map header
  induction instructions generalizing position with
  | nil =>
    obtain rfl : position = p.size := by simpa using hs
    rw [filter_end hp]
    simpa [listingFrom] using hheaders p.size
  | cons i rest ih =>
    have hrest : (p.listingFrom (position + 1) rest).Perm _ := ih (by simp at hs; omega)
    have hlabels := (perm_filter_labels p.labels position).map fun e => header e.1
    rw [List.map_append] at hlabels
    rw [listingFrom, List.zipIdx_cons, List.map_cons]
    -- The line of the instruction moves behind the headers of the positions after it.
    refine ((hheaders position).append (hrest.cons _)).trans ?_
    refine (List.Perm.append_left _ List.perm_middle.symm).trans ?_
    rw [← List.append_assoc]
    exact hlabels.append_right _

theorem header_inj {a b : String} (h : header a = header b) : a = b := by
  rw [← String.toList_inj] at h ⊢
  simpa [header] using h

/-- A header starts with a character of its label, and the line of an instruction with a blank. -/
theorem header_ne_numbered (hn : IsName name) (k : Nat) (i : Instruction) :
    header name ≠ numbered k i := by
  intro h
  have hhead := congrArg (fun line => line.toList.head?.any Token.isIdentStart) h
  have hstart : (header name).toList.head?.any Token.isIdentStart = true := by
    rw [header, String.toList_append, List.head?_append_of_ne_nil _ hn.ne_nil]
    exact hn.1
  have hblank : (numbered k i).toList.head?.any Token.isIdentStart = false := by
    simp [numbered]
    decide
  simp only [hstart, hblank] at hhead
  cases hhead

theorem listing_perm (hp : p.Printable) :
    p.listing.Perm (p.labels.map (fun e => header e.1) ++
      p.instructions.toList.zipIdx.map fun (i, k) => numbered k i) := by
  have hperm : (p.listingFrom 0 p.instructions.toList).Perm _ :=
    listingFrom_perm hp (by simp [size])
  rwa [List.filter_eq_self.mpr fun e he => by simpa using (hp.positions e he).1] at hperm

theorem length_listing (hp : p.Printable) : p.listing.length = p.size + p.labels.length := by
  rw [(listing_perm hp).length_eq]
  simp [size, Nat.add_comm]

/-- Every label has one header. -/
theorem count_header (hp : p.Printable) (hl : name ∈ p.labels.map (·.1)) :
    p.listing.count (header name) = 1 := by
  have hname : IsName name := by
    obtain ⟨e, he, rfl⟩ := List.mem_map.mp hl
    exact hp.names e he
  have hnot : header name ∉ p.instructions.toList.zipIdx.map fun (i, k) => numbered k i := by
    intro hmem
    obtain ⟨⟨i, k⟩, -, h⟩ := List.mem_map.mp hmem
    exact header_ne_numbered hname k i h.symm
  have hone : (p.labels.map fun e => header e.1).count (header name) = 1 := by
    have hmap : (p.labels.map fun e => header e.1) = (p.labels.map (·.1)).map header := by simp
    rw [hmap, List.count_map_of_injective _ header fun _ _ => header_inj]
    exact List.count_eq_one_of_mem hp.nodup hl
  rw [(listing_perm hp).count_eq, List.count_append, hone, List.count_eq_zero.mpr hnot]

/-- The listing has a header of the label and, but for headers of other labels of the position,
right behind it the line of the instruction there. At the end of the program nothing is behind. -/
def Leads (p : Program) (name : String) (position : Nat) : Prop :=
  ∃ before others after : List String,
    p.listing = before ++ header name :: (others.map header ++ after) ∧
    (∀ other ∈ others, (other, (position : Int)) ∈ p.labels) ∧
    after.head? = p.instructions[position]?.map (numbered position)

/-- The lines from a position on are the last ones. -/
theorem exists_listingFrom (p : Program) {position target : Nat} (hlo : position ≤ target)
    (hhi : target ≤ position + instructions.length) :
    ∃ before, p.listingFrom position instructions =
      before ++ p.listingFrom target (instructions.drop (target - position)) := by
  induction instructions generalizing position with
  | nil =>
    obtain rfl : position = target := by simp at hhi; omega
    exact ⟨[], by simp⟩
  | cons i rest ih =>
    by_cases h : position = target
    · subst h
      exact ⟨[], by simp⟩
    · have hlo' : position + 1 ≤ target := by omega
      obtain ⟨before, hbefore⟩ := ih hlo' (by simp at hhi; omega)
      have hdrop : (i :: rest).drop (target - position) = rest.drop (target - (position + 1)) := by
        rw [show target - position = target - (position + 1) + 1 by omega, List.drop_succ_cons]
      refine ⟨(p.labelsAt position).map header ++ numbered position i :: before, ?_⟩
      rw [listingFrom, hbefore, hdrop]
      simp

theorem exists_behind_labels (p : Program) (position : Nat) (instructions : List Instruction) :
    ∃ after, p.listingFrom position instructions = (p.labelsAt position).map header ++ after ∧
      after.head? = instructions.head?.map (numbered position) := by
  cases instructions with
  | nil => exact ⟨[], by simp [listingFrom], rfl⟩
  | cons i rest => exact ⟨_, rfl, rfl⟩

theorem leads_of_mem (hp : p.Printable) (hl : (name, (position : Int)) ∈ p.labels) :
    p.Leads name position := by
  have hle : position ≤ 0 + p.instructions.toList.length := by
    simpa [size] using Int.ofNat_le.mp (hp.positions _ hl).2
  obtain ⟨before, hbefore⟩ := p.exists_listingFrom (Nat.zero_le position) hle
  obtain ⟨after, hafter, hhead⟩ :=
    p.exists_behind_labels position (p.instructions.toList.drop (position - 0))
  obtain ⟨first, others, hlabels⟩ := List.append_of_mem (mem_labelsAt.mpr hl)
  refine ⟨before ++ first.map header, others, after, ?_, fun other ho => ?_, by simpa using hhead⟩
  · rw [listing, hbefore, hafter, hlabels]
    simp
  · apply mem_labelsAt.mp
    simp [hlabels, ho]

theorem unbroken_numbered (hp : p.Printable) {i : Instruction} (hi : i ∈ p.instructions) {k : Nat}
    {c : Char} (hc : c ∈ (numbered k i).toList) : isLineBreak c = false := by
  have hblank {m : Nat} (hc : c ∈ List.replicate m ' ') : isLineBreak c = false := by
    rw [List.eq_of_mem_replicate hc]
    decide
  simp only [numbered, padLeft, String.toList_append, String.toList_ofList, List.mem_append] at hc
  rcases hc with ((hc | hc | hc) | hc) | hc
  · exact hblank (m := 2) hc
  · exact hblank hc
  · exact unbroken_toString (n := (k : Int)) hc
  · exact hblank (m := 2) hc
  · exact Instruction.unbroken_render hp hi hc

theorem unbroken_listing (hp : p.Printable) {line : String} (hl : line ∈ p.listing) {c : Char}
    (hc : c ∈ line.toList) : isLineBreak c = false := by
  rw [(listing_perm hp).mem_iff, List.mem_append] at hl
  rcases hl with hl | hl
  · obtain ⟨e, he, rfl⟩ := List.mem_map.mp hl
    exact (line_header (hp.names e he)).unbroken c hc
  · obtain ⟨⟨i, k⟩, hi, rfl⟩ := List.mem_map.mp hl
    exact unbroken_numbered hp (by simpa using List.fst_mem_of_mem_zipIdx hi) hc

/-- What the listing of a program shows, where the lines of its text say that. -/
structure Lists (p : Program) (source : Source) : Prop where
  /-- Each instruction stands behind headers for exactly the labels of its position, and headers for
  exactly the labels of the end stand last. -/
  lines : ∃ names : Nat → List String,
    (∀ k, (names k).Pairwise (· < ·) ∧ ∀ name, name ∈ names k ↔ (name, (k : Int)) ∈ p.labels) ∧
    p.listing = (p.instructions.toList.zipIdx.flatMap fun (i, k) =>
      (names k).map header ++ [numbered k i]) ++ (names p.size).map header
  length : p.listing.length = p.size + p.labels.length
  once : ∀ name ∈ source.labels, p.listing.count (header name) = 1
  leads : ∀ k name, source.Defines k name → p.Leads name (source.position k)
  jumps : ∀ k op name, source.Holds k op (.text name) → op.isJump = true → ∃ target : Nat,
    p.instructions[source.position k]? = some ⟨op, .int target, some (k + 1)⟩ ∧
      p.Leads name target
  unbroken : ∀ line ∈ p.listing, ∀ c ∈ line.toList, isLineBreak c = false

end Program

/-- The listing of an assembled program has a line for each instruction and for each label, and no
other lines. A label stands where the jumps to it go. -/
theorem listing_faithful {text : String} {p : Program} (h : assemble text = .ok p) :
    ∃ source : Source, source.WrittenAs 1 (lines text.toList) ∧ p.Lists source := by
  have hp := Program.assemble_printable h
  obtain ⟨-, source, hw, hn, hl, rfl⟩ := assemble_eq_ok_iff.mp h
  have hlayout := hw.layout hn hl
  have hleads : ∀ k name, source.Defines k name →
      source.program.Leads name (source.position k) := by
    intro k name hk
    apply Program.leads_of_mem hp
    exact (Entries.lookup_eq_some_iff_mem hp.nodup).mp (hlayout.label k name hk)
  refine ⟨source, hw, ?_, Program.length_listing hp, ?_, hleads, ?_,
    fun line hl c => Program.unbroken_listing hp hl⟩
  · refine ⟨fun k => source.program.labelsAt k, fun k => ?_, ?_⟩
    · exact ⟨Program.labelsAt_increasing hp.nodup k, fun name => Program.mem_labelsAt⟩
    · have hlisting := source.program.listingFrom_eq 0 source.program.instructions.toList
      simpa [Program.listing, Program.size] using hlisting
  · intro name hname
    exact Program.count_header hp (hlayout.labels.symm ▸ hname)
  · intro k op name hk hj
    obtain ⟨decoded, hd, hi⟩ := hlayout.instruction k op _ hk
    rw [Source.Decodes, if_pos hj] at hd
    obtain ⟨_, k', hname, hdef, rfl⟩ := hd
    cases hname
    exact ⟨source.position k', hi, hleads k' name hdef⟩

/-- Two labels at the start and two at the end, neither in order, and a line feed in a string. -/
def paired : String := "zero:\nalpha: NEWSTR \"x\\ny\"\nJMPZ zero\nend:\nEnd:"

def pairedProgram : Program where
  instructions := #[⟨.newString, .text "x\ny", some 2⟩, ⟨.jumpZero, .int 0, some 3⟩]
  labels := [("zero", 0), ("alpha", 0), ("end", 2), ("End", 2)]

theorem paired_listing : assemble paired = .ok pairedProgram ∧
    pairedProgram.listing =
      ["alpha:", "zero:", "     0  NEWSTR x\\ny", "     1  JMPZ 0", "End:", "end:"] ∧
    ∃ source : Source, source.WrittenAs 1 (lines paired.toList) ∧ pairedProgram.Lists source := by
  have hp : (assemble paired).toOption = some pairedProgram := by decide +kernel
  have hp := toOption_eq_some_iff.mp hp
  have hlisting : pairedProgram.listing =
      ["alpha:", "zero:", "     0  NEWSTR x\\ny", "     1  JMPZ 0", "End:", "end:"] := by
    cbv
  exact ⟨hp, hlisting, listing_faithful hp⟩

end StackMachine
