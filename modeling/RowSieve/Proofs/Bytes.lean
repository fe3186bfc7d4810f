import Mathlib.Tactic.SplitIfs
import RowSieve.Bytes

/-! Lines of bytes. A byte of an ASCII character stands for that character only, so cutting
bytes at line ends never cuts a character. Lines that are ended do not depend on what follows
them. -/
namespace RowSieve.Bytes

@[simp] theorem ofText_nil : ofText [] = [] := rfl

@[simp] theorem ofText_cons (c : Char) (t : Text) :
    ofText (c :: t) = String.utf8EncodeChar c ++ ofText t := rfl

@[simp] theorem ofText_append (s t : Text) : ofText (s ++ t) = ofText s ++ ofText t := by
  simp [ofText]

theorem mem_utf8EncodeChar_iff {c d : Char} (ascii : d.toNat < 128) :
    UInt8.ofNat d.toNat ∈ String.utf8EncodeChar c ↔ c = d := by
  have same : c = d ↔ c.val.toNat = d.toNat := by
    rw [← Char.toNat_inj]
    rfl
  rw [same]
  simp only [String.utf8EncodeChar]
  generalize c.val.toNat = v, d.toNat = w at *
  -- Every byte of a longer encoding is 128 or more.
  split_ifs <;> simp [← UInt8.toNat_inj] <;> omega

theorem mem_ofText_iff {d : Char} {t : Text} (ascii : d.toNat < 128) :
    UInt8.ofNat d.toNat ∈ ofText t ↔ d ∈ t := by
  simp [ofText, List.mem_flatMap, mem_utf8EncodeChar_iff ascii]

def carriage : UInt8 := 13

theorem newline_mem_ofText_iff {t : Text} : newline ∈ ofText t ↔ '\n' ∈ t :=
  mem_ofText_iff (d := '\n') (by decide)

theorem lines_newline (b : Bytes) : lines (newline :: b) = [] :: lines b := by simp [lines]

theorem lines_ne_nil {b : Bytes} (some : b ≠ []) : lines b ≠ [] := by
  cases b with
  | nil => contradiction
  | cons x b =>
    rw [lines]
    split
    · simp
    · split <;> simp

/-- A line is cut off at the byte that ends it. -/
theorem lines_ended {line : Bytes} (own : newline ∉ line) (b : Bytes) :
    lines (line ++ newline :: b) = line :: lines b := by
  induction line with
  | nil => exact lines_newline b
  | cons x line ih =>
    obtain ⟨other, own⟩ := not_or.mp (mt List.mem_cons.mpr own)
    rw [List.cons_append, lines, if_neg (Ne.symm other), ih own]

theorem newline_notMem_of_mem_lines {b line : Bytes} (member : line ∈ lines b) :
    newline ∉ line := by
  fun_induction lines b generalizing line with
  | case1 => simp at member
  | case2 rest ih =>
    rcases List.mem_cons.mp member with rfl | later
    · simp
    · exact ih later
  | case3 x rest other alone ih =>
    rw [List.mem_singleton.mp member]
    exact fun inside => other (List.mem_singleton.mp inside).symm
  | case4 x rest other first more found ih =>
    rw [found] at ih
    rcases List.mem_cons.mp member with rfl | later
    · intro inside
      rcases List.mem_cons.mp inside with same | inside
      · exact other same.symm
      · exact ih List.mem_cons_self inside
    · exact ih (List.mem_cons_of_mem _ later)

/-- Bytes of whole lines: none, or the last one ends a line. -/
def Ended (b : Bytes) : Prop := ∀ last ∈ b.getLast?, last = newline

theorem Ended.of_cons {x : UInt8} {b : Bytes} (ended : Ended (x :: b)) : Ended b := by
  intro last found
  cases b with
  | nil => simp at found
  | cons y b => exact ended last (by simpa using found)

theorem Ended.ne_nil {x : UInt8} {b : Bytes} (ended : Ended (x :: b)) (other : x ≠ newline) :
    b ≠ [] := by
  rintro rfl
  exact other (ended x (by simp))

theorem lines_append {a : Bytes} (ended : Ended a) (b : Bytes) :
    lines (a ++ b) = lines a ++ lines b := by
  induction a with
  | nil => rfl
  | cons x a ih =>
    rw [List.cons_append, lines, lines]
    split
    · rw [ih ended.of_cons, List.cons_append]
    · rename_i other
      obtain ⟨line, more, found⟩ := List.exists_cons_of_ne_nil (lines_ne_nil (ended.ne_nil other))
      rw [ih ended.of_cons, found, List.cons_append, List.cons_append]

theorem length_lines {a : Bytes} (ended : Ended a) : (lines a).length = a.count newline := by
  induction a with
  | nil => rfl
  | cons x a ih =>
    rw [lines, List.count_cons]
    split
    · rename_i here
      simp [here, ih ended.of_cons]
    · rename_i other
      obtain ⟨line, more, found⟩ := List.exists_cons_of_ne_nil (lines_ne_nil (ended.ne_nil other))
      rw [← ih ended.of_cons, found]
      simp [other]

/-- The first line ends the bytes, or is ended by a line end. -/
theorem lines_eq_cons {b line : Bytes} {more : List Bytes} (found : lines b = line :: more) :
    b = line ∧ more = [] ∨ ∃ rest, b = line ++ newline :: rest ∧ lines rest = more := by
  fun_induction lines b generalizing line with
  | case1 => contradiction
  | case2 rest ih =>
    obtain ⟨rfl, rfl⟩ := List.cons.inj found
    exact .inr ⟨rest, rfl, rfl⟩
  | case3 x rest other alone ih =>
    obtain ⟨rfl, rfl⟩ := List.cons.inj found
    have last : rest = [] := Decidable.byContradiction fun some => lines_ne_nil some alone
    exact .inl ⟨by rw [last], rfl⟩
  | case4 x rest other first later split ih =>
    obtain ⟨rfl, rfl⟩ := List.cons.inj found
    rcases ih split with ⟨rfl, rfl⟩ | ⟨behind, rfl, rfl⟩
    · exact .inl ⟨rfl, rfl⟩
    · exact .inr ⟨behind, rfl, rfl⟩

theorem Ended.append_cons {b : Bytes} (ended : Ended b) (line : Bytes) :
    Ended (line ++ newline :: b) := by
  intro last found
  cases b with
  | nil => simpa using found.symm
  | cons x b => exact ended last (by simpa using found)

/-- Where lines are parted, the bytes are parted behind a line end. -/
theorem lines_eq_append {b : Bytes} {before behind : List Bytes}
    (found : lines b = before ++ behind) (some : behind ≠ []) :
    ∃ front rest, b = front ++ rest ∧ Ended front ∧ lines front = before ∧ lines rest = behind := by
  induction before generalizing b with
  | nil => exact ⟨[], b, rfl, by simp [Ended], rfl, found⟩
  | cons line before ih =>
    rcases lines_eq_cons found with ⟨_, none⟩ | ⟨rest, rfl, later⟩
    · simp [some] at none
    · obtain ⟨front, rest, rfl, ended, lines, behind⟩ := ih later
      have member : line ∈ Bytes.lines (line ++ newline :: (front ++ rest)) := by
        rw [found]
        exact List.mem_cons_self
      refine ⟨line ++ newline :: front, rest, by simp, ended.append_cons line, ?_, behind⟩
      rw [lines_ended (newline_notMem_of_mem_lines member), lines]

end RowSieve.Bytes
