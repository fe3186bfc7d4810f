import Mathlib.Data.List.TakeWhile
import RowSieve.Proofs.Bytes
import RowSieve.Reader

/-! Reading on behind lines that are already read. Nothing of them is left in the reader but
their number: the items of later lines are those of the lines alone, with other line numbers. -/
namespace RowSieve

namespace ReadError

def line : ReadError → Nat
  | notUtf8 line => line
  | duplicateColumn line _ => line
  | fieldCount line _ _ => line

def later (n : Nat) : ReadError → ReadError
  | notUtf8 line => notUtf8 (line + n)
  | duplicateColumn line name => duplicateColumn (line + n) name
  | fieldCount line expected found => fieldCount (line + n) expected found

@[simp] theorem line_later (e : ReadError) (n : Nat) : (e.later n).line = e.line + n := by
  cases e <;> rfl

end ReadError

namespace Reader

def Item.later (n : Nat) : Item → Item
  | .ok (line, r) => .ok (line + n, r)
  | .error e => .error (e.later n)

theorem later_item (header values : List Text) (number n : Nat) :
    Item.later n (item header values number) = item header values (number + n) := by
  unfold item
  split <;> rfl

theorem itemsFrom_later (s : Settings.Input) (header : List Text) (number n : Nat)
    (lines : List Bytes) :
    itemsFrom s header (number + n) lines = (itemsFrom s header number lines).map (Item.later n) := by
  have next (number : Nat) : number + n + 1 = number + 1 + n := Nat.add_right_comm ..
  fun_induction itemsFrom s header number lines with
  | case1 => rfl
  | case2 number raw rest unreadable ih =>
    rw [itemsFrom, unreadable, List.map_cons, ← ih, next]
    rfl
  | case3 number raw rest t readable skipped ih =>
    simp only [itemsFrom, readable, skipped, if_true]
    rw [next, ih]
  | case4 number raw rest t readable taken ih =>
    simp only [itemsFrom, readable, taken, Bool.false_eq_true, if_false, List.map_cons]
    rw [next, ih, later_item]

/-- How many of the lines are counted. -/
def counted (lines : List Bytes) : Nat := lines.countP fun raw => raw.toText?.isSome

theorem itemsFrom_append (s : Settings.Input) (header : List Text) (number : Nat)
    (a b : List Bytes) :
    itemsFrom s header number (a ++ b) =
      itemsFrom s header number a ++ itemsFrom s header (number + counted a) b := by
  fun_induction itemsFrom s header number a with
  | case1 => rfl
  | case2 number raw rest unreadable ih =>
    have same : counted (raw :: rest) = counted rest := by simp [counted, unreadable]
    simp only [List.cons_append, itemsFrom, unreadable, ih, same]
  | case3 number raw rest t readable skipped ih =>
    have more : number + counted (raw :: rest) = number + 1 + counted rest := by
      simp [counted, readable]
      omega
    simp only [List.cons_append, itemsFrom, readable, skipped, if_true, ih, more]
  | case4 number raw rest t readable taken ih =>
    have more : number + counted (raw :: rest) = number + 1 + counted rest := by
      simp [counted, readable]
      omega
    simp only [List.cons_append, itemsFrom, readable, taken, Bool.false_eq_true, if_false, ih, more]

/-- Lines that give nothing but records are all counted. -/
theorem counted_of_records {s : Settings.Input} {header : List Text} {number : Nat}
    {lines : List Bytes} {records : List (Nat × Record)}
    (items : itemsFrom s header number lines = records.map .ok) :
    counted lines = lines.length := by
  fun_induction itemsFrom s header number lines generalizing records with
  | case1 => rfl
  | case2 number raw rest unreadable ih => cases records <;> simp at items
  | case3 number raw rest t readable skipped ih =>
    have more := ih items
    simp [counted, readable] at more ⊢
    exact more
  | case4 number raw rest t readable taken ih =>
    cases records with
    | nil => simp at items
    | cons first records =>
      rw [List.map_cons, List.cons.injEq] at items
      have more := ih items.2
      simp [counted, readable] at more ⊢
      exact more

/-- A line that does not consist of returns only is no empty line. -/
theorem trimReturns_ne_nil {h : Bytes} {t : Text} (own : Bytes.newline ∉ h)
    (dark : ∃ b ∈ h, b ≠ Bytes.carriage) (read : h.toText? = some t) : trimReturns t ≠ [] := by
  obtain rfl := Bytes.toText?_eq_some_iff.mp read
  obtain ⟨b, member, other⟩ := dark
  intro empty
  have breaks : ∀ c ∈ t, c = '\r' ∨ c = '\n' := by
    simpa [trimReturns, List.dropWhile_eq_nil_iff] using empty
  obtain ⟨c, inside, part⟩ := List.mem_flatMap.mp member
  rcases breaks c inside with rfl | rfl
  · exact other (List.mem_singleton.mp part)
  · exact own (Bytes.newline_mem_ofText_iff.mpr inside)

/-- A line that does not consist of returns only is the header line, whatever follows it. -/
theorem start_header (s : Settings.Input) {h : Bytes} (own : Bytes.newline ∉ h)
    (dark : ∃ b ∈ h, b ≠ Bytes.carriage) :
    ∃ header : Except ReadError (List Text), ∀ body,
      start s (h ++ Bytes.newline :: body) = header.map fun names => ⟨names, 1, Bytes.lines body⟩ := by
  cases read : h.toText? with
  | none =>
    refine ⟨.error (.notUtf8 1), fun body => ?_⟩
    simp [start, Bytes.lines_ended own, openFrom, read, Except.map]
  | some t =>
    have shown : (trimReturns t).isEmpty = false := by
      simpa using trimReturns_ne_nil own dark read
    cases repeated : duplicate? [] (fields s (trimReturns t)) with
    | none =>
      refine ⟨.ok (fields s (trimReturns t)), fun body => ?_⟩
      simp [start, Bytes.lines_ended own, openFrom, read, shown, repeated, Except.map]
    | some name =>
      refine ⟨.error (.duplicateColumn 1 name), fun body => ?_⟩
      simp [start, Bytes.lines_ended own, openFrom, read, shown, repeated, Except.map]

end Reader
end RowSieve
