import RowSieve.Query.Readable
import RowSieve.Query.Slicing

/-! Parentheses in a text. Both readings of a query end a group at the same place, the `)`
before which everything opened inside has been closed. -/
namespace RowSieve

def isBracket (c : Char) : Bool := c == '(' || c == ')'

def brackets (t : Text) : Text := t.filter isBracket

@[simp] theorem brackets_append (s t : Text) : brackets (s ++ t) = brackets s ++ brackets t :=
  List.filter_append ..

theorem isBracket_eq_false {c : Char} (blank : isBlank c = true) : isBracket c = false := by
  cases bracket : isBracket c with
  | false => rfl
  | true =>
    simp only [isBracket, Bool.or_eq_true, beq_iff_eq] at bracket
    rcases bracket with rfl | rfl <;> simp [isBlank] at blank

theorem brackets_of_allBlank {t : Text} (blank : AllBlank t) : brackets t = [] := by
  simpa [brackets] using fun c member => isBracket_eq_false (blank c member)

theorem balanced_nil (opened : Nat) : balanced opened [] = (opened == 0) := rfl

theorem balanced_open (opened : Nat) (t : Text) :
    balanced opened ('(' :: t) = balanced (opened + 1) t := by
  cases opened <;> simp [balanced]

theorem balanced_close (opened : Nat) (t : Text) :
    balanced opened (')' :: t) = (opened != 0 && balanced (opened - 1) t) := by
  cases opened <;> simp [balanced]

theorem balanced_plain {c : Char} (plain : isBracket c = false) (opened : Nat) (t : Text) :
    balanced opened (c :: t) = balanced opened t := by
  simp only [isBracket, Bool.or_eq_false_iff, beq_eq_false_iff_ne] at plain
  cases opened <;> simp [balanced, plain]

/-- Only the parentheses decide whether a text is balanced. -/
theorem balanced_brackets (opened : Nat) (t : Text) :
    balanced opened (brackets t) = balanced opened t := by
  fun_induction balanced opened t <;> simp_all [brackets, isBracket, balanced]

theorem balanced_congr {s t : Text} (same : brackets s = brackets t) (opened : Nat) :
    balanced opened s = balanced opened t := by
  rw [← balanced_brackets, same, balanced_brackets]

/-- A balanced beginning leaves as many groups open as there were. -/
theorem balanced_append {s t : Text} {inner : Nat} (closed : balanced inner s = true)
    (opened : Nat) : balanced (inner + opened) (s ++ t) = balanced opened t := by
  fun_induction balanced inner s with
  | case1 inner => simp_all
  | case2 => simp at closed
  | case3 t' inner ih => simp_all [balanced, Nat.add_right_comm]
  | case4 inner t' _ ih => simp_all [balanced, Nat.add_right_comm]
  | case5 inner c t' _ _ ih => simp_all [balanced]

/-- A group is balanced when its inside is. -/
theorem balanced_group {s : Text} (closed : balanced 0 s = true) (t : Text) :
    balanced 0 ('(' :: s ++ ')' :: t) = balanced 0 t := by
  have inside := balanced_append (t := ')' :: t) closed 1
  simpa [balanced] using inside

theorem balanced_binary {l r : Text} {c : Char} (plain : isBracket c = false)
    (leftClosed : balanced 0 l = true) (rightClosed : balanced 0 r = true) :
    balanced 0 ('(' :: (l ++ ')' :: c :: '(' :: (r ++ [')']))) = true := by
  have left := balanced_group leftClosed (c :: '(' :: (r ++ [')']))
  have right := balanced_group rightClosed []
  rw [List.cons_append] at left right
  rw [left, balanced_plain plain, right, balanced_nil]
  rfl

theorem balanced_negation {t : Text} (closed : balanced 0 t = true) :
    balanced 0 ('!' :: '(' :: (t ++ [')'])) = true := by
  have group := balanced_group closed []
  rw [List.cons_append] at group
  rw [balanced_plain (by decide), group, balanced_nil]
  rfl

/-- The slice of a group is what is balanced before a `)`. -/
theorem splitClosing?_eq_some_iff {opened : Nat} {t own rest : Text} :
    splitClosing? opened t = some (own, rest) ↔
      t = own ++ ')' :: rest ∧ balanced opened own = true := by
  fun_induction splitClosing? opened t generalizing own with
  | case1 => simp
  | case2 t => cases own <;> grind [balanced]
  | case3 t opened ih => cases own <;> grind [balanced, Option.map_eq_some_iff]
  | case4 opened t _ ih => cases own <;> grind [balanced_open, balanced, Option.map_eq_some_iff]
  | case5 opened c t close notOpen ih =>
    cases own <;> grind [balanced_plain, isBracket, balanced, Option.map_eq_some_iff]

/-- An atom inside a group ends at the same `)`. -/
theorem cutGroup_eq_iff {opened : Nat} {t own rest : Text} :
    Atom.cutGroup opened t = (own, ')' :: rest) ↔
      t = own ++ ')' :: rest ∧ balanced opened own = true := by
  fun_induction Atom.cutGroup opened t generalizing own with
  | case1 => simp
  | case2 t => cases own <;> grind [balanced]
  | case3 t opened own' rest' _ ih => cases own <;> grind [balanced]
  | case4 opened t _ own' rest' _ ih => cases own <;> grind [balanced_open, balanced]
  | case5 opened c t close notOpen own' rest' _ ih =>
    cases own <;> grind [balanced_plain, isBracket, balanced]

end RowSieve
