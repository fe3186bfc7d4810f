/-! Text is a list of characters, and this module holds what the language, the
reader and the reports ask of it: blanks, trimming, byte sizes, order and
splitting. Bytes appear only as sizes here; `RowSieve.Bytes` holds the encoding. -/
namespace RowSieve

abbrev Text := List Char

/-- A blank is a character with the Unicode property White_Space. -/
def isBlank (c : Char) : Bool :=
  let n := c.toNat
  (9 ≤ n && n ≤ 13) || n == 32 || n == 0x85 || n == 0xA0 || n == 0x1680 ||
    (0x2000 ≤ n && n ≤ 0x200A) || n == 0x2028 || n == 0x2029 || n == 0x202F ||
    n == 0x205F || n == 0x3000

def AllBlank (t : Text) : Prop := ∀ c ∈ t, isBlank c = true

/-- A gap separates the tokens of a program; it knows four blanks only. -/
def isGap (c : Char) : Bool := c == ' ' || c == '\t' || c == '\r' || c == '\n'

namespace Text

def trimStart (t : Text) : Text := t.dropWhile isBlank

def trimEnd (t : Text) : Text := (t.reverse.dropWhile isBlank).reverse

def trim (t : Text) : Text := trimEnd (trimStart t)

def size : Text → Nat
  | [] => 0
  | c :: t => c.utf8Size + size t

@[simp] theorem size_nil : size [] = 0 := rfl
@[simp] theorem size_cons (c : Char) (t : Text) : size (c :: t) = c.utf8Size + size t := rfl
@[simp] theorem size_append (s t : Text) : size (s ++ t) = size s + size t := by
  induction s with
  | nil => simp
  | cons c s ih => simp only [List.cons_append, size_cons, ih]; omega

theorem trimStart_nil : trimStart [] = [] := rfl

/-- Order by code points, a proper beginning before the whole. -/
def order : Text → Text → Ordering
  | [], [] => .eq
  | [], _ :: _ => .lt
  | _ :: _, [] => .gt
  | a :: s, b :: t => (compare a.toNat b.toNat).then (order s t)

theorem order_eq_iff {s t : Text} : order s t = .eq ↔ s = t := by
  fun_induction order s t with
  | case1 => simp
  | case2 => simp
  | case3 => simp
  | case4 a s b t ih =>
    rw [Ordering.then_eq_eq, ih, Nat.compare_eq_eq, List.cons.injEq, Char.toNat_inj]

/-- Cuts at every occurrence of `d`; there is always one piece more than there
are cuts. -/
def split (d : Char) : Text → List Text
  | [] => [[]]
  | c :: t =>
    if c = d then [] :: split d t
    else match split d t with
      | [] => [[c]]
      | piece :: more => (c :: piece) :: more

theorem split_ne_nil (d : Char) (t : Text) : split d t ≠ [] := by
  induction t with
  | nil => simp [split]
  | cons c t _ =>
    rw [split]
    split
    · simp
    · split <;> simp

/-- The pieces, with the character between them, are the text. -/
theorem flatten_split (d : Char) (t : Text) :
    ((split d t).intersperse [d]).flatten = t := by
  induction t with
  | nil => rfl
  | cons c t ih =>
    obtain ⟨piece, more, pieces⟩ := List.exists_cons_of_ne_nil (split_ne_nil d t)
    rw [pieces] at ih
    rw [split]
    split
    next same => cases more <;> simp_all
    next => cases more <;> simp_all

/-- No piece holds the character at which it was cut. -/
theorem not_mem_of_mem_split {d : Char} {t piece : Text} (member : piece ∈ split d t) :
    d ∉ piece := by
  fun_induction split d t generalizing piece <;> grind

def after? : Text → Text → Option Text
  | [], t => some t
  | _ :: _, [] => none
  | a :: s, b :: t => if a = b then after? s t else none

theorem after?_eq_some_iff {s t rest : Text} : after? s t = some rest ↔ t = s ++ rest := by
  fun_induction after? s t <;> grind

/-- Equality that takes the ASCII letters `A` to `Z` for `a` to `z`. -/
def sameLetters (s t : Text) : Bool := s.map Char.toLower == t.map Char.toLower

def decimal (n : Nat) : Text := Nat.toDigits 10 n

def signed : Int → Text
  | .ofNat n => decimal n
  | .negSucc n => '-' :: decimal (n + 1)

def padLeft (width : Nat) (pad : Char) (t : Text) : Text :=
  List.replicate (width - t.length) pad ++ t

def accented (t : Text) : Text := "`".toList ++ t ++ "`".toList

end Text
end RowSieve
