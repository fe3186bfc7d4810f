import Mathlib.Data.List.Forall2
import RowSieve.Terminal

/-! Removing the colours from a text leaves the text as it is without them. A coloured text is put
together from pieces, and what is removed from one piece must not depend on what follows it; so the
relation between a coloured text and a plain one is stated for every continuation, and it is kept by
every way to put pieces together. -/
namespace RowSieve.Terminal

/-- A text without the character with which sequences begin. -/
def Plain (t : Text) : Prop := escape ∉ t

instance (t : Text) : Decidable (Plain t) := inferInstanceAs (Decidable (¬_))

@[simp] theorem plain_nil : Plain [] := List.not_mem_nil

@[simp] theorem plain_append {s t : Text} : Plain (s ++ t) ↔ Plain s ∧ Plain t := by
  simp [Plain]

@[simp] theorem plain_cons {c : Char} {t : Text} : Plain (c :: t) ↔ escape ≠ c ∧ Plain t := by
  simp [Plain]

theorem Plain.append {s t : Text} (first : Plain s) (second : Plain t) : Plain (s ++ t) :=
  plain_append.mpr ⟨first, second⟩

theorem Plain.mono {s t : Text} (plain : Plain t) (inside : s ⊆ t) : Plain s :=
  fun member => plain (inside member)

/-- A literal is judged by its characters, without going through its encoding. -/
theorem Plain.literal {t : Text} (plain : Plain t) :
    Plain (String.ofList t).toList := by
  rwa [String.toList_ofList]

theorem plain_replicate {c : Char} (n : Nat) (other : escape ≠ c) : Plain (List.replicate n c) :=
  fun member => other (List.eq_of_mem_replicate member)

theorem plain_decimal (n : Nat) : Plain (Text.decimal n) := by
  intro member
  have digit := Nat.isDigit_of_mem_toDigits (by decide) (by decide) member
  exact absurd digit (by decide)

theorem plain_signed (n : Int) : Plain (Text.signed n) := by
  cases n with
  | ofNat n => exact plain_decimal n
  | negSucc n => exact plain_cons.mpr ⟨by decide, plain_decimal (n + 1)⟩

theorem plain_accented {t : Text} (plain : Plain t) : Plain (Text.accented t) :=
  (Plain.append (.literal (by decide)) plain).append (.literal (by decide))

/-- Once the colours are removed, the first text is the second one, whatever comes behind it. -/
def Shows (coloured plain : Text) : Prop :=
  ∀ rest, strip (coloured ++ rest) = plain ++ strip rest

namespace Shows

variable {s s' t t' : Text}

theorem strip_eq (shows : Shows s t) : strip s = t := by
  have whole := shows []
  rwa [List.append_nil, show strip [] = [] from rfl, List.append_nil] at whole

theorem of_plain (plain : Plain t) : Shows t t := by
  intro rest
  induction t with
  | nil => rfl
  | cons c t ih =>
    obtain ⟨other, plain⟩ := plain_cons.mp plain
    rw [List.cons_append, strip, stripFrom, if_neg (Ne.symm other)]
    exact congrArg (c :: ·) (ih plain)

theorem literal (plain : Plain t) :
    Shows (String.ofList t).toList (String.ofList t).toList :=
  of_plain (.literal plain)

theorem append (first : Shows s t) (second : Shows s' t') : Shows (s ++ s') (t ++ t') := by
  intro rest
  rw [List.append_assoc, first, second, List.append_assoc]

theorem cons {c : Char} (other : escape ≠ c) (shows : Shows s t) : Shows (c :: s) (c :: t) :=
  append (of_plain (t := [c]) (plain_cons.mpr ⟨other, plain_nil⟩)) shows

end Shows

theorem stripFrom_inside {parameters : Text} (open_end : 'm' ∉ parameters) (rest : Text) :
    stripFrom .inside (parameters ++ 'm' :: rest) = strip rest := by
  induction parameters with
  | nil => rfl
  | cons c parameters ih =>
    obtain ⟨other, more⟩ := not_or.mp (List.mem_cons.not.mp open_end)
    rw [List.cons_append, stripFrom, if_neg (Ne.symm other), ih more]

theorem strip_sequence {parameters : Text} (open_end : 'm' ∉ parameters) (rest : Text) :
    strip (sequence parameters ++ rest) = strip rest := by
  rw [← stripFrom_inside open_end rest, sequence, List.append_assoc]
  rfl

/-- No parameter of a style ends its sequence. -/
theorem Style.parameters_open (style : Style) : 'm' ∉ style.parameters := by
  cases style <;> decide

namespace Shows

variable {s t : Text}

theorem paint (style : Style) (shows : Shows s t) (on : Bool) :
    Shows (Terminal.paint on style s) (Terminal.paint false style t) := by
  intro rest
  cases on with
  | false => exact shows rest
  | true =>
    have reset : strip (sequence ['0'] ++ rest) = strip rest := strip_sequence (by decide) rest
    calc strip (sequence style.parameters ++ s ++ sequence ['0'] ++ rest)
      _ = strip (s ++ (sequence ['0'] ++ rest)) := by
        rw [List.append_assoc, List.append_assoc, strip_sequence style.parameters_open]
      _ = t ++ strip rest := by rw [shows, reset]

theorem lines {coloured plain : List Text} (shows : List.Forall₂ Shows coloured plain) :
    Shows (coloured.flatMap (· ++ ['\n'])) (plain.flatMap (· ++ ['\n'])) := by
  induction shows with
  | nil => exact of_plain plain_nil
  | cons line _ more => exact (line.append (of_plain (by decide))).append more

end Shows
end RowSieve.Terminal
