import RowSieve.Chain.Recognizer
import RowSieve.Proofs.Chain.Sequential

/-! Reading chains by states gives what reading them part by part gives, failures included. A step
that has ended is left at once, so the state that waits for nothing is never the one that stops. -/
namespace RowSieve

namespace Step

section
variable {s : State} {d : Draft}

theorem recognizeFrom_nil (waits : s ≠ .ended) (d : Draft) :
    recognizeFrom s d [] = states.stop s [] := by
  rw [recognizeFrom, if_neg waits]

theorem recognizeFrom_cons (waits : s ≠ .ended) (d : Draft) (c : Char) (t : Text) :
    recognizeFrom s d (c :: t) =
      match s.next c with
      | none => states.stop s (c :: t)
      | some s' => recognizeFrom s' (d.take s' c) t := by
  rw [recognizeFrom]
  exact if_neg waits

theorem recognizeFrom_ended (d : Draft) (t : Text) :
    recognizeFrom .ended d t = .ok (d.step, t) := by
  cases t <;> rw [recognizeFrom, if_pos rfl]

def readValueFrom (field value t : Text) : Except Failure (Step × Text) :=
  match t.dropWhile (· ≠ ';') with
  | [] => .error ⟨.setUnended, []⟩
  | _ :: rest => .ok (.set field (value ++ t.takeWhile (· ≠ ';')), rest)

theorem recognizeFrom_value (inside : s = .equals ∨ s = .inValue) (field value t : Text) :
    recognizeFrom s ⟨false, field, value⟩ t =
      (readValueFrom field value t).mapError Failure.stuck := by
  have waits : s ≠ .ended := by rcases inside with rfl | rfl <;> decide
  induction t generalizing s value with
  | nil =>
    rw [recognizeFrom_nil waits]
    rcases inside with rfl | rfl <;> rfl
  | cons c t ih =>
    have next : s.next c = if c = ';' then some .ended else some .inValue := by
      rcases inside with rfl | rfl <;> rfl
    rw [recognizeFrom_cons waits, next]
    by_cases stop : c = ';'
    · simp [stop, recognizeFrom_ended, Draft.take, Draft.step, readValueFrom, Except.mapError]
    · rw [if_neg stop]
      dsimp only [Draft.take]
      rw [ih (.inr rfl) _ (by decide)]
      simp [readValueFrom, stop]

/-- Reads a setting of whose field some has been read. -/
theorem recognizeFrom_field (field t : Text) :
    recognizeFrom .inField ⟨false, field, []⟩ t =
      (readEquals (field ++ t.takeWhile inField) (t.dropWhile inField)).mapError Failure.stuck := by
  induction t generalizing field with
  | nil => rfl
  | cons c t ih =>
    rw [recognizeFrom_cons (by decide), State.next]
    by_cases equals : c = '='
    · subst equals
      simp only [if_true, Draft.take]
      rw [recognizeFrom_value (.inl rfl)]
      simp [inField, readEquals]
      rfl
    by_cases stop : c = ';'
    · subst stop
      simp [inField, readEquals]
      rfl
    · rw [if_neg equals, if_neg stop]
      dsimp only [Draft.take]
      rw [ih]
      simp [inField, equals, stop]

theorem recognizeFrom_blanks (behind : s = .set ∨ s = .inBlanks) (t : Text) :
    recognizeFrom s .empty t = (readSet (Text.trimStart t)).mapError Failure.stuck := by
  have waits : s ≠ .ended := by rcases behind with rfl | rfl <;> decide
  induction t generalizing s with
  | nil =>
    rw [recognizeFrom_nil waits]
    rcases behind with rfl | rfl <;> rfl
  | cons c t ih =>
    have next : s.next c = if isBlank c then some .inBlanks
        else if c = '=' ∨ c = ';' then none else some .inField := by
      rcases behind with rfl | rfl <;> rfl
    rw [recognizeFrom_cons waits, next, Text.trimStart]
    by_cases blank : isBlank c = true
    · rw [if_pos blank, List.dropWhile_cons_of_pos blank]
      exact ih (.inr rfl) (by decide)
    rw [if_neg blank, List.dropWhile_cons_of_neg blank]
    by_cases stop : c = '=' ∨ c = ';'
    · rw [if_pos stop]
      have outside : inField c = false := by rcases stop with rfl | rfl <;> rfl
      simp only [readSet, List.takeWhile_cons, List.dropWhile_cons, outside]
      rcases behind with rfl | rfl <;> rfl
    · have inside : inField c = true := by simpa [inField] using stop
      rw [if_neg stop]
      dsimp only [Draft.take, Draft.empty]
      rw [recognizeFrom_field]
      simp only [readSet, List.takeWhile_cons, List.dropWhile_cons, inside]
      rfl

end

/-- A step that begins with no blank. -/
theorem recognize_eq {c : Char} (dark : isBlank c = false) (t : Text) :
    recognize (c :: t) = (Step.read (c :: t)).mapError Failure.stuck := by
  rw [recognize, recognizeFrom_cons (by decide), State.next, if_neg (by simp [dark])]
  by_cases print : c = 'p'
  · subst print
    cases t with
    | nil => rfl
    | cons d t =>
      by_cases ended : d = ';'
      · subst ended
        exact recognizeFrom_ended _ t
      · simp only [if_true]
        rw [recognizeFrom_cons (by decide), State.next, if_neg ended]
        simp [Step.read, ended]
        rfl
  by_cases set : c = 's'
  · subst set
    exact recognizeFrom_blanks (.inl rfl) t
  · rw [if_neg print, if_neg set]
    simp [Step.read, print, set]
    rfl

end Step

namespace Chain

theorem recognize_eq (room : Nat) (t : Text) :
    recognize room t = (whole (read room) t).mapError Failure.stuck := by
  induction room generalizing t with
  | zero =>
    rw [whole_read, recognize]
    cases Text.trimStart t <;> rfl
  | succ room ih =>
    rw [whole_read, recognize]
    cases start : Text.trimStart t with
    | nil => rfl
    | cons c rest =>
      simp only [readBegun, Step.recognize_eq (Text.dark_of_trimStart start), then_mapError, ih]
      cases Step.read (c :: rest) with
      | error f => rfl
      | ok found =>
        simp only [Except.mapError, Bind.bind, Except.bind]
        cases whole (read room) found.2 <;> rfl

end Chain
end RowSieve
