import RowSieve.Proofs.Chain.Sequential
import RowSieve.Proofs.Query.Sequential

/-! The offset of a syntax error is the first point at which the text went wrong. Since the
readers go over their text once, a text that fails before its end has failed for good, and a
text that is in order up to its end can only fail behind it. -/
namespace RowSieve

theorem Text.size_eq_zero {t : Text} (empty : Text.size t = 0) : t = [] := by
  cases t with
  | nil => rfl
  | cons c t =>
    have := c.utf8Size_pos
    simp at empty
    omega

namespace SyntaxError

/-- What the offsets of a parser's errors tell. A fault inside the text is there whatever follows,
and a text without one has none inside it when it is continued. -/
structure MarksFirstFault (parse : Text → Except SyntaxError α) : Prop where
  boundary : ∀ t e, parse t = .error e →
    e.offset ≤ t.size ∧ ∃ before after, t = before ++ after ∧ e.offset = before.size
  settled : ∀ t more e, parse t = .error e → e.offset < t.size →
    parse (t ++ more) = .error { e with text := t ++ more }
  later : ∀ t more e, (∀ e', parse t = .error e' → e'.offset = t.size) →
    parse (t ++ more) = .error e → t.size ≤ e.offset

def parseBy (read : Text → Except Failure (α × Text)) (t : Text) : Except SyntaxError α :=
  match read t with
  | .ok (a, _) => .ok a
  | .error f => .error (f.locate t)

variable {read : Text → Except Failure (α × Text)}

theorem parseBy_eq_error_iff {t : Text} {e : SyntaxError} :
    parseBy read t = .error e ↔ ∃ f, read t = .error f ∧ e = f.locate t := by
  unfold parseBy
  split <;> simp_all [eq_comm]

theorem parseBy_marksFirstFault (h : Sequential read) : MarksFirstFault (parseBy read) := by
  constructor
  · intro t e failed
    obtain ⟨f, found, rfl⟩ := parseBy_eq_error_iff.mp failed
    have within := (h t).within
    rw [found] at within
    obtain ⟨before, parts⟩ := within
    refine ⟨Nat.sub_le .., before, f.rest, parts.symm, ?_⟩
    simp [Failure.locate, ← parts]
  · intro t more e failed early
    obtain ⟨f, found, rfl⟩ := parseBy_eq_error_iff.mp failed
    have left : f.rest ≠ [] := by
      intro ended
      simp [Failure.locate, ended] at early
    have on := (h t).settled (by simpa [found] using left) more
    rw [found] at on
    refine parseBy_eq_error_iff.mpr ⟨_, on, ?_⟩
    simp [Failure.locate]
    omega
  · intro t more e sound failed
    obtain ⟨f, found, rfl⟩ := parseBy_eq_error_iff.mp failed
    have ended : unread (read t) = [] := by
      -- Otherwise the failure behind the longer text is already one inside the shorter.
      by_contra left
      have on := (h t).settled left more
      rw [found] at on
      cases here : read t with
      | ok accepted =>
        rw [here] at on
        cases on
      | error g =>
        have atEnd := sound _ (parseBy_eq_error_iff.mpr ⟨g, here, rfl⟩)
        obtain ⟨before, parts⟩ := (h t).within
        rw [here, unread_error] at parts left
        refine left (Text.size_eq_zero ?_)
        simp [Failure.locate, ← parts] at atEnd
        omega
    have beyond := (h t).beyond ended more
    rw [found] at beyond
    obtain ⟨before, parts⟩ := beyond
    simp [Failure.locate, ← parts]
    omega

theorem query_parse_eq : Query.parse = parseBy (Query.read (maxNesting + 1) false) := by
  funext t
  unfold Query.parse parseBy
  split <;> simp_all

theorem chain_parse_eq : Chain.parse = parseBy (whole (Chain.read maxSteps)) := by
  funext t
  unfold Chain.parse parseBy whole
  cases Chain.read maxSteps t <;> rfl

/-- Queries and chains report the first fault of their text. -/
theorem parse_marks_first_fault : MarksFirstFault Query.parse ∧ MarksFirstFault Chain.parse := by
  rw [query_parse_eq, chain_parse_eq]
  exact ⟨parseBy_marksFirstFault (Query.read_sequential _ false),
    parseBy_marksFirstFault (Chain.read_sequential _)⟩

end SyntaxError
end RowSieve
