import RowSieve.Program.Parse
import RowSieve.Proofs.Outcome
import RowSieve.Proofs.Query.Sequential

/-! The reader of the three bodies goes over its text once, literal by literal. -/
namespace RowSieve.Program

open RowSieve.Sequential

theorem expect_same (c : Char) (cause : Cause) (t : Text) :
    Query.expect c cause (c :: t) = pure t := if_pos rfl

theorem expect_other {c d : Char} (other : d ≠ c) (cause : Cause) (t : Text) :
    Query.expect c cause (d :: t) = .error ⟨cause, d :: t⟩ := if_neg other

/-- A section is read literal by literal. -/
theorem readSection_eq (keyword : Char) (missing : Cause) (t : Text) :
    readSection keyword missing t = (do
      let t ← Query.expect keyword missing (t.dropWhile isGap)
      let t ← Query.expect '{' .sectionUnopened (t.dropWhile isGap)
      let rest ← Query.expect '}' .sectionUnclosed (t.dropWhile (· ≠ '}'))
      return (t.takeWhile (· ≠ '}'), rest)) := by
  unfold readSection
  rcases t.dropWhile isGap with _ | ⟨c, t⟩
  · rfl
  by_cases letter : c = keyword
  · subst letter
    rw [expect_same, pure_bind]
    dsimp only
    rw [if_neg (by simp)]
    rcases t.dropWhile isGap with _ | ⟨d, t⟩
    · rfl
    by_cases opens : d = '{'
    · subst opens
      rw [expect_same, pure_bind]
      rcases stopped : t.dropWhile (· ≠ '}') with _ | ⟨e, rest⟩
      · simp only [stopped]
        rfl
      · -- the body goes on to its brace, so nothing else can stand there
        obtain ⟨stop, _, _⟩ := Text.dropWhile_eq_cons_iff.mp stopped
        obtain rfl : e = '}' := by simpa using stop
        simp only [stopped]
        rfl
    · rw [expect_other opens]
      simp [opens]
      rfl
  · rw [expect_other letter]
    exact if_pos letter

/-- Reads a body that has been opened, up to its brace. -/
theorem readBody_sequential : Sequential fun t => do
    let rest ← Query.expect '}' .sectionUnclosed (t.dropWhile (· ≠ '}'))
    return (t.takeWhile (· ≠ '}'), rest) := by
  refine upTo (· ≠ '}') (fun body t => do
    let rest ← Query.expect '}' .sectionUnclosed t
    return (body, rest)) ?_ ?_ ?_
  · intro t unclosed
    simp only [unclosed]
    rfl
  · intro t c rest stop
    simp only [stop]
  · intro body c rest _
    exact Query.expect_sequential '}' .sectionUnclosed (ok body) (c :: rest)

theorem readSection_sequential (keyword : Char) (missing : Cause) :
    Sequential (readSection keyword missing) := by
  have opened := (Query.expect_sequential '{' .sectionUnopened readBody_sequential).skipping isGap
  have named := (Query.expect_sequential keyword missing opened).skipping isGap
  exact fun t => At.congr (named t) fun more => readSection_eq keyword missing (t ++ more)

def readEnd (bodies : Bodies) (t : Text) : Except Failure Bodies :=
  match t.dropWhile isGap with
  | [] => pure bodies
  | rest => throw ⟨.afterSections, rest⟩

theorem readEnd_sequential (bodies : Bodies) : Sequential (whole (readEnd bodies)) := by
  have last := (closed bodies .afterSections fun _ => false).skipping isGap
  refine fun t => At.congr (last t) fun more => ?_
  simp only [whole, readEnd]
  cases (t ++ more).dropWhile isGap <;> rfl

theorem readBodies_eq : whole readBodies = (fun t => do
    let (query, t) ← readSection 'q' .querySectionMissing t
    let (onTrue, t) ← readSection 't' .trueSectionMissing t
    let (onFalse, t) ← readSection 'f' .falseSectionMissing t
    whole (readEnd ⟨query, onTrue, onFalse⟩) t) := by
  funext t
  simp only [whole, readBodies, then_map]
  rfl

theorem readBodies_sequential : Sequential (whole readBodies) := by
  rw [readBodies_eq]
  refine (readSection_sequential 'q' .querySectionMissing).bind fun query => ?_
  refine (readSection_sequential 't' .trueSectionMissing).bind fun onTrue => ?_
  refine (readSection_sequential 'f' .falseSectionMissing).bind fun onFalse => ?_
  exact readEnd_sequential ⟨query, onTrue, onFalse⟩

end RowSieve.Program
