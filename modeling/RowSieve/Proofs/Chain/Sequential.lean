import RowSieve.Proofs.Chain.Written
import RowSieve.Proofs.SyntaxError.Sequential

/-! The readers of a chain go over their text once, step by step up to its end. -/
namespace RowSieve

open RowSieve.Sequential

namespace Step

theorem readValue_sequential (field : Text) : Sequential (readValue field) := by
  refine upTo (· ≠ ';') (fun value t => .ok (.set field value, t.tail)) ?_ ?_ ?_
  · intro t unended
    simp only [readValue, unended]
    rfl
  · intro t c rest stop
    simp only [readValue, stop, List.tail_cons]
  · intro value c rest _
    exact At.cons (ok (Step.set field value) rest)

def readEquals (field : Text) : Text → Except Failure (Step × Text)
  | '=' :: t => readValue field t
  | rest => .error ⟨.equalsMissing, rest⟩

theorem readEquals_sequential (field : Text) : Sequential (readEquals field) := by
  refine of_cons rfl fun c t => ?_
  by_cases equals : c = '='
  · subst equals
    exact At.cons (readValue_sequential field t)
  · refine At.congr (fail .equalsMissing (c :: t)) fun more => ?_
    simp [readEquals, equals]

theorem readSet_sequential : Sequential readSet := by
  refine upTo inField (fun field rest =>
    if field.isEmpty then .error ⟨.fieldMissing, rest⟩ else readEquals field rest) ?_ ?_ ?_
  · intro t all
    simp only [readSet, all]
    split <;> rfl
  · intro t c rest stop
    simp only [readSet, stop]
    split <;> rfl
  · intro field c rest _
    by_cases empty : field.isEmpty = true
    · exact At.congr (fail .fieldMissing (c :: rest)) fun more => by rw [if_pos empty]
    · exact At.congr (readEquals_sequential field (c :: rest)) fun more => by rw [if_neg empty]

theorem read_sequential : Sequential read := by
  refine of_cons rfl fun c t => ?_
  by_cases print : c = 'p'
  · subst print
    -- After a `p` the next character decides.
    have behind : Sequential fun t => read ('p' :: t) := by
      refine of_cons rfl fun d t => ?_
      by_cases ended : d = ';'
      · subst ended
        exact At.cons (ok Step.print t)
      · refine At.congr (fail .printUnended (d :: t)) fun more => ?_
        simp [read, ended]
    exact At.cons (behind t)
  · by_cases set : c = 's'
    · subst set
      exact At.cons (readSet_sequential.trimmed t)
    · refine At.congr (fail .actionMissing (c :: t)) fun more => ?_
      simp [read, print, set]

end Step

namespace Chain

def readBegun (room : Nat) (t : Text) : Except Failure (Chain × Text) :=
  match t with
  | [] => .ok ([], [])
  | c :: t =>
    match room with
    | 0 => .error ⟨.chainTooLong, c :: t⟩
    | room + 1 => do
      let (step, t) ← Step.read (c :: t)
      (whole (read room) t).map fun (steps, t) => (step :: steps, t)

theorem whole_read (room : Nat) (t : Text) :
    whole (read room) t = readBegun room (Text.trimStart t) := by
  cases start : Text.trimStart t with
  | nil => simp [whole, read_end start, readBegun, Except.map]
  | cons c rest =>
    cases room with
    | zero => simp [whole, read_full start, readBegun, Except.map]
    | succ room =>
      rw [whole, read_step start, readBegun]
      rcases Step.read (c :: rest) with f | ⟨step, rest⟩
      · rfl
      · simp only [whole, Bind.bind, Except.bind]
        cases read room rest <;> rfl

theorem read_sequential (room : Nat) : Sequential (whole (read room)) := by
  have trimmed {room : Nat} (begun : Sequential (readBegun room)) : Sequential (whole (read room)) :=
    fun t => At.congr (begun.trimmed t) fun more => whole_read room (t ++ more)
  induction room with
  | zero =>
    refine trimmed (of_cons rfl fun c t => ?_)
    exact At.congr (fail .chainTooLong (c :: t)) fun more => rfl
  | succ room ih =>
    refine trimmed (of_cons rfl fun c t => ?_)
    refine At.congr ((Step.read_sequential (c :: t)).bind fun step t => ?_) fun more => rfl
    exact (ih t).map (step :: ·)

end Chain
end RowSieve
