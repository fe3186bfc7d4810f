import RowSieve.Program.Recognizer
import RowSieve.Proofs.Chain.Recognizer
import RowSieve.Proofs.Program.Sequential
import RowSieve.Proofs.Query.Recognizer
import RowSieve.Proofs.Query.Slicing
import RowSieve.Proofs.SyntaxError.FirstFault

/-! Reading programs by states accepts and rejects as reading them part by part does. Every stop has
left both its notes and no reading that succeeds leaves text over, so none of the general words that
stand in for a note is ever told. -/
namespace RowSieve

open Recognizer SyntaxError

/-- The notes of a failure lead back to its cause. -/
theorem rejection_stuck (fallback : Stage) (t : Text) (f : Failure) :
    f.stuck.rejection fallback t = (f.locate t).rejection := by
  have stage : f.stuck.notes.findSome? Note.stage? = some f.cause.stage := by
    simp [Failure.stuck, Stuck.expecting, List.findSome?_cons, Note.stage?]
  have reason : f.stuck.notes.findSome? Note.reason? = some f.cause.reason := rfl
  rw [Stuck.rejection, stage, reason]
  rfl

theorem recognizeAll_eq {recognize : Text → Except Stuck (α × Text)}
    {read : Text → Except Failure (α × Text)} {t : Text}
    (same : recognize t = (read t).mapError Failure.stuck)
    (ended : ∀ a rest, read t = .ok (a, rest) → rest = []) (fallback : Stage) :
    recognizeAll recognize fallback t = (parseBy read t).mapError SyntaxError.rejection := by
  rw [recognizeAll, parseBy, same]
  rcases outcome : read t with f | ⟨a, rest⟩
  · exact congrArg Except.error (rejection_stuck fallback t f)
  · obtain rfl := ended a rest outcome
    rfl

theorem rest_of_whole {read : Text → Except Failure α} {t : Text} (a : α) (rest : Text)
    (ok : whole read t = .ok (a, rest)) : rest = [] := by
  obtain ⟨_, _, same⟩ := map_eq_ok_iff.mp ok
  exact (Prod.mk.inj same).2.symm

namespace Program

theorem recognizeLiteral_eq (cause : Cause) (outside : cause.stage = .program) (c : Char)
    (t : Text) :
    recognizeLiteral c cause.reason t = (Query.expect c cause t).mapError Failure.stuck := by
  have stop (rest : Text) : Stuck.expecting .program cause.reason rest =
      Failure.stuck ⟨cause, rest⟩ := by rw [Failure.stuck, outside]
  cases t with
  | nil => exact congrArg Except.error (stop [])
  | cons d t =>
    rw [recognizeLiteral, Query.expect, stop]
    split <;> rfl

theorem recognizeSection_eq (missing : Cause) (outside : missing.stage = .program) (keyword : Char)
    (t : Text) :
    recognizeSection keyword missing.reason t =
      (readSection keyword missing t).mapError Failure.stuck := by
  simp only [readSection_eq, recognizeSection, recognizeLiteral_eq missing outside,
    recognizeLiteral_eq .sectionUnopened rfl, recognizeLiteral_eq .sectionUnclosed rfl,
    then_mapError]
  rfl

theorem recognizeBodies_eq (t : Text) :
    recognizeBodies t = (whole readBodies t).mapError Failure.stuck := by
  have query := recognizeSection_eq .querySectionMissing rfl 'q'
  have onTrue := recognizeSection_eq .trueSectionMissing rfl 't'
  have onFalse := recognizeSection_eq .falseSectionMissing rfl 'f'
  simp only [recognizeBodies, whole, readBodies, query, onTrue, onFalse, then_map, then_mapError]
  refine bind_congr fun _ => bind_congr fun _ => bind_congr fun last => ?_
  cases last.2.dropWhile isGap <;> rfl

/-- The mark of the part is the same on an error as on what is told of it. -/
theorem recognizedIn_eq (part : Part) (outcome : Except SyntaxError α) :
    recognizedIn part (outcome.mapError SyntaxError.rejection) =
      (inPart part outcome).mapError SyntaxError.rejection := by
  cases outcome <;> rfl

theorem parse_eq_parseBy (t : Text) : parse t = parseBy (whole readBodies) t >>= ofBodies := by
  unfold parse parseBy whole
  cases readBodies t <;> rfl

/-- Reading by states rejects with what the reader of the program tells. -/
theorem recognize_eq (t : Text) :
    recognize t = (parse t).mapError SyntaxError.rejection := by
  have bodies := recognizeAll_eq (recognizeBodies_eq t) rest_of_whole .program
  have query (t : Text) := recognizeAll_eq (Query.recognize_eq (maxNesting + 1) false t)
    (fun _ _ => Query.rest_of_read) .expression
  have chain (t : Text) := recognizeAll_eq (Chain.recognize_eq maxSteps t) rest_of_whole .action
  simp only [← query_parse_eq] at query
  simp only [← chain_parse_eq] at chain
  simp only [recognize, bodies, query, chain, recognizedIn_eq, parse_eq_parseBy, ofBodies,
    then_mapError]
  rfl

end Program
end RowSieve
