import RowSieve.Proofs.Program.Framed
import RowSieve.Proofs.Program.Recognizer
import RowSieve.Proofs.SyntaxError.Stages

/-! What a rejected program is told. The error is one of the text as a whole or of the first body
that is no text of its part, and then it is the error that this body has on its own. It points
between two characters of the text that it quotes. -/
namespace RowSieve

namespace Part

def earlier : Part → List Part
  | query => []
  | onTrue => [query]
  | onFalse => [query, onTrue]

/-- What the reader of a part makes of a text that stands alone, without what it has read. -/
def verdict : Part → Text → Except SyntaxError Unit
  | query, t => (Query.parse t).map fun _ => ()
  | onTrue, t | onFalse, t => (Chain.parse t).map fun _ => ()

theorem program_not_mem_stages (part : Part) : Stage.program ∉ part.stages := by
  cases part <;> decide

end Part

def Program.Bodies.of (b : Program.Bodies) : Part → Text
  | .query => b.query
  | .onTrue => b.onTrue
  | .onFalse => b.onFalse

namespace SyntaxError

def generalWords : List Text :=
  ["invalid syntax".toList, "invalid atom".toList, "invalid action".toList]

/-- The offset lies between two characters of the text, and the caret stands under the second. -/
def PointsBetween (e : SyntaxError) : Prop :=
  ∃ before after, e.text = before ++ after ∧ e.offset = before.size ∧ e.column = before.length

/-- What the error of a program tells, besides the cause. An error of a part is that of its body
alone, the bodies before it being in order, and reading by states tells the same. -/
structure Attributed (t : Text) (e : SyntaxError) : Prop where
  outside : e.part = none ↔ e.stage = .program
  whole : e.part = none → e.text = t
  inside : ∀ part, e.part = some part → ∃ f : Program.Frame, f.WellFormed ∧ f.text = t ∧
    e.text = Text.trim (f.bodies.of part) ∧
    (∀ p ∈ part.earlier, p.verdict (Text.trim (f.bodies.of p)) = .ok ()) ∧
    part.verdict e.text = .error { e with part := none } ∧ e.stage ∈ part.stages
  offset : e.offset ≤ e.text.size
  points : e.PointsBetween
  reason : e.reason ∉ generalWords
  recognized : Program.recognize t = .error e.rejection

theorem column_go_append (before after : Text) :
    column.go (before ++ after) before.size = before.length := by
  induction before with
  | nil => cases after <;> rfl
  | cons c before ih =>
    have wide := c.utf8Size_pos
    rw [List.cons_append, column.go, if_neg (by simp; omega), List.length_cons]
    simpa using ih

theorem column_eq {e : SyntaxError} {before after : Text} (parts : e.text = before ++ after)
    (place : e.offset = before.size) : e.column = before.length := by
  rw [column, parts, place, column_go_append]

theorem head?_toList_ofList (c : Char) (t : Text) : (String.ofList (c :: t)).toList.head? = some c := by
  rw [String.toList_ofList]
  rfl

/-- All general words begin with the same letter. -/
theorem head?_of_general {t : Text} (general : t ∈ generalWords) : t.head? = some 'i' := by
  simp only [generalWords, List.mem_cons, List.not_mem_nil, or_false] at general
  rcases general with rfl | rfl | rfl <;> exact head?_toList_ofList _ _

/-- No reason begins with that letter. -/
theorem exists_head?_reason (c : Cause) : ∃ first, c.reason.head? = some first ∧ first ≠ 'i' := by
  -- comparing the words as they stand would spell each of them out
  cases c <;> exact ⟨_, head?_toList_ofList _ _, by decide⟩

theorem reason_special (e : SyntaxError) : e.reason ∉ generalWords := by
  intro general
  obtain ⟨first, begins, other⟩ := exists_head?_reason e.cause
  exact other (Option.some.inj (begins.symm.trans (head?_of_general general)))

theorem within_unmarked {e : SyntaxError} (unmarked : e.part = none) (part : Part) :
    { e.within part with part := none } = e := by
  rw [within, ← unmarked]

structure Located (stages : List Stage) (t : Text) (e : SyntaxError) : Prop where
  text : e.text = t
  part : e.part = none
  stage : e.stage ∈ stages
  offset : e.offset ≤ e.text.size
  points : e.PointsBetween

theorem located_of_parseBy {read : Text → Except Failure (α × Text)} {stages : List Stage}
    {t : Text} {e : SyntaxError} (sequential : Sequential read) (fails : FailsAt stages (read t))
    (rejected : parseBy read t = .error e) : Located stages t e := by
  obtain ⟨within, before, after, parts, place⟩ :=
    (parseBy_marksFirstFault sequential).boundary t e rejected
  obtain ⟨f, failed, rfl⟩ := parseBy_eq_error_iff.mp rejected
  exact ⟨rfl, rfl, fails f failed, within, before, after, parts, place, column_eq parts place⟩

theorem located_of_verdict {part : Part} {t : Text} {e : SyntaxError}
    (rejected : part.verdict t = .error e) : Located part.stages t e := by
  have chain (rejected : Chain.parse t = .error e) : Located [.action] t e :=
    located_of_parseBy (Chain.read_sequential maxSteps) ((Chain.read_failsAt maxSteps t).map _)
      (chain_parse_eq ▸ rejected)
  cases part with
  | query =>
    have own := map_eq_error_iff.mp rejected
    exact located_of_parseBy (Query.read_sequential _ false) (Query.read_failsAt _ false t)
      (query_parse_eq ▸ own)
  | onTrue => exact chain (map_eq_error_iff.mp rejected)
  | onFalse => exact chain (map_eq_error_iff.mp rejected)

end SyntaxError

namespace Program

open SyntaxError

theorem inPart_eq_error_iff {part : Part} {x : Except SyntaxError α} {e : SyntaxError} :
    inPart part x = .error e ↔ ∃ own, x = .error own ∧ e = own.within part := by
  cases x <;> simp [inPart, eq_comm]

/-- The error of the bodies is that of the first one that is rejected. -/
theorem ofBodies_eq_error {b : Bodies} {e : SyntaxError} (rejected : ofBodies b = .error e) :
    ∃ (part : Part) (own : SyntaxError),
      part.verdict (Text.trim (b.of part)) = .error own ∧
      (∀ p ∈ part.earlier, p.verdict (Text.trim (b.of p)) = .ok ()) ∧ e = own.within part := by
  obtain inQuery | ⟨q, query, rejected⟩ := bind_eq_error_iff.mp rejected
  · obtain ⟨own, failed, rfl⟩ := inPart_eq_error_iff.mp inQuery
    exact ⟨.query, own, map_eq_error_iff.mpr failed, nofun, rfl⟩
  have queryRead : Part.query.verdict (Text.trim (b.of .query)) = .ok () :=
    map_eq_ok_iff.mpr ⟨q, inPart_eq_ok_iff.mp query, rfl⟩
  obtain inTrue | ⟨c, onTrue, rejected⟩ := bind_eq_error_iff.mp rejected
  · obtain ⟨own, failed, rfl⟩ := inPart_eq_error_iff.mp inTrue
    refine ⟨.onTrue, own, map_eq_error_iff.mpr failed, ?_, rfl⟩
    simpa [Part.earlier] using queryRead
  have trueRead : Part.onTrue.verdict (Text.trim (b.of .onTrue)) = .ok () :=
    map_eq_ok_iff.mpr ⟨c, inPart_eq_ok_iff.mp onTrue, rfl⟩
  obtain inFalse | ⟨d, _, done⟩ := bind_eq_error_iff.mp rejected
  · obtain ⟨own, failed, rfl⟩ := inPart_eq_error_iff.mp inFalse
    refine ⟨.onFalse, own, map_eq_error_iff.mpr failed, ?_, rfl⟩
    simpa [Part.earlier] using ⟨queryRead, trueRead⟩
  · contradiction

/-- A rejected text is told where it went wrong: outside of the bodies, or in the first body that
its own reader rejects. -/
theorem parse_attributed {t : Text} {e : SyntaxError} (rejected : parse t = .error e) :
    e.Attributed t := by
  have recognized : recognize t = .error e.rejection := by
    rw [recognize_eq, rejected]
    rfl
  rw [parse] at rejected
  split at rejected
  · rename_i f found
    have failed : parseBy (whole readBodies) t = .error e :=
      parseBy_eq_error_iff.mpr ⟨f, map_eq_error_iff.mpr found, (Except.error.inj rejected).symm⟩
    have told := located_of_parseBy readBodies_sequential ((readBodies_failsAt t).map _) failed
    have stage : e.stage = .program := List.mem_singleton.mp told.stage
    exact {
      outside := by simp [told.part, stage]
      whole := fun _ => told.text
      inside := fun part named => by simp [told.part] at named
      offset := told.offset
      points := told.points
      reason := e.reason_special
      recognized }
  · rename_i b found
    obtain ⟨frame, formed, text, rfl⟩ := readBodies_eq_ok_iff.mp found
    obtain ⟨part, own, failed, before, rfl⟩ := ofBodies_eq_error rejected
    have told := located_of_verdict failed
    exact {
      outside := by
        refine iff_of_false (by simp [within]) fun stage => ?_
        exact part.program_not_mem_stages (stage ▸ told.stage)
      whole := fun unnamed => by simp [within] at unnamed
      inside := by
        rintro _ ⟨rfl⟩
        refine ⟨frame, formed, text, told.text, before, ?_, told.stage⟩
        exact (within_unmarked told.part part).symm ▸ told.text.symm ▸ failed
      offset := told.offset
      points := told.points
      reason := reason_special _
      recognized }

theorem parse_attributed_accented :
    let t := "q\x7b (é=1)&b \x7dt\x7bp;\x7df\x7b\x7d".toList
    let e : SyntaxError := ⟨.rightUnopened, "(é=1)&b".toList, 7, some .query⟩
    parse t = .error e ∧ e.column = 6 ∧ e.Attributed t := by
  intro t e
  have rejected : parse t = .error e := rfl
  exact ⟨rejected, rfl, parse_attributed rejected⟩

end Program
end RowSieve
