import RowSieve.SyntaxError

/-! Reading by states, one character at a time. A state goes on with a character or stops, and a state
that stops leaves notes: what it waits for and the stage it belongs to. What is told of a rejected
text is looked up in the notes afterwards, with a general word where a note is missing. -/
namespace RowSieve

def Stage.ofLabel? (t : Text) : Option Stage :=
  [expression, atom, binary, negation, action, program].find? fun s => s.label == t

@[simp] theorem Stage.ofLabel?_label (s : Stage) : ofLabel? s.label = some s := by
  cases s <;> decide

inductive Note where
  | label (t : Text)
  | expected (t : Text)
  deriving DecidableEq, Repr

namespace Note

def stage? : Note → Option Stage
  | label t => Stage.ofLabel? t
  | expected _ => none

def reason? : Note → Option Text
  | label _ => none
  | expected t => some t

end Note

structure Rejection where
  stage : Stage
  reason : Text
  text : Text
  offset : Nat
  part : Option Part
  deriving DecidableEq, Repr

def SyntaxError.rejection (e : SyntaxError) : Rejection :=
  ⟨e.stage, e.reason, e.text, e.offset, e.part⟩

/-- A reading that stopped, with its notes and the text that it did not take. -/
structure Stuck where
  notes : List Note
  rest : Text
  deriving DecidableEq, Repr

namespace Stuck

/-- The first note of each kind counts. -/
def rejection (fallback : Stage) (text : Text) (s : Stuck) : Rejection :=
  ⟨(s.notes.findSome? Note.stage?).getD fallback,
    (s.notes.findSome? Note.reason?).getD "invalid syntax".toList,
    text, text.size - s.rest.size, none⟩

def expecting (stage : Stage) (what rest : Text) : Stuck :=
  ⟨[.expected what, .label stage.label], rest⟩

end Stuck

def Failure.stuck (f : Failure) : Stuck := .expecting f.cause.stage f.cause.reason f.rest

/-- A table of states of one stage: where a character leads, if it leads anywhere, and what each
state waits for. -/
structure Recognizer (σ : Type) where
  stage : Stage
  next : σ → Char → Option σ
  expected : σ → Text

namespace Recognizer

def stop (m : Recognizer σ) (s : σ) (rest : Text) : Except Stuck α :=
  .error (.expecting m.stage (m.expected s) rest)

def advance (m : Recognizer σ) (s : σ) : Text → Except Stuck (σ × Char × Text)
  | [] => m.stop s []
  | c :: t =>
    match m.next s c with
    | some s' => .ok (s', c, t)
    | none => m.stop s (c :: t)

/-- Reads a whole text. Text that is left over is rejected without a note. -/
def recognizeAll (read : Text → Except Stuck (α × Text)) (fallback : Stage) (t : Text) :
    Except Rejection α :=
  match read t with
  | .ok (a, []) => .ok a
  | .ok (_, rest) => .error (Stuck.rejection fallback t ⟨[], rest⟩)
  | .error s => .error (s.rejection fallback t)

end Recognizer
end RowSieve
