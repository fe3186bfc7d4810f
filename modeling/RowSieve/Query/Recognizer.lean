import RowSieve.Query.Parse
import RowSieve.Recognizer

/-! Queries read by states: an atom by one table, the characters around the operands of a connective
by two others. -/
namespace RowSieve

open Recognizer

namespace Atom

inductive State where
  | start
  | inField
  | related
  | inValue
  | dotted
  | tagged
  | trailing
  deriving DecidableEq, Repr

namespace State

def next (s : State) (c : Char) : Option State :=
  match s with
  | start | inField => if (Relation.ofSymbol? c).isSome then some related else some inField
  | related | inValue => if c = '.' then some dotted else some inValue
  | dotted => if (Cast.ofTag? c).isSome then some tagged else none
  | tagged | trailing => if isBlank c then some trailing else none

def accepting : State → Bool
  | related | inValue | tagged | trailing => true
  | start | inField | dotted => false

/-- What a state waits for. A state that any character leads on from and in which an atom may end
waits for nothing. -/
def expected : State → Text
  | start | inField => Cause.relationMissing.reason
  | dotted => Cause.castMissing.reason
  | tagged | trailing => Cause.afterCast.reason
  | related | inValue => "invalid atom".toList

end State

def states : Recognizer State := ⟨.atom, State.next, State.expected⟩

structure Draft where
  field : Text
  relation : Option Relation
  value : Text
  cast : Cast
  deriving DecidableEq, Repr

namespace Draft

def empty : Draft := ⟨[], none, [], .text⟩

/-- Puts a character to the part that the state it led to is about. -/
def take (d : Draft) (s : State) (c : Char) : Draft :=
  match s with
  | .inField => { d with field := d.field ++ [c] }
  | .related => { d with relation := Relation.ofSymbol? c }
  | .inValue => { d with value := d.value ++ [c] }
  | .tagged => { d with cast := (Cast.ofTag? c).getD .text }
  | .start | .dotted | .trailing => d

def finish (d : Draft) (s : State) (rest : Text) : Except Stuck (Atom × Text) :=
  match d.relation.filter fun _ => s.accepting with
  | none => states.stop s rest
  | some relation =>
    let value := if s = .inValue then Text.trimEnd d.value else d.value
    .ok (⟨d.field, relation, value, d.cast⟩, rest)

end Draft

/-- The number of parentheses open after a character; outside of groups nobody counts. -/
def nestingAfter (grouped : Bool) (nesting : Nat) (c : Char) : Nat :=
  if grouped && c == ')' then nesting - 1
  else if grouped && c == '(' then nesting + 1
  else nesting

/-- Reads on from a state. Inside a group the atom ends before the `)` that closes more than
it has opened. -/
def recognizeFrom (grouped : Bool) : (nesting : Nat) → State → Draft → Text →
    Except Stuck (Atom × Text)
  | _, s, d, [] => d.finish s []
  | nesting, s, d, c :: t =>
    if grouped && c == ')' && nesting == 0 then d.finish s (c :: t)
    else match s.next c with
      | none => states.stop s (c :: t)
      | some s' => recognizeFrom grouped (nestingAfter grouped nesting c) s' (d.take s' c) t

def recognize (grouped : Bool) (t : Text) : Except Stuck (Atom × Text) :=
  recognizeFrom grouped 0 .start .empty t

end Atom

namespace Query

inductive BinaryState where
  | start
  | leftOpened
  | leftClosed
  | connected
  | rightOpened
  | rightClosed
  deriving DecidableEq, Repr

namespace BinaryState

def next (s : BinaryState) (c : Char) : Option BinaryState :=
  match s with
  | start => if c = '(' then some leftOpened else none
  | leftOpened => if c = ')' then some leftClosed else none
  | leftClosed => if c = '&' ∨ c = '|' then some connected else none
  | connected => if c = '(' then some rightOpened else none
  | rightOpened => if c = ')' then some rightClosed else none
  | rightClosed => none

def expected : BinaryState → Text
  | start => "expected '(' opening the left operand".toList
  | leftOpened => Cause.leftUnclosed.reason
  | leftClosed => Cause.operatorMissing.reason
  | connected => Cause.rightUnopened.reason
  | rightOpened => Cause.rightUnclosed.reason
  | rightClosed => Cause.afterBinary.reason

end BinaryState

def binaryStates : Recognizer BinaryState := ⟨.binary, BinaryState.next, BinaryState.expected⟩

inductive NegationState where
  | start
  | negated
  | opened
  | closed
  deriving DecidableEq, Repr

namespace NegationState

def next (s : NegationState) (c : Char) : Option NegationState :=
  match s with
  | start => if c = '!' then some negated else none
  | negated => if c = '(' then some opened else none
  | opened => if c = ')' then some closed else none
  | closed => none

def expected : NegationState → Text
  | start => "expected '!'".toList
  | negated => Cause.negationUnopened.reason
  | opened => Cause.negationUnclosed.reason
  | closed => Cause.afterNegation.reason

end NegationState

def negationStates : Recognizer NegationState :=
  ⟨.negation, NegationState.next, NegationState.expected⟩

def recognizeConnective (s : BinaryState) (t : Text) :
    Except Stuck (BinaryState × (Query → Query → Query) × Text) := do
  let (s, c, t) ← binaryStates.advance s t
  return (s, if c = '&' then .and else .or, t)

def recognizeBinary (operand : Text → Except Stuck (Query × Text)) (t : Text) :
    Except Stuck (Query × Text) := do
  let (s, _, t) ← binaryStates.advance .start t
  let (left, t) ← operand t
  let (s, _, t) ← binaryStates.advance s t
  let (s, connect, t) ← recognizeConnective s t
  let (s, _, t) ← binaryStates.advance s t
  let (right, t) ← operand t
  let (_, _, t) ← binaryStates.advance s t
  return (connect left right, t)

def recognizeNegation (operand : Text → Except Stuck (Query × Text)) (t : Text) :
    Except Stuck (Query × Text) := do
  let (s, _, t) ← negationStates.advance .start t
  let (s, _, t) ← negationStates.advance s t
  let (child, t) ← operand t
  let (_, _, t) ← negationStates.advance s t
  return (.not child, t)

/-- Behind the last group nothing may follow but blanks, and inside a group its `)`. -/
def recognizeEnd (m : Recognizer σ) (s : σ) (grouped : Bool) (q : Query) (t : Text) :
    Except Stuck (Query × Text) :=
  match Text.trimStart t with
  | [] => .ok (q, [])
  | c :: rest => if grouped && c == ')' then .ok (q, c :: rest) else m.stop s (c :: rest)

def recognize : (room : Nat) → (grouped : Bool) → Text → Except Stuck (Query × Text)
  | 0, _, t => .error (.expecting .expression Cause.nestedTooDeeply.reason t)
  | room + 1, grouped, t =>
    match Text.trimStart t with
    | [] => .error (.expecting .expression Cause.emptyExpression.reason [])
    | '(' :: t => do
      let (q, t) ← recognizeBinary (recognize room true) ('(' :: t)
      recognizeEnd binaryStates .rightClosed grouped q t
    | '!' :: t => do
      let (q, t) ← recognizeNegation (recognize room true) ('!' :: t)
      recognizeEnd negationStates .closed grouped q t
    | c :: t =>
      if grouped && c == ')' then
        .error (.expecting .expression Cause.emptyExpression.reason (c :: t))
      else do
        let (a, t) ← Atom.recognize grouped (c :: t)
        return (.atom a, t)

end Query
end RowSieve
