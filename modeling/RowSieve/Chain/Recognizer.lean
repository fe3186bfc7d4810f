import RowSieve.Chain.Parse
import RowSieve.Recognizer

/-! Chains read by states: one table for the characters of a step. -/
namespace RowSieve

open Recognizer

namespace Step

inductive State where
  | seeking
  | print
  | set
  | inBlanks
  | inField
  | equals
  | inValue
  | ended
  deriving DecidableEq, Repr

namespace State

def next (s : State) (c : Char) : Option State :=
  match s with
  | seeking =>
    if isBlank c then some seeking
    else if c = 'p' then some print else if c = 's' then some set else none
  | print => if c = ';' then some ended else none
  | set | inBlanks =>
    if isBlank c then some inBlanks else if c = '=' ∨ c = ';' then none else some inField
  | inField => if c = '=' then some equals else if c = ';' then none else some inField
  | equals | inValue => if c = ';' then some ended else some inValue
  | ended => none

/-- What a state waits for. A step that has ended waits for nothing. -/
def expected : State → Text
  | seeking => Cause.actionMissing.reason
  | print => Cause.printUnended.reason
  | set | inBlanks => Cause.fieldMissing.reason
  | inField => Cause.equalsMissing.reason
  | equals | inValue => Cause.setUnended.reason
  | ended => "invalid action".toList

end State

def states : Recognizer State := ⟨.action, State.next, State.expected⟩

structure Draft where
  prints : Bool
  field : Text
  value : Text
  deriving DecidableEq, Repr

namespace Draft

def empty : Draft := ⟨false, [], []⟩

def take (d : Draft) (s : State) (c : Char) : Draft :=
  match s with
  | .print => { d with prints := true }
  | .inField => { d with field := d.field ++ [c] }
  | .inValue => { d with value := d.value ++ [c] }
  | .seeking | .set | .inBlanks | .equals | .ended => d

def step (d : Draft) : Step := if d.prints then .print else .set d.field d.value

end Draft

def recognizeFrom (s : State) (d : Draft) (t : Text) : Except Stuck (Step × Text) :=
  if s = .ended then .ok (d.step, t)
  else match t with
    | [] => states.stop s []
    | c :: t =>
      match s.next c with
      | none => states.stop s (c :: t)
      | some s' => recognizeFrom s' (d.take s' c) t

def recognize (t : Text) : Except Stuck (Step × Text) := recognizeFrom .seeking .empty t

end Step

namespace Chain

def recognize (room : Nat) (t : Text) : Except Stuck (Chain × Text) :=
  match Text.trimStart t with
  | [] => .ok ([], [])
  | c :: t =>
    match room with
    | 0 => .error (.expecting .action Cause.chainTooLong.reason (c :: t))
    | room + 1 => do
      let (step, t) ← Step.recognize (c :: t)
      let (steps, t) ← recognize room t
      return (step :: steps, t)

end Chain
end RowSieve
