import RowSieve.Chain
import RowSieve.SyntaxError

/-! Reading a chain: `p;` and `s field=value;` with blanks around the steps. Field and
value are taken as they stand, inner and trailing blanks included. -/
namespace RowSieve

def maxSteps : Nat := 1024

namespace Step

def readValue (field t : Text) : Except Failure (Step × Text) :=
  match t.dropWhile (· ≠ ';') with
  | [] => .error ⟨.setUnended, []⟩
  | _ :: rest => .ok (.set field (t.takeWhile (· ≠ ';')), rest)

def inField (c : Char) : Bool := decide (c ≠ '=' ∧ c ≠ ';')

def readSet (t : Text) : Except Failure (Step × Text) :=
  let field := t.takeWhile inField
  let rest := t.dropWhile inField
  if field.isEmpty then .error ⟨.fieldMissing, rest⟩
  else match rest with
    | '=' :: t => readValue field t
    | rest => .error ⟨.equalsMissing, rest⟩

/-- Reads one step and leaves what follows its `;`. -/
def read : Text → Except Failure (Step × Text)
  | 'p' :: ';' :: t => .ok (.print, t)
  | 'p' :: t => .error ⟨.printUnended, t⟩
  | 's' :: t => readSet (Text.trimStart t)
  | t => .error ⟨.actionMissing, t⟩

end Step

namespace Chain

/-- Reads steps up to the end of the text; `room` is how many may still come. -/
def read : (room : Nat) → Text → Except Failure Chain
  | room, t =>
    match Text.trimStart t with
    | [] => .ok []
    | c :: t =>
      match room with
      | 0 => .error ⟨.chainTooLong, c :: t⟩
      | room + 1 => do
        let (step, t) ← Step.read (c :: t)
        let steps ← read room t
        return step :: steps

def parse (t : Text) : Except SyntaxError Chain :=
  match read maxSteps t with
  | .ok c => .ok c
  | .error f => .error (f.locate t)

end Chain
end RowSieve
