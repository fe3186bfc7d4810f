import RowSieve.Query.Parse
import RowSieve.Chain.Parse

/-! Reading a program: three sections `q`, `t` and `f`, each a body between braces that
runs to the first `}`. All three bodies are cut out before any of them is read. -/
namespace RowSieve.Program

def readSection (keyword : Char) (missing : Cause) (t : Text) :
    Except Failure (Text × Text) :=
  match t.dropWhile isGap with
  | [] => .error ⟨missing, []⟩
  | c :: t =>
    if c ≠ keyword then .error ⟨missing, c :: t⟩
    else match t.dropWhile isGap with
      | '{' :: t =>
        match t.dropWhile (· ≠ '}') with
        | [] => .error ⟨.sectionUnclosed, []⟩
        | _ :: rest => .ok (t.takeWhile (· ≠ '}'), rest)
      | t => .error ⟨.sectionUnopened, t⟩

structure Bodies where
  query : Text
  onTrue : Text
  onFalse : Text
  deriving DecidableEq, Repr

def readBodies (t : Text) : Except Failure Bodies := do
  let (query, t) ← readSection 'q' .querySectionMissing t
  let (onTrue, t) ← readSection 't' .trueSectionMissing t
  let (onFalse, t) ← readSection 'f' .falseSectionMissing t
  match t.dropWhile isGap with
  | [] => return ⟨query, onTrue, onFalse⟩
  | rest => throw ⟨.afterSections, rest⟩

def inPart (part : Part) : Except SyntaxError α → Except SyntaxError α
  | .ok a => .ok a
  | .error e => .error (e.within part)

/-- Reads the bodies in their order; blanks around a body do not count. -/
def ofBodies (b : Bodies) : Except SyntaxError Program := do
  let query ← inPart .query (Query.parse (Text.trim b.query))
  let onTrue ← inPart .onTrue (Chain.parse (Text.trim b.onTrue))
  let onFalse ← inPart .onFalse (Chain.parse (Text.trim b.onFalse))
  return ⟨query, onTrue, onFalse⟩

def parse (t : Text) : Except SyntaxError Program :=
  match readBodies t with
  | .error f => .error (f.locate t)
  | .ok bodies => ofBodies bodies

end RowSieve.Program
