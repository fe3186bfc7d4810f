import RowSieve.Program.Render
import RowSieve.Text.Escaped
import RowSieve.Terminal

/-! The explanation of a program: its canonical text, the query as an indented outline
and the steps of both chains, each value in escaped form. -/
namespace RowSieve

def Atom.explain (a : Atom) : Text :=
  a.field ++ ' ' :: a.relation.symbol :: ' ' :: Text.escaped a.value ++ " as ".toList ++
    a.cast.name ++ if a.cast = .integer then " (compared as string)".toList else []

def indent (depth : Nat) : Text := List.replicate (2 * depth) ' '

/-- One line per node of the tree, from the root down and from left to right. -/
def Query.outline (depth : Nat) : Query → List Text
  | atom a => [indent depth ++ a.explain]
  | and l r => (indent depth ++ "AND".toList) :: l.outline (depth + 1) ++ r.outline (depth + 1)
  | or l r => (indent depth ++ "OR".toList) :: l.outline (depth + 1) ++ r.outline (depth + 1)
  | not q => (indent depth ++ "NOT".toList) :: q.outline (depth + 1)

def Step.explain : Step → Text
  | print => "print row".toList
  | set field value => "set ".toList ++ field ++ " = ".toList ++ Text.escaped value

structure Explanation where
  source : Text
  query : List Text
  onTrue : List Text
  onFalse : List Text
  deriving DecidableEq, Repr

def Program.explain (p : Program) : Explanation :=
  ⟨p.render, p.query.outline 0, p.onTrue.map Step.explain, p.onFalse.map Step.explain⟩

namespace Explanation

def stepLines : (n : Nat) → List Text → List Text
  | _, [] => []
  | n, step :: steps =>
    ("    ".toList ++ Text.decimal n ++ ['.'] ++ ' ' :: step) :: stepLines (n + 1) steps

def chainLines (label : Text) (steps : List Text) : List Text :=
  ("  ".toList ++ label ++ [':']) ::
    if steps.isEmpty then ["    ".toList ++ "(no action)".toList] else stepLines 1 steps

/-- The explanation as it is written to a file or a pipe. -/
def plainLines (e : Explanation) : List Text :=
  ("Program:".toList ++ ' ' :: e.source) :: ("  ".toList ++ "Query:".toList) ::
    e.query.map ("    ".toList ++ ·) ++
    chainLines "When true".toList e.onTrue ++ chainLines "When false".toList e.onFalse

open Terminal

/-- A line of the outline that is a connective and nothing else but its indentation. -/
def isConnective (line : Text) : Bool :=
  let bare := Text.trimStart line
  bare == "AND".toList || bare == "OR".toList || bare == "NOT".toList

/-- The line is taken apart again: only the words of connectives are painted. -/
def colouredLine (line : Text) : Text :=
  "    ".toList ++ line.takeWhile isBlank ++
    paint (isConnective line) .cyan (Text.trimStart line)

def colouredStepLines : (n : Nat) → List Text → List Text
  | _, [] => []
  | n, step :: steps =>
    ("    ".toList ++ paint true .dim (Text.decimal n ++ ['.']) ++ ' ' :: step) ::
      colouredStepLines (n + 1) steps

def colouredChainLines (label : Text) (steps : List Text) : List Text :=
  ("  ".toList ++ paint true .bold (label ++ [':'])) ::
    if steps.isEmpty then ["    ".toList ++ paint true .dim "(no action)".toList]
    else colouredStepLines 1 steps

/-- The explanation as it is shown on a terminal. -/
def colouredLines (e : Explanation) : List Text :=
  (paint true .bold "Program:".toList ++ ' ' :: paint true .boldGreen e.source) ::
    ("  ".toList ++ paint true .bold "Query:".toList) ::
    e.query.map colouredLine ++
    colouredChainLines "When true".toList e.onTrue ++
    colouredChainLines "When false".toList e.onFalse

def render (color : Bool) (e : Explanation) : Text :=
  (if color then e.colouredLines else e.plainLines).flatMap (· ++ ['\n'])

end Explanation
end RowSieve
