import RowSieve.Toml.Value

/-! An excerpt of a document for an error: the line where a stretch begins and a mark below
the stretch. -/
namespace RowSieve.Toml

def cutAt (left : Nat) : Text → Text × Text
  | [] => ([], [])
  | c :: t =>
    if Text.size (c :: t) ≤ left then ([], c :: t)
    else let (before, rest) := cutAt left t; (c :: before, rest)

/-- The marks under a stretch: one at least, and none beyond the end of the line. -/
def marks (span : Span) (line : Text) (column : Nat) : Nat :=
  max 1 (min (span.left - span.leftAfter) (Text.size line - column))

def excerpt (document : Text) (span : Span) (message : Text) : Text :=
  let (before, rest) := cutAt span.left document
  let lines := Text.split '\n' before
  let lead := lines.getLast?.getD []
  let line := lead ++ rest.takeWhile (· ≠ '\n')
  let number := Text.decimal lines.length
  let gutter := List.replicate (number.length + 1) ' '
  "TOML parse error at line ".toList ++ number ++ ", column ".toList ++
    Text.decimal (lead.length + 1) ++ ['\n'] ++
    gutter ++ "|\n".toList ++
    number ++ " | ".toList ++ line ++ ['\n'] ++
    gutter ++ '|' :: List.replicate (lead.length + 1) ' ' ++
    List.replicate (marks span line lead.length) '^' ++ ['\n'] ++
    message ++ ['\n']

end RowSieve.Toml
