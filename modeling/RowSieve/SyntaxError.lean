import RowSieve.Program

/-! What a text that is no program was rejected for. A reader stops with a `Failure`,
the cause and the text still unread; `Failure.locate` turns it into the byte offset
that the message names. -/
namespace RowSieve

/-- The construct whose reader gave up. -/
inductive Stage where
  | expression
  | atom
  | binary
  | negation
  | action
  | program
  deriving DecidableEq, Repr

def Stage.label : Stage → Text
  | expression => "expression".toList
  | atom => "atom".toList
  | binary => "binary".toList
  | negation => "not".toList
  | action => "action".toList
  | program => "program".toList

inductive Cause where
  | nestedTooDeeply
  | emptyExpression
  | relationMissing
  | castMissing
  | afterCast
  | leftUnclosed
  | operatorMissing
  | rightUnopened
  | rightUnclosed
  | afterBinary
  | negationUnopened
  | negationUnclosed
  | afterNegation
  | actionMissing
  | printUnended
  | fieldMissing
  | equalsMissing
  | setUnended
  | chainTooLong
  | querySectionMissing
  | trueSectionMissing
  | falseSectionMissing
  | sectionUnopened
  | sectionUnclosed
  | afterSections
  deriving DecidableEq, Repr

namespace Cause

def stage : Cause → Stage
  | nestedTooDeeply | emptyExpression => .expression
  | relationMissing | castMissing | afterCast => .atom
  | leftUnclosed | operatorMissing | rightUnopened | rightUnclosed | afterBinary => .binary
  | negationUnopened | negationUnclosed | afterNegation => .negation
  | actionMissing | printUnended | fieldMissing | equalsMissing | setUnended | chainTooLong =>
    .action
  | querySectionMissing | trueSectionMissing | falseSectionMissing | sectionUnopened
  | sectionUnclosed | afterSections => .program

def reason : Cause → Text
  | nestedTooDeeply => "expression nested too deeply".toList
  | emptyExpression => "cannot form expression from empty input".toList
  | relationMissing => "expected relation operator (=, <, >) after field name".toList
  | castMissing => "expected cast type (s, i, d) after '.'".toList
  | afterCast => "unexpected character after cast type".toList
  | leftUnclosed => "unbalanced parentheses: expected ')' closing the left operand".toList
  | operatorMissing => "expected operator '&' or '|' right after ')'".toList
  | rightUnopened => "expected '(' right after the operator".toList
  | rightUnclosed => "unbalanced parentheses: expected ')' closing the right operand".toList
  | afterBinary => "unexpected characters after binary expression".toList
  | negationUnopened => "expected '(' right after '!'".toList
  | negationUnclosed =>
    "unbalanced parentheses: expected ')' closing the negated expression".toList
  | afterNegation => "unexpected characters after negation".toList
  | actionMissing => "expected action 'p;' or 's field=value;'".toList
  | printUnended => "expected ';' right after 'p'".toList
  | fieldMissing => "expected field name after 's'".toList
  | equalsMissing => "expected '=' after field name".toList
  | setUnended => "expected ';' terminating the action".toList
  | chainTooLong => "action chain too long".toList
  | querySectionMissing => "expected query section 'q\x7b'".toList
  | trueSectionMissing => "expected true-branch section 't\x7b'".toList
  | falseSectionMissing => "expected false-branch section 'f\x7b'".toList
  | sectionUnopened => "expected '\x7b' after section keyword".toList
  | sectionUnclosed => "expected closing '\x7d'".toList
  | afterSections => "unexpected characters after 'f\x7b...\x7d'".toList

end Cause

structure Failure where
  cause : Cause
  rest : Text
  deriving DecidableEq, Repr

/-- The reader of `text`, which is the body of a part or the whole program, failed behind `offset`
of its bytes. -/
structure SyntaxError where
  cause : Cause
  text : Text
  offset : Nat
  part : Option Part
  deriving DecidableEq, Repr

def Failure.locate (f : Failure) (text : Text) : SyntaxError :=
  ⟨f.cause, text, text.size - f.rest.size, none⟩

namespace SyntaxError

def stage (e : SyntaxError) : Stage := e.cause.stage

def reason (e : SyntaxError) : Text := e.cause.reason

def within (e : SyntaxError) (part : Part) : SyntaxError := { e with part := some part }

def message (e : SyntaxError) : Text :=
  "invalid ".toList ++ e.stage.label ++ " syntax".toList ++
    (match e.part with
      | none => []
      | some part => " in ".toList ++ part.label ++ " section".toList) ++
    ": ".toList ++ e.reason ++ " at offset ".toList ++ Text.decimal e.offset ++
    " in ".toList ++ Text.accented e.text

/-- The number of characters, not bytes, before the point of failure. -/
def column (e : SyntaxError) : Nat := go e.text e.offset
where
  go : Text → Nat → Nat
    | [], _ => 0
    | c :: t, left => if left = 0 then 0 else go t (left - c.utf8Size) + 1

end SyntaxError
end RowSieve
