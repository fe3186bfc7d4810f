import RowSieve.Chain.Recognizer
import RowSieve.Program.Parse
import RowSieve.Query.Recognizer

/-! Programs read by states: the keywords and braces around the bodies, and then each body. -/
namespace RowSieve.Program

open Recognizer

def recognizeLiteral (c : Char) (what : Text) : Text → Except Stuck Text
  | [] => .error (.expecting .program what [])
  | d :: t => if d = c then .ok t else .error (.expecting .program what (d :: t))

def recognizeSection (keyword : Char) (what : Text) (t : Text) : Except Stuck (Text × Text) := do
  let t ← recognizeLiteral keyword what (t.dropWhile isGap)
  let t ← recognizeLiteral '{' Cause.sectionUnopened.reason (t.dropWhile isGap)
  let rest ← recognizeLiteral '}' Cause.sectionUnclosed.reason (t.dropWhile (· ≠ '}'))
  return (t.takeWhile (· ≠ '}'), rest)

def recognizeBodies (t : Text) : Except Stuck (Bodies × Text) := do
  let (query, t) ← recognizeSection 'q' Cause.querySectionMissing.reason t
  let (onTrue, t) ← recognizeSection 't' Cause.trueSectionMissing.reason t
  let (onFalse, t) ← recognizeSection 'f' Cause.falseSectionMissing.reason t
  match t.dropWhile isGap with
  | [] => return (⟨query, onTrue, onFalse⟩, [])
  | rest => throw (.expecting .program Cause.afterSections.reason rest)

def recognizedIn (part : Part) : Except Rejection α → Except Rejection α
  | .ok a => .ok a
  | .error r => .error { r with part := some part }

def recognize (t : Text) : Except Rejection Program := do
  let bodies ← recognizeAll recognizeBodies .program t
  let query ← recognizedIn .query
    (recognizeAll (Query.recognize (maxNesting + 1) false) .expression (Text.trim bodies.query))
  let onTrue ← recognizedIn .onTrue
    (recognizeAll (Chain.recognize maxSteps) .action (Text.trim bodies.onTrue))
  let onFalse ← recognizedIn .onFalse
    (recognizeAll (Chain.recognize maxSteps) .action (Text.trim bodies.onFalse))
  return ⟨query, onTrue, onFalse⟩

end RowSieve.Program
