import RowSieve.Program.Report
import RowSieve.Proofs.Program.Attributed
import RowSieve.Terminal.Cursor

/-! The caret of a report. It is always one line below the last line of the quoted text, behind as
many blanks as the whole text has characters before the point of failure. So it is below the
character that it means when that character is on the last line, and in its column when that
character is on the first. -/
namespace RowSieve

open Terminal

namespace SyntaxError
variable {e : SyntaxError} {before after : Text} {c : Char}

def indent : Text := ['\n', ' ', ' ']

def heading (e : SyntaxError) : Text := "error: ".toList ++ e.message ++ indent

def margin (e : SyntaxError) : Text := indent ++ List.replicate e.column ' '

/-- Where the character is printed that follows the given beginning of the quoted text. -/
def letterAt (e : SyntaxError) (before : Text) : Cursor := Cursor.start.past (e.heading ++ before)

def caretAt (e : SyntaxError) : Cursor := Cursor.start.past (e.heading ++ e.text ++ e.margin)

theorem report_plain (e : SyntaxError) :
    e.report false = e.heading ++ e.text ++ e.margin ++ ['^'] := by
  have title : paint false .boldRed "error".toList ++ ": ".toList = "error: ".toList := by decide
  have inset : "\n  ".toList = indent := by decide
  unfold report heading margin
  rewrite [title, inset]
  exact congrArg (· ++ ['^']) (List.append_assoc ..)

theorem past_indent (k : Cursor) (t : Text) :
    k.past (t ++ indent) = ⟨(k.past t).line + 1, 2⟩ :=
  Cursor.past_append ..

theorem column_heading (e : SyntaxError) : (Cursor.start.past e.heading).column = 2 :=
  congrArg Cursor.column (past_indent ..)

theorem line_letterAt (e : SyntaxError) (before : Text) :
    (e.letterAt before).line = (Cursor.start.past e.heading).line + before.count '\n' := by
  rw [letterAt, Cursor.past_append, Cursor.line_past]

/-- A character on the first line of the text stands under what is before it. -/
theorem column_letterAt (e : SyntaxError) (unbroken : '\n' ∉ before) :
    (e.letterAt before).column = 2 + before.length := by
  rw [letterAt, Cursor.past_append, Cursor.past_of_notMem _ unbroken, column_heading]

theorem column_letterAt_lt (e : SyntaxError) (broken : '\n' ∈ before) :
    (e.letterAt before).column < 2 + before.length := by
  rw [letterAt, Cursor.past_append, ← column_heading e]
  exact Cursor.column_past_lt _ broken

/-- The caret is on the line after the text, behind its margin and one blank for every character
before the point of failure. -/
theorem caretAt_eq (e : SyntaxError) :
    e.caretAt =
      ⟨(Cursor.start.past e.heading).line + e.text.count '\n' + 1, 2 + e.column⟩ := by
  have blanks : '\n' ∉ List.replicate e.column ' ' := by simp
  have below : Cursor.start.past (e.heading ++ e.text ++ indent) =
      ⟨(Cursor.start.past e.heading).line + e.text.count '\n' + 1, 2⟩ := by
    rw [past_indent, Cursor.past_append, Cursor.line_past]
  rw [caretAt, margin, ← List.append_assoc, Cursor.past_append, below,
    Cursor.past_of_notMem _ blanks, List.length_replicate]

theorem line_caretAt_iff (parts : e.text = before ++ c :: after) :
    e.caretAt.line = (e.letterAt before).line + 1 ↔ '\n' ∉ c :: after := by
  rw [caretAt_eq, line_letterAt, parts, List.count_append, ← List.count_eq_zero]
  dsimp only
  omega

theorem column_caretAt_iff (place : e.column = before.length) :
    e.caretAt.column = (e.letterAt before).column ↔ '\n' ∉ before := by
  rw [caretAt_eq, place]
  constructor
  · intro same broken
    exact Nat.ne_of_gt (column_letterAt_lt e broken) same
  · exact fun unbroken => (column_letterAt e unbroken).symm

/-- An offset before the end of the text is that of a character. -/
theorem PointsBetween.exists_letter (points : e.PointsBetween) (inside : e.offset < e.text.size) :
    ∃ before c after, e.text = before ++ c :: after ∧ e.offset = Text.size before ∧
      e.column = before.length := by
  obtain ⟨before, rest, parts, place, column⟩ := points
  cases rest with
  | nil => simp [parts, place] at inside
  | cons c after => exact ⟨before, c, after, parts, place, column⟩

end SyntaxError

namespace Program

open SyntaxError

theorem pointsBetween_of_rejected {t : Text} {e : SyntaxError} (rejected : parse t = .error e) :
    e.PointsBetween := by
  rw [parse] at rejected
  split at rejected
  · rename_i f found
    have failed : parseBy (whole readBodies) t = .error e :=
      parseBy_eq_error_iff.mpr ⟨f, map_eq_error_iff.mpr found, (Except.error.inj rejected).symm⟩
    exact (located_of_parseBy readBodies_sequential ((readBodies_failsAt t).map _) failed).points
  · obtain ⟨part, own, failed, -, rfl⟩ := ofBodies_eq_error rejected
    exact (located_of_verdict failed).points

/-- Where the report of a rejected text has its caret, if the offset is that of a character: on the
line below that character exactly if no line of the quoted text ends at it or behind it, and in its
column exactly if none ends before it. -/
theorem caret_below_unless_broken {t : Text} {e : SyntaxError} (rejected : parse t = .error e)
    (inside : e.offset < e.text.size) :
    ∃ before c after, e.text = before ++ c :: after ∧ e.offset = Text.size before ∧
      e.report false = e.heading ++ (before ++ c :: after) ++ e.margin ++ ['^'] ∧
      (e.caretAt.line = (e.letterAt before).line + 1 ↔ '\n' ∉ c :: after) ∧
      (e.caretAt.column = (e.letterAt before).column ↔ '\n' ∉ before) := by
  obtain ⟨before, c, after, parts, place, column⟩ :=
    (pointsBetween_of_rejected rejected).exists_letter inside
  exact ⟨before, c, after, parts, place, parts ▸ e.report_plain, line_caretAt_iff parts,
    column_caretAt_iff column⟩

/-- A query on two lines that goes wrong on the first: the column is right, the line is not. -/
theorem caret_below_broken_query :
    let e : SyntaxError := ⟨.rightUnopened, "(é=1)&b\n|c".toList, 7, some .query⟩
    parse "q\x7b(é=1)&b\n|c\x7dt\x7bp;\x7df\x7b\x7d".toList = .error e ∧
      e.offset < e.text.size ∧
      ∃ before c after, e.text = before ++ c :: after ∧ e.offset = Text.size before ∧
        e.report false = e.heading ++ (before ++ c :: after) ++ e.margin ++ ['^'] ∧
        (e.caretAt.line = (e.letterAt before).line + 1 ↔ '\n' ∉ c :: after) ∧
        (e.caretAt.column = (e.letterAt before).column ↔ '\n' ∉ before) := by
  intro e
  have rejected : parse "q\x7b(é=1)&b\n|c\x7dt\x7bp;\x7df\x7b\x7d".toList = .error e := rfl
  have inside : e.offset < e.text.size := by decide
  exact ⟨rejected, inside, caret_below_unless_broken rejected inside⟩

/-- A program on two lines that goes wrong on the second, at the `x`: the caret is nine columns too
far to the right, as many as the first line and the margin have. -/
theorem caret_beside_second_line :
    let t := "q\x7ba=1\x7d\nt\x7bp;\x7d x\x7b\x7d".toList
    let e : SyntaxError := ⟨.falseSectionMissing, t, 13, none⟩
    parse t = .error e ∧ e.text = t.take 13 ++ 'x' :: t.drop 14 ∧ e.offset = Text.size (t.take 13) ∧
      e.letterAt (t.take 13) = ⟨3, 6⟩ ∧ e.caretAt = ⟨4, 15⟩ ∧
      ¬∀ t e, parse t = .error e → ∀ before c after, e.text = before ++ c :: after →
        e.offset = Text.size before →
        e.caretAt = ⟨(e.letterAt before).line + 1, (e.letterAt before).column⟩ := by
  intro t e
  have rejected : parse t = .error e := rfl
  have parts : e.text = t.take 13 ++ 'x' :: t.drop 14 := by decide
  have place : e.offset = Text.size (t.take 13) := by decide
  have letter : e.letterAt (t.take 13) = ⟨3, 6⟩ := by decide
  have caret : e.caretAt = ⟨4, 15⟩ := by decide
  refine ⟨rejected, parts, place, letter, caret, fun below => ?_⟩
  have same := below t e rejected _ _ _ parts place
  rw [letter, caret] at same
  exact absurd same (by decide)

end Program
end RowSieve
