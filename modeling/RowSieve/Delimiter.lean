import RowSieve.Text.Escaped

/-! The delimiter between the fields of a line: one character, which can be neither a
double quote nor part of a line break. -/
namespace RowSieve

structure Delimiter where
  char : Char
  not_quote : char ≠ '"'
  not_newline : char ≠ '\n'
  not_return : char ≠ '\r'
  deriving DecidableEq

namespace Delimiter

inductive Rejection where
  | quote
  | lineBreak
  | empty
  | severalChars (t : Text)
  deriving DecidableEq, Repr

def Rejection.message : Rejection → Text
  | quote => "'\"' cannot be used as a delimiter".toList
  | lineBreak => "line breaks cannot be used as a delimiter".toList
  | empty => "empty delimiter".toList
  | severalChars t => "delimiter must be a single character, got ".toList ++ Text.escaped t

def comma : Delimiter := ⟨',', by decide, by decide, by decide⟩

def tab : Delimiter := ⟨'\t', by decide, by decide, by decide⟩

def ofChar (c : Char) : Except Rejection Delimiter :=
  if quote : c = '"' then .error .quote
  else if newline : c = '\n' then .error .lineBreak
  else if carriage : c = '\r' then .error .lineBreak
  else .ok ⟨c, quote, newline, carriage⟩

/-- A delimiter is written as itself; the tab also as `tab` in letters of either case or
as a backslash and a `t`. -/
def parse (t : Text) : Except Rejection Delimiter :=
  if Text.sameLetters t "tab".toList || t == ['\\', 't'] then .ok tab
  else match t with
    | [] => .error .empty
    | [c] => ofChar c
    | _ => .error (.severalChars t)

def render (d : Delimiter) : Text := if d.char = '\t' then "tab".toList else [d.char]

end Delimiter
end RowSieve
