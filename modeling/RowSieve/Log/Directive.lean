import RowSieve.Log.Event
import RowSieve.Text.Alphanumeric

/-! Directives choose which events are logged. A directive gives a threshold to the events
whose target begins with its name and that have the field it asks for; without a name and
a field it is about all events there are. -/
namespace RowSieve.Log

structure Directive where
  name : Text
  field : Option Text
  limit : Threshold
  deriving DecidableEq, Repr

namespace Directive

inductive Rejection where
  | malformed
  | unknownLevel
  deriving DecidableEq, Repr

def Rejection.message : Rejection → Text
  | malformed => "invalid filter directive".toList
  | unknownLevel =>
    ("error parsing level filter: expected one of \"off\", \"error\", \"warn\", \"info\", " ++
      "\"debug\", \"trace\", or a number 0-5").toList

/-- Thresholds as numbers from 0 for `off` to 5 for `trace`. A plus sign and zeros may stand
in front. -/
def ofNumber? (t : Text) : Option Threshold :=
  let digits := match t with
    | '+' :: digits => digits
    | _ => t
  if digits.isEmpty then none
  else match digits.dropWhile (· == '0') with
    | [] => some .off
    | ['1'] => some (.level .error)
    | ['2'] => some (.level .warn)
    | ['3'] => some (.level .info)
    | ['4'] => some (.level .debug)
    | ['5'] => some (.level .trace)
    | _ => none

def limit? (t : Text) : Option Threshold := ofNumber? t <|> Threshold.ofName? t

/-- What the brackets of a directive ask for: a field of the event, or something of the span
around it, which no event here has. -/
inductive Brackets where
  | field (name : Text)
  | span
  deriving DecidableEq, Repr

/-- A directive as it is written: `name[span{field}]=level`, each part of which may be
missing. -/
structure Parts where
  name : Text
  brackets : Option Brackets
  level : Option Text
  deriving DecidableEq, Repr

def startsName (c : Char) : Bool :=
  c == '-' || c == ':' || c == '_' || Text.isAlphanumeric c

/-- What stands between the brackets, from behind the opening one, and the text after them.
A field with a value is looked for in spans alone. -/
def readBrackets (t : Text) : Option (Brackets × Text) :=
  let span := t.takeWhile fun c => c ≠ ']' ∧ c ≠ '\x7b'
  match t.dropWhile fun c => c ≠ ']' ∧ c ≠ '\x7b' with
  | ']' :: rest => some (.span, rest)
  | '\x7b' :: rest =>
    let field := rest.takeWhile (· ≠ '\x7d')
    match rest.dropWhile (· ≠ '\x7d') with
    | '\x7d' :: ']' :: rest =>
      if field.isEmpty then none
      else if span.isEmpty && !field.contains '=' then some (.field field, rest)
      else some (.span, rest)
    | _ => none
  | _ => none

def readFromBrackets (name t : Text) : Option Parts := do
  let (brackets, rest) ← readBrackets t
  match rest with
  | '=' :: level => return ⟨name, some brackets, some level⟩
  | _ => if rest.all isBlank then return ⟨name, some brackets, none⟩ else none

def readParts (t : Text) : Option Parts :=
  match t with
  | [] => none
  | '[' :: rest => readFromBrackets [] rest
  | c :: _ =>
    if !startsName c then none
    else
      let name := t.takeWhile fun c => c ≠ '=' ∧ c ≠ '['
      match t.dropWhile fun c => c ≠ '=' ∧ c ≠ '[' with
      | '=' :: level => some ⟨name, none, some level⟩
      | '[' :: rest => readFromBrackets name rest
      | _ => some ⟨name, none, none⟩

/-- Without a level everything passes. -/
def levelOf : Option Text → Except Rejection Threshold
  | none => .ok (.level .trace)
  | some [] => .ok (.level .trace)
  | some t =>
    match limit? t with
    | some limit => .ok limit
    | none => .error .unknownLevel

/-- A name alone may be a level. What asks for spans decides nothing. -/
def ofParts (p : Parts) : Except Rejection (Option Directive) := do
  let limit ← levelOf p.level
  match p.brackets, p.level with
  | some .span, _ => return none
  | some (.field field), _ => return some ⟨p.name, some field, limit⟩
  | none, some _ => return some ⟨p.name, none, limit⟩
  | none, none =>
    match limit? p.name with
    | some general => return some ⟨[], none, general⟩
    | none => return some ⟨p.name, none, limit⟩

/-- Blanks at the end belong to the last part. After a blank at the beginning a directive
may have no level, and its name is that of no target. -/
def parse (t : Text) : Except Rejection (Option Directive) :=
  match readParts (Text.trimStart t) with
  | none => .error .malformed
  | some parts =>
    if !(t.head?.any isBlank) then ofParts parts
    else if parts.level.isSome then .error .unknownLevel
    else .ok none

def concerns (d : Directive) (e : Event) : Bool :=
  (Text.after? d.name e.target).isSome && d.field.all e.fieldNames.contains

/-- Order by the length of the name, then by the field, of which none comes first. -/
def precedence (a b : Directive) : Ordering :=
  (compare a.name.length b.name.length).then
    (match a.field, b.field with
      | none, none => .eq
      | none, some _ => .lt
      | some _, none => .gt
      | some s, some t => Text.order s t)

end Directive

abbrev Filter := List Directive

namespace Filter

/-- The directives between commas, up to the first that is rejected. -/
def ofPieces : List Text → Except Directive.Rejection Filter
  | [] => .ok []
  | piece :: pieces =>
    if piece.isEmpty then ofPieces pieces
    else do
      let d ← Directive.parse piece
      let more ← ofPieces pieces
      return d.toList ++ more

def parse (t : Text) : Except Directive.Rejection Filter := ofPieces (Text.split ',' t)

/-- Of two directives about an event, the one that says more decides, of two that say the
same the later one. -/
def better (earlier : Option Directive) (d : Directive) : Option Directive :=
  match earlier with
  | none => some d
  | some e => if e.precedence d = .gt then some e else some d

def deciding? (f : Filter) (e : Event) : Option Directive :=
  (f.filter (·.concerns e)).foldl better none

def passes (f : Filter) (e : Event) : Bool :=
  match f.deciding? e with
  | some d => d.limit.passes e.level
  | none => false

end Filter
end RowSieve.Log
