import RowSieve.Settings
import RowSieve.Toml.Document
import RowSieve.Toml.Excerpt

/-! Settings from a TOML document. A key that `[input]`, `[output]` or the document itself
does not know is an error; `[logging]` passes over such keys. Entries are taken in the
order of their keys, so the first error in that order is the one reported. -/
namespace RowSieve.Settings

inductive DecodeError where
  | unknownField (name : Text) (expected : List Text)
  | invalidType (found expected : Text)
  | unknownVariant (name : Text)
  | variantShape (message : Text)
  | delimiter (why : Delimiter.Rejection)
  | hugeInteger
  | hugeFloat
  deriving DecidableEq, Repr

def listNames : List Text → Text
  | [] => []
  | [a] => Text.accented a
  | [a, b] => Text.accented a ++ " or ".toList ++ Text.accented b
  | names => "one of ".toList ++ ((names.map Text.accented).intersperse ", ".toList).flatten

def DecodeError.message : DecodeError → Text
  | unknownField name expected =>
    "unknown field ".toList ++ Text.accented name ++ ", expected ".toList ++ listNames expected
  | invalidType found expected =>
    "invalid type: ".toList ++ found ++ ", expected ".toList ++ expected
  | unknownVariant name =>
    "unknown variant ".toList ++ Text.accented name ++ ", expected ".toList ++
      listNames (LogFormat.all.map LogFormat.name)
  | variantShape message => message
  | delimiter why => why.message
  | hugeInteger => "integer number overflowed".toList
  | hugeFloat => "floating-point number overflowed".toList

open Toml

structure Misfit where
  error : DecodeError
  span : Option Span
  deriving DecidableEq, Repr

/-- An error inside a stretch is about the stretch unless it is about a smaller one. -/
def Misfit.within (span : Span) (m : Misfit) : Misfit := { m with span := m.span.or (some span) }

def inSpan (span : Span) : Except Misfit α → Except Misfit α
  | .ok a => .ok a
  | .error m => .error (m.within span)

def reject (e : DecodeError) : Except Misfit α := .error ⟨e, none⟩

/-- An integer in a message, with its type where 64 bits do not hold it. -/
def describeInteger (n : Int) : Text :=
  "integer ".toList ++ Text.accented (Text.signed n) ++
    if -(Nat.pow 2 63 : Int) ≤ n ∧ n < (Nat.pow 2 64 : Int) then []
    else if n < (Nat.pow 2 127 : Int) then " as i128".toList
    else " as u128".toList

def describe : Value → Text
  | .string t => "string ".toList ++ Text.escaped t
  | .integer n => describeInteger n
  | .hugeInteger => "integer".toList
  | .hugeFloat => "float".toList
  | .float x => "floating point ".toList ++ Text.accented x.render
  | .boolean true => "boolean ".toList ++ Text.accented "true".toList
  | .boolean false => "boolean ".toList ++ Text.accented "false".toList
  | .datetime _ => "map".toList
  | .array .. => "sequence".toList
  | .table .. => "map".toList

/-- A value of another kind than was expected. A number that cannot be held is an error
before its kind is. -/
def mismatch (v : Value) (expected : String) : Except Misfit α :=
  match v with
  | .hugeInteger => reject .hugeInteger
  | .hugeFloat => reject .hugeFloat
  | v => reject (.invalidType (describe v) expected.toList)

mutual

/-- Passes over a value that no setting wants; its numbers must be ones that can be held. -/
def passOver : Value → Except Misfit Unit
  | .hugeInteger => reject .hugeInteger
  | .hugeFloat => reject .hugeFloat
  | .array _ items => passOverItems items
  | .table _ entries => passOverEntries entries
  | .string _ => .ok ()
  | .integer _ => .ok ()
  | .float _ => .ok ()
  | .boolean _ => .ok ()
  | .datetime _ => .ok ()

def passOverItems : List (Span × Value) → Except Misfit Unit
  | [] => .ok ()
  | (span, v) :: rest => do
    inSpan span (passOver v)
    passOverItems rest

def passOverEntries : List (Key × Span × Value) → Except Misfit Unit
  | [] => .ok ()
  | (_, span, v) :: rest => do
    inSpan span (passOver v)
    passOverEntries rest

end

def readText (expected : String) : Value → Except Misfit Text
  | .string t => .ok t
  | v => mismatch v expected

def readBoolean : Value → Except Misfit Bool
  | .boolean b => .ok b
  | v => mismatch v "a boolean"

/-- The entries of a value read as a map. A date is a map with one entry. -/
def asMap? (span : Span) : Value → Option Entries
  | .table _ entries => some entries
  | .datetime t => some [(⟨"$__toml_private_datetime".toList, span⟩, span, .string t)]
  | _ => none

def readDelimiter (v : Value) : Except Misfit Delimiter := do
  let t ← readText "a string" v
  match Delimiter.parse t with
  | .ok d => .ok d
  | .error why => reject (.delimiter why)

def readTextMap : Entries → Except Misfit (List (Text × Text))
  | [] => .ok []
  | (key, span, v) :: rest => do
    let t ← inSpan span (readText "a string" v)
    return (key.name, t) :: (← readTextMap rest)

def readModules (span : Span) (v : Value) : Except Misfit (List (Text × Text)) :=
  match asMap? span v with
  | some entries => readTextMap entries
  | none => mismatch v "a map"

def formatNamed (t : Text) : Except Misfit LogFormat :=
  match LogFormat.ofName? t with
  | some f => .ok f
  | none => reject (.unknownVariant t)

def kindName : Value → Text
  | .string _ => "string".toList
  | .integer _ => "integer".toList
  | .hugeInteger => "integer".toList
  | .float _ => "float".toList
  | .hugeFloat => "float".toList
  | .boolean _ => "boolean".toList
  | .datetime _ => "datetime".toList
  | .array .. => "array".toList
  | .table .. => "table".toList

def badShape (message : String) : Except Misfit α := reject (.variantShape message.toList)

/-- A format is written as its name, or as a table with the name as its only key and an
empty value. -/
def readFormat : Value → Except Misfit LogFormat
  | .string t => formatNamed t
  | .table _ [] => badShape "wanted exactly 1 element, found 0 elements"
  | .table _ [(key, span, v)] => do
    let f ← inSpan key.span (formatNamed key.name)
    inSpan span (match v with
      | .array _ [] | .table _ [] => .ok f
      | .array .. => badShape "expected empty array"
      | .table .. => badShape "expected empty table"
      | v => reject (.variantShape ("expected table, found ".toList ++ kindName v)))
  | .table .. => badShape "wanted exactly 1 element, more than 1 element"
  | _ => badShape "wanted string or table"

/-- How the value of a key changes a section. -/
abbrev Setter (σ : Type) := Span → Value → σ → Except Misfit σ

/-- A section as it is read: its keys in the order in which an array would give them. In a closed
one other keys are errors. -/
structure Shape (σ : Type) where
  name : String
  keys : List (String × Setter σ)
  closed : Bool

namespace Shape

def setter? (shape : Shape σ) (key : Text) : Option (Setter σ) :=
  (shape.keys.find? fun (name, _) => name.toList == key).map Prod.snd

def ofEntries (shape : Shape σ) (s : σ) : Entries → Except Misfit σ
  | [] => .ok s
  | (key, span, v) :: rest =>
    match shape.setter? key.name with
    | some set => do shape.ofEntries (← inSpan span (set span v s)) rest
    | none =>
      if shape.closed then
        inSpan key.span
          (reject (.unknownField key.name (shape.keys.map fun (name, _) => name.toList)))
      else do
        inSpan span (passOver v)
        shape.ofEntries s rest

/-- Values without keys belong to the keys in their order; more values than keys are
passed over. -/
def ofItems (s : σ) : List (String × Setter σ) → List Located → Except Misfit σ
  | (_, set) :: keys, (span, v) :: rest => do
    ofItems (← inSpan span (set span v s)) keys rest
  | _, _ => .ok s

def decode (shape : Shape σ) (default : σ) (span : Span) (v : Value) : Except Misfit σ :=
  match v with
  | .array _ items => ofItems default shape.keys items
  | v =>
    match asMap? span v with
    | some entries => shape.ofEntries default entries
    | none => mismatch v ("struct " ++ shape.name)

end Shape

def Input.shape : Shape Input where
  name := "InputConfig"
  keys := [
    ("delimiter", fun _ v s => do return { s with delimiter := ← readDelimiter v }),
    ("trim_fields", fun _ v s => do return { s with trimFields := ← readBoolean v })]
  closed := true

def Output.shape : Shape Output where
  name := "OutputConfig"
  keys := [
    ("delimiter", fun _ v s => do return { s with delimiter := ← readDelimiter v }),
    ("header", fun _ v s => do return { s with header := ← readBoolean v })]
  closed := true

def Logging.shape : Shape Logging where
  name := "LoggingConfig"
  keys := [
    ("level", fun _ v s => do return { s with level := ← readText "a string" v }),
    ("modules", fun span v s => do return { s with modules := ← readModules span v }),
    ("file", fun _ v s => do return { s with file := some (← readText "path string" v) }),
    ("format", fun _ v s => do return { s with format := ← readFormat v })]
  closed := false

def shape : Shape Settings where
  name := "FilterConfig"
  keys := [
    ("input", fun span v s => do
      return { s with input := ← Input.shape.decode .default span v }),
    ("output", fun span v s => do
      return { s with output := ← Output.shape.decode .default span v }),
    ("logging", fun span v s => do
      return { s with logging := ← Logging.shape.decode .default span v })]
  closed := true

/-- A document that does not fit is out of range if it holds an integer of more than 64 bits or a
number that is no double. -/
inductive SettingsError where
  | notToml
  | decode (m : Misfit)
  | outOfRange (m : Misfit)
  | unknownLevel (setting level : Text)
  deriving DecidableEq, Repr

def levelList : Text :=
  '[' :: ((Log.Threshold.names.map fun (name, _) => Text.escaped name).intersperse
    ", ".toList).flatten ++ [']']

def SettingsError.message : SettingsError → Text
  | notToml => "invalid TOML".toList
  | decode m => m.error.message
  | outOfRange m => m.error.message
  | unknownLevel setting level =>
    setting ++ ": unknown log level ".toList ++ Text.escaped level ++
      " (expected one of ".toList ++ levelList ++ ")".toList

def SettingsError.report (document : Text) (e : SettingsError) : Text :=
  match e with
  | decode ⟨error, some span⟩ => excerpt document span error.message
  | outOfRange ⟨error, some span⟩ => excerpt document span error.message
  | e => e.message

/-- Checks the names of levels, first the general one and then those of the modules. -/
def checkLevels : List (Text × Text) → Except SettingsError Unit
  | [] => .ok ()
  | (setting, level) :: rest =>
    match Log.Threshold.ofName? level with
    | some _ => checkLevels rest
    | none => .error (.unknownLevel setting level)

def Logging.levels (l : Logging) : List (Text × Text) :=
  ("logging.level".toList, l.level) ::
    l.modules.map fun (name, level) => ("logging.modules.".toList ++ name, level)

def ofEntries (entries : Entries) : Except SettingsError Settings :=
  match shape.ofEntries .default entries with
  | .error m =>
    .error (if Value.numbersFitEntries entries then .decode m else .outOfRange m)
  | .ok s =>
    match checkLevels s.logging.levels with
    | .ok () => .ok s
    | .error e => .error e

def parse (t : Text) : Except SettingsError Settings :=
  match Toml.read? t with
  | none => .error .notToml
  | some entries => ofEntries entries

end RowSieve.Settings
