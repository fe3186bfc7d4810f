import RowSieve.Settings.Decode
import RowSieve.Toml.Bare

/-! What a document says about the settings: the keys that have a meaning in it, the value it gives
to a setting, and the same document with one key more. -/
namespace RowSieve.Settings

open Toml

inductive Section where
  | input
  | output
  | logging
  deriving DecidableEq, Repr

def Section.header : Section → Text
  | input => "input".toList
  | output => "output".toList
  | logging => "logging".toList

/-- The keys that have a meaning in a section, or in the document itself. -/
def documented : Option Section → List Text
  | none => ["input".toList, "output".toList, "logging".toList]
  | some .input => ["delimiter".toList, "trim_fields".toList]
  | some .output => ["delimiter".toList, "header".toList]
  | some .logging => ["level".toList, "modules".toList, "file".toList, "format".toList]

/-- The entries of a section. In an array the values belong to the keys in their order. -/
def entriesOf (keys : List Text) : Value → Entries
  | .table _ entries => entries
  | .array _ items => List.zipWith (fun name located => (⟨name, located.1⟩, located)) keys items
  | _ => []

def given? (document : Entries) (part : Section) (name : Text) : Option Value :=
  ((document.get? part.header).bind fun located =>
    (entriesOf (documented (some part)) located.2).get? name).map Prod.snd

/-- A setting is what its value means, or the default where there is no value for it. -/
def Stands (given : Option Value) (means : Value → α → Prop) (default setting : α) : Prop :=
  match given with
  | none => setting = default
  | some v => means v setting

def IsDelimiter (v : Value) (d : Delimiter) : Prop :=
  ∃ t, v = .string t ∧ Delimiter.parse t = .ok d

def IsFlag (v : Value) (b : Bool) : Prop := v = .boolean b

def IsText (v : Value) (t : Text) : Prop := v = .string t

def IsPath (v : Value) (path : Option Text) : Prop := ∃ t, v = .string t ∧ path = some t

/-- The thresholds of modules are the entries of a map, in their order. -/
def IsModules (v : Value) (modules : List (Text × Text)) : Prop :=
  ∃ span entries, asMap? span v = some entries ∧
    entries.map (fun entry => (entry.1.name, entry.2.2)) =
      modules.map fun (name, level) => (name, .string level)

/-- A format is given by its name, which may also stand as a key with an empty value. -/
def IsFormat (v : Value) (f : LogFormat) : Prop :=
  v = .string f.name ∨
    ∃ kind key span w, v = .table kind [(key, span, w)] ∧ key.name = f.name ∧
      ((∃ ofTables, w = .array ofTables []) ∨ ∃ kind, w = .table kind [])

/-- Every setting is as the document gives it, whatever else the document holds. -/
structure Follows (document : Entries) (s : Settings) : Prop where
  inputDelimiter :
    Stands (given? document .input "delimiter".toList) IsDelimiter .comma s.input.delimiter
  trimFields : Stands (given? document .input "trim_fields".toList) IsFlag false s.input.trimFields
  outputDelimiter :
    Stands (given? document .output "delimiter".toList) IsDelimiter .comma s.output.delimiter
  header : Stands (given? document .output "header".toList) IsFlag true s.output.header
  level : Stands (given? document .logging "level".toList) IsText "warn".toList s.logging.level
  modules : Stands (given? document .logging "modules".toList) IsModules [] s.logging.modules
  file : Stands (given? document .logging "file".toList) IsPath none s.logging.file
  format : Stands (given? document .logging "format".toList) IsFormat .plain s.logging.format

def withKey? (key : Key) (value : Located) (entries : Entries) : Option Entries :=
  match entries.get? key.name with
  | none => some (entries.put key value)
  | some _ => none

/-- A document with a key more, in one of its tables or beside them. A table that is missing is
made. -/
def adding? (place : Option Section) (key : Key) (value : Located) (document : Entries) :
    Option Entries :=
  match place with
  | none => withKey? key value document
  | some part =>
    match document.get? part.header with
    | none =>
      some (document.put ⟨part.header, key.span⟩ (key.span, .table .explicit [(key, value)]))
    | some (span, .table kind inner) =>
      (withKey? key value inner).map fun inner =>
        document.put ⟨part.header, key.span⟩ (span, .table kind inner)
    | some _ => none

/-- A text for a document with a key more, however it is written. -/
def IsTextAdding (place : Option Section) (key : Key) (value : Located) (document : Entries)
    (t : Text) : Prop :=
  ∃ added read, adding? place key value document = some added ∧ Toml.read? t = some read ∧
    read.Alike added

end RowSieve.Settings
