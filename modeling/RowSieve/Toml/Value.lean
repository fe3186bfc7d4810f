import RowSieve.Decimal

/-! Values of a TOML document. Tables keep their keys in order of code points and know how
they were written, since that decides what may still be added to them. Keys and values
carry the stretch of the document where they stand. -/
namespace RowSieve.Toml

/-- A stretch of a document: how many bytes are left of the document where the stretch
begins and where it ends. -/
structure Span where
  left : Nat
  leftAfter : Nat
  deriving DecidableEq, Repr

def Span.between (t rest : Text) : Span := ⟨Text.size t, Text.size rest⟩

structure Key where
  name : Text
  span : Span
  deriving DecidableEq, Repr

/-- Named by a header of its own or the whole document, named only as the beginning of a longer
header or of a dotted key, or written between braces. -/
inductive TableKind where
  | explicit
  | implicit
  | dotted
  | inline
  deriving DecidableEq, Repr

/-- The huge numbers are beyond all that can be held. A date or a time is in normal form, and
`ofTables` marks an array that table headers have made. -/
inductive Value where
  | string (t : Text)
  | integer (n : Int)
  | hugeInteger
  | float (x : Binary64)
  | hugeFloat
  | boolean (b : Bool)
  | datetime (t : Text)
  | array (ofTables : Bool) (items : List (Span × Value))
  | table (kind : TableKind) (entries : List (Key × Span × Value))

namespace Value

def fits64 (n : Int) : Bool := -(Nat.pow 2 63 : Int) ≤ n && n < (Nat.pow 2 63 : Int)

mutual

/-- Whether every number in the value is an integer of 64 bits or a double. -/
def numbersFit : Value → Bool
  | integer n => fits64 n
  | hugeInteger => false
  | hugeFloat => false
  | array _ items => numbersFitItems items
  | table _ entries => numbersFitEntries entries
  | string _ => true
  | float _ => true
  | boolean _ => true
  | datetime _ => true

def numbersFitItems : List (Span × Value) → Bool
  | [] => true
  | (_, v) :: rest => numbersFit v && numbersFitItems rest

def numbersFitEntries : List (Key × Span × Value) → Bool
  | [] => true
  | (_, _, v) :: rest => numbersFit v && numbersFitEntries rest

end

mutual

def same : Value → Value → Bool
  | string t, string u => t == u
  | integer n, integer m => n == m
  | hugeInteger, hugeInteger => true
  | float x, float y => x == y
  | hugeFloat, hugeFloat => true
  | boolean b, boolean c => b == c
  | datetime t, datetime u => t == u
  | array a items, array b others => a == b && sameItems items others
  | table k entries, table l others => k == l && sameEntries entries others
  | _, _ => false

def sameItems : List (Span × Value) → List (Span × Value) → Bool
  | [], [] => true
  | (s, v) :: rest, (s', v') :: rest' => s == s' && same v v' && sameItems rest rest'
  | _, _ => false

def sameEntries : List (Key × Span × Value) → List (Key × Span × Value) → Bool
  | [], [] => true
  | (k, s, v) :: rest, (k', s', v') :: rest' =>
    k == k' && s == s' && same v v' && sameEntries rest rest'
  | _, _ => false

end

mutual

theorem same_iff (v w : Value) : same v w = true ↔ v = w := by
  cases v with
  | array a items => cases w <;> simp [same, sameItems_iff items]
  | table k entries => cases w <;> simp [same, sameEntries_iff entries]
  | _ => cases w <;> simp [same]

theorem sameItems_iff (items others : List (Span × Value)) :
    sameItems items others = true ↔ items = others := by
  cases items with
  | nil => cases others <;> simp [sameItems]
  | cons item rest =>
    obtain ⟨s, v⟩ := item
    cases others with
    | nil => simp [sameItems]
    | cons => simp [sameItems, same_iff v, sameItems_iff rest, Prod.ext_iff]

theorem sameEntries_iff (entries others : List (Key × Span × Value)) :
    sameEntries entries others = true ↔ entries = others := by
  cases entries with
  | nil => cases others <;> simp [sameEntries]
  | cons entry rest =>
    obtain ⟨k, s, v⟩ := entry
    cases others with
    | nil => simp [sameEntries]
    | cons => simp [sameEntries, same_iff v, sameEntries_iff rest, Prod.ext_iff, and_assoc]

end

instance : DecidableEq Value := fun v w => decidable_of_iff _ (same_iff v w)

end Value

abbrev Located := Span × Value

abbrev Entries := List (Key × Located)

namespace Entries

/-- Puts a value at its key, in place of one that is there. -/
def put (key : Key) (value : Located) : Entries → Entries
  | [] => [(key, value)]
  | (k, v) :: rest =>
    match Text.order key.name k.name with
    | .lt => (key, value) :: (k, v) :: rest
    | .eq => (k, value) :: rest
    | .gt => (k, v) :: put key value rest

def get? (name : Text) : Entries → Option Located
  | [] => none
  | (k, v) :: rest => if k.name = name then some v else get? name rest

/-- Changes the table at the end of a path, counted from a table of the given kind, and
makes the tables on the way that are not there. On the way lie tables and the last items
of arrays of tables; a dotted path does not pass through a table with a header of its
own, and nothing passes into an inline table. -/
def atPath? (dotted : Bool) (change : TableKind → Entries → Option Entries) :
    (path : List Key) → (kind : TableKind) → Entries → Option Entries
  | [], kind, entries => change kind entries
  | key :: path, _, entries =>
    match get? key.name entries with
    | none => do
      let kind := if dotted then .dotted else .implicit
      let inner ← atPath? dotted change path kind []
      return put key (key.span, .table kind inner) entries
    | some (_, .table .inline _) => none
    | some (span, .table kind inner) =>
      if dotted && kind == .explicit then none
      else do
        let inner ← atPath? dotted change path kind inner
        return put key (span, .table kind inner) entries
    | some (span, .array true items) =>
      match items.getLast? with
      | some (last, .table kind inner) => do
        let inner ← atPath? dotted change path kind inner
        return put key (span, .array true (items.dropLast ++ [(last, .table kind inner)])) entries
      | _ => none
    | some _ => none

/-- Adds a value under a dotted key. The last table on the way must have come from dotted
keys itself, and the key must be new. -/
def add? (path : List Key) (key : Key) (value : Located) (entries : Entries) :
    Option Entries :=
  atPath? true (fun kind inner =>
    if (kind == .dotted) == path.isEmpty then none
    else match get? key.name inner with
      | none => some (put key value inner)
      | some _ => none) path .explicit entries

/-- Opens the table that a header names. A table named before only on the way to another
may be opened once. -/
def openTable? (path : List Key) (key : Key) (header : Span) (entries : Entries) :
    Option Entries :=
  atPath? false (fun _ inner =>
    match get? key.name inner with
    | none => some (put key (header, .table .explicit []) inner)
    | some (_, .table .implicit own) => some (put key (header, .table .explicit own) inner)
    | some _ => none) path .explicit entries

/-- Adds a table to the array that a header in double brackets names. -/
def openItem? (path : List Key) (key : Key) (header : Span) (entries : Entries) :
    Option Entries :=
  atPath? false (fun _ inner =>
    match get? key.name inner with
    | none => some (put key (header, .array true [(header, .table .explicit [])]) inner)
    | some (span, .array true items) =>
      some (put key (span, .array true (items ++ [(header, .table .explicit [])])) inner)
    | some _ => none) path .explicit entries

end Entries
end RowSieve.Toml
