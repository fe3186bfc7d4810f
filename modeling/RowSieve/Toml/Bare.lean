import RowSieve.Toml.Value

/-! Documents that say the same: their keys and values are equal, wherever these stand in the text
and however the tables are written. -/
namespace RowSieve.Toml

def Span.none : Span := ⟨0, 0⟩

namespace Value

mutual

/-- The value without the stretches where its parts stand and the kinds of its tables. -/
def bare : Value → Value
  | array _ items => array false (bareItems items)
  | table _ entries => table .inline (bareEntries entries)
  | string t => string t
  | integer n => integer n
  | hugeInteger => hugeInteger
  | float x => float x
  | hugeFloat => hugeFloat
  | boolean b => boolean b
  | datetime t => datetime t

def bareItems : List (Span × Value) → List (Span × Value)
  | [] => []
  | (_, v) :: rest => (.none, v.bare) :: bareItems rest

def bareEntries : List (Key × Span × Value) → List (Key × Span × Value)
  | [] => []
  | (key, _, v) :: rest => (⟨key.name, .none⟩, .none, v.bare) :: bareEntries rest

end

end Value

def Entries.Alike (a b : Entries) : Prop := Value.bareEntries a = Value.bareEntries b

end RowSieve.Toml
