import RowSieve.Proofs.Settings.Alike
import RowSieve.Proofs.Settings.Follows

/-! A key more that has no meaning where it stands. A closed section is rejected for it; an open one
is read as if the key were not there, as long as its value can be passed over. -/
namespace RowSieve.Settings

open Toml

namespace Shape
variable {shape : Shape σ} {s s' : σ} {key : Key} {value : Located} {entries more : Entries}

/-- An entry that changes nothing where it stands may be left out. -/
theorem ofEntries_insert_iff {before after : Entries} {entry : Key × Located} {p : Prop}
    (passed : ∀ a b, shape.ofEntries s before = .ok a →
      (shape.step a entry = .ok b ↔ p ∧ b = a)) :
    shape.ofEntries s (before ++ entry :: after) = .ok s' ↔
      p ∧ shape.ofEntries s (before ++ after) = .ok s' := by
  simp only [ofEntries_append, ofEntries_cons, bind_eq_ok_iff]
  constructor
  · rintro ⟨a, first, b, here, later⟩
    obtain ⟨holds, rfl⟩ := (passed a b first).mp here
    exact ⟨holds, b, first, later⟩
  · rintro ⟨holds, a, first, later⟩
    exact ⟨a, first, a, (passed a a first).mpr ⟨holds, rfl⟩, later⟩

/-- An entry that does as another one does may stand in its place. -/
theorem ofEntries_replace_iff {before after : Entries} {old new : Key × Located} {p : Prop}
    (same : ∀ a b, shape.step a new = .ok b ↔ p ∧ shape.step a old = .ok b) :
    shape.ofEntries s (before ++ new :: after) = .ok s' ↔
      p ∧ shape.ofEntries s (before ++ old :: after) = .ok s' := by
  simp only [ofEntries_append, ofEntries_cons, bind_eq_ok_iff, same]
  constructor
  · rintro ⟨a, first, b, ⟨holds, here⟩, later⟩
    exact ⟨holds, a, first, b, here, later⟩
  · rintro ⟨holds, a, first, b, here, later⟩
    exact ⟨a, first, b, ⟨holds, here⟩, later⟩

/-- A section that has a key more is read if it is open and the value can be passed over. -/
theorem ofEntries_withKey?_iff (unknown : shape.setter? key.name = none)
    (added : withKey? key value entries = some more) :
    shape.ofEntries s more = .ok s' ↔
      (shape.closed = false ∧ passOver value.2 = .ok ()) ∧ shape.ofEntries s entries = .ok s' := by
  unfold withKey? at added
  split at added
  · rename_i absent
    obtain rfl := Option.some.inj added
    obtain ⟨before, after, rfl, placed⟩ := Entries.put_new value absent
    rw [placed]
    refine ofEntries_insert_iff fun a b _ => ?_
    simp [step_eq_ok_iff, unknown, and_assoc]
  · contradiction

/-- A section inside another one: its key replaces the whole of it, from its beginning. -/
structure Holds (outer : Shape τ) (name : Text) (inner : Shape σ) (first : σ) (get : τ → σ)
    (update : τ → σ → τ) : Prop where
  setter : outer.setter? name =
    some fun span v s => do return update s (← inner.decode first span v)
  field : outer.Field name get fun v own => ∃ span, inner.decode first span v = .ok own
  update_get : ∀ s, update s (get s) = s

namespace Holds
variable {outer : Shape τ} {inner : Shape σ} {first : σ} {get : τ → σ} {update : τ → σ → τ}
  {name : Text} {header : Key} {a b : τ} {span : Span} {v : Value} {kind : TableKind}

theorem step_eq_ok_iff (holds : outer.Holds name inner first get update)
    (named : header.name = name) :
    outer.step a (header, span, v) = .ok b ↔
      ∃ own, inner.decode first span v = .ok own ∧ update a own = b := by
  rw [Shape.step_eq_ok_iff]
  subst named
  simp only [holds.setter, Option.some.injEq, exists_eq_left', reduceCtorEq, false_and, or_false,
    bind_eq_ok_iff, pure_eq_ok_iff]

theorem step_withKey?_iff (holds : outer.Holds name inner first get update)
    (named : header.name = name) (unknown : inner.setter? key.name = none)
    (added : withKey? key value entries = some more) :
    outer.step a (header, span, .table kind more) = .ok b ↔
      (inner.closed = false ∧ passOver value.2 = .ok ()) ∧
        outer.step a (header, span, .table kind entries) = .ok b := by
  rw [holds.step_eq_ok_iff named, holds.step_eq_ok_iff named, ← exists_and_left]
  refine exists_congr fun own => ?_
  rw [← and_assoc]
  exact and_congr_left fun _ => ofEntries_withKey?_iff unknown added

/-- An empty table gives a section its beginning. -/
theorem step_empty_iff (holds : outer.Holds name inner first get update)
    (named : header.name = name) (untouched : get a = first) :
    outer.step a (header, span, .table kind []) = .ok b ↔ b = a := by
  have kept : update a first = a := by rw [← untouched, holds.update_get]
  rw [holds.step_eq_ok_iff named]
  constructor
  · rintro ⟨own, read, rfl⟩
    obtain rfl := Except.ok.inj read
    exact kept
  · rintro rfl
    exact ⟨first, rfl, kept⟩

end Holds
end Shape

section
variable {key : Key} {value : Located} {document more : Entries} {s : Settings}

/-- A key that a section does not know, in a document with that section or without it. -/
theorem ofEntries_adding?_section {σ : Type} {inner : Shape σ} {first : σ} {get : Settings → σ}
    {update : Settings → σ → Settings} {part : Section}
    (holds : shape.Holds part.header inner first get update) (begins : get .default = first)
    (unknown : inner.setter? key.name = none) (ordered : document.Ordered)
    (added : adding? (some part) key value document = some more) :
    shape.ofEntries .default more = .ok s ↔
      (inner.closed = false ∧ passOver value.2 = .ok ()) ∧
        shape.ofEntries .default document = .ok s := by
  have header : (⟨part.header, key.span⟩ : Key).name = part.header := rfl
  dsimp only [adding?] at added
  split at added
  · -- a section that was missing has its beginning until the new table is read
    rename_i absent
    obtain rfl := Option.some.inj added
    rw [← header] at absent
    obtain ⟨before, after, rfl, placed⟩ :=
      Entries.put_new (key.span, .table .explicit [(key, value)]) absent
    rw [placed]
    refine Shape.ofEntries_insert_iff fun a b read => ?_
    have alone : withKey? key value [] = some [(key, value)] := rfl
    have missing : Entries.get? part.header before = none := by
      rw [header, Entries.get?_eq_none_iff, Entries.names, List.map_append, List.mem_append,
        not_or] at absent
      exact Entries.get?_eq_none_iff.mpr absent.1
    have untouched : get a = first := (holds.field.of_absent missing read).trans begins
    rw [holds.step_withKey?_iff header unknown alone, holds.step_empty_iff header untouched]
  · rename_i span kind inner' found
    obtain ⟨inner'', made, rfl⟩ := Option.map_eq_some_iff.mp added
    rw [← header] at found
    obtain ⟨before, k, after, named, rfl, placed⟩ :=
      Entries.put_old (span, .table kind inner'') ordered found
    rw [placed]
    exact Shape.ofEntries_replace_iff fun a b => holds.step_withKey?_iff named unknown made
  · contradiction

theorem input_holds : shape.Holds Section.input.header Input.shape .default Settings.input
    fun s i => { s with input := i } where
  setter := rfl
  field := input_field
  update_get _ := rfl

theorem output_holds : shape.Holds Section.output.header Output.shape .default Settings.output
    fun s o => { s with output := o } where
  setter := rfl
  field := output_field
  update_get _ := rfl

theorem logging_holds : shape.Holds Section.logging.header Logging.shape .default Settings.logging
    fun s l => { s with logging := l } where
  setter := rfl
  field := logging_field
  update_get _ := rfl

/-- Of the four tables only the one for the log is open. -/
theorem ofEntries_adding?_iff {place : Option Section} (ordered : document.Ordered)
    (undocumented : key.name ∉ documented place)
    (added : adding? place key value document = some more) :
    shape.ofEntries .default more = .ok s ↔
      (place = some .logging ∧ passOver value.2 = .ok ()) ∧
        shape.ofEntries .default document = .ok s := by
  match place with
  | none =>
    rw [Shape.ofEntries_withKey?_iff (keys.setter?_eq_none undocumented) added]
    simp [shape]
  | some .input =>
    rw [ofEntries_adding?_section input_holds rfl (Input.keys.setter?_eq_none undocumented)
      ordered added]
    simp [Input.shape]
  | some .output =>
    rw [ofEntries_adding?_section output_holds rfl (Output.keys.setter?_eq_none undocumented)
      ordered added]
    simp [Output.shape]
  | some .logging =>
    rw [ofEntries_adding?_section logging_holds rfl (Logging.keys.setter?_eq_none undocumented)
      ordered added]
    simp [Logging.shape]

/-- A text with a key more is accepted if the key is in the open table, its value can be passed over
and the text without it is accepted; the settings are the same. -/
theorem parse_iff_of_isTextAdding {t t' : Text} {place : Option Section}
    (read : Toml.read? t = some document) (undocumented : key.name ∉ documented place)
    (adding : IsTextAdding place key value document t') :
    parse t' = .ok s ↔
      (place = some .logging ∧ passOver value.2 = .ok ()) ∧ parse t = .ok s := by
  obtain ⟨more, new, added, read', alike⟩ := adding
  have of_read {t : Text} {entries : Entries} (read : Toml.read? t = some entries) :
      parse t = .ok s ↔
        shape.ofEntries .default entries = .ok s ∧ checkLevels s.logging.levels = .ok () := by
    simp [parse_eq_ok_iff, read]
  rw [of_read read, of_read read', ofEntries_congr alike,
    ofEntries_adding?_iff (ordered_of_read? read) undocumented added, and_assoc]

end

/-- Settings follow their document, whatever else it holds. With a key more that is not documented
for its place a document is rejected, except in the table for the log: there the key is passed over,
and the settings are the same as without it. -/
theorem follows_and_rejects_undocumented {t : Text} {s : Settings} (accepted : parse t = .ok s) :
    ∃ document, Toml.read? t = some document ∧ Follows document s ∧
      ∀ place key value t', key.name ∉ documented place →
        IsTextAdding place key value document t' →
        ((∃ e, parse t' = .error e) ↔ place ≠ some .logging ∨ passOver value.2 ≠ .ok ()) ∧
          (place = some .logging → passOver value.2 = .ok () → parse t' = .ok s) := by
  obtain ⟨document, read, decoded, -⟩ := parse_eq_ok_iff.mp accepted
  refine ⟨document, read, follows_of_ofEntries (ordered_of_read? read) decoded, ?_⟩
  intro place key value t' undocumented adding
  have taken (s' : Settings) : parse t' = .ok s' ↔
      (place = some .logging ∧ passOver value.2 = .ok ()) ∧ parse t = .ok s' :=
    parse_iff_of_isTextAdding read undocumented adding
  refine ⟨?_, fun log fine => (taken s).mpr ⟨⟨log, fine⟩, accepted⟩⟩
  rw [exists_error_iff, ← Classical.not_and_iff_not_or_not]
  constructor
  · exact fun rejected passed => rejected s ((taken s).mpr ⟨passed, accepted⟩)
  · exact fun strict s' accepted' => strict ((taken s').mp accepted').1

/-- A table that turns the header off is followed; with a table beside it that holds an unknown key
the document is rejected. -/
theorem follows_header_and_rejects_quote :
    parse "[output]\nheader = false\n".toList =
        .ok { Settings.default with output.header := false } ∧
      ∃ e, parse "[output]\nheader = false\n[input]\nquote = true\n".toList = .error e := by
  have read : Toml.read? "[output]\nheader = false\n".toList = some [(⟨"output".toList, ⟨23, 17⟩⟩,
      ⟨24, 16⟩, .table .explicit [(⟨"header".toList, ⟨15, 9⟩⟩, ⟨6, 1⟩, .boolean false)])] := by
    decide +kernel
  have read' : Toml.read? "[output]\nheader = false\n[input]\nquote = true\n".toList =
      some [(⟨"input".toList, ⟨20, 15⟩⟩, ⟨21, 14⟩,
          .table .explicit [(⟨"quote".toList, ⟨13, 8⟩⟩, ⟨5, 1⟩, .boolean true)]),
        (⟨"output".toList, ⟨44, 38⟩⟩, ⟨45, 37⟩,
          .table .explicit [(⟨"header".toList, ⟨36, 30⟩⟩, ⟨27, 22⟩, .boolean false)])] := by
    decide +kernel
  have accepted : parse "[output]\nheader = false\n".toList =
      .ok { Settings.default with output.header := false } :=
    parse_eq_ok_iff.mpr ⟨_, read, rfl, rfl⟩
  obtain ⟨document, given, -, extended⟩ := follows_and_rejects_undocumented accepted
  obtain rfl := Option.some.inj (read.symm.trans given)
  have undocumented : "quote".toList ∉ documented (some .input) := by decide
  have adding : IsTextAdding (some .input) ⟨"quote".toList, ⟨13, 8⟩⟩ (⟨5, 1⟩, .boolean true)
      [(⟨"output".toList, ⟨23, 17⟩⟩, ⟨24, 16⟩,
        .table .explicit [(⟨"header".toList, ⟨15, 9⟩⟩, ⟨6, 1⟩, .boolean false)])]
      "[output]\nheader = false\n[input]\nquote = true\n".toList := ⟨_, _, rfl, read', rfl⟩
  exact ⟨accepted, (extended _ _ _ _ undocumented adding).1.mpr (.inl (by decide))⟩

/-- In the table for the log a misspelt key passes, and what it should have set is the default. -/
theorem misspelt_level_passes :
    ¬ ∀ t s document place key value t', parse t = .ok s → Toml.read? t = some document →
      key.name ∉ documented place → IsTextAdding place key value document t' →
      ∃ e, parse t' = .error e := by
  have read : Toml.read? "[logging]\n".toList =
      some [(⟨"logging".toList, ⟨9, 2⟩⟩, ⟨10, 1⟩, .table .explicit [])] := by
    decide +kernel
  have read' : Toml.read? "[logging]\nlevle = \"debug\"\n".toList =
      some [(⟨"logging".toList, ⟨25, 18⟩⟩, ⟨26, 17⟩,
        .table .explicit [(⟨"levle".toList, ⟨16, 11⟩⟩, ⟨8, 1⟩, .string "debug".toList)])] := by
    decide +kernel
  have accepted : parse "[logging]\n".toList = .ok .default :=
    parse_eq_ok_iff.mpr ⟨_, read, rfl, rfl⟩
  have accepted' : parse "[logging]\nlevle = \"debug\"\n".toList = .ok .default :=
    parse_eq_ok_iff.mpr ⟨_, read', rfl, rfl⟩
  intro strict
  have undocumented : "levle".toList ∉ documented (some .logging) := by decide
  have adding : IsTextAdding (some .logging) ⟨"levle".toList, ⟨16, 11⟩⟩
      (⟨8, 1⟩, .string "debug".toList) [(⟨"logging".toList, ⟨9, 2⟩⟩, ⟨10, 1⟩, .table .explicit [])]
      "[logging]\nlevle = \"debug\"\n".toList := ⟨_, _, rfl, read', rfl⟩
  obtain ⟨e, rejected⟩ := strict _ _ _ _ _ _ _ accepted read undocumented adding
  simp only [accepted', reduceCtorEq] at rejected

end RowSieve.Settings
