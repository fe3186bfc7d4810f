import RowSieve.Proofs.Settings.Shape
import RowSieve.Toml.Bare

/-! Documents that are alike are read alike: neither where a value stands nor how its tables are
written makes a difference to the settings. -/
namespace RowSieve.Settings

open Toml Toml.Value

section
variable {v : Value} {span : Span} {entries : Entries}

mutual

theorem passOver_bare (v : Value) : passOver v.bare = .ok () ↔ passOver v = .ok () := by
  cases v with
  | array _ items =>
    rw [bare, passOver, passOver]
    exact passOverItems_bare items
  | table _ entries =>
    rw [bare, passOver, passOver]
    exact passOverEntries_bare entries
  | _ => rfl

theorem passOverItems_bare (items : List (Span × Value)) :
    passOverItems (bareItems items) = .ok () ↔ passOverItems items = .ok () := by
  cases items with
  | nil => rfl
  | cons item rest =>
    simp only [bareItems, passOverItems, then_eq_ok_iff, inSpan_eq_ok_iff]
    exact and_congr (passOver_bare item.2) (passOverItems_bare rest)

theorem passOverEntries_bare (entries : List (Key × Span × Value)) :
    passOverEntries (bareEntries entries) = .ok () ↔ passOverEntries entries = .ok () := by
  cases entries with
  | nil => rfl
  | cons entry rest =>
    simp only [bareEntries, passOverEntries, then_eq_ok_iff, inSpan_eq_ok_iff]
    exact and_congr (passOver_bare entry.2.2) (passOverEntries_bare rest)

end

theorem mismatch_bare {expected : String} :
    (mismatch v.bare expected : Except Misfit α) = mismatch v expected := by
  cases v <;> rfl

theorem readText_bare {expected : String} : readText expected v.bare = readText expected v := by
  cases v <;> rfl

theorem readBoolean_bare : readBoolean v.bare = readBoolean v := by
  cases v <;> rfl

theorem readDelimiter_bare : readDelimiter v.bare = readDelimiter v := by
  rw [readDelimiter, readDelimiter, readText_bare]

theorem asMap?_bare : asMap? .none v.bare = (asMap? span v).map bareEntries := by
  cases v <;> rfl

theorem readTextMap_bare {pairs : List (Text × Text)} :
    readTextMap (bareEntries entries) = .ok pairs ↔ readTextMap entries = .ok pairs := by
  induction entries generalizing pairs with
  | nil => rfl
  | cons entry rest ih =>
    simp only [bareEntries, readTextMap, bind_eq_ok_iff, inSpan_eq_ok_iff, readText_bare, ih]

theorem readModules_bare {modules : List (Text × Text)} :
    readModules .none v.bare = .ok modules ↔ readModules span v = .ok modules := by
  rw [readModules, readModules, asMap?_bare]
  cases asMap? span v with
  | none =>
    dsimp only [Option.map_none]
    rw [mismatch_bare]
  | some entries => exact readTextMap_bare

theorem readFormat_bare {f : LogFormat} : readFormat v.bare = .ok f ↔ readFormat v = .ok f := by
  cases v with
  | table kind entries =>
    match entries with
    | [] => rfl
    | [(key, span, w)] =>
      simp only [bare, bareEntries, readFormat, bind_eq_ok_iff, inSpan_eq_ok_iff]
      cases w with
      | array _ items => cases items <;> rfl
      | table _ inner => cases inner <;> rfl
      | _ => rfl
    | _ :: _ :: _ => rfl
  | _ => rfl

end

/-- A setter that only looks at what a value says. -/
def Setter.Blind (set : Setter σ) : Prop :=
  ∀ span v s s', set .none v.bare s = .ok s' ↔ set span v s = .ok s'

theorem Setter.blind_of_read {read : Span → Value → Except Misfit α} {update : σ → α → σ}
    (same : ∀ {span v a}, read .none v.bare = .ok a ↔ read span v = .ok a) :
    Setter.Blind fun span v s => do return update s (← read span v) := by
  intro span v s s'
  rw [bind_eq_ok_iff, bind_eq_ok_iff]
  exact exists_congr fun a => and_congr_left fun _ => same

namespace Shape
variable {shape : Shape σ} {s s' : σ}

/-- A section whose settings only depend on what its values say. -/
def Blind (shape : Shape σ) : Prop := ∀ entry ∈ shape.keys, entry.2.Blind

theorem ofEntries_bare (blind : shape.Blind) (entries : Entries) :
    shape.ofEntries s (bareEntries entries) = .ok s' ↔ shape.ofEntries s entries = .ok s' := by
  induction entries generalizing s with
  | nil => rfl
  | cons entry rest ih =>
    obtain ⟨key, span, v⟩ := entry
    rw [bareEntries, ofEntries_cons, ofEntries_cons, bind_eq_ok_iff, bind_eq_ok_iff]
    refine exists_congr fun a => and_congr ?_ ih
    rw [step_eq_ok_iff, step_eq_ok_iff]
    refine or_congr (exists_congr fun set => and_congr_right fun found => ?_) ?_
    · obtain ⟨name, member, -⟩ := mem_of_setter? found
      exact blind _ member span v s a
    · rw [passOver_bare]

theorem ofItems_bare {keys : List (String × Setter σ)} (blind : ∀ entry ∈ keys, entry.2.Blind)
    {items : List Located} :
    ofItems s keys (bareItems items) = .ok s' ↔ ofItems s keys items = .ok s' := by
  induction keys generalizing s items with
  | nil => cases items <;> rfl
  | cons entry keys ih =>
    obtain ⟨here, later⟩ := List.forall_mem_cons.mp blind
    cases items with
    | nil => rfl
    | cons item items =>
      simp only [bareItems, ofItems, bind_eq_ok_iff, inSpan_eq_ok_iff]
      exact exists_congr fun a => and_congr (here item.1 item.2 s a) (ih later)

theorem decode_bare (blind : shape.Blind) {span : Span} {v : Value} :
    shape.decode s .none v.bare = .ok s' ↔ shape.decode s span v = .ok s' := by
  cases v with
  | array _ items => exact ofItems_bare blind
  | table _ entries => exact ofEntries_bare blind entries
  | datetime t =>
    exact ofEntries_bare blind [(⟨dateKey, span⟩, span, .string t)]
  | _ => rfl

end Shape

theorem Input.blind : Input.shape.Blind := by
  simp only [Shape.Blind, Input.shape, List.forall_mem_cons]
  refine ⟨Setter.blind_of_read ?_, Setter.blind_of_read ?_, nofun⟩
  · simp [readDelimiter_bare]
  · simp [readBoolean_bare]

theorem Output.blind : Output.shape.Blind := by
  simp only [Shape.Blind, Output.shape, List.forall_mem_cons]
  refine ⟨Setter.blind_of_read ?_, Setter.blind_of_read ?_, nofun⟩
  · simp [readDelimiter_bare]
  · simp [readBoolean_bare]

theorem Logging.blind : Logging.shape.Blind := by
  simp only [Shape.Blind, Logging.shape, List.forall_mem_cons]
  refine ⟨Setter.blind_of_read ?_, Setter.blind_of_read readModules_bare,
    Setter.blind_of_read ?_, Setter.blind_of_read readFormat_bare, nofun⟩
  · simp [readText_bare]
  · simp [readText_bare]

theorem blind : shape.Blind := by
  simp only [Shape.Blind, shape, List.forall_mem_cons]
  exact ⟨Setter.blind_of_read (Shape.decode_bare Input.blind),
    Setter.blind_of_read (Shape.decode_bare Output.blind),
    Setter.blind_of_read (Shape.decode_bare Logging.blind), nofun⟩

/-- Documents that are alike give the same settings. -/
theorem ofEntries_congr {a b : Entries} {s : Settings} (alike : a.Alike b) :
    shape.ofEntries .default a = .ok s ↔ shape.ofEntries .default b = .ok s := by
  rw [← Shape.ofEntries_bare blind, alike, Shape.ofEntries_bare blind]

end RowSieve.Settings
