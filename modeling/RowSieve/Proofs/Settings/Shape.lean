import RowSieve.Proofs.Outcome
import RowSieve.Proofs.Toml.Ordered
import RowSieve.Settings.Given

/-! Reading a section entry by entry. What one entry does is said once; from it follows what is left
in a field when all have been read, and which entries a section that was read can have had. -/
namespace RowSieve.Settings

open Toml

theorem inSpan_eq_ok_iff {span : Span} {x : Except Misfit α} {a : α} :
    inSpan span x = .ok a ↔ x = .ok a := by
  cases x <;> simp [inSpan]

theorem mismatch_ne_ok {v : Value} {expected : String} {a : α} :
    mismatch v expected ≠ Except.ok a := by
  unfold mismatch
  split <;> simp [reject]

def dateKey : Text := "$__toml_private_datetime".toList

namespace Setter
variable {get : σ → α} {means : Value → α → Prop} {read : Span → Value → Except Misfit β}
  {update : σ → β → σ}

/-- A setter that gives a field what its value means. -/
def Gives (set : Setter σ) (get : σ → α) (means : Value → α → Prop) : Prop :=
  ∀ span v s s', set span v s = .ok s' → means v (get s')

def Keeps (set : Setter σ) (get : σ → α) : Prop :=
  ∀ span v s s', set span v s = .ok s' → get s' = get s

theorem gives_of_read (reads : ∀ {span v b s}, read span v = .ok b → means v (get (update s b))) :
    Gives (fun span v s => do return update s (← read span v)) get means := by
  intro span v s s' made
  obtain ⟨b, own, same⟩ := bind_eq_ok_iff.mp made
  obtain rfl := pure_eq_ok_iff.mp same
  exact reads own

theorem keeps_of_read (apart : ∀ s b, get (update s b) = get s) :
    Keeps (fun span v s => do return update s (← read span v)) get := by
  intro span v s s' made
  obtain ⟨b, _, same⟩ := bind_eq_ok_iff.mp made
  obtain rfl := pure_eq_ok_iff.mp same
  exact apart s b

end Setter

namespace Shape
variable {shape : Shape σ} {s s' : σ} {entries before after : Entries} {entry : Key × Located}
  {name : Text}

def step (shape : Shape σ) (s : σ) (entry : Key × Located) : Except Misfit σ :=
  match shape.setter? entry.1.name with
  | some set => inSpan entry.2.1 (set entry.2.1 entry.2.2 s)
  | none =>
    if shape.closed then
      inSpan entry.1.span
        (reject (.unknownField entry.1.name (shape.keys.map fun (name, _) => name.toList)))
    else do
      inSpan entry.2.1 (passOver entry.2.2)
      return s

theorem ofEntries_cons (shape : Shape σ) (s : σ) (entry : Key × Located) (rest : Entries) :
    shape.ofEntries s (entry :: rest) = shape.step s entry >>= fun s => shape.ofEntries s rest := by
  obtain ⟨key, span, v⟩ := entry
  rw [ofEntries, step]
  dsimp only
  cases shape.setter? key.name with
  | some set => rfl
  | none =>
    cases shape.closed with
    | true => rfl
    | false =>
      change _ = (inSpan span (passOver v) >>= fun _ => pure s) >>= _
      rw [bind_assoc]
      rfl

theorem ofEntries_append (shape : Shape σ) (s : σ) (before after : Entries) :
    shape.ofEntries s (before ++ after) =
      shape.ofEntries s before >>= fun s => shape.ofEntries s after := by
  induction before generalizing s with
  | nil => rfl
  | cons entry before ih =>
    rw [List.cons_append, ofEntries_cons, ofEntries_cons, bind_assoc]
    exact congrArg _ (funext ih)

/-- An entry that was read either has a key of the section, or the section is open and its value
is passed over. -/
theorem step_eq_ok_iff :
    shape.step s entry = .ok s' ↔
      (∃ set, shape.setter? entry.1.name = some set ∧
        set entry.2.1 entry.2.2 s = .ok s') ∨
      (shape.setter? entry.1.name = none ∧ shape.closed = false ∧
        passOver entry.2.2 = .ok () ∧ s' = s) := by
  rw [step]
  cases found : shape.setter? entry.1.name with
  | some set => simp [inSpan_eq_ok_iff]
  | none =>
    cases shape.closed with
    | true => simp [inSpan_eq_ok_iff, reject]
    | false =>
      simp only [Bool.false_eq_true, if_false, then_eq_ok_iff, inSpan_eq_ok_iff, pure_eq_ok_iff]
      constructor
      · rintro ⟨passed, rfl⟩
        exact .inr ⟨trivial, trivial, passed, rfl⟩
      · rintro (⟨_, nothing, _⟩ | ⟨_, _, passed, rfl⟩)
        · contradiction
        · exact ⟨passed, rfl⟩

theorem mem_of_setter? {set : Setter σ} (found : shape.setter? name = some set) :
    ∃ key, (key, set) ∈ shape.keys ∧ key.toList = name := by
  obtain ⟨⟨key, _⟩, here, rfl⟩ := Option.map_eq_some_iff.mp found
  have same : (key.toList == name) = true :=
    List.find?_some (p := fun entry : String × Setter σ => entry.1.toList == name) here
  exact ⟨key, List.mem_of_find?_eq_some here, beq_iff_eq.mp same⟩

/-- A field that one key of a section gives its meaning, and no other key touches. -/
structure Field (shape : Shape σ) (name : Text) (get : σ → α) (means : Value → α → Prop) :
    Prop where
  known : (shape.setter? name).isSome
  keys : ∀ entry ∈ shape.keys, (entry.1.toList = name ∧ entry.2.Gives get means) ∨
    (entry.1.toList ≠ name ∧ entry.2.Keeps get)

namespace Field
variable {get : σ → α} {means : Value → α → Prop}

theorem gives {set : Setter σ} (field : shape.Field name get means)
    (found : shape.setter? name = some set) : set.Gives get means := by
  obtain ⟨key, member, named⟩ := mem_of_setter? found
  rcases field.keys _ member with ⟨_, gives⟩ | ⟨different, _⟩
  · exact gives
  · exact absurd named different

theorem keeps {set : Setter σ} {other : Text} (field : shape.Field name get means)
    (different : other ≠ name) (found : shape.setter? other = some set) : set.Keeps get := by
  obtain ⟨key, member, rfl⟩ := mem_of_setter? found
  rcases field.keys _ member with ⟨same, _⟩ | ⟨_, keeps⟩
  · exact absurd same different
  · exact keeps

theorem of_step (field : shape.Field name get means) (different : entry.1.name ≠ name)
    (taken : shape.step s entry = .ok s') : get s' = get s := by
  rcases step_eq_ok_iff.mp taken with ⟨set, known, made⟩ | ⟨_, _, _, rfl⟩
  · exact field.keeps different known _ _ _ _ made
  · rfl

theorem of_absent (field : shape.Field name get means) (absent : entries.get? name = none)
    (decoded : shape.ofEntries s entries = .ok s') : get s' = get s := by
  induction entries generalizing s with
  | nil =>
    obtain rfl := Except.ok.inj decoded
    rfl
  | cons entry rest ih =>
    rw [ofEntries_cons] at decoded
    obtain ⟨a, first, later⟩ := bind_eq_ok_iff.mp decoded
    rw [Entries.get?_eq_none_iff, Entries.names, List.map_cons, List.mem_cons, not_or] at absent
    rw [ih (Entries.get?_eq_none_iff.mpr absent.2) later]
    exact field.of_step (Ne.symm absent.1) first

/-- When all entries have been read, a field is what its key says. -/
theorem of_ofEntries (field : shape.Field name get means) (once : entries.names.Nodup)
    (decoded : shape.ofEntries s entries = .ok s') :
    Stands ((entries.get? name).map Prod.snd) means (get s) (get s') := by
  cases given : entries.get? name with
  | none => exact field.of_absent given decoded
  | some located =>
    obtain ⟨key, member, rfl⟩ := Entries.mem_of_get? given
    obtain ⟨before, after, rfl⟩ := List.append_of_mem member
    rw [ofEntries_append] at decoded
    obtain ⟨a, _, decoded⟩ := bind_eq_ok_iff.mp decoded
    rw [ofEntries_cons] at decoded
    obtain ⟨b, here, later⟩ := bind_eq_ok_iff.mp decoded
    have behind : key.name ∉ Entries.names after := by
      rw [Entries.names, List.map_append, List.map_cons, List.nodup_append] at once
      exact (List.nodup_cons.mp once.2.1).1
    rcases step_eq_ok_iff.mp here with ⟨set, known, made⟩ | ⟨unknown, _⟩
    · rw [field.of_absent (Entries.get?_eq_none_iff.mpr behind) later]
      exact field.gives known _ _ _ _ made
    · have known := field.known
      rw [unknown] at known
      contradiction

end Field

/-- The keys of a section, each with a setter of its own, and no key for dates among them. -/
structure Keys (shape : Shape σ) (names : List Text) : Prop where
  nodup : names.Nodup
  named : shape.keys.map (fun (name, _) => name.toList) = names
  own : ∀ entry ∈ shape.keys, shape.setter? entry.1.toList = some entry.2
  noDate : dateKey ∉ names

theorem Keys.setter?_eq_none {names : List Text} (keys : shape.Keys names)
    (absent : name ∉ names) : shape.setter? name = none := by
  cases found : shape.setter? name with
  | none => rfl
  | some set =>
    obtain ⟨key, member, rfl⟩ := mem_of_setter? found
    rw [← keys.named] at absent
    exact absurd (List.mem_map_of_mem member) absent

/-- An array is read as the table that has its values under the keys of the section. -/
theorem ofItems_eq {keys : List (String × Setter σ)} {items : List Located}
    (own : ∀ entry ∈ keys, shape.setter? entry.1.toList = some entry.2) :
    ofItems s keys items = shape.ofEntries s
      (entriesOf (keys.map fun (name, _) => name.toList) (.array false items)) := by
  induction keys generalizing items s with
  | nil => rfl
  | cons entry keys ih =>
    obtain ⟨name, set⟩ := entry
    cases items with
    | nil => rfl
    | cons located items =>
      obtain ⟨span, v⟩ := located
      obtain ⟨here, later⟩ := List.forall_mem_cons.mp own
      have first : shape.step s (⟨name.toList, span⟩, span, v) = inSpan span (set span v s) := by
        rw [step]
        simp only [here]
      have listed : entriesOf (((name, set) :: keys).map fun (name, _) => name.toList)
          (.array false ((span, v) :: items)) =
          (⟨name.toList, span⟩, span, v) ::
            entriesOf (keys.map fun (name, _) => name.toList) (.array false items) := rfl
      rw [listed, ofEntries_cons, first, ofItems]
      exact congrArg _ (funext fun s => ih later)

theorem nodup_entriesOf {names : List Text} (nodup : names.Nodup) {v : Value}
    (ordered : v.Ordered) : (entriesOf names v).names.Nodup := by
  cases v with
  | table kind entries => exact (Entries.ordered_table_iff.mp ordered).nodup
  | array ofTables items =>
    have part (names : List Text) (items : List Located) :
        (entriesOf names (.array ofTables items)).names.Sublist names := by
      induction names generalizing items with
      | nil => exact .slnil
      | cons name names ih =>
        cases items with
        | nil => exact List.nil_sublist _
        | cons located items => exact (ih items).cons_cons name
    exact (part names items).nodup nodup
  | _ => exact List.nodup_nil

/-- A field of a section is what the section says about its key. -/
theorem Field.of_decode {names : List Text} {get : σ → α} {means : Value → α → Prop} {span : Span}
    {v : Value} (field : shape.Field name get means) (keys : shape.Keys names)
    (ordered : v.Ordered) (decoded : shape.decode s span v = .ok s') :
    Stands (((entriesOf names v).get? name).map Prod.snd) means (get s) (get s') := by
  have once := nodup_entriesOf keys.nodup ordered
  cases v with
  | table kind entries => exact field.of_ofEntries once decoded
  | array ofTables items =>
    refine field.of_ofEntries once ?_
    rw [← keys.named]
    exact (ofItems_eq keys.own).symm.trans decoded
  | datetime t =>
    -- the one entry of a date has a key that no section knows
    have absent : Entries.get? name [(⟨dateKey, span⟩, span, .string t)] = none := by
      rw [Entries.get?_eq_none_iff]
      intro member
      have known := field.known
      rw [List.mem_singleton.mp member] at known
      rw [keys.setter?_eq_none keys.noDate] at known
      contradiction
    exact field.of_absent absent decoded
  | _ =>
    simp only [decode, asMap?] at decoded
    exact absurd decoded mismatch_ne_ok

end Shape
end RowSieve.Settings
