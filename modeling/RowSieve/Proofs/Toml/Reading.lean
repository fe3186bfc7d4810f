import RowSieve.Proofs.Toml.Ordered

/-! Reading keeps tables in order: every statement adds to the tables by `put` alone, whether it
gives a value, opens a table or adds a table to an array. -/
namespace RowSieve.Toml

namespace Entries
variable {key : Key} {value : Located} {entries result : Entries}

/-- A change deep inside keeps all tables in order if it keeps the one it is made to in order. -/
theorem Ordered.atPath? {dotted : Bool} {change : TableKind → Entries → Option Entries}
    (keeps : ∀ kind inner changed, inner.Ordered → change kind inner = some changed →
      changed.Ordered)
    {path : List Key} {kind : TableKind} (ordered : entries.Ordered)
    (changed : entries.atPath? dotted change path kind = some result) : result.Ordered := by
  fun_induction Entries.atPath? dotted change path kind entries generalizing result with
  | case1 kind entries => exact keeps _ _ _ ordered changed
  | case2 _ key path entries absent kind =>
    rename_i ih
    obtain ⟨inner, made, rest⟩ := Option.bind_eq_some_iff.mp changed
    obtain rfl := Option.some.inj rest
    exact ordered.put (ordered_table_iff.mpr (ih ordered_nil made))
  | case3 => contradiction
  | case4 => contradiction
  | case5 _ key path entries span kind inner _ found _ ih =>
    have own := ordered_table_iff.mp (ordered.of_get? found)
    obtain ⟨inner', made, rest⟩ := Option.bind_eq_some_iff.mp changed
    obtain rfl := Option.some.inj rest
    exact ordered.put (ordered_table_iff.mpr (ih own made))
  | case6 _ key path entries span items found last kind inner final ih =>
    have each := Value.ordered_array_iff.mp (ordered.of_get? found)
    have own := ordered_table_iff.mp (each _ (List.mem_of_getLast? final))
    obtain ⟨inner', made, rest⟩ := Option.bind_eq_some_iff.mp changed
    obtain rfl := Option.some.inj rest
    refine ordered.put (Value.ordered_array_iff.mpr fun item member => ?_)
    rcases List.mem_append.mp member with before | same
    · exact each _ ((List.dropLast_sublist items).subset before)
    · rw [List.mem_singleton.mp same]
      exact ordered_table_iff.mpr (ih own made)
  | case7 => contradiction
  | case8 => contradiction

theorem Ordered.add? {path : List Key} (ordered : entries.Ordered) (own : value.2.Ordered)
    (added : entries.add? path key value = some result) : result.Ordered := by
  refine ordered.atPath? (fun kind inner changed kept change => ?_) added
  split at change
  · contradiction
  · split at change
    · obtain rfl := Option.some.inj change
      exact kept.put own
    · contradiction

theorem Ordered.openTable? {path : List Key} {header : Span} (ordered : entries.Ordered)
    (opened : entries.openTable? path key header = some result) : result.Ordered := by
  refine ordered.atPath? (fun kind inner changed kept change => ?_) opened
  split at change
  · obtain rfl := Option.some.inj change
    exact kept.put (ordered_table_iff.mpr ordered_nil)
  · rename_i found
    obtain rfl := Option.some.inj change
    exact kept.put (ordered_table_iff.mpr (ordered_table_iff.mp (kept.of_get? found)))
  · contradiction

theorem Ordered.openItem? {path : List Key} {header : Span} (ordered : entries.Ordered)
    (opened : entries.openItem? path key header = some result) : result.Ordered := by
  have empty : (Value.table .explicit []).Ordered := ordered_table_iff.mpr ordered_nil
  refine ordered.atPath? (fun kind inner changed kept change => ?_) opened
  split at change
  · obtain rfl := Option.some.inj change
    refine kept.put (Value.ordered_array_iff.mpr fun item member => ?_)
    rw [List.mem_singleton.mp member]
    exact empty
  · rename_i found
    obtain rfl := Option.some.inj change
    have each := Value.ordered_array_iff.mp (kept.of_get? found)
    refine kept.put (Value.ordered_array_iff.mpr fun item member => ?_)
    rcases List.mem_append.mp member with old | new
    · exact each item old
    · rw [List.mem_singleton.mp new]
      exact empty
  · contradiction

end Entries

theorem ordered_integerOf (n : Int) : (integerOf n).Ordered := by
  unfold integerOf
  split <;> exact .leaf rfl rfl

/-- A value without quotes or brackets has nothing inside. -/
theorem ordered_of_integer? {t : Text} {v : Value} (read : integer? t = some v) : v.Ordered := by
  unfold integer? at read
  split at read
  all_goals
    obtain ⟨ds, _, rfl⟩ := Option.map_eq_some_iff.mp read
    exact ordered_integerOf _

/-- All ways through the fraction lead to the power of ten, and from there to a float. -/
theorem ordered_of_power {negative : Bool} {whole places rest : Text} {v : Value}
    (made : ((power? rest).bind fun power =>
      match Decimal.ofDigits? negative (natOf 10 (whole ++ places)) (power - places.length) with
      | some x => some (.float x)
      | none => some .hugeFloat) = some v) : v.Ordered := by
  obtain ⟨power, _, made⟩ := Option.bind_eq_some_iff.mp made
  split at made
  all_goals
    obtain rfl := Option.some.inj made
    exact .leaf rfl rfl

theorem ordered_of_float? {t : Text} {v : Value} (read : float? t = some v) : v.Ordered := by
  simp only [float?] at read
  split at read
  · obtain rfl := Option.some.inj read
    exact .leaf rfl rfl
  · split at read
    · obtain rfl := Option.some.inj read
      exact .leaf rfl rfl
    · obtain ⟨whole, _, read⟩ := Option.bind_eq_some_iff.mp read
      split at read
      · obtain ⟨places, _, read⟩ := Option.bind_eq_some_iff.mp read
        exact ordered_of_power read
      · split at read
        · contradiction
        · exact ordered_of_power read

theorem ordered_of_datetime? {t : Text} {v : Value} (read : datetime? t = some v) :
    v.Ordered := by
  unfold datetime? at read
  split at read
  · obtain rfl := Option.some.inj read
    exact .leaf rfl rfl
  · split at read
    · obtain ⟨⟨time, _⟩, _, read⟩ := Option.bind_eq_some_iff.mp read
      obtain ⟨zone, _, read⟩ := Option.bind_eq_some_iff.mp read
      obtain rfl := Option.some.inj read
      exact .leaf rfl rfl
    · contradiction
  · split at read
    · obtain rfl := Option.some.inj read
      exact .leaf rfl rfl
    · contradiction

/-- A value without quotes or brackets has nothing inside. -/
theorem ordered_of_scalar? {t : Text} {v : Value} (read : scalar? t = some v) : v.Ordered := by
  unfold scalar? at read
  split at read
  · obtain rfl := Option.some.inj read
    exact .leaf rfl rfl
  · split at read
    · obtain rfl := Option.some.inj read
      exact .leaf rfl rfl
    · simp only [Option.orElse_eq_orElse, Option.orElse_eq_or, Option.or_eq_some_iff] at read
      rcases read with integer | ⟨_, float | ⟨_, date⟩⟩
      · exact ordered_of_integer? integer
      · exact ordered_of_float? float
      · exact ordered_of_datetime? date

/-- Whatever kind of value it is, it is put beside the stretch where it stands. -/
theorem ordered_of_located {t rest : Text} {found : Option (Value × Text)} {v : Located}
    (made : (found.bind fun (w, rest) => some ((Span.between t rest, w), rest)) = some (v, rest))
    (ordered : ∀ w left, found = some (w, left) → w.Ordered) : v.2.Ordered := by
  obtain ⟨⟨w, left⟩, here, made⟩ := Option.bind_eq_some_iff.mp made
  obtain ⟨rfl, -⟩ := Prod.mk.inj (Option.some.inj made)
  exact ordered w left here

theorem ordered_of_string {t left : Text} {w : Value}
    (made : ((readString t).map fun (s, t) => (Value.string s, t)) = some (w, left)) :
    w.Ordered := by
  obtain ⟨_, _, same⟩ := Option.map_eq_some_iff.mp made
  obtain ⟨rfl, -⟩ := Prod.mk.inj same
  exact .leaf rfl rfl

structure ReadsOrdered (fuel : Nat) : Prop where
  value : ∀ room t v rest, readValue fuel room t = some (v, rest) → v.2.Ordered
  items : ∀ room t items rest, readItems fuel room t = some (items, rest) →
    ∀ item ∈ items, item.2.Ordered
  pairs : ∀ room entries t result rest, entries.Ordered →
    readPairs fuel room entries t = some (result, rest) → result.Ordered

namespace ReadsOrdered
variable {fuel room : Nat} {t rest : Text}

theorem value_succ (ih : ReadsOrdered fuel) {v : Located}
    (read : readValue (fuel + 1) room t = some (v, rest)) : v.2.Ordered := by
  unfold readValue at read
  dsimp only at read
  split at read
  · exact ordered_of_located read fun w left made => ordered_of_string made
  · exact ordered_of_located read fun w left made => ordered_of_string made
  · split at read
    · contradiction
    · refine ordered_of_located read fun w left made => ?_
      obtain ⟨⟨items, _⟩, inner, same⟩ := Option.map_eq_some_iff.mp made
      obtain ⟨rfl, -⟩ := Prod.mk.inj same
      exact Value.ordered_array_iff.mpr (ih.items _ _ _ _ inner)
  · split at read
    · contradiction
    · refine ordered_of_located read fun w left made => ?_
      obtain ⟨⟨entries, _⟩, inner, same⟩ := Option.map_eq_some_iff.mp made
      obtain ⟨rfl, -⟩ := Prod.mk.inj same
      exact Entries.ordered_table_iff.mpr (ih.pairs _ _ _ _ _ Entries.ordered_nil inner)
  · refine ordered_of_located read fun w left made => ?_
    obtain ⟨_, inner, same⟩ := Option.map_eq_some_iff.mp made
    obtain ⟨rfl, -⟩ := Prod.mk.inj same
    exact ordered_of_scalar? inner

theorem items_succ (ih : ReadsOrdered fuel) {items : List Located}
    (read : readItems (fuel + 1) room t = some (items, rest)) :
    ∀ item ∈ items, item.2.Ordered := by
  unfold readItems at read
  obtain ⟨_, _, read⟩ := Option.bind_eq_some_iff.mp read
  split at read
  · obtain ⟨rfl, -⟩ := Prod.mk.inj (Option.some.inj read)
    exact nofun
  · obtain ⟨⟨first, _⟩, value, read⟩ := Option.bind_eq_some_iff.mp read
    have own := ih.value _ _ _ _ value
    obtain ⟨_, _, read⟩ := Option.bind_eq_some_iff.mp read
    split at read
    · obtain ⟨rfl, -⟩ := Prod.mk.inj (Option.some.inj read)
      exact List.forall_mem_singleton.mpr own
    · obtain ⟨⟨more, _⟩, later, read⟩ := Option.bind_eq_some_iff.mp read
      obtain ⟨rfl, -⟩ := Prod.mk.inj (Option.some.inj read)
      exact List.forall_mem_cons.mpr ⟨own, ih.items _ _ _ _ later⟩
    · contradiction

theorem pairs_succ (ih : ReadsOrdered fuel) {entries result : Entries} (ordered : entries.Ordered)
    (read : readPairs (fuel + 1) room entries t = some (result, rest)) : result.Ordered := by
  unfold readPairs at read
  obtain ⟨_, _, read⟩ := Option.bind_eq_some_iff.mp read
  split at read
  · obtain ⟨rfl, -⟩ := Prod.mk.inj (Option.some.inj read)
    exact ordered
  · obtain ⟨⟨⟨path, key⟩, _⟩, _, read⟩ := Option.bind_eq_some_iff.mp read
    obtain ⟨_, _, read⟩ := Option.bind_eq_some_iff.mp read
    split at read
    · obtain ⟨_, _, read⟩ := Option.bind_eq_some_iff.mp read
      obtain ⟨⟨value, _⟩, found, read⟩ := Option.bind_eq_some_iff.mp read
      obtain ⟨more, added, read⟩ := Option.bind_eq_some_iff.mp read
      have kept := ordered.add? (ih.value _ _ _ _ found) added
      obtain ⟨_, _, read⟩ := Option.bind_eq_some_iff.mp read
      split at read
      · obtain ⟨rfl, -⟩ := Prod.mk.inj (Option.some.inj read)
        exact kept
      · exact ih.pairs _ _ _ _ _ kept read
      · contradiction
    · contradiction

end ReadsOrdered

theorem readsOrdered (fuel : Nat) : ReadsOrdered fuel := by
  induction fuel with
  | zero =>
    refine ⟨fun _ _ _ _ read => ?_, fun _ _ _ _ read => ?_, fun _ _ _ _ _ _ read => ?_⟩
    · simp [readValue] at read
    · simp [readItems] at read
    · simp [readPairs] at read
  | succ fuel ih =>
    exact ⟨fun _ _ _ _ read => ih.value_succ read, fun _ _ _ _ read => ih.items_succ read,
      fun _ _ _ _ _ ordered read => ih.pairs_succ ordered read⟩

theorem ordered_of_readStatements {fuel : Nat} {current : List Key} {entries result : Entries}
    {t : Text} (ordered : entries.Ordered)
    (read : readStatements fuel current entries t = some result) : result.Ordered := by
  induction fuel generalizing current entries t with
  | zero => simp [readStatements] at read
  | succ fuel ih =>
    unfold readStatements at read
    obtain ⟨_, _, read⟩ := Option.bind_eq_some_iff.mp read
    split at read
    · obtain rfl := Option.some.inj read
      exact ordered
    · obtain ⟨⟨⟨path, key⟩, _⟩, _, read⟩ := Option.bind_eq_some_iff.mp read
      dsimp only at read
      split at read
      · obtain ⟨more, opened, read⟩ := Option.bind_eq_some_iff.mp read
        obtain ⟨_, _, read⟩ := Option.bind_eq_some_iff.mp read
        exact ih (ordered.openItem? opened) read
      · contradiction
    · obtain ⟨⟨⟨path, key⟩, _⟩, _, read⟩ := Option.bind_eq_some_iff.mp read
      dsimp only at read
      split at read
      · obtain ⟨more, opened, read⟩ := Option.bind_eq_some_iff.mp read
        obtain ⟨_, _, read⟩ := Option.bind_eq_some_iff.mp read
        exact ih (ordered.openTable? opened) read
      · contradiction
    · obtain ⟨⟨⟨path, key⟩, _⟩, _, read⟩ := Option.bind_eq_some_iff.mp read
      dsimp only at read
      split at read
      · obtain ⟨⟨value, _⟩, found, read⟩ := Option.bind_eq_some_iff.mp read
        obtain ⟨more, added, read⟩ := Option.bind_eq_some_iff.mp read
        obtain ⟨_, _, read⟩ := Option.bind_eq_some_iff.mp read
        have own := (readsOrdered _).value _ _ _ _ found
        refine ih (ordered.atPath? (fun _ inner changed kept change => ?_) added) read
        exact kept.add? own change
      · contradiction

/-- A document that has been read is in order. -/
theorem ordered_of_read? {t : Text} {entries : Entries} (read : read? t = some entries) :
    entries.Ordered :=
  ordered_of_readStatements Entries.ordered_nil read

end RowSieve.Toml
