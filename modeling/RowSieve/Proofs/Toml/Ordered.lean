import RowSieve.Toml.Document

/-! Tables are kept in order. A document that has been read, and every table inside it, names each
key once, in order of code points; so a key leads to one value, and a new key to one place. -/
namespace RowSieve

namespace Text

theorem order_swap (s t : Text) : (order s t).swap = order t s := by
  fun_induction order s t with
  | case1 => rfl
  | case2 => rfl
  | case3 => rfl
  | case4 a s b t ih => rw [order, Ordering.swap_then, Nat.compare_swap, ih]

theorem order_lt_trans {s t u : Text} (first : order s t = .lt) (second : order t u = .lt) :
    order s u = .lt := by
  fun_induction order s t generalizing u with
  | case1 => simp at first
  | case2 b t =>
    cases u with
    | nil => simp [order] at second
    | cons c u => rfl
  | case3 => simp at first
  | case4 a s b t ih =>
    cases u with
    | nil => simp [order] at second
    | cons c u =>
      simp only [order, Ordering.then_eq_lt, Nat.compare_eq_lt, Nat.compare_eq_eq] at first second ⊢
      rcases first with less | ⟨same, first⟩
      · exact .inl (by omega)
      · rcases second with less | ⟨same', second⟩
        · exact .inl (by omega)
        · exact .inr ⟨same.trans same', ih first second⟩

theorem order_self (t : Text) : order t t = .eq := order_eq_iff.mpr rfl

end Text

namespace Toml

def Entries.names (entries : Entries) : List Text := entries.map fun entry => entry.1.name

namespace Value

def keys : Value → List Text
  | table _ entries => Entries.names entries
  | _ => []

def parts : Value → List Value
  | array _ items => items.map Prod.snd
  | table _ entries => entries.map fun entry => entry.2.2
  | _ => []

/-- Every table in the value has its keys in order, each once. -/
inductive Ordered : Value → Prop where
  | intro {v : Value} (keys : v.keys.Pairwise fun a b => Text.order a b = .lt)
      (parts : ∀ part ∈ v.parts, Ordered part) : Ordered v

theorem Ordered.keys_lt {v : Value} (ordered : v.Ordered) :
    v.keys.Pairwise fun a b => Text.order a b = .lt := by
  cases ordered
  assumption

theorem Ordered.of_mem {v part : Value} (ordered : v.Ordered) (member : part ∈ v.parts) :
    part.Ordered := by
  cases ordered with
  | intro _ parts => exact parts part member

/-- A value that is neither an array nor a table. -/
theorem Ordered.leaf {v : Value} (none : v.keys = []) (nothing : v.parts = []) : v.Ordered :=
  .intro (by simp [none]) (by simp [nothing])

theorem ordered_array_iff {ofTables : Bool} {items : List Located} :
    (array ofTables items).Ordered ↔ ∀ item ∈ items, item.2.Ordered := by
  constructor
  · exact fun ordered item member => ordered.of_mem (List.mem_map_of_mem member)
  · exact fun each => .intro .nil fun part member => by
      obtain ⟨item, inside, rfl⟩ := List.mem_map.mp member
      exact each item inside

end Value

namespace Entries
variable {key : Key} {value : Located} {entries : Entries}

structure Ordered (entries : Entries) : Prop where
  names_lt : entries.names.Pairwise fun a b => Text.order a b = .lt
  values : ∀ entry ∈ entries, entry.2.2.Ordered

theorem ordered_table_iff {kind : TableKind} :
    (Value.table kind entries).Ordered ↔ entries.Ordered := by
  constructor
  · exact fun ordered => ⟨ordered.keys_lt, fun entry member =>
      ordered.of_mem (List.mem_map_of_mem member)⟩
  · exact fun ordered => .intro ordered.names_lt fun part member => by
      obtain ⟨entry, inside, rfl⟩ := List.mem_map.mp member
      exact ordered.values entry inside

theorem ordered_nil : Ordered [] := ⟨.nil, nofun⟩

theorem Ordered.nodup (ordered : entries.Ordered) : entries.names.Nodup := by
  refine ordered.names_lt.imp ?_
  rintro a b less rfl
  rw [Text.order_self] at less
  contradiction

theorem Ordered.tail {entry : Key × Located} (ordered : Ordered (entry :: entries)) :
    entries.Ordered where
  names_lt := (List.pairwise_cons.mp ordered.names_lt).2
  values := fun entry member => ordered.values entry (List.mem_cons_of_mem _ member)

theorem mem_of_get? {name : Text} (found : entries.get? name = some value) :
    ∃ key, (key, value) ∈ entries ∧ key.name = name := by
  fun_induction get? name entries with
  | case1 => contradiction
  | case2 k v rest same =>
    obtain rfl := Option.some.inj found
    exact ⟨k, List.mem_cons_self, same⟩
  | case3 k v rest other ih =>
    obtain ⟨key, member, named⟩ := ih found
    exact ⟨key, List.mem_cons_of_mem _ member, named⟩

theorem get?_eq_none_iff {name : Text} : entries.get? name = none ↔ name ∉ entries.names := by
  fun_induction get? name entries <;> simp_all [names, eq_comm]

/-- What stands in a table after a value has been put there. -/
theorem mem_put {entry : Key × Located} (member : entry ∈ entries.put key value) :
    entry ∈ entries ∨ entry.1.name = key.name ∧ entry.2 = value := by
  fun_induction put key value entries with
  | case1 => exact .inr (by simp_all)
  | case2 k v rest before =>
    rcases List.mem_cons.mp member with rfl | old
    · exact .inr ⟨rfl, rfl⟩
    · exact .inl old
  | case3 k v rest same =>
    rcases List.mem_cons.mp member with rfl | old
    · exact .inr ⟨(Text.order_eq_iff.mp same).symm, rfl⟩
    · exact .inl (List.mem_cons_of_mem _ old)
  | case4 k v rest behind ih =>
    rcases List.mem_cons.mp member with rfl | later
    · exact .inl List.mem_cons_self
    · exact (ih later).imp_left (List.mem_cons_of_mem _)

theorem Ordered.put (ordered : entries.Ordered) (own : value.2.Ordered) :
    (entries.put key value).Ordered := by
  refine ⟨?_, fun entry member => ?_⟩
  · fun_induction Entries.put key value entries with
    | case1 => simp [names]
    | case2 k v rest before =>
      refine List.pairwise_cons.mpr ⟨fun name member => ?_, ordered.names_lt⟩
      rcases List.mem_cons.mp member with rfl | later
      · exact before
      · exact Text.order_lt_trans before ((List.pairwise_cons.mp ordered.names_lt).1 name later)
    | case3 k v rest same => exact ordered.names_lt
    | case4 k v rest behind ih =>
      refine List.pairwise_cons.mpr ⟨fun name member => ?_, ih ordered.tail⟩
      obtain ⟨entry, inside, rfl⟩ := List.mem_map.mp member
      rcases mem_put inside with old | ⟨named, -⟩
      · exact (List.pairwise_cons.mp ordered.names_lt).1 _ (List.mem_map_of_mem old)
      · dsimp only
        rw [named, ← Text.order_swap, behind]
        rfl
  · rcases mem_put member with old | ⟨-, same⟩
    · exact ordered.values entry old
    · rw [same]
      exact own

theorem Ordered.of_get? {name : Text} (ordered : entries.Ordered)
    (found : entries.get? name = some value) : value.2.Ordered := by
  obtain ⟨key, member, -⟩ := mem_of_get? found
  exact ordered.values _ member

/-- A new key goes somewhere between the others. -/
theorem put_new (value : Located) (absent : entries.get? key.name = none) :
    ∃ before after, entries = before ++ after ∧
      entries.put key value = before ++ (key, value) :: after := by
  fun_induction put key value entries with
  | case1 => exact ⟨[], [], rfl, rfl⟩
  | case2 k v rest before => exact ⟨[], (k, v) :: rest, rfl, rfl⟩
  | case3 k v rest same =>
    rw [get?, if_pos (Text.order_eq_iff.mp same).symm] at absent
    contradiction
  | case4 k v rest behind ih =>
    have other : k.name ≠ key.name := by
      intro same
      rw [same, Text.order_self] at behind
      contradiction
    rw [get?, if_neg other] at absent
    obtain ⟨before, after, parts, placed⟩ := ih absent
    exact ⟨(k, v) :: before, after, by rw [parts, List.cons_append], by
      rw [placed, List.cons_append]⟩

/-- A key that is there keeps its place. -/
theorem put_old {old : Located} (value : Located) (ordered : entries.Ordered)
    (present : entries.get? key.name = some old) :
    ∃ before k after, k.name = key.name ∧ entries = before ++ (k, old) :: after ∧
      entries.put key value = before ++ (k, value) :: after := by
  fun_induction put key value entries with
  | case1 => contradiction
  | case2 k v rest before =>
    -- the key would stand behind a greater one
    obtain ⟨k', member, named⟩ := mem_of_get? present
    have least : Text.order key.name k'.name = .lt := by
      rcases List.mem_cons.mp member with same | later
      · obtain ⟨rfl, -⟩ := Prod.mk.inj same
        exact before
      · exact Text.order_lt_trans before
          ((List.pairwise_cons.mp ordered.names_lt).1 _ (List.mem_map_of_mem later))
    rw [named, Text.order_self] at least
    contradiction
  | case3 k v rest same =>
    have named := (Text.order_eq_iff.mp same).symm
    rw [get?, if_pos named] at present
    obtain rfl := Option.some.inj present
    exact ⟨[], k, rest, named, rfl, rfl⟩
  | case4 k v rest behind ih =>
    have other : k.name ≠ key.name := by
      intro same
      rw [same, Text.order_self] at behind
      contradiction
    rw [get?, if_neg other] at present
    obtain ⟨before, k', after, named, parts, placed⟩ := ih ordered.tail present
    exact ⟨(k, v) :: before, k', after, named, by rw [parts, List.cons_append], by
      rw [placed, List.cons_append]⟩

end Entries
end Toml
end RowSieve
