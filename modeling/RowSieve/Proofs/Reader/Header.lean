import RowSieve.Reader

/-! The header of a reader has no name twice, and every record carries exactly its names. -/
namespace RowSieve.Reader

theorem duplicate?_eq_none_iff (seen names : List Text) :
    duplicate? seen names = none ↔ names.Nodup ∧ ∀ n ∈ names, n ∉ seen := by
  induction names generalizing seen with
  | nil => simp [duplicate?]
  | cons name names ih =>
    by_cases known : name ∈ seen
    · simp [duplicate?, known]
    · simp only [duplicate?, List.contains_eq_mem, known, decide_false, Bool.false_eq_true,
        if_false, ih, List.nodup_cons, List.mem_cons, forall_eq_or_imp, not_or]
      grind

theorem nodup_openFrom {s : Settings.Input} {number : Nat} {lines : List Bytes} {opened : Opened}
    (found : openFrom s number lines = .ok opened) : opened.header.Nodup := by
  fun_induction openFrom s number lines with
  | case1 => cases found; exact List.nodup_nil
  | case2 => contradiction
  | case3 _ _ _ _ _ _ ih => exact ih found
  | case4 => contradiction
  | case5 _ _ _ _ _ _ header unique =>
    cases found
    exact ((duplicate?_eq_none_iff [] header).mp unique).1

theorem nodup_header {s : Settings.Input} {input : Bytes} {opened : Opened}
    (found : start s input = .ok opened) : opened.header.Nodup :=
  nodup_openFrom found

theorem names_of_item {header values : List Text} {number line : Nat} {r : Record}
    (ok : item header values number = .ok (line, r)) : r.names = header := by
  unfold item at ok
  split at ok
  · rename_i size
    cases ok
    exact List.map_fst_zip (Nat.le_of_eq size.symm)
  · contradiction

theorem names_of_mem_itemsFrom {s : Settings.Input} {header : List Text} {number line : Nat}
    {lines : List Bytes} {r : Record}
    (member : .ok (line, r) ∈ itemsFrom s header number lines) : r.names = header := by
  fun_induction itemsFrom s header number lines with
  | case1 => contradiction
  | case2 _ _ _ _ ih =>
    rcases List.mem_cons.mp member with here | later
    · contradiction
    · exact ih later
  | case3 _ _ _ _ _ _ ih => exact ih member
  | case4 _ _ _ _ _ _ ih =>
    rcases List.mem_cons.mp member with here | later
    · exact names_of_item here.symm
    · exact ih later

end RowSieve.Reader
