import Mathlib.Data.List.Nodup
import Mathlib.Data.List.Induction
import RowSieve.Proofs.Bytes
import RowSieve.Proofs.Reader.Header
import RowSieve.Proofs.Text.Split
import RowSieve.Reader.Physical

/-! The reader of an input that is all UTF-8 does what the lines of the input say. -/
namespace RowSieve

namespace Bytes

theorem lines_alone {line : Bytes} (own : newline ∉ line) :
    lines line = if line = [] then [] else [line] := by
  induction line with
  | nil => rfl
  | cons b line ih =>
    obtain ⟨other, own⟩ := not_or.mp (mt List.mem_cons.mpr own)
    rw [lines, if_neg (Ne.symm other), ih own]
    cases line with
    | nil => rfl
    | cons => rfl

theorem ofText_injective {s t : Text} (same : ofText s = ofText t) : s = t :=
  Option.some.inj ((toText?_ofText s).symm.trans ((congrArg toText? same).trans (toText?_ofText t)))

end Bytes

namespace Reader

variable {s : Settings.Input}

theorem lines_intercalate {all : List Text} (some : all ≠ []) (own : ∀ piece ∈ all, '\n' ∉ piece) :
    (Bytes.ofText (['\n'].intercalate all)).lines = (filled all).map Bytes.ofText := by
  induction all with
  | nil => contradiction
  | cons piece all ih =>
    obtain ⟨first, own⟩ := List.forall_mem_cons.mp own
    have uncut : Bytes.newline ∉ Bytes.ofText piece := mt Bytes.newline_mem_ofText_iff.mp first
    cases all with
    | nil =>
      rw [List.intercalate_singleton, Bytes.lines_alone uncut, filled]
      by_cases empty : piece = []
      · simp [empty]
      · have bytes : Bytes.ofText piece ≠ [] := fun none => empty (Bytes.ofText_injective none)
        simp [empty, bytes]
    | cons next all =>
      have later := ih (by simp) own
      have end_same : filled (piece :: next :: all) = piece :: filled (next :: all) := by
        simp only [filled, List.getLast?_cons_cons, List.dropLast_cons_cons]
        split <;> rfl
      have ender : Bytes.ofText ['\n'] = [Bytes.newline] := rfl
      rw [List.intercalate_cons_cons, Bytes.ofText_append, Bytes.ofText_append, ender,
        List.append_assoc, List.singleton_append, Bytes.lines_ended uncut, later, end_same,
        List.map_cons]

/-- The lines of encoded text are its pieces. -/
theorem lines_ofText (t : Text) : (Bytes.ofText t).lines = (pieces t).map Bytes.ofText := by
  have own : ∀ piece ∈ t.splitOn '\n', '\n' ∉ piece := by
    rw [← Text.split_eq_splitOn]
    exact fun piece member => Text.not_mem_of_mem_split member
  have some : t.splitOn '\n' ≠ [] := by
    rw [← Text.split_eq_splitOn]
    exact Text.split_ne_nil '\n' t
  rw [pieces, ← lines_intercalate some own, List.intercalate_splitOn]

theorem newline_notMem_of_mem_pieces {t piece : Text} (member : piece ∈ pieces t) :
    '\n' ∉ piece := by
  have inside : piece ∈ t.splitOn '\n' := by
    rw [pieces, filled] at member
    split at member
    · exact List.dropLast_subset _ member
    · exact member
  rw [← Text.split_eq_splitOn] at inside
  exact Text.not_mem_of_mem_split inside

theorem trimReturns_eq_unreturned {line : Text} (own : '\n' ∉ line) :
    trimReturns line = unreturned line := by
  have same : ∀ t : Text, '\n' ∉ t →
      t.dropWhile (fun c => c == '\r' || c == '\n') = t.dropWhile (· == '\r') := by
    intro t own
    induction t with
    | nil => rfl
    | cons c t ih =>
      obtain ⟨other, own⟩ := not_or.mp (mt List.mem_cons.mpr own)
      rw [List.dropWhile_cons, List.dropWhile_cons, ih own, beq_false_of_ne (Ne.symm other),
        Bool.or_false]
  rw [trimReturns, unreturned, same _ (by simpa using own)]

theorem fields_eq_cells (s : Settings.Input) (line : Text) : fields s line = cells s line := by
  rw [fields, cells, Text.split_eq_splitOn]

theorem item_eq_lineItem (s : Settings.Input) (header : List Text) (line : Text) (number : Nat) :
    item header (fields s line) number = lineItem s header line number := by
  rw [item, lineItem, fields_eq_cells]
  rfl

theorem itemsFrom_ofText (header : List Text) (number : Nat) {lines : List Text}
    (own : ∀ line ∈ lines, '\n' ∉ line) :
    itemsFrom s header number (lines.map Bytes.ofText) =
      lineItems s header ((lines.map unreturned).zipIdx (number + 1)) := by
  induction lines generalizing number with
  | nil => rfl
  | cons line lines ih =>
    obtain ⟨first, own⟩ := List.forall_mem_cons.mp own
    have passed : ((unreturned line).isEmpty && header.length != 1) =
        !counts header (unreturned line) := by
      simp only [counts, bne]
      cases (unreturned line).isEmpty <;> cases header.length == 1 <;> rfl
    simp only [List.map_cons, itemsFrom, Bytes.toText?_ofText, trimReturns_eq_unreturned first,
      passed, ih (number + 1) own, item_eq_lineItem, List.zipIdx_cons, lineItems,
      List.filter_cons]
    cases counts header (unreturned line) <;> rfl

/-- The first name that equals an earlier one. -/
theorem duplicate?_of_parts {seen before after : List Text} {name : Text}
    (fresh : ∀ n ∈ before, n ∉ seen) (distinct : before.Nodup)
    (known : name ∈ seen ∨ name ∈ before) :
    duplicate? seen (before ++ name :: after) = some name := by
  induction before generalizing seen with
  | nil =>
    have known : name ∈ seen := by simpa using known
    simp [duplicate?, known]
  | cons first before ih =>
    obtain ⟨new, fresh⟩ := List.forall_mem_cons.mp fresh
    obtain ⟨other, distinct⟩ := List.nodup_cons.mp distinct
    rw [List.cons_append, duplicate?, if_neg (by simpa using new)]
    refine ih (fun n member => ?_) distinct ?_
    · exact List.not_mem_cons_of_ne_of_not_mem (fun same => other (same ▸ member)) (fresh n member)
    · grind

/-- A list with a repeated name falls apart at the first repetition. -/
theorem exists_first_repeated {names : List Text} (repeated : ¬names.Nodup) :
    ∃ before name after, names = before ++ name :: after ∧ before.Nodup ∧ name ∈ before := by
  induction names using List.reverseRecOn with
  | nil => exact absurd List.nodup_nil repeated
  | append_singleton names last ih =>
    by_cases distinct : names.Nodup
    · have known : last ∈ names := by
        by_contra new
        exact repeated (by simpa using distinct.concat new)
      exact ⟨names, last, [], rfl, distinct, known⟩
    · obtain ⟨before, name, after, rfl, rest⟩ := ih distinct
      exact ⟨before, name, after ++ [last], by simp, rest⟩

theorem Reading.skip {lines : List (Text × Nat)} {outcome : Except ReadError Opened} (number : Nat)
    (reading : Reading s lines outcome) : Reading s (([], number) :: lines) outcome := by
  have behind {first : Text} {n : Nat} {later : List (Text × Nat)}
      (header : HeaderAt (([], number) :: lines) first n later) : HeaderAt lines first n later := by
    obtain ⟨shown, empty, blank, parts⟩ := header
    cases empty with
    | nil =>
      obtain ⟨rfl, _⟩ := Prod.mk.inj (List.cons.inj parts).1
      contradiction
    | cons line empty =>
      exact ⟨shown, empty, fun l member => blank l (.tail _ member), (List.cons.inj parts).2⟩
  refine ⟨fun blank => ?_, fun first n later header => ?_, fun first n later header => ?_⟩
  · exact reading.empty fun line member => blank line (.tail _ member)
  · exact reading.repeated first n later (behind header)
  · exact reading.items first n later (behind header)

theorem HeaderAt.head {lines later : List (Text × Nat)} {first line : Text} {number n : Nat}
    (shown : line ≠ []) (header : HeaderAt ((line, number) :: lines) first n later) :
    first = line ∧ n = number ∧ later = lines := by
  obtain ⟨_, empty, blank, parts⟩ := header
  cases empty with
  | nil =>
    obtain ⟨here, rest⟩ := List.cons.inj parts
    obtain ⟨rfl, rfl⟩ := Prod.mk.inj here
    exact ⟨rfl, rfl, rest.symm⟩
  | cons other empty =>
    obtain ⟨rfl, _⟩ := List.cons.inj parts
    exact absurd (blank _ List.mem_cons_self) shown

theorem openFrom_reading (s : Settings.Input) (number : Nat) {lines : List Text}
    (own : ∀ line ∈ lines, '\n' ∉ line) :
    Reading s ((lines.map unreturned).zipIdx (number + 1))
      (openFrom s number (lines.map Bytes.ofText)) := by
  induction lines generalizing number with
  | nil =>
    refine ⟨fun _ => ⟨_, rfl, rfl, rfl⟩, fun first n later header => ?_,
      fun first n later header => ?_⟩
    · obtain ⟨_, empty, _, parts⟩ := header
      simp at parts
    · obtain ⟨_, empty, _, parts⟩ := header
      simp at parts
  | cons line lines ih =>
    obtain ⟨first, own⟩ := List.forall_mem_cons.mp own
    simp only [List.map_cons, openFrom, Bytes.toText?_ofText, trimReturns_eq_unreturned first,
      List.zipIdx_cons, fields_eq_cells]
    by_cases blank : unreturned line = []
    · simp only [blank, List.isEmpty_nil, if_true]
      exact (ih (number + 1) own).skip (number + 1)
    · rw [if_neg (by simpa using blank)]
      refine ⟨fun empty => absurd (empty _ List.mem_cons_self) blank,
        fun first n later header repeated => ?_, fun first n later header distinct => ?_⟩
      · obtain ⟨rfl, rfl, rfl⟩ := header.head blank
        obtain ⟨before, name, after, parts, distinct, known⟩ := exists_first_repeated repeated
        have refused : duplicate? [] (cells s (unreturned line)) = some name := by
          rw [parts]
          exact duplicate?_of_parts (by simp) distinct (.inr known)
        exact ⟨before, name, after, parts, distinct, known, by rw [refused]⟩
      · obtain ⟨rfl, rfl, rfl⟩ := header.head blank
        have accepted : duplicate? [] (cells s (unreturned line)) = none :=
          (duplicate?_eq_none_iff [] _).mpr ⟨distinct, by simp⟩
        rw [accepted]
        exact ⟨_, rfl, rfl, itemsFrom_ofText _ _ own⟩

theorem empty_or_headerAt (lines : List (Text × Nat)) :
    (∀ line ∈ lines, line.1 = []) ∨ ∃ first number later, HeaderAt lines first number later := by
  induction lines with
  | nil => exact .inl (by simp)
  | cons line lines ih =>
    obtain ⟨first, number⟩ := line
    by_cases blank : first = []
    · rcases ih with empty | ⟨first', n, later, shown, empty, blanks, parts⟩
      · exact .inl (List.forall_mem_cons.mpr ⟨blank, empty⟩)
      · exact .inr ⟨first', n, later, shown, (first, number) :: empty,
          List.forall_mem_cons.mpr ⟨blank, blanks⟩, by rw [parts, List.cons_append]⟩
    · exact .inr ⟨first, number, lines, blank, [], by simp, rfl⟩

/-- Without trimming the values of a record, joined again, are the line of its number. -/
theorem joined_of_mem_lineItems (untrimmed : s.trimFields = false) {header : List Text}
    {lines : List (Text × Nat)} {number : Nat} {r : Record}
    (member : .ok (number, r) ∈ lineItems s header lines) :
    ([s.delimiter.char].intercalate (r.fields.map Prod.snd), number) ∈ lines := by
  obtain ⟨⟨line, n⟩, counted, given⟩ := List.mem_map.mp member
  simp only [lineItem] at given
  split at given
  · rename_i size
    obtain ⟨rfl, rfl⟩ := Prod.mk.inj (Except.ok.inj given)
    have whole : cells s line = line.splitOn s.delimiter.char := by simp [cells, untrimmed]
    have values : (header.zip (cells s line)).map Prod.snd = cells s line :=
      List.map_snd_zip (Nat.le_of_eq size)
    rw [values, whole, List.intercalate_splitOn]
    exact (List.mem_filter.mp counted).1
  · contradiction

theorem Reading.joined {lines : List (Text × Nat)} {opened : Opened}
    (reading : Reading s lines (.ok opened)) (untrimmed : s.trimFields = false) {number : Nat}
    {r : Record} (member : .ok (number, r) ∈ opened.items s) :
    ([s.delimiter.char].intercalate (r.fields.map Prod.snd), number) ∈ lines := by
  rcases empty_or_headerAt lines with empty | ⟨first, n, later, header⟩
  · obtain ⟨opened', same, _, items⟩ := reading.empty empty
    obtain rfl := Except.ok.inj same
    simp [items] at member
  · have distinct : (cells s first).Nodup := by
      by_contra repeated
      obtain ⟨_, _, _, _, _, _, refused⟩ := reading.repeated first n later header repeated
      contradiction
    obtain ⟨opened', same, _, items⟩ := reading.items first n later header distinct
    obtain rfl := Except.ok.inj same
    rw [items] at member
    obtain ⟨_, empty, _, rfl⟩ := header
    simp [joined_of_mem_lineItems untrimmed member]

/-- The reader gives what the physical lines of its input say: the header, or the name that is
refused, and then one item for each line that counts. Without trimming each record holds its line
as it is. -/
theorem start_physical (s : Settings.Input) (t : Text) :
    Reading s (physicalLines t) (start s (Bytes.ofText t)) ∧
      (s.trimFields = false → ∀ opened, start s (Bytes.ofText t) = .ok opened →
        ∀ number r, .ok (number, r) ∈ opened.items s →
          ([s.delimiter.char].intercalate (r.fields.map Prod.snd), number) ∈ physicalLines t) := by
  have own : ∀ line ∈ pieces t, '\n' ∉ line := fun _ member => newline_notMem_of_mem_pieces member
  have reading : Reading s (physicalLines t) (start s (Bytes.ofText t)) := by
    rw [start, lines_ofText]
    exact openFrom_reading s 0 own
  refine ⟨reading, fun untrimmed opened found number r member => ?_⟩
  rw [found] at reading
  exact reading.joined untrimmed member

end Reader
end RowSieve
