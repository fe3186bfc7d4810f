import Mathlib.Data.List.DropRight
import RowSieve.Proofs.Bytes
import RowSieve.Proofs.Reader.Header
import RowSieve.Proofs.Table.Columns
import RowSieve.Proofs.Text.Split

/-! Sheets: a header and rows of cells as a reader can find them. What a reader that keeps its
fields as they are gives is a sheet, and a sheet that is written line by line is read back. -/
namespace RowSieve

/-- A line whose cells are found again: none is cut by a delimiter or a line end, and the last one
does not lose a return at its end. -/
structure Legible (d : Char) (cells : List Text) : Prop where
  uncut : ∀ cell ∈ cells, d ∉ cell ∧ '\n' ∉ cell
  ended : ∀ last ∈ cells.getLast?, '\r' ∉ last.getLast?

/-- A single column without a name would be written as an empty line, and an empty line is no
header. -/
structure Sheet (d : Char) (header : List Text) (rows : List (List Text)) : Prop where
  distinct : header.Nodup
  named : header ≠ [[]]
  headed : header = [] → rows = []
  wide : ∀ row ∈ rows, row.length = header.length
  legible : ∀ line ∈ header :: rows, Legible d line

namespace Reader

def Reads (s : Settings.Input) (b : Bytes) (header : List Text) (records : List Record) : Prop :=
  ∃ (opened : Opened) (numbered : List (Nat × Record)), start s b = .ok opened ∧
    opened.header = header ∧ opened.items s = numbered.map .ok ∧ numbered.map Prod.snd = records

theorem trimReturns_eq_self {t : Text} (ended : ∀ c ∈ t.getLast?, c ≠ '\r' ∧ c ≠ '\n') :
    trimReturns t = t := by
  refine List.rdropWhile_eq_self_iff.mpr fun some => ?_
  have last := ended _ (List.getLast?_eq_some_getLast some)
  simpa using last

theorem getLast?_trimReturns {t : Text} {c : Char} (last : c ∈ (trimReturns t).getLast?) :
    c ≠ '\r' ∧ c ≠ '\n' := by
  have some : trimReturns t ≠ [] := by
    rintro empty
    simp [empty] at last
  rw [List.getLast?_eq_some_getLast some, Option.mem_some] at last
  have kept := List.rdropWhile_last_not _ _ some
  change ¬((trimReturns t).getLast some == '\r' || (trimReturns t).getLast some == '\n') at kept
  rw [last] at kept
  simpa using kept

theorem trimReturns_subset (t : Text) : trimReturns t ⊆ t :=
  (List.rdropWhile_prefix (fun c => c == '\r' || c == '\n') (l := t)).subset

section
variable {s : Settings.Input} (untrimmed : s.trimFields = false)
include untrimmed

theorem fields_untrimmed (line : Text) : fields s line = Text.split s.delimiter.char line := by
  simp [fields, untrimmed]

theorem legible_fields {t : Text} (own : '\n' ∉ t) :
    Legible s.delimiter.char (fields s (trimReturns t)) := by
  have joined := Text.intercalate_split s.delimiter.char (trimReturns t)
  rw [fields_untrimmed untrimmed]
  constructor
  · intro field member
    have within : field ⊆ trimReturns t := joined ▸ Text.subset_intercalate _ member
    exact ⟨Text.not_mem_of_mem_split member, fun inside => own (trimReturns_subset t (within inside))⟩
  · intro last ends final
    have suffix : last <:+ trimReturns t := joined ▸ Text.suffix_intercalate _ ends
    obtain ⟨before, parts⟩ := suffix
    have closing : '\r' ∈ (trimReturns t).getLast? := by
      rw [← parts, List.getLast?_append, Option.mem_def.mp final]
      rfl
    exact (getLast?_trimReturns closing).1 rfl

theorem fields_joined {cells : List Text} (legible : Legible s.delimiter.char cells)
    (some : cells ≠ []) :
    trimReturns ([s.delimiter.char].intercalate cells) = [s.delimiter.char].intercalate cells ∧
      fields s ([s.delimiter.char].intercalate cells) = cells := by
  refine ⟨trimReturns_eq_self fun c final => ?_, ?_⟩
  · have ends := List.getLast?_eq_some_getLast some
    rcases Text.getLast?_intercalate ends final with rfl | inside
    · exact ⟨s.delimiter.not_return, s.delimiter.not_newline⟩
    · refine ⟨?_, ?_⟩
      · rintro rfl
        exact legible.ended _ ends inside
      · rintro rfl
        exact (legible.uncut _ (List.getLast_mem some)).2 (List.mem_of_getLast? inside)
  · rw [fields_untrimmed untrimmed]
    exact Text.split_intercalate (fun cell member => (legible.uncut cell member).1) some

end

theorem lines_written {d : Delimiter} {rows : List (List Text)}
    (legible : ∀ row ∈ rows, Legible d.char row) :
    Bytes.lines (Bytes.ofText (rows.flatMap (Table.lineText d.char))) =
      rows.map fun row => Bytes.ofText ([d.char].intercalate row) := by
  induction rows with
  | nil => rfl
  | cons row rows ih =>
    have own : Bytes.newline ∉ Bytes.ofText ([d.char].intercalate row) := by
      rw [Bytes.newline_mem_ofText_iff]
      intro inside
      rcases Text.mem_intercalate inside with same | ⟨cell, member, inside⟩
      · exact d.not_newline same.symm
      · exact ((legible row List.mem_cons_self).uncut cell member).2 inside
    have later := ih fun row member => legible row (List.mem_cons_of_mem _ member)
    rw [List.flatMap_cons, Table.lineText, Bytes.ofText_append, Bytes.ofText_append,
      List.append_assoc, List.map_cons, ← later]
    exact Bytes.lines_ended own _

/-- Under its header, each written row is a record; no row is taken for an empty line. -/
theorem itemsFrom_written {s : Settings.Input} (untrimmed : s.trimFields = false)
    {header : List Text} {rows : List (List Text)} (some : header ≠ [])
    (wide : ∀ row ∈ rows, row.length = header.length)
    (legible : ∀ row ∈ rows, Legible s.delimiter.char row) (number : Nat) :
    itemsFrom s header number
        (rows.map fun row => Bytes.ofText ([s.delimiter.char].intercalate row)) =
      (rows.zipIdx (number + 1)).map fun (row, line) => .ok (line, .ofColumns header row) := by
  induction rows generalizing number with
  | nil => rfl
  | cons row rows ih =>
    have size := wide row List.mem_cons_self
    have filled : row ≠ [] := by
      rintro rfl
      exact some (List.length_eq_zero_iff.mp size.symm)
    obtain ⟨whole, found⟩ := fields_joined untrimmed (legible row List.mem_cons_self) filled
    -- Only the row of one empty cell is an empty line, and then there is a single column.
    have taken : (([s.delimiter.char].intercalate row).isEmpty && header.length != 1) = false := by
      by_cases empty : [s.delimiter.char].intercalate row = []
      · rcases Text.intercalate_eq_nil_iff.mp empty with none | single
        · contradiction
        · simp [← size, single]
      · simp [empty]
    have later := ih (fun row member => wide row (List.mem_cons_of_mem _ member))
      (fun row member => legible row (List.mem_cons_of_mem _ member)) (number + 1)
    simp only [List.map_cons, itemsFrom, Bytes.toText?_ofText, whole, taken, Bool.false_eq_true,
      if_false, List.zipIdx_cons, later, found, item, size, if_true]

/-- A written sheet is read back. -/
theorem reads_written {s : Settings.Input} (untrimmed : s.trimFields = false)
    {header : List Text} {rows : List (List Text)} (sheet : Sheet s.delimiter.char header rows) :
    Reads s (Bytes.ofText ((header :: rows).flatMap (Table.lineText s.delimiter.char))) header
      (rows.map (.ofColumns header)) := by
  have lines := lines_written sheet.legible
  rw [List.map_cons] at lines
  by_cases empty : header = []
  · obtain rfl := sheet.headed empty
    subst empty
    refine ⟨⟨[], 1, []⟩, [], ?_, rfl, rfl, rfl⟩
    rw [start, lines]
    rfl
  · obtain ⟨whole, found⟩ := fields_joined untrimmed (sheet.legible header List.mem_cons_self) empty
    have shown : [s.delimiter.char].intercalate header ≠ [] := fun blank =>
      (Text.intercalate_eq_nil_iff.mp blank).elim empty sheet.named
    have unique : duplicate? [] header = none :=
      (duplicate?_eq_none_iff [] header).mpr ⟨sheet.distinct, by simp⟩
    have items := itemsFrom_written untrimmed empty sheet.wide
      (fun row member => sheet.legible row (List.mem_cons_of_mem _ member)) 1
    refine ⟨⟨header, 1, _⟩, (rows.zipIdx 2).map fun (row, line) => (line, .ofColumns header row),
      ?_, rfl, items.trans ?_, ?_⟩
    · rw [start, lines]
      simp [openFrom, whole, found, unique, shown]
    · rw [List.map_map]
      rfl
    · have cells : (rows.zipIdx 2).map Prod.fst = rows := List.zipIdx_map_fst ..
      conv_rhs => rw [← cells]
      rw [List.map_map, List.map_map]
      rfl

section
variable {s : Settings.Input} (untrimmed : s.trimFields = false)
include untrimmed

theorem legible_of_raw {raw : Bytes} {t : Text} (own : Bytes.newline ∉ raw)
    (read : raw.toText? = some t) : Legible s.delimiter.char (fields s (trimReturns t)) := by
  rw [Bytes.toText?_eq_some_iff.mp read, Bytes.newline_mem_ofText_iff] at own
  exact legible_fields untrimmed own

theorem header_of_openFrom {number : Nat} {lines : List Bytes} {opened : Opened}
    (own : ∀ line ∈ lines, Bytes.newline ∉ line) (found : openFrom s number lines = .ok opened) :
    Legible s.delimiter.char opened.header ∧ opened.header ≠ [[]] ∧
      (opened.header = [] → opened.rest = []) ∧ opened.rest ⊆ lines := by
  fun_induction openFrom s number lines with
  | case1 number =>
    cases found
    exact ⟨⟨by simp, by simp⟩, by simp, fun _ => rfl, by simp⟩
  | case2 => contradiction
  | case3 number raw rest t read blank ih =>
    obtain ⟨legible, named, headed, within⟩ :=
      ih (fun line member => own line (List.mem_cons_of_mem _ member)) found
    exact ⟨legible, named, headed, List.Subset.trans within (List.subset_cons_self ..)⟩
  | case4 => contradiction
  | case5 number raw rest t read shown header unique =>
    cases found
    have joined := Text.intercalate_split s.delimiter.char (trimReturns t)
    rw [← fields_untrimmed untrimmed] at joined
    have filled : [s.delimiter.char].intercalate header ≠ [] := by
      rw [joined]
      simpa using shown
    refine ⟨legible_of_raw untrimmed (own raw List.mem_cons_self) read, ?_, ?_, ?_⟩
    · exact fun single => filled (Text.intercalate_eq_nil_iff.mpr (.inr single))
    · exact fun none => absurd (Text.intercalate_eq_nil_iff.mpr (.inl none)) filled
    · exact List.subset_cons_self ..

theorem rows_of_itemsFrom {header : List Text} {number : Nat} {lines : List Bytes}
    {numbered : List (Nat × Record)} (own : ∀ line ∈ lines, Bytes.newline ∉ line)
    (items : itemsFrom s header number lines = numbered.map .ok) :
    ∃ rows : List (List Text), (∀ row ∈ rows, row.length = header.length) ∧
      (∀ row ∈ rows, Legible s.delimiter.char row) ∧
      numbered.map Prod.snd = rows.map (.ofColumns header) := by
  have later {raw : Bytes} {rest : List Bytes} (own : ∀ line ∈ raw :: rest, Bytes.newline ∉ line) :
      ∀ line ∈ rest, Bytes.newline ∉ line := fun line member => own line (.tail _ member)
  fun_induction itemsFrom s header number lines generalizing numbered with
  | case1 number =>
    obtain rfl : numbered = [] := by simpa using items.symm
    exact ⟨[], by simp, by simp, rfl⟩
  | case2 number raw rest unreadable ih => cases numbered <;> simp at items
  | case3 number raw rest t read skipped ih => exact ih (later own) items
  | case4 number raw rest t read taken ih =>
    cases numbered with
    | nil => simp at items
    | cons first numbered =>
      obtain ⟨here, items⟩ := List.cons.inj items
      obtain ⟨rows, wide, legible, records⟩ := ih (later own) items
      unfold item at here
      split at here
      · rename_i size
        cases here
        have found := legible_of_raw untrimmed (own raw List.mem_cons_self) read
        refine ⟨fields s (trimReturns t) :: rows, ?_, ?_, ?_⟩
        · exact List.forall_mem_cons.mpr ⟨size, wide⟩
        · exact List.forall_mem_cons.mpr ⟨found, legible⟩
        · rw [List.map_cons, List.map_cons, records]
      · contradiction

/-- What is read without an error is a sheet. -/
theorem sheet_of_reads {b : Bytes} {header : List Text} {records : List Record}
    (reads : Reads s b header records) :
    ∃ rows, Sheet s.delimiter.char header rows ∧ records = rows.map (.ofColumns header) := by
  obtain ⟨opened, numbered, found, rfl, items, rfl⟩ := reads
  have own : ∀ line ∈ b.lines, Bytes.newline ∉ line :=
    fun line member => Bytes.newline_notMem_of_mem_lines member
  obtain ⟨legible, named, headed, within⟩ := header_of_openFrom untrimmed own found
  obtain ⟨rows, wide, rowsLegible, records⟩ :=
    rows_of_itemsFrom untrimmed (fun line member => own line (within member)) items
  refine ⟨rows, ⟨nodup_header found, named, fun none => ?_, wide, ?_⟩, records⟩
  · have ended : numbered = [] := by
      rw [Opened.items, headed none, itemsFrom] at items
      exact List.map_eq_nil_iff.mp items.symm
    simpa [ended] using records.symm
  · exact List.forall_mem_cons.mpr ⟨legible, rowsLegible⟩

end

end Reader
end RowSieve
