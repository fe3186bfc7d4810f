import RowSieve.Proofs.Reader.Header
import RowSieve.Proofs.Reader.Undecodable

/-! Where the header and the records of an input stand. As long as a reader gives nothing but
records, it has counted every line, so that each record carries the number of its line. -/
namespace RowSieve.Reader

variable {s : Settings.Input} {header : List Text}

/-- A header is read and accepted: behind empty lines stands a line with something in it, and no
name occurs in it twice. -/
inductive HeaderRead (s : Settings.Input) : List Bytes → List Text → Prop where
  | here {raw : Bytes} {t : Text} {later : List Bytes} (read : raw.toText? = some t)
      (shown : trimReturns t ≠ []) (distinct : (fields s (trimReturns t)).Nodup) :
      HeaderRead s (raw :: later) (fields s (trimReturns t))
  | behind {raw : Bytes} {t : Text} {later : List Bytes} {header : List Text}
      (read : raw.toText? = some t) (empty : trimReturns t = [])
      (more : HeaderRead s later header) : HeaderRead s (raw :: later) header

theorem fields_ne_nil (line : Text) : fields s line ≠ [] := by
  simp [fields, Text.split_ne_nil]

theorem HeaderRead.ne_nil {lines : List Bytes} (accepted : HeaderRead s lines header) :
    header ≠ [] := by
  induction accepted with
  | here => exact fields_ne_nil _
  | behind _ _ _ ih => exact ih

theorem openFrom_of_headerRead {lines : List Bytes} (accepted : HeaderRead s lines header)
    (number : Nat) : ∃ opened, openFrom s number lines = .ok opened ∧ opened.header = header := by
  induction accepted generalizing number with
  | here read shown distinct =>
    have unique := (duplicate?_eq_none_iff [] _).mpr ⟨distinct, fun _ _ => List.not_mem_nil⟩
    simp [openFrom, read, shown, unique]
  | behind read empty _ ih => simpa [openFrom, read, empty] using ih (number + 1)

/-- A reader past its header has read one, or there is nothing to read. -/
theorem headerRead_of_openFrom {number : Nat} {lines : List Bytes} {opened : Opened}
    (found : openFrom s number lines = .ok opened) :
    HeaderRead s lines opened.header ∨ opened.header = [] ∧ opened.rest = [] := by
  fun_induction openFrom s number lines with
  | case1 =>
    cases found
    exact .inr ⟨rfl, rfl⟩
  | case2 => contradiction
  | case3 number raw rest t read empty ih =>
    exact (ih found).imp_left (.behind read (by simpa using empty))
  | case4 => contradiction
  | case5 number raw rest t read shown header unique =>
    cases found
    have distinct := ((duplicate?_eq_none_iff [] header).mp unique).1
    exact .inl (.here read (by simpa using shown) distinct)

def header? (s : Settings.Input) (input : Bytes) : Option (List Text) :=
  match start s input with
  | .error _ => none
  | .ok opened => if opened.header.isEmpty then none else some opened.header

theorem header?_eq_some_iff {input : Bytes} {names : List Text} :
    header? s input = some names ↔ HeaderRead s input.lines names := by
  constructor
  · intro accepted
    rw [header?] at accepted
    split at accepted
    · contradiction
    · rename_i opened found
      obtain ⟨some, rfl⟩ : opened.header ≠ [] ∧ opened.header = names := by simpa using accepted
      exact (headerRead_of_openFrom found).resolve_right fun nothing => some nothing.1
  · intro read
    obtain ⟨opened, found, rfl⟩ := openFrom_of_headerRead read 0
    have started : start s input = .ok opened := found
    simp [header?, started, read.ne_nil]

/-- The line with the given index gives the record. -/
def RowAt (s : Settings.Input) (header : List Text) (lines : List Bytes) (i : Nat) (r : Record) :
    Prop :=
  ∃ raw t, lines[i]? = some raw ∧ raw.toText? = some t ∧
    (fields s (trimReturns t)).length = header.length ∧
    r = .ofColumns header (fields s (trimReturns t))

theorem placed_of_itemsFrom {number : Nat} {lines : List Bytes} {records : List (Nat × Record)}
    {more : List Item} (items : itemsFrom s header number lines = records.map .ok ++ more) :
    (∀ record ∈ records, ∃ i, record.1 = number + i + 1 ∧ RowAt s header lines i record.2) ∧
      records.Pairwise (·.1 < ·.1) := by
  fun_induction itemsFrom s header number lines generalizing records with
  | case1 =>
    cases records with
    | nil => simp
    | cons => simp at items
  | case2 =>
    cases records with
    | nil => simp
    | cons => simp at items
  | case3 number raw rest t read skipped ih =>
    obtain ⟨placed, ordered⟩ := ih items
    refine ⟨fun record member => ?_, ordered⟩
    obtain ⟨i, line, row⟩ := placed record member
    exact ⟨i + 1, by omega, row⟩
  | case4 number raw rest t read taken ih =>
    cases records with
    | nil => simp
    | cons first records =>
      obtain ⟨here, later⟩ := List.cons.inj items
      obtain ⟨placed, ordered⟩ := ih later
      have row : first.1 = number + 1 ∧ RowAt s header (raw :: rest) 0 first.2 := by
        unfold item at here
        split at here
        · rename_i width
          cases here
          exact ⟨rfl, raw, t, rfl, read, width, rfl⟩
        · contradiction
      refine ⟨List.forall_mem_cons.mpr ⟨⟨0, row⟩, fun record member => ?_⟩,
        List.pairwise_cons.mpr ⟨fun record member => ?_, ordered⟩⟩
      · obtain ⟨i, line, inRest⟩ := placed record member
        exact ⟨i + 1, by omega, inRest⟩
      · obtain ⟨i, line, _⟩ := placed record member
        omega

/-- What comes out of an input. A header that is refused is all that comes out of it. -/
def given (s : Settings.Input) (input : Bytes) : List Item :=
  match start s input with
  | .error e => [.error e]
  | .ok opened => opened.items s

/-- The records that an input gives before anything else carry the numbers of their lines. -/
theorem placed_of_given {input : Bytes} {records : List (Nat × Record)} {more : List Item}
    (items : given s input = records.map .ok ++ more) :
    (∀ record ∈ records, ∃ header i, HeaderRead s input.lines header ∧ record.1 = i + 1 ∧
      RowAt s header input.lines i record.2) ∧ records.Pairwise (·.1 < ·.1) := by
  cases found : start s input with
  | error e =>
    rw [given, found] at items
    cases records with
    | nil => simp
    | cons => simp at items
  | ok opened =>
    rw [given, found] at items
    obtain ⟨front, parts, line, _⟩ := counted_of_openFrom found
    obtain ⟨placed, ordered⟩ := placed_of_itemsFrom items
    refine ⟨fun record member => ?_, ordered⟩
    obtain ⟨i, number, raw, t, place, row⟩ := placed record member
    rcases headerRead_of_openFrom found with accepted | ⟨_, nothing⟩
    · refine ⟨opened.header, front.length + i, accepted, by omega, raw, t, ?_, row⟩
      rwa [parts, List.getElem?_append_right (Nat.le_add_right ..), Nat.add_sub_cancel_left]
    · rw [nothing] at place
      contradiction

end RowSieve.Reader
