import RowSieve.Proofs.Reader.Numbering

/-! The numbers that items carry. A line that is not UTF-8 is passed over without being counted, so
each item tells the number of its line less the number of such lines before it. -/
namespace RowSieve.Reader

def Item.line : Item → Nat
  | .ok (line, _) => line
  | .error e => e.line

/-- What an item is made of: the bytes of one line, and a number. -/
inductive About (s : Settings.Input) (header : List Text) (raw : Bytes) : Item → Prop where
  | undecodable (number : Nat) (unreadable : raw.toText? = none) :
      About s header raw (.error (.notUtf8 number))
  | decoded (number : Nat) {t : Text} (read : raw.toText? = some t) :
      About s header raw (item header (fields s (trimReturns t)) number)

theorem About.decodable {s : Settings.Input} {header : List Text} {raw : Bytes}
    {record : Nat × Record} (about : About s header raw (.ok record)) : raw.toText?.isSome := by
  generalize same : (Except.ok record : Item) = item at about
  cases about with
  | undecodable => cases same
  | decoded number read => rw [read]; rfl

theorem line_item (header values : List Text) (number : Nat) :
    (item header values number).line = number := by
  unfold item
  split <;> rfl

/-- How many of the lines are not UTF-8. -/
def undecodable (lines : List Bytes) : Nat := lines.countP fun raw => raw.toText?.isNone

theorem counted_add_undecodable (lines : List Bytes) :
    counted lines + undecodable lines = lines.length := by
  rw [counted, undecodable, List.length_eq_countP_add_countP fun raw => raw.toText?.isSome]
  congr 2
  funext raw
  cases raw.toText? <;> rfl

theorem about_of_mem_itemsFrom {s : Settings.Input} {header : List Text} {number : Nat}
    {lines : List Bytes} {item : Item} (member : item ∈ itemsFrom s header number lines) :
    ∃ before raw after, lines = before ++ raw :: after ∧ About s header raw item ∧
      item.line = number + counted before + 1 := by
  fun_induction itemsFrom s header number lines with
  | case1 => contradiction
  | case2 number raw rest unreadable ih =>
    rcases List.mem_cons.mp member with rfl | later
    · exact ⟨[], raw, rest, rfl, .undecodable _ unreadable, rfl⟩
    · obtain ⟨before, other, after, rfl, about, line⟩ := ih later
      have same : counted (raw :: before) = counted before := by simp [counted, unreadable]
      exact ⟨raw :: before, other, after, rfl, about, by rw [same, line]⟩
  | case3 number raw rest t read skipped ih =>
    obtain ⟨before, other, after, rfl, about, line⟩ := ih member
    have more : counted (raw :: before) = counted before + 1 := by simp [counted, read]
    exact ⟨raw :: before, other, after, rfl, about, by rw [more, line]; omega⟩
  | case4 number raw rest t read taken ih =>
    rcases List.mem_cons.mp member with rfl | later
    · exact ⟨[], raw, rest, rfl, .decoded _ read, line_item ..⟩
    · obtain ⟨before, other, after, rfl, about, line⟩ := ih later
      have more : counted (raw :: before) = counted before + 1 := by simp [counted, read]
      exact ⟨raw :: before, other, after, rfl, about, by rw [more, line]; omega⟩

/-- All lines up to the header are UTF-8 and are counted. -/
theorem counted_of_openFrom {s : Settings.Input} {number : Nat} {lines : List Bytes}
    {opened : Opened} (found : openFrom s number lines = .ok opened) :
    ∃ front, lines = front ++ opened.rest ∧ opened.line = number + front.length ∧
      undecodable front = 0 := by
  fun_induction openFrom s number lines with
  | case1 number =>
    cases found
    exact ⟨[], rfl, rfl, rfl⟩
  | case2 => contradiction
  | case3 number raw rest t read blank ih =>
    obtain ⟨front, parts, line, decodable⟩ := ih found
    refine ⟨raw :: front, by rw [parts, List.cons_append], ?_, ?_⟩
    · rw [line, List.length_cons]
      omega
    · simpa [undecodable, read] using decodable
  | case4 => contradiction
  | case5 number raw rest t read shown header unique =>
    cases found
    exact ⟨[raw], rfl, rfl, by simp [undecodable, read]⟩

/-- Every item is about one line of the input and names its number, less the number of lines
before it that are not UTF-8. -/
theorem line_of_mem_items {s : Settings.Input} {input : Bytes} {opened : Opened}
    (found : start s input = .ok opened) {item : Item} (member : item ∈ opened.items s) :
    ∃ front rest raw after, input = front ++ rest ∧ front.Ended ∧ rest.lines = raw :: after ∧
      About s opened.header raw item ∧
      item.line + undecodable front.lines = 1 + front.count Bytes.newline := by
  obtain ⟨blank, parts, opened_line, decodable⟩ := counted_of_openFrom found
  obtain ⟨before, raw, after, behind, about, line⟩ := about_of_mem_itemsFrom member
  rw [behind, ← List.append_assoc] at parts
  obtain ⟨front, rest, rfl, ended, lines, rest_lines⟩ := Bytes.lines_eq_append parts (by simp)
  refine ⟨front, rest, raw, after, rfl, ended, rest_lines, about, ?_⟩
  have total := counted_add_undecodable before
  have front_total : undecodable (blank ++ before) = undecodable blank + undecodable before :=
    List.countP_append
  rw [← Bytes.length_lines ended, lines, front_total, List.length_append, line]
  omega

/-- Behind a second line that is not UTF-8, the record of the third line carries the number 2,
and nothing that the second line holds could have given that record. -/
theorem record_below_undecodable :
    ∃ opened r, start .default [97, 10, 255, 10, 98, 10] = .ok opened ∧
      .ok (2, r) ∈ opened.items .default ∧
      ∀ front rest : Bytes, ∀ raw after, [97, 10, 255, 10, 98, 10] = front ++ rest →
        front.Ended → rest.lines = raw :: after → 2 = 1 + front.count Bytes.newline →
        ¬ About .default opened.header raw (.ok (2, r)) := by
  refine ⟨⟨[['a']], 1, [[255], [98]]⟩, ⟨[(['a'], ['b'])]⟩, by decide +kernel, by decide +kernel, ?_⟩
  intro front rest raw after parts ended lines one about
  have parted : front.lines ++ raw :: after = [[97], [255], [98]] := by
    rw [← lines, ← Bytes.lines_append ended, ← parts]
    decide +kernel
  have first : front.lines.length = 1 := by
    rw [Bytes.length_lines ended]
    omega
  obtain ⟨line, single⟩ := List.length_eq_one_iff.mp first
  rw [single] at parted
  obtain ⟨-, second⟩ := List.cons.inj parted
  obtain ⟨rfl, -⟩ := List.cons.inj second
  exact absurd about.decodable (by decide +kernel)

/-- The lines of "a", of a byte that is no UTF-8, and of "b". -/
theorem line_of_record_below_undecodable :
    ∃ front rest raw after, [97, 10, 255, 10, 98, 10] = front ++ rest ∧ Bytes.Ended front ∧
      Bytes.lines rest = raw :: after ∧
      About .default [['a']] raw (.ok (2, ⟨[(['a'], ['b'])]⟩)) ∧
      2 + undecodable (Bytes.lines front) = 1 + front.count Bytes.newline :=
  @line_of_mem_items .default [97, 10, 255, 10, 98, 10] ⟨[['a']], 1, [[255], [98]]⟩
    (by decide +kernel) (.ok (2, ⟨[(['a'], ['b'])]⟩)) (by decide +kernel)

end RowSieve.Reader
