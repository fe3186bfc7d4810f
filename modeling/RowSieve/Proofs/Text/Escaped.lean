import RowSieve.Proofs.Text.Cut
import RowSieve.Text.Escaped

/-! The escaped form of a text tells the text and where it ends: every character is written as a
piece that begins no other one, and none of the pieces begins with the double quote that closes the
form. -/
namespace RowSieve.Text

theorem digitChar_inj {m n : Nat} (small : m < 16) (small' : n < 16)
    (same : Nat.digitChar m = Nat.digitChar n) : m = n := by
  have table : ∀ i < 16, ∀ j < 16, Nat.digitChar i = Nat.digitChar j → i = j := by decide
  exact table m small n small' same

/-- Hexadecimal digits tell their number. -/
theorem toDigits_inj {m n : Nat} (same : Nat.toDigits 16 m = Nat.toDigits 16 n) : m = n := by
  induction m using Nat.strong_induction_on generalizing n with
  | _ m ih =>
    rw [Nat.toDigits_eq_if (by decide), Nat.toDigits_eq_if (n := n) (by decide)] at same
    split at same <;> rename_i left <;> split at same <;> rename_i right
    · exact digitChar_inj left right (List.cons.inj same).1
    · have parts : [] ++ [Nat.digitChar m] = _ := same
      exact absurd (List.append_inj' parts rfl).1.symm Nat.toDigits_ne_nil
    · have parts : _ = [] ++ [Nat.digitChar n] := same
      exact absurd (List.append_inj' parts rfl).1 Nat.toDigits_ne_nil
    · obtain ⟨high, low⟩ := List.append_inj' same rfl
      have above : m / 16 = n / 16 := ih (m / 16) (by omega) high
      have last := digitChar_inj (Nat.mod_lt m (by decide)) (Nat.mod_lt n (by decide))
        (List.cons.inj low).1
      omega

theorem digit_of_mem_toDigits {n : Nat} {c : Char} (member : c ∈ Nat.toDigits 16 n) :
    ∃ k, c = Nat.digitChar k := by
  induction n using Nat.strong_induction_on with
  | _ n ih =>
    rw [Nat.toDigits_eq_if (by decide)] at member
    split at member
    · exact ⟨n, List.mem_singleton.mp member⟩
    · rcases List.mem_append.mp member with high | low
      · exact ih (n / 16) (by omega) high
      · exact ⟨n % 16, List.mem_singleton.mp low⟩

def marks : List (Char × Char) :=
  [('"', '"'), ('\\', '\\'), ('\'', '\''), ('\n', 'n'), ('\r', 'r'), ('\t', 't'),
    (Char.ofNat 0, '0')]

inductive EscapedAs : Char → Text → Prop where
  | plain (c : Char) (quote : c ≠ '"') (backslash : c ≠ '\\') (seen : isUnprintable c = false) :
    EscapedAs c [c]
  | marked (c letter : Char) (known : (c, letter) ∈ marks) : EscapedAs c ['\\', letter]
  | coded (c : Char) : EscapedAs c (codePoint c)

theorem escapeChar_escapedAs (apostrophes : Bool) (c : Char) :
    EscapedAs c (escapeChar apostrophes c) := by
  unfold escapeChar
  split
  · exact .marked c '"' (by simp_all [marks])
  split
  · exact .marked c '\\' (by simp_all [marks])
  split
  · split
    · exact .marked c '\'' (by simp_all [marks])
    · rename_i apostrophe _
      subst apostrophe
      exact .plain _ (by decide) (by decide) (by decide)
  split
  · exact .marked c 'n' (by simp_all [marks])
  split
  · exact .marked c 'r' (by simp_all [marks])
  split
  · exact .marked c 't' (by simp_all [marks])
  split
  · rename_i zero
    have null : c = Char.ofNat 0 := by rw [← Char.ofNat_toNat c, zero]
    exact .marked c '0' (by simp [marks, null])
  split
  · exact .coded c
  · rename_i shown
    simp only [Bool.or_eq_true, not_or, Bool.not_eq_true] at shown
    exact .plain c ‹_› ‹_› shown.1

namespace EscapedAs

variable {c d : Char} {s t u v : Text}

/-- No piece begins with a double quote. -/
theorem begins (piece : EscapedAs c s) : ∃ first rest, s = first :: rest ∧ first ≠ '"' := by
  cases piece with
  | plain quote => exact ⟨c, [], rfl, quote⟩
  | marked letter => exact ⟨_, _, rfl, by decide⟩
  | coded => exact ⟨_, _, rfl, by decide⟩

theorem ne_brace_of_digit (n : Nat) : ∀ c ∈ Nat.toDigits 16 n, decide (c ≠ '}') = true := by
  intro c member
  obtain ⟨k, rfl⟩ := digit_of_mem_toDigits member
  exact decide_eq_true (Nat.digitChar_ne '}' (by decide))

theorem mark_inj {letter : Char} (known : (c, letter) ∈ marks) (known' : (d, letter) ∈ marks) :
    c = d := by
  have table : ∀ x ∈ marks, ∀ y ∈ marks, x.2 = y.2 → x.1 = y.1 := by decide
  exact table _ known _ known' rfl

theorem mark_ne_u {letter : Char} (known : (c, letter) ∈ marks) : letter ≠ 'u' := by
  have table : ∀ x ∈ marks, x.2 ≠ 'u' := by decide
  exact table _ known

/-- Two pieces that begin one text are those of one character. -/
theorem append_inj (piece : EscapedAs c s) (piece' : EscapedAs d t) (same : s ++ u = t ++ v) :
    c = d ∧ u = v := by
  cases piece with
  | plain _ backslash =>
    cases piece' with
    | plain => exact List.cons.inj same
    | marked | coded => exact absurd (List.cons.inj same).1 backslash
  | marked letter known =>
    cases piece' with
    | plain _ backslash => exact absurd (List.cons.inj same).1.symm backslash
    | marked letter' known' =>
      obtain ⟨letters, rest⟩ := List.cons.inj (List.cons.inj same).2
      exact ⟨mark_inj known (letters ▸ known'), rest⟩
    | coded => exact absurd (List.cons.inj (List.cons.inj same).2).1 (mark_ne_u known)
  | coded =>
    cases piece' with
    | plain _ backslash => exact absurd (List.cons.inj same).1.symm backslash
    | marked letter known =>
      exact absurd (List.cons.inj (List.cons.inj same).2).1.symm (mark_ne_u known)
    | coded =>
      have digits : Nat.toDigits 16 c.toNat ++ '}' :: u = Nat.toDigits 16 d.toNat ++ '}' :: v := by
        simpa [codePoint] using same
      obtain ⟨codes, _, rest⟩ := append_stop_inj (ne_brace_of_digit _) (ne_brace_of_digit _)
        (by decide) (by decide) digits
      exact ⟨Char.toNat_inj.mp (toDigits_inj codes), rest⟩

theorem no_escape (piece : EscapedAs c s) : '\x1b' ∉ s := by
  cases piece with
  | plain _ _ seen =>
    intro member
    obtain rfl := List.mem_singleton.mp member
    exact absurd seen (by decide)
  | marked letter known =>
    have table : ∀ x ∈ marks, '\x1b' ∉ ['\\', x.2] := by decide
    exact table _ known
  | coded =>
    have digits : '\x1b' ∉ Nat.toDigits 16 c.toNat := by
      intro member
      obtain ⟨k, digit⟩ := digit_of_mem_toDigits member
      exact Nat.digitChar_ne '\x1b' (by decide) digit.symm
    simp [codePoint, digits]

end EscapedAs

variable {apostrophes : Bool} {s t u v : Text}

/-- What is written between the double quotes can be read, and where it ends can be seen. -/
theorem flatMap_escapeChar_inj (same : s.flatMap (escapeChar apostrophes) ++ '"' :: u =
    t.flatMap (escapeChar apostrophes) ++ '"' :: v) : s = t ∧ u = v := by
  induction s generalizing t with
  | nil =>
    cases t with
    | nil => exact ⟨rfl, (List.cons.inj same).2⟩
    | cons d t =>
      obtain ⟨first, rest, piece, other⟩ := (escapeChar_escapedAs apostrophes d).begins
      rw [List.flatMap_cons, piece] at same
      exact absurd (List.cons.inj same).1.symm other
  | cons c s ih =>
    cases t with
    | nil =>
      obtain ⟨first, rest, piece, other⟩ := (escapeChar_escapedAs apostrophes c).begins
      rw [List.flatMap_cons, piece] at same
      exact absurd (List.cons.inj same).1 other
    | cons d t =>
      rw [List.flatMap_cons, List.flatMap_cons, List.append_assoc, List.append_assoc] at same
      obtain ⟨rfl, behind⟩ := (escapeChar_escapedAs apostrophes c).append_inj
        (escapeChar_escapedAs apostrophes d) same
      obtain ⟨rfl, rest⟩ := ih behind
      exact ⟨rfl, rest⟩

/-- Two escaped forms that begin one text are those of one text. -/
theorem escaped_append_inj (same : escaped s ++ u = escaped t ++ v) : s = t ∧ u = v := by
  simp only [escaped, escapedWith, List.cons_append, List.append_assoc, List.nil_append,
    List.cons.injEq, true_and] at same
  exact flatMap_escapeChar_inj same

theorem no_escape_escaped (t : Text) : '\x1b' ∉ escaped t := by
  intro member
  have inside : '\x1b' ∈ t.flatMap (escapeChar false) := by
    simpa [escaped, escapedWith] using member
  obtain ⟨c, _, piece⟩ := List.mem_flatMap.mp inside
  exact (escapeChar_escapedAs false c).no_escape piece

end RowSieve.Text
