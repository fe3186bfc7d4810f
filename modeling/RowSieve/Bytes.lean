import RowSieve.Text

/-! Bytes and their reading as UTF-8. Input is cut into lines before it is decoded, so
that a line that is no UTF-8 does not spoil the others. -/
namespace RowSieve

abbrev Bytes := List UInt8

namespace Bytes

def ofText (t : Text) : Bytes := t.flatMap String.utf8EncodeChar

def toText? (b : Bytes) : Option Text := (String.fromUTF8? ⟨b.toArray⟩).map String.toList

/-- Reading undoes writing, and nothing else can be read. -/
theorem toText?_eq_some_iff {b : Bytes} {t : Text} : toText? b = some t ↔ b = ofText t := by
  have encoded {u : Text} : b = ofText u ↔ (⟨b.toArray⟩ : ByteArray) = u.utf8Encode := by
    constructor
    · rintro rfl
      exact ByteArray.ext (by simp [ofText, List.utf8Encode])
    · intro same
      simpa [ofText, List.utf8Encode] using congrArg (fun a : ByteArray => a.data.toList) same
  unfold toText? String.fromUTF8?
  rw [encoded]
  split
  next valid =>
    rw [Option.map_some, Option.some.injEq, String.fromUTF8]
    constructor
    · rintro rfl
      simp [String.utf8Encode_toList]
    · intro same
      rw [← String.toList_ofList (l := t)]
      exact congrArg String.toList (String.toByteArray_inj.mp (by simpa using same))
  next invalid =>
    simp only [Option.map_none, reduceCtorEq, false_iff]
    intro same
    exact invalid (.intro _ same)

@[simp] theorem toText?_ofText (t : Text) : toText? (ofText t) = some t :=
  toText?_eq_some_iff.mpr rfl

def newline : UInt8 := 10

/-- The lines without the bytes that end them. What follows the last of these bytes is a
line only if there is something. -/
def lines : Bytes → List Bytes
  | [] => []
  | b :: rest =>
    if b = newline then [] :: lines rest
    else match lines rest with
      | [] => [[b]]
      | line :: more => (b :: line) :: more

/-- The text of the longest beginning that is UTF-8, and whether it is all there is. -/
def decodePrefix (b : Bytes) : Text × Bool :=
  go b.length
where
  go : Nat → Text × Bool
    | 0 => ([], b.isEmpty)
    | n + 1 =>
      match toText? (b.take (n + 1)) with
      | some t => (t, n + 1 == b.length)
      | none => go n

end Bytes
end RowSieve
