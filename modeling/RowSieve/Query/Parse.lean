import RowSieve.Query
import RowSieve.SyntaxError

/-! Reading a query. One pass over the text, with the number of groups that may still
be opened as the measure of the recursion; what follows a group is left unread, so that
an operand and the whole query are read by the same function. -/
namespace RowSieve

def maxNesting : Nat := 256

namespace Atom

/-- The text of an atom inside a group and what follows it: the atom ends before the `)`
that closes one group more than the atom itself has opened. -/
def cutGroup : Nat → Text → Text × Text
  | _, [] => ([], [])
  | opened, c :: t =>
    if c = ')' then
      match opened with
      | 0 => ([], c :: t)
      | opened + 1 => let (own, rest) := cutGroup opened t; (c :: own, rest)
    else if c = '(' then let (own, rest) := cutGroup (opened + 1) t; (c :: own, rest)
    else let (own, rest) := cutGroup opened t; (c :: own, rest)

/-- Nothing of the text is lost between the atom and what follows it. -/
theorem cutGroup_append (opened : Nat) (t : Text) :
    (cutGroup opened t).1 ++ (cutGroup opened t).2 = t := by
  fun_induction cutGroup opened t <;> simp_all

def splitRelation? : Text → Option (Text × Relation × Text)
  | [] => none
  | c :: t =>
    match Relation.ofSymbol? c with
    | some r => some ([], r, t)
    | none => (splitRelation? t).map fun (field, r, value) => (c :: field, r, value)

/-- The field is all that stands before the first symbol. -/
theorem splitRelation?_eq_some_iff {t field value : Text} {r : Relation} :
    splitRelation? t = some (field, r, value) ↔
      t = field ++ r.symbol :: value ∧ ∀ c ∈ field, Relation.ofSymbol? c = none := by
  induction t generalizing field with
  | nil => simp [splitRelation?]
  | cons c t ih =>
    rw [splitRelation?]
    cases found : Relation.ofSymbol? c with
    | some s =>
      have symbol_s := Relation.ofSymbol?_eq_some_iff.mp found
      cases field with
      | nil => grind [Relation.ofSymbol?_symbol]
      | cons d field => grind
    | none =>
      cases field with
      | nil =>
        simp only [Option.map_eq_some_iff, List.nil_append, List.cons.injEq]
        constructor
        · rintro ⟨_, _, same⟩
          simp at same
        · rintro ⟨⟨rfl, _⟩, _⟩
          simp at found
      | cons d field =>
        simp only [Option.map_eq_some_iff, Prod.mk.injEq, Prod.exists]
        grind

/-- What follows the `.` that ends a value: one tag, then blanks only. -/
def readCast (t : Text) : Except Failure Cast :=
  match t with
  | [] => .error ⟨.castMissing, []⟩
  | c :: t =>
    match Cast.ofTag? c with
    | none => .error ⟨.castMissing, c :: t⟩
    | some cast =>
      match Text.trimStart t with
      | [] => .ok cast
      | rest => .error ⟨.afterCast, rest⟩

/-- Reads a text that is one atom. Blanks at the end belong to the value only where a
cast marks its end. -/
def ofText (t : Text) : Except Failure Atom :=
  match splitRelation? t with
  | none => .error ⟨.relationMissing, []⟩
  | some (field, relation, t) =>
    let value := t.takeWhile (· ≠ '.')
    match t.dropWhile (· ≠ '.') with
    | [] => .ok ⟨field, relation, Text.trimEnd value, .text⟩
    | _ :: t => (readCast t).map fun cast => ⟨field, relation, value, cast⟩

def read (grouped : Bool) (t : Text) : Except Failure (Atom × Text) :=
  let (own, rest) := if grouped then cutGroup 0 t else (t, [])
  match ofText own with
  | .ok a => .ok (a, rest)
  | .error f => .error ⟨f.cause, f.rest ++ rest⟩

end Atom

namespace Query

def expect (c : Char) (cause : Cause) : Text → Except Failure Text
  | [] => .error ⟨cause, []⟩
  | d :: t => if d = c then .ok t else .error ⟨cause, d :: t⟩

def readConnective : Text → Except Failure ((Query → Query → Query) × Text)
  | '&' :: t => .ok (.and, t)
  | '|' :: t => .ok (.or, t)
  | t => .error ⟨.operatorMissing, t⟩

/-- After a group only blanks may follow, up to the end of the text or, inside a group,
up to its `)`. -/
def finish (grouped : Bool) (cause : Cause) (q : Query) (t : Text) :
    Except Failure (Query × Text) :=
  match Text.trimStart t with
  | [] => .ok (q, [])
  | c :: rest => if grouped && c == ')' then .ok (q, c :: rest) else .error ⟨cause, c :: rest⟩

/-- Reads a query. `room` is one more than the number of groups that may still be
opened; `grouped` tells whether the query stands inside a group. -/
def read : (room : Nat) → (grouped : Bool) → Text → Except Failure (Query × Text)
  | 0, _, t => .error ⟨.nestedTooDeeply, t⟩
  | room + 1, grouped, t =>
    match Text.trimStart t with
    | [] => .error ⟨.emptyExpression, []⟩
    | '(' :: t => do
      let (left, t) ← read room true t
      let t ← expect ')' .leftUnclosed t
      let (connect, t) ← readConnective t
      let t ← expect '(' .rightUnopened t
      let (right, t) ← read room true t
      let t ← expect ')' .rightUnclosed t
      finish grouped .afterBinary (connect left right) t
    | '!' :: t => do
      let t ← expect '(' .negationUnopened t
      let (child, t) ← read room true t
      let t ← expect ')' .negationUnclosed t
      finish grouped .afterNegation (.not child) t
    | c :: t =>
      if grouped && c == ')' then .error ⟨.emptyExpression, c :: t⟩
      else do
        let (a, t) ← Atom.read grouped (c :: t)
        return (.atom a, t)

def parse (t : Text) : Except SyntaxError Query :=
  match read (maxNesting + 1) false t with
  | .ok (q, _) => .ok q
  | .error f => .error (f.locate t)

end Query
end RowSieve
