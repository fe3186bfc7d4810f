import RowSieve.Proofs.Outcome
import RowSieve.Proofs.Query.Sequential
import RowSieve.Query.Recognizer

/-! Reading queries by states gives what reading them part by part gives, failures included. A state
at which a text can stop always waits for something, and what it waits for is the cause of the
failure. -/
namespace RowSieve

namespace Atom

/-! An atom that stands in no group: from its last states back to the first. -/

section
variable {s : State} {d : Draft} {relation : Relation}

theorem Draft.finish_accepting (related : d.relation = some relation) (ends : s.accepting = true)
    (rest : Text) :
    d.finish s rest = .ok (⟨d.field, relation,
      if s = .inValue then Text.trimEnd d.value else d.value, d.cast⟩, rest) := by
  simp [finish, related, ends, Option.filter]

theorem Draft.finish_waiting (waits : s.accepting = false) (rest : Text) :
    d.finish s rest = states.stop s rest := by
  cases related : d.relation <;> simp [finish, related, waits, Option.filter]

theorem recognizeFrom_cons (s : State) (d : Draft) (c : Char) (t : Text) :
    recognizeFrom false 0 s d (c :: t) =
      match s.next c with
      | none => states.stop s (c :: t)
      | some s' => recognizeFrom false 0 s' (d.take s' c) t := by
  rw [recognizeFrom]
  rfl

theorem recognizeFrom_tagged (behind : s = .tagged ∨ s = .trailing)
    (related : d.relation = some relation) (t : Text) :
    recognizeFrom false 0 s d t =
      match Text.trimStart t with
      | [] => .ok (⟨d.field, relation, d.value, d.cast⟩, [])
      | rest => .error (Failure.stuck ⟨.afterCast, rest⟩) := by
  induction t generalizing s with
  | nil => rcases behind with rfl | rfl <;> exact Draft.finish_accepting related rfl []
  | cons c t ih =>
    have next : s.next c = if isBlank c then some .trailing else none := by
      rcases behind with rfl | rfl <;> rfl
    rw [recognizeFrom_cons, next]
    by_cases blank : isBlank c = true
    · rw [if_pos blank, Text.trimStart, List.dropWhile_cons_of_pos blank]
      exact ih (.inr rfl)
    · rw [if_neg blank, Text.trimStart, List.dropWhile_cons_of_neg blank]
      rcases behind with rfl | rfl <;> rfl

theorem recognizeFrom_dotted (related : d.relation = some relation) (t : Text) :
    recognizeFrom false 0 .dotted d t =
      ((readCast t).map fun cast => (Atom.mk d.field relation d.value cast, [])).mapError
        Failure.stuck := by
  cases t with
  | nil => exact Draft.finish_waiting rfl []
  | cons c t =>
    rw [recognizeFrom_cons, readCast]
    cases tag : Cast.ofTag? c with
    | none => simp only [State.next, tag]; rfl
    | some cast =>
      simp only [State.next, tag, Option.isSome_some, if_true]
      have still : (d.take .tagged c).relation = some relation := related
      rw [recognizeFrom_tagged (.inl rfl) still]
      cases Text.trimStart t <;> simp [Draft.take, tag, Except.map, Except.mapError]

def ofValueFrom (field : Text) (relation : Relation) (value t : Text) : Except Failure Atom :=
  match t.dropWhile (· ≠ '.') with
  | [] => .ok ⟨field, relation, Text.trimEnd (value ++ t.takeWhile (· ≠ '.')), .text⟩
  | _ :: rest => (readCast rest).map fun cast =>
      ⟨field, relation, value ++ t.takeWhile (· ≠ '.'), cast⟩

theorem recognizeFrom_value (inside : s = .related ∧ d.value = [] ∨ s = .inValue)
    (related : d.relation = some relation) (noTag : d.cast = .text) (t : Text) :
    recognizeFrom false 0 s d t =
      (whole (ofValueFrom d.field relation d.value) t).mapError Failure.stuck := by
  induction t generalizing s d with
  | nil =>
    rcases inside with ⟨rfl, nothing⟩ | rfl
    · rw [recognizeFrom, Draft.finish_accepting related rfl, nothing, noTag]
      rfl
    · rw [recognizeFrom, Draft.finish_accepting related rfl, noTag]
      simp [whole, ofValueFrom, Except.map, Except.mapError]
  | cons c t ih =>
    have next : s.next c = if c = '.' then some .dotted else some .inValue := by
      rcases inside with ⟨rfl, _⟩ | rfl <;> rfl
    rw [recognizeFrom_cons, next]
    by_cases dot : c = '.'
    · subst dot
      rw [if_pos rfl]
      dsimp only
      have still : (d.take .dotted '.').relation = some relation := related
      rw [recognizeFrom_dotted still]
      cases read : readCast t <;>
        simp [whole, ofValueFrom, read, Draft.take, Except.map, Except.mapError]
    · rw [if_neg dot]
      dsimp only
      rw [ih (.inr rfl) (by simpa [Draft.take] using related) (by simpa [Draft.take] using noTag)]
      simp [whole, ofValueFrom, Draft.take, dot]

/-- Reads an atom of whose field some has been read. -/
theorem recognizeFrom_field (inside : s = .start ∨ s = .inField) (field t : Text) :
    recognizeFrom false 0 s ⟨field, none, [], .text⟩ t = (whole (fun t =>
      match splitRelation? t with
      | none => .error ⟨.relationMissing, []⟩
      | some (more, relation, t) => ofValue (field ++ more) relation t) t).mapError
        Failure.stuck := by
  induction t generalizing s field with
  | nil => rcases inside with rfl | rfl <;> rfl
  | cons c t ih =>
    have next : s.next c =
        if (Relation.ofSymbol? c).isSome then some .related else some .inField := by
      rcases inside with rfl | rfl <;> rfl
    rw [recognizeFrom_cons, next]
    cases symbol : Relation.ofSymbol? c with
    | some relation =>
      simp only [Option.isSome_some, if_true]
      rw [recognizeFrom_value (.inl ⟨rfl, rfl⟩) symbol rfl]
      simp [whole, splitRelation?, symbol, Draft.take]
      rfl
    | none =>
      simp only [Option.isSome_none, Bool.false_eq_true, if_false]
      rw [Draft.take, ih (.inr rfl)]
      cases split : splitRelation? t <;> simp [whole, splitRelation?, symbol, split]

end

/-! An atom inside a group is an atom that ends where the group does. -/

def ahead (more : Text) : Except Stuck (Atom × Text) → Except Stuck (Atom × Text)
  | .ok (a, rest) => .ok (a, rest ++ more)
  | .error s => .error ⟨s.notes, s.rest ++ more⟩

theorem ahead_finish (d : Draft) (s : State) (rest : Text) :
    ahead rest (d.finish s []) = d.finish s rest := by
  unfold Draft.finish
  split <;> rfl

theorem ahead_stop (s : State) (t more : Text) :
    ahead more (states.stop s t) = states.stop s (t ++ more) := rfl

theorem mapError_leaving (more : Text) (outcome : Except Failure (Atom × Text)) :
    (leaving more outcome).mapError Failure.stuck = ahead more (outcome.mapError Failure.stuck) := by
  cases outcome <;> rfl

theorem recognizeFrom_grouped (nesting : Nat) (s : State) (d : Draft) (t : Text) :
    recognizeFrom true nesting s d t =
      ahead (cutGroup nesting t).2 (recognizeFrom false 0 s d (cutGroup nesting t).1) := by
  induction t generalizing nesting s d with
  | nil => exact (ahead_finish d s []).symm
  | cons c t ih =>
    rw [recognizeFrom]
    by_cases closes : (c == ')' && nesting == 0) = true
    · obtain ⟨rfl, rfl⟩ : c = ')' ∧ nesting = 0 := by simpa using closes
      exact (ahead_finish d s _).symm
    · -- the character belongs to the atom, and the group goes on behind it
      have goes : cutGroup nesting (c :: t) =
          (c :: (cutGroup (nestingAfter true nesting c) t).1,
            (cutGroup (nestingAfter true nesting c) t).2) := by
        by_cases close : c = ')'
        · cases nesting with
          | zero => simp [close] at closes
          | succ nesting => simp [cutGroup, nestingAfter, close]
        · by_cases opens : c = '(' <;> simp [cutGroup, nestingAfter, close, opens]
      rw [goes, Bool.true_and, if_neg closes, recognizeFrom_cons]
      cases s.next c with
      | none =>
        rw [ahead_stop, List.cons_append, cutGroup_append]
      | some s' => exact ih _ s' _

theorem recognize_eq (grouped : Bool) (t : Text) :
    recognize grouped t = (read grouped t).mapError Failure.stuck := by
  have plain (t : Text) : recognizeFrom false 0 .start .empty t =
      (whole ofText t).mapError Failure.stuck := recognizeFrom_field (.inl rfl) [] t
  cases grouped with
  | false =>
    rw [recognize, plain]
    simp only [whole, read, Bool.false_eq_true, if_false]
    cases ofText t <;> simp [Except.map]
  | true => rw [recognize, recognizeFrom_grouped, plain, read_grouped, mapError_leaving]

end Atom

namespace Query

/-- A state that waits for one character. -/
theorem advance_eq_expect (m : Recognizer σ) (s : σ) (cause : Cause) {s' : σ} {c : Char}
    (next : ∀ d, m.next s d = if d = c then some s' else none) (stage : m.stage = cause.stage)
    (expected : m.expected s = cause.reason) (t : Text) :
    m.advance s t = ((expect c cause t).mapError Failure.stuck).map fun t => (s', c, t) := by
  have stop (rest : Text) : (m.stop s rest : Except Stuck (σ × Char × Text)) =
      .error (Failure.stuck ⟨cause, rest⟩) := by
    rw [Recognizer.stop, stage, expected]
    rfl
  cases t with
  | nil => exact stop []
  | cons d t =>
    rw [Recognizer.advance, next, expect]
    by_cases same : d = c
    · simp [same, Except.map, Except.mapError]
    · simp only [if_neg same]
      exact stop (d :: t)

theorem recognizeEnd_eq (m : Recognizer σ) (s : σ) (cause : Cause) (stage : m.stage = cause.stage)
    (expected : m.expected s = cause.reason) (grouped : Bool) (q : Query) (t : Text) :
    recognizeEnd m s grouped q t = (finish grouped cause q t).mapError Failure.stuck := by
  unfold recognizeEnd finish
  cases Text.trimStart t with
  | nil => rfl
  | cons c rest =>
    dsimp only
    split
    · rfl
    · rw [Recognizer.stop, stage, expected]
      rfl

section
variable {operand : Text → Except Stuck (Query × Text)} {room : Nat}

theorem recognizeNegation_eq
    (inner : ∀ t, operand t = (read room true t).mapError Failure.stuck) (grouped : Bool)
    (t : Text) :
    (recognizeNegation operand ('!' :: t) >>= fun (q, t) =>
        recognizeEnd negationStates .closed grouped q t) =
      (readNegation room grouped t).mapError Failure.stuck := by
  have negated :=
    advance_eq_expect negationStates .negated .negationUnopened (fun _ => rfl) rfl rfl
  have opened := advance_eq_expect negationStates .opened .negationUnclosed (fun _ => rfl) rfl rfl
  have ends := recognizeEnd_eq negationStates .closed .afterNegation rfl rfl
  have begun : negationStates.advance .start ('!' :: t) = pure (.negated, '!', t) := rfl
  simp only [recognizeNegation, readNegation, begun, negated, opened, ends, inner, then_mapError,
    map_then, bind_assoc, pure_bind]

theorem recognizeConnective_eq (t : Text) :
    recognizeConnective .leftClosed t =
      ((readConnective t).mapError Failure.stuck).map fun (connect, t) =>
        (.connected, connect, t) := by
  cases t with
  | nil => rfl
  | cons c t =>
    by_cases conj : c = '&'
    · subst conj
      rfl
    · by_cases disj : c = '|'
      · subst disj
        rfl
      · simp [recognizeConnective, Recognizer.advance, binaryStates, BinaryState.next, readConnective,
          conj, disj]
        rfl

theorem recognizeBinary_eq
    (inner : ∀ t, operand t = (read room true t).mapError Failure.stuck) (grouped : Bool)
    (t : Text) :
    (recognizeBinary operand ('(' :: t) >>= fun (q, t) =>
        recognizeEnd binaryStates .rightClosed grouped q t) =
      (readBinary room grouped t).mapError Failure.stuck := by
  have leftOpened := advance_eq_expect binaryStates .leftOpened .leftUnclosed (fun _ => rfl) rfl rfl
  have connected := advance_eq_expect binaryStates .connected .rightUnopened (fun _ => rfl) rfl rfl
  have rightOpened :=
    advance_eq_expect binaryStates .rightOpened .rightUnclosed (fun _ => rfl) rfl rfl
  have ends := recognizeEnd_eq binaryStates .rightClosed .afterBinary rfl rfl
  have begun : binaryStates.advance .start ('(' :: t) = pure (.leftOpened, '(', t) := rfl
  simp only [recognizeBinary, readBinary, begun, leftOpened, recognizeConnective_eq, connected,
    rightOpened, ends, inner, then_mapError, map_then, bind_assoc, pure_bind]

end

theorem recognize_eq (room : Nat) (grouped : Bool) (t : Text) :
    recognize room grouped t = (read room grouped t).mapError Failure.stuck := by
  induction room generalizing grouped t with
  | zero => rfl
  | succ room ih =>
    rw [read_succ, recognize]
    split
    · simp only [*, readBegun]
      rfl
    · simp only [*, readBegun]
      exact recognizeBinary_eq (ih true) grouped _
    · simp only [*, readBegun]
      exact recognizeNegation_eq (ih true) grouped _
    · rename_i c t group negated start
      rw [start, readBegun]
      · split
        · rfl
        · rw [Atom.recognize_eq]
          cases Atom.read grouped (c :: t) <;> rfl
      · exact group
      · exact negated

end Query
end RowSieve
