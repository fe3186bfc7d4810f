import RowSieve.Proofs.SyntaxError.Sequential
import RowSieve.Query.Parse

/-! The readers of a query go over their text once: atoms, also where a group ends them, and
the connectives around groups of any depth. -/
namespace RowSieve

open RowSieve.Sequential

namespace Atom

theorem readCast_sequential : Sequential (whole readCast) := by
  refine of_cons rfl fun c t => ?_
  cases tag : Cast.ofTag? c with
  | none =>
    refine At.congr (fail .castMissing (c :: t)) fun more => ?_
    simp [whole, readCast, tag, Except.map]
  | some cast =>
    have last := closed cast .afterCast fun _ => false
    refine At.cons (At.congr (last.trimmed t) fun more => ?_)
    simp only [whole, readCast, tag]
    cases Text.trimStart (t ++ more) <;> rfl

def ofValue (field : Text) (relation : Relation) (t : Text) : Except Failure Atom :=
  let value := t.takeWhile (· ≠ '.')
  match t.dropWhile (· ≠ '.') with
  | [] => .ok ⟨field, relation, Text.trimEnd value, .text⟩
  | _ :: t => (readCast t).map fun cast => ⟨field, relation, value, cast⟩

theorem ofValue_sequential (field : Text) (relation : Relation) :
    Sequential (whole (ofValue field relation)) := by
  refine upTo (· ≠ '.') (fun before t => (whole readCast t.tail).map
    fun (cast, rest) => (⟨field, relation, before, cast⟩, rest)) ?_ ?_ ?_
  · intro t bare
    simp only [whole, ofValue, bare]
    rfl
  · intro t dot rest stop
    simp only [whole, ofValue, stop, List.tail_cons]
    cases readCast rest <;> rfl
  · intro before dot rest _
    exact At.cons ((readCast_sequential rest).map fun cast => Atom.mk field relation before cast)

theorem ofText_eq (t : Text) : ofText t =
    match splitRelation? t with
    | none => .error ⟨.relationMissing, []⟩
    | some (field, relation, t) => ofValue field relation t := rfl

theorem ofText_sequential : Sequential (whole ofText) := by
  refine upTo (fun c => (Relation.ofSymbol? c).isNone) (fun before t =>
    match (t.head?.bind Relation.ofSymbol?) with
    | none => .error ⟨.relationMissing, []⟩
    | some relation => whole (ofValue before relation) t.tail) ?_ ?_ ?_
  · intro t plain
    have unrelated : splitRelation? t = none := by
      rw [Option.eq_none_iff_forall_not_mem]
      rintro ⟨field, relation, value⟩ found
      obtain ⟨rfl, _⟩ := splitRelation?_eq_some_iff.mp found
      simpa using List.dropWhile_eq_nil_iff.mp plain relation.symbol (by simp)
    simp only [whole, ofText_eq, unrelated]
    rfl
  · intro t c rest stop
    obtain ⟨symbol, pass, parts⟩ := Text.dropWhile_eq_cons_iff.mp stop
    obtain ⟨relation, found⟩ := Option.isSome_iff_exists.mp (by simpa using symbol)
    have related : splitRelation? t = some
        (t.takeWhile fun c => (Relation.ofSymbol? c).isNone, relation, rest) := by
      refine splitRelation?_eq_some_iff.mpr ⟨?_, fun d before => by simpa using pass d before⟩
      rw [← Relation.ofSymbol?_eq_some_iff.mp found]
      exact parts
    simp only [whole, ofText_eq, related, List.head?_cons, Option.bind_some, found, List.tail_cons]
  · intro before c rest symbol
    obtain ⟨relation, found⟩ := Option.isSome_iff_exists.mp (by simpa using symbol)
    exact At.cons (At.congr (ofValue_sequential before relation rest) fun more => by simp [found])

/-- A group that ends inside the text ends there whatever follows. -/
theorem cutGroup_more {opened : Nat} {t : Text} (left : (cutGroup opened t).2 ≠ [])
    (more : Text) :
    cutGroup opened (t ++ more) = ((cutGroup opened t).1, (cutGroup opened t).2 ++ more) := by
  fun_induction cutGroup opened t <;> simp_all [cutGroup]

/-- A group that takes the whole text takes a part of what follows. -/
theorem cutGroup_ended {opened : Nat} {t : Text} (ended : (cutGroup opened t).2 = [])
    (more : Text) :
    ∃ own rest, own ++ rest = more ∧ cutGroup opened (t ++ more) = (t ++ own, rest) := by
  fun_induction cutGroup opened t
  case case1 opened => exact ⟨_, _, cutGroup_append opened more, rfl⟩
  case case2 => contradiction
  all_goals
    rename_i ih
    obtain ⟨own, rest, parts, longer⟩ := ih (by simp_all)
    exact ⟨own, rest, parts, by simp_all [cutGroup]⟩

theorem read_grouped (t : Text) :
    read true t = leaving (cutGroup 0 t).2 (whole ofText (cutGroup 0 t).1) := by
  simp only [read, whole, if_true]
  cases ofText (cutGroup 0 t).1 <;> rfl

theorem read_sequential (grouped : Bool) : Sequential (read grouped) := by
  intro t
  cases grouped with
  | false =>
    refine At.congr (ofText_sequential t) fun more => ?_
    simp only [read, whole, Bool.false_eq_true, if_false]
    cases ofText (t ++ more) <;> simp [Except.map]
  | true =>
    have parts := cutGroup_append 0 t
    have own := ofText_sequential (cutGroup 0 t).1
    constructor
    · have within : unread (whole ofText (cutGroup 0 t).1) ++ (cutGroup 0 t).2 <:+
          (cutGroup 0 t).1 ++ (cutGroup 0 t).2 := List.suffix_append_self_iff.mpr own.within
      rwa [parts, ← unread_leaving, ← read_grouped] at within
    · intro left more
      by_cases closed : (cutGroup 0 t).2 = []
      · obtain ⟨added, rest, split, longer⟩ := cutGroup_ended closed more
        rw [closed, List.append_nil] at parts
        rw [read_grouped, closed, unread_leaving, List.append_nil] at left
        rw [read_grouped, read_grouped, longer, closed, leaving_leaving]
        rw [parts] at own left ⊢
        rw [own.settled left added, leaving_leaving, split, List.nil_append]
      · rw [read_grouped, read_grouped, cutGroup_more closed, leaving_leaving]
    · intro ended more
      rw [read_grouped, unread_leaving] at ended
      obtain ⟨ended, closed⟩ := List.append_eq_nil_iff.mp ended
      obtain ⟨added, rest, split, longer⟩ := cutGroup_ended closed more
      rw [closed, List.append_nil] at parts
      rw [parts] at own ended
      rw [read_grouped, longer, unread_leaving, ← split]
      exact List.suffix_append_self_iff.mpr (own.beyond ended added)

end Atom

namespace Query

theorem expect_sequential {next : Text → Except Failure (α × Text)} (c : Char) (cause : Cause)
    (following : Sequential next) : Sequential fun t => expect c cause t >>= next := by
  refine of_cons rfl fun d t => ?_
  by_cases same : d = c
  · refine At.cons (At.congr (following t) fun more => ?_)
    simp only [expect, if_pos same]
    rfl
  · refine At.congr (fail cause (d :: t)) fun more => ?_
    simp only [expect, List.cons_append, if_neg same]
    rfl

theorem readConnective_sequential : Sequential readConnective := by
  refine of_cons rfl fun c t => ?_
  by_cases conj : c = '&'
  · subst conj
    exact At.cons (ok Query.and t)
  · by_cases disj : c = '|'
    · subst disj
      exact At.cons (ok Query.or t)
    · refine At.congr (fail .operatorMissing (c :: t)) fun more => ?_
      simp [readConnective, conj, disj]

theorem finish_sequential (grouped : Bool) (cause : Cause) (q : Query) :
    Sequential (finish grouped cause q) := by
  have last := closed q cause fun c => grouped && c == ')'
  refine fun t => At.congr (last.trimmed t) fun more => ?_
  simp only [finish]
  cases Text.trimStart (t ++ more) <;> rfl

def readBinary (room : Nat) (grouped : Bool) (t : Text) : Except Failure (Query × Text) := do
  let (left, t) ← read room true t
  let t ← expect ')' .leftUnclosed t
  let (connect, t) ← readConnective t
  let t ← expect '(' .rightUnopened t
  let (right, t) ← read room true t
  let t ← expect ')' .rightUnclosed t
  finish grouped .afterBinary (connect left right) t

def readNegation (room : Nat) (grouped : Bool) (t : Text) : Except Failure (Query × Text) := do
  let t ← expect '(' .negationUnopened t
  let (child, t) ← read room true t
  let t ← expect ')' .negationUnclosed t
  finish grouped .afterNegation (.not child) t

def readBegun (room : Nat) (grouped : Bool) : Text → Except Failure (Query × Text)
  | [] => .error ⟨.emptyExpression, []⟩
  | '(' :: t => readBinary room grouped t
  | '!' :: t => readNegation room grouped t
  | c :: t =>
    if grouped && c == ')' then .error ⟨.emptyExpression, c :: t⟩
    else (Atom.read grouped (c :: t)).map fun (a, t) => (.atom a, t)

theorem read_succ (room : Nat) (grouped : Bool) (t : Text) :
    read (room + 1) grouped t = readBegun room grouped (Text.trimStart t) := by
  rw [read]
  split
  · simp [readBegun, *]
  · simp [readBegun, *]
    rfl
  · simp [readBegun, *]
    rfl
  · rename_i start
    rw [start, readBegun]
    · cases Atom.read grouped _ <;> rfl
    · assumption
    · assumption

theorem readBinary_sequential {room : Nat} (inner : Sequential (read room true))
    (grouped : Bool) : Sequential (readBinary room grouped) := by
  refine inner.bind fun left => ?_
  refine expect_sequential ')' .leftUnclosed ?_
  refine readConnective_sequential.bind fun connect => ?_
  refine expect_sequential '(' .rightUnopened ?_
  refine inner.bind fun right => ?_
  refine expect_sequential ')' .rightUnclosed ?_
  exact finish_sequential grouped .afterBinary (connect left right)

theorem readNegation_sequential {room : Nat} (inner : Sequential (read room true))
    (grouped : Bool) : Sequential (readNegation room grouped) := by
  refine expect_sequential '(' .negationUnopened ?_
  refine inner.bind fun child => ?_
  refine expect_sequential ')' .negationUnclosed ?_
  exact finish_sequential grouped .afterNegation (.not child)

theorem readBegun_sequential {room : Nat} (inner : Sequential (read room true)) (grouped : Bool) :
    Sequential (readBegun room grouped) := by
  refine of_cons rfl fun c t => ?_
  by_cases group : c = '('
  · subst group
    exact At.cons (readBinary_sequential inner grouped t)
  by_cases negated : c = '!'
  · subst negated
    exact At.cons (readNegation_sequential inner grouped t)
  have begun (more : Text) : readBegun room grouped (c :: more) =
      if grouped && c == ')' then .error ⟨.emptyExpression, c :: more⟩
      else (Atom.read grouped (c :: more)).map fun (a, t) => (.atom a, t) := by
    rw [readBegun]
    · exact fun h => group h
    · exact fun h => negated h
  by_cases closing : (grouped && c == ')') = true
  · refine At.congr (fail .emptyExpression (c :: t)) fun more => ?_
    rw [List.cons_append, begun, if_pos closing]
  · refine At.congr ((Atom.read_sequential grouped (c :: t)).map Query.atom) fun more => ?_
    rw [List.cons_append, begun, if_neg closing]

theorem read_sequential (room : Nat) (grouped : Bool) : Sequential (read room grouped) := by
  induction room generalizing grouped with
  | zero => exact fail .nestedTooDeeply
  | succ room ih =>
    intro t
    exact At.congr ((readBegun_sequential (ih true) grouped).trimmed t) fun more =>
      read_succ room grouped (t ++ more)

end Query
end RowSieve
