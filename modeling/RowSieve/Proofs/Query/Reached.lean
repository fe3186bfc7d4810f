import RowSieve.Query.Reached

/-! Deciding a query depends on the fields of the atoms that it comes to and on nothing else of the
record. Which atoms these are is only found out on the way, so the atoms and the truth value are
carried through one induction: a record that looks the same to the atoms reached in the first
operand decides alike whether the second one is reached. -/
namespace RowSieve

/-- An atom looks at its own field only. -/
theorem Atom.eval_of_same_value {a : Atom} {r r' : Record}
    (same : r'.value? a.field = r.value? a.field) : a.eval r' = a.eval r := by
  have get : r'.get a.field = r.get a.field := by rw [Record.get, same, Record.get]
  rw [Atom.eval, get, Atom.eval]

namespace Query

/-- To every one of the atoms the records look the same: its field has the same value in both, or
is missing in both. -/
def Alike (atoms : List Atom) (r r' : Record) : Prop :=
  ∀ a ∈ atoms, r'.value? a.field = r.value? a.field

instance (atoms : List Atom) (r r' : Record) : Decidable (Alike atoms r r') :=
  inferInstanceAs (Decidable (∀ a ∈ atoms, _))

theorem alike_append {first second : List Atom} {r r' : Record} :
    Alike (first ++ second) r r' ↔ Alike first r r' ∧ Alike second r r' :=
  List.forall_mem_append

/-- The atoms come to a stop at an error: the last one has it, those before it have truth values. -/
def StopsWith (atoms : List Atom) (r : Record) (e : EvalError) : Prop :=
  ∃ before last, atoms = before ++ [last] ∧ last.eval r = .error e ∧
    ∀ a ∈ before, ∃ holds, a.eval r = .ok holds

theorem StopsWith.after {atoms first : List Atom} {r : Record} {e : EvalError}
    (stops : StopsWith atoms r e) (decided : ∀ a ∈ first, ∃ holds, a.eval r = .ok holds) :
    StopsWith (first ++ atoms) r e := by
  obtain ⟨before, last, rfl, failed, earlier⟩ := stops
  refine ⟨first ++ before, last, (List.append_assoc ..).symm, failed, ?_⟩
  exact List.forall_mem_append.mpr ⟨decided, earlier⟩

/-- What is noted on the way are the atoms that are reached. -/
theorem watch_eq (q : Query) (r : Record) : q.watch r = (q.reached r, q.eval r) := by
  induction q with
  | atom a => rfl
  | and left right hl hr | or left right hl hr =>
    rw [watch, reached, eval, hl, hr]
    rcases left.eval r with e | _ | _ <;> rfl
  | not child ih =>
    rw [watch, reached, eval, ih]
    cases child.eval r <;> rfl

/-- Where a query has a truth value, so has every atom that is reached. -/
theorem decided_of_mem_reached {q : Query} {r : Record} {b : Bool} (decided : q.eval r = .ok b) :
    ∀ a ∈ q.reached r, ∃ holds, a.eval r = .ok holds := by
  induction q generalizing b with
  | atom a => exact List.forall_mem_singleton.mpr ⟨b, decided⟩
  | and left right hl hr | or left right hl hr =>
    cases first : left.eval r with
    | error e => simp [eval, first] at decided
    | ok value =>
      have both (more : right.eval r = .ok b) := List.forall_mem_append.mpr ⟨hl first, hr more⟩
      cases value with
      | false | true =>
        simp only [eval, reached, first] at decided ⊢
        first
          | exact hl first
          | exact both decided
  | not child ih =>
    cases first : child.eval r with
    | error e => simp [eval, first] at decided
    | ok value => exact ih first

/-- The error of a query is that of the last atom that is reached. -/
theorem stopsWith_of_eval {q : Query} {r : Record} {e : EvalError} (failed : q.eval r = .error e) :
    StopsWith (q.reached r) r e := by
  induction q with
  | atom a => exact ⟨[], a, rfl, failed, by simp⟩
  | and left right hl hr | or left right hl hr =>
    cases first : left.eval r with
    | error e' =>
      obtain rfl : e' = e := by simpa [eval, first] using failed
      simpa [reached, first] using hl first
    | ok value =>
      -- an operand that decides the query alone leaves no error
      cases value with
      | false | true =>
        simp only [eval, reached, first] at failed ⊢
        first
          | contradiction
          | exact (hr failed).after (decided_of_mem_reached first)
  | not child ih =>
    cases first : child.eval r with
    | error e' =>
      obtain rfl : e' = e := by simpa [eval, first] using failed
      exact ih first
    | ok value => simp [eval, first] at failed

/-- A record that looks the same to the atoms that are reached takes the query to the same atoms
and the same end. -/
theorem same_of_alike {q : Query} {r r' : Record} (alike : Alike (q.reached r) r r') :
    q.reached r' = q.reached r ∧ q.eval r' = q.eval r := by
  induction q with
  | atom a =>
    have same : r'.value? a.field = r.value? a.field := alike a (by simp [reached])
    exact ⟨rfl, Atom.eval_of_same_value same⟩
  | and left right hl hr | or left right hl hr =>
    -- the second operand is reached on both records or on neither
    simp only [reached, eval] at alike ⊢
    split at alike
    · rename_i first
      obtain ⟨alikeLeft, alikeRight⟩ := alike_append.mp alike
      obtain ⟨leftAtoms, leftEnd⟩ := hl alikeLeft
      obtain ⟨rightAtoms, rightEnd⟩ := hr alikeRight
      simp only [leftEnd, first, leftAtoms, rightAtoms, rightEnd, and_self]
    · obtain ⟨leftAtoms, leftEnd⟩ := hl alike
      rw [leftEnd, leftAtoms]
      split <;> simp_all
  | not child ih =>
    obtain ⟨atoms, same⟩ := ih alike
    exact ⟨atoms, by rw [eval, same, eval]⟩

/-- Deciding a query comes to some of its atoms, in the order of its text. If it ends in an error,
that is the error of the last of them, and those before it have truth values. On every record that
looks the same to these atoms it comes to the same atoms and ends in the same way. -/
theorem watch_reached (q : Query) (r : Record) :
    q.watch r = (q.reached r, q.eval r) ∧ (q.reached r).Sublist q.atoms ∧
      (∀ e, q.eval r = .error e → StopsWith (q.reached r) r e) ∧
      ∀ r' : Record, Alike (q.reached r) r r' → q.watch r' = q.watch r := by
  refine ⟨watch_eq q r, reached_sublist_atoms r q, fun e failed => stopsWith_of_eval failed, ?_⟩
  intro r' alike
  obtain ⟨atoms, same⟩ := same_of_alike alike
  rw [watch_eq, watch_eq, atoms, same]

/-- The first alternative holds, so the missing field of the second one is not looked for, and the
unreadable date stops the query before its last operand; other columns make no difference. -/
theorem watch_reached_past_missing :
    let q : Query := .and (.or (.atom ⟨['a'], .equal, ['1'], .text⟩)
        (.atom ⟨['b'], .equal, ['2'], .text⟩))
      (.and (.not (.atom ⟨['d'], .less, [], .date⟩)) (.atom ⟨['c'], .equal, [], .text⟩))
    let r : Record := ⟨[(['a'], ['1']), (['d'], ['x'])]⟩
    let r' : Record := ⟨[(['d'], ['x']), (['b'], ['3']), (['a'], ['1']), (['a'], ['2'])]⟩
    q.watch r = ([⟨['a'], .equal, ['1'], .text⟩, ⟨['d'], .less, [], .date⟩],
        .error (.notADate ['x'])) ∧
      q.watch r' = q.watch r := by
  intro q r r'
  have watched : q.watch r = ([⟨['a'], .equal, ['1'], .text⟩, ⟨['d'], .less, [], .date⟩],
      .error (.notADate ['x'])) := by rfl
  obtain ⟨tied, _, _, same⟩ := watch_reached q r
  refine ⟨watched, same r' ?_⟩
  have reached : q.reached r = [⟨['a'], .equal, ['1'], .text⟩, ⟨['d'], .less, [], .date⟩] :=
    congrArg Prod.fst (tied.symm.trans watched)
  rw [reached]
  decide

end Query
end RowSieve
