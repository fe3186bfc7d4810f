import RowSieve.Proofs.Chain.Sequential
import RowSieve.Proofs.Program.Sequential

/-! The stages at which the readers give up: those of a query at its four stages, however deep the
groups are in which they fail, those of a chain at its own, and what holds the bodies together at
that of the program. -/
namespace RowSieve

/-- An outcome that is no failure, or one at some of these stages. -/
def FailsAt (stages : List Stage) (outcome : Except Failure α) : Prop :=
  ∀ f, outcome = .error f → f.cause.stage ∈ stages

namespace FailsAt

variable {stages : List Stage}

theorem ok (a : α) : FailsAt stages (.ok a) := nofun

theorem error {cause : Cause} (listed : cause.stage ∈ stages) (rest : Text) :
    FailsAt stages (.error ⟨cause, rest⟩ : Except Failure α) := by
  rintro f ⟨rfl⟩
  exact listed

theorem mono {wider : List Stage} (within : stages ⊆ wider) {x : Except Failure α}
    (h : FailsAt stages x) : FailsAt wider x :=
  fun f failed => within (h f failed)

theorem bind {x : Except Failure α} {next : α → Except Failure β} (first : FailsAt stages x)
    (following : ∀ a, FailsAt stages (next a)) : FailsAt stages (x >>= next) := by
  cases x with
  | error f => exact fun g failed => first g (by cases failed; rfl)
  | ok a => exact following a

theorem map (f : α → β) {x : Except Failure α} (h : FailsAt stages x) :
    FailsAt stages (x.map f) :=
  fun _ failed => h _ (map_eq_error_iff.mp failed)

theorem of_expect (c : Char) {cause : Cause} (listed : cause.stage ∈ stages) (t : Text) :
    FailsAt stages (Query.expect c cause t) := by
  unfold Query.expect
  split
  · exact error listed []
  · split
    · exact ok _
    · exact error listed _

end FailsAt

open FailsAt

theorem Atom.ofText_failsAt (t : Text) : FailsAt [.atom] (ofText t) := by
  have cast (t : Text) : FailsAt [.atom] (readCast t) := by
    unfold readCast
    split
    · exact error (by decide) []
    · split
      · exact error (by decide) _
      · split
        · exact ok _
        · exact error (by decide) _
  rw [ofText_eq]
  split
  · exact error (by decide) []
  · rw [ofValue]
    split
    · exact ok _
    · exact (cast _).map _

theorem Atom.read_failsAt (grouped : Bool) (t : Text) : FailsAt [.atom] (read grouped t) := by
  intro f failed
  simp only [read] at failed
  split at failed
  · contradiction
  · rename_i g own
    obtain rfl := Except.error.inj failed
    exact ofText_failsAt _ g own

namespace Part

/-- The stages of the reader of a part. -/
def stages : Part → List Stage
  | query => [.expression, .atom, .binary, .negation]
  | onTrue | onFalse => [.action]

end Part

namespace Query

theorem finish_failsAt {cause : Cause} (listed : cause.stage ∈ Part.query.stages) (grouped : Bool)
    (q : Query) (t : Text) : FailsAt Part.query.stages (finish grouped cause q t) := by
  unfold finish
  split
  · exact ok _
  · split
    · exact ok _
    · exact error listed _

theorem readConnective_failsAt (t : Text) : FailsAt Part.query.stages (readConnective t) := by
  unfold readConnective
  split
  · exact ok _
  · exact ok _
  · exact error (by decide) _

section
variable {room : Nat}

theorem readBinary_failsAt (inner : ∀ t, FailsAt Part.query.stages (read room true t))
    (grouped : Bool) (t : Text) : FailsAt Part.query.stages (readBinary room grouped t) := by
  refine (inner t).bind fun _ => ?_
  refine (of_expect ')' (by decide) _).bind fun _ => ?_
  refine (readConnective_failsAt _).bind fun _ => ?_
  refine (of_expect '(' (by decide) _).bind fun _ => ?_
  refine (inner _).bind fun _ => ?_
  refine (of_expect ')' (by decide) _).bind fun _ => ?_
  exact finish_failsAt (by decide) grouped _ _

theorem readNegation_failsAt (inner : ∀ t, FailsAt Part.query.stages (read room true t))
    (grouped : Bool) (t : Text) : FailsAt Part.query.stages (readNegation room grouped t) := by
  refine (of_expect '(' (by decide) t).bind fun _ => ?_
  refine (inner _).bind fun _ => ?_
  refine (of_expect ')' (by decide) _).bind fun _ => ?_
  exact finish_failsAt (by decide) grouped _ _

end

theorem read_failsAt (room : Nat) (grouped : Bool) (t : Text) :
    FailsAt Part.query.stages (read room grouped t) := by
  induction room generalizing grouped t with
  | zero => exact error (by decide) t
  | succ room ih =>
    rw [read_succ]
    unfold readBegun
    split
    · exact error (by decide) []
    · exact readBinary_failsAt (ih true) grouped _
    · exact readNegation_failsAt (ih true) grouped _
    · split
      · exact error (by decide) _
      · exact ((Atom.read_failsAt grouped _).mono (by simp [Part.stages])).map _

end Query

theorem Step.read_failsAt (t : Text) : FailsAt [.action] (Step.read t) := by
  have value (field t : Text) : FailsAt [.action] (readValue field t) := by
    unfold readValue
    split
    · exact error (by decide) []
    · exact ok _
  unfold Step.read
  split
  · exact ok _
  · exact error (by decide) _
  · simp only [readSet]
    split
    · exact error (by decide) _
    · split
      · exact value _ _
      · exact error (by decide) _
  · exact error (by decide) _

theorem Chain.read_failsAt (room : Nat) (t : Text) : FailsAt [.action] (read room t) := by
  induction room generalizing t with
  | zero =>
    cases start : Text.trimStart t with
    | nil => exact read_end start ▸ ok []
    | cons c rest => exact read_full start ▸ error (by decide) _
  | succ room ih =>
    cases start : Text.trimStart t with
    | nil => exact read_end start ▸ ok []
    | cons c rest =>
      rw [read_step start]
      exact (Step.read_failsAt _).bind fun _ => (ih _).bind fun _ => ok _

namespace Program

theorem readSection_failsAt {missing : Cause} (listed : missing.stage ∈ [Stage.program])
    (keyword : Char) (t : Text) : FailsAt [.program] (readSection keyword missing t) := by
  rw [readSection_eq]
  refine (of_expect keyword listed _).bind fun _ => ?_
  refine (of_expect '{' (by decide) _).bind fun _ => ?_
  exact (of_expect '}' (by decide) _).bind fun _ => ok _

theorem readBodies_failsAt (t : Text) : FailsAt [.program] (readBodies t) := by
  refine (readSection_failsAt (by decide) 'q' t).bind fun _ => ?_
  refine (readSection_failsAt (by decide) 't' _).bind fun _ => ?_
  refine (readSection_failsAt (by decide) 'f' _).bind fun _ => ?_
  dsimp only
  split
  · exact ok _
  · exact error (by decide) _

end Program
end RowSieve
