import RowSieve.Proofs.Text.Cut
import RowSieve.SyntaxError

/-! Readers that go over their text once. What such a reader leaves unread tells how far it
has looked: while something is left, the outcome stands whatever follows the text, and once
nothing is left, it can only go on from the end. Chaining readers and skipping blanks keep this,
so a whole grammar has it as soon as its smallest readers do. -/
namespace RowSieve

variable {α β : Type}

/-- The text that an outcome leaves, be it a success or a failure. -/
def unread : Except Failure (α × Text) → Text
  | .ok (_, rest) => rest
  | .error f => f.rest

def leaving (more : Text) : Except Failure (α × Text) → Except Failure (α × Text)
  | .ok (a, rest) => .ok (a, rest ++ more)
  | .error f => .error ⟨f.cause, f.rest ++ more⟩

@[simp] theorem unread_ok (a : α) (rest : Text) :
    unread (.ok (a, rest) : Except Failure (α × Text)) = rest := rfl

@[simp] theorem unread_error (f : Failure) :
    unread (.error f : Except Failure (α × Text)) = f.rest := rfl

@[simp] theorem leaving_ok (more : Text) (a : α) (rest : Text) :
    leaving more (.ok (a, rest)) = .ok (a, rest ++ more) := rfl

@[simp] theorem leaving_error (more : Text) (f : Failure) :
    leaving more (.error f : Except Failure (α × Text)) = .error ⟨f.cause, f.rest ++ more⟩ := rfl

@[simp] theorem unread_leaving (more : Text) (outcome : Except Failure (α × Text)) :
    unread (leaving more outcome) = unread outcome ++ more := by
  cases outcome <;> rfl

@[simp] theorem leaving_leaving (more rest : Text) (outcome : Except Failure (α × Text)) :
    leaving more (leaving rest outcome) = leaving (rest ++ more) outcome := by
  rcases outcome with f | ⟨a, left⟩ <;> simp

/-- How a reader treats one text and everything that continues it. -/
structure Sequential.At (read : Text → Except Failure (α × Text)) (t : Text) : Prop where
  within : unread (read t) <:+ t
  settled : unread (read t) ≠ [] → ∀ more, read (t ++ more) = leaving more (read t)
  beyond : unread (read t) = [] → ∀ more, unread (read (t ++ more)) <:+ more

/-- A reader that goes over every text from left to right. -/
def Sequential (read : Text → Except Failure (α × Text)) : Prop := ∀ t, Sequential.At read t

namespace Sequential

variable {read : Text → Except Failure (α × Text)} {t : Text}

/-- The empty text has nothing to settle, and what continues it is a text of its own. -/
theorem of_cons (ended : unread (read []) = []) (begun : ∀ c t, At read (c :: t)) :
    Sequential read := by
  have within (t : Text) : unread (read t) <:+ t := by
    cases t with
    | nil => simp [ended]
    | cons c t => exact (begun c t).within
  intro t
  cases t with
  | nil => exact ⟨within [], fun left => absurd ended left, fun _ more => within more⟩
  | cons c t => exact begun c t

/-- It is enough to look at what a reader does behind some part that it passes over. -/
theorem At.append {passed : Text} (h : At (fun t => read (passed ++ t)) t) :
    At read (passed ++ t) where
  within := h.within.trans (List.suffix_append ..)
  settled left more := by
    rw [List.append_assoc]
    exact h.settled left more
  beyond ended more := by
    rw [List.append_assoc]
    exact h.beyond ended more

theorem At.cons {c : Char} (h : At (fun t => read (c :: t)) t) : At read (c :: t) :=
  show At read ([c] ++ t) from At.append h

theorem At.congr {other : Text → Except Failure (α × Text)} (h : At other t)
    (same : ∀ more, read (t ++ more) = other (t ++ more)) : At read t := by
  have here : read t = other t := by simpa using same []
  constructor
  · rw [here]
    exact h.within
  · intro left more
    rw [here] at left ⊢
    rw [same]
    exact h.settled left more
  · intro ended more
    rw [here] at ended
    rw [same]
    exact h.beyond ended more

theorem ok (a : α) : Sequential fun t => .ok (a, t) := by
  intro t
  refine ⟨List.suffix_rfl, fun _ _ => rfl, ?_⟩
  rintro rfl more
  exact List.suffix_rfl

theorem fail (cause : Cause) :
    Sequential fun t => (.error ⟨cause, t⟩ : Except Failure (α × Text)) := by
  intro t
  refine ⟨List.suffix_rfl, fun _ _ => rfl, ?_⟩
  rintro rfl more
  exact List.suffix_rfl

/-- Nothing but the end of the text, or a character that may stand there, is in order. -/
theorem closed (a : α) (cause : Cause) (closing : Char → Bool) :
    Sequential fun t => if t.head?.all closing then .ok (a, t) else .error ⟨cause, t⟩ := by
  refine of_cons rfl fun c t => ?_
  by_cases closes : closing c = true
  · exact At.congr (ok a (c :: t)) fun more => by simp [closes]
  · exact At.congr (fail cause (c :: t)) fun more => by simp [closes]

theorem unread_bind {next : α × Text → Except Failure (β × Text)}
    (following : ∀ a, Sequential fun t => next (a, t)) (outcome : Except Failure (α × Text)) :
    unread (outcome >>= next) <:+ unread outcome := by
  cases outcome with
  | error f => exact List.suffix_rfl
  | ok found => exact (following found.1 found.2).within

theorem At.bind {next : α × Text → Except Failure (β × Text)} (first : At read t)
    (following : ∀ a, Sequential fun t => next (a, t)) : At (fun t => read t >>= next) t := by
  have closer (text : Text) := unread_bind following (read text)
  refine ⟨(closer t).trans first.within, ?_, ?_⟩
  · intro left more
    -- What the chain leaves, its first reader has left too, so that reader is settled.
    have opened : unread (read t) ≠ [] := fun ended => left (by simpa [ended] using closer t)
    rw [first.settled opened more]
    cases outcome : read t with
    | error f => rfl
    | ok found =>
      rw [outcome] at left
      exact (following found.1 found.2).settled left more
  · intro ended more
    -- Either the first reader already looked at the end, or only what follows it did.
    by_cases early : unread (read t) = []
    · exact (closer (t ++ more)).trans (first.beyond early more)
    · rw [first.settled early more]
      cases outcome : read t with
      | error f => exact absurd (by simpa [outcome, Bind.bind, Except.bind] using ended) early
      | ok found =>
        rw [outcome] at ended
        exact (following found.1 found.2).beyond ended more

theorem bind {next : α × Text → Except Failure (β × Text)} (first : Sequential read)
    (following : ∀ a, Sequential fun t => next (a, t)) : Sequential fun t => read t >>= next :=
  fun t => (first t).bind following

theorem At.map (f : α → β) (h : At read t) :
    At (fun t => (read t).map fun (a, rest) => (f a, rest)) t :=
  At.congr (h.bind fun a => Sequential.ok (f a)) fun more => by cases read (t ++ more) <;> rfl

/-- A reader may first pass over the characters of some kind, if it has nothing left where
there are no others and goes on from the first other one. -/
theorem upTo (kind : Char → Bool) (next : Text → Text → Except Failure (α × Text))
    (unstopped : ∀ t, t.dropWhile kind = [] → unread (read t) = [])
    (on : ∀ t c rest, t.dropWhile kind = c :: rest → read t = next (t.takeWhile kind) (c :: rest))
    (following : ∀ before c rest, kind c = false → At (next before) (c :: rest)) :
    Sequential read := by
  have within (t : Text) : unread (read t) <:+ t.dropWhile kind := by
    cases stop : t.dropWhile kind with
    | nil => simp [unstopped t stop]
    | cons c rest =>
      rw [on t c rest stop]
      exact (following _ c rest (Text.dropWhile_eq_cons_iff.mp stop).1).within
  intro t
  cases stop : t.dropWhile kind with
  | nil =>
    have ended := unstopped t stop
    refine ⟨by simp [ended], fun left => absurd ended left, fun _ more => ?_⟩
    have passed : (t ++ more).dropWhile kind = more.dropWhile kind :=
      List.dropWhile_append_of_pos (List.dropWhile_eq_nil_iff.mp stop)
    exact (passed ▸ within (t ++ more)).trans (List.dropWhile_suffix _)
  | cons c rest =>
    obtain ⟨other, pass, parts⟩ := Text.dropWhile_eq_cons_iff.mp stop
    rw [parts]
    refine At.append (At.congr (following (t.takeWhile kind) c rest other) fun more => ?_)
    rw [List.cons_append, on _ c (rest ++ more) (Text.dropWhile_append_stop pass other),
      Text.takeWhile_append_stop pass other]

/-- Characters of some kind may be skipped first. -/
theorem skipping (kind : Char → Bool) (h : Sequential read) :
    Sequential fun t => read (t.dropWhile kind) := by
  refine upTo kind (fun _ => read) ?_ ?_ fun _ c rest _ => h (c :: rest)
  · intro t skipped
    simp only [skipped]
    exact List.suffix_nil.mp (h []).within
  · intro t c rest stop
    simp only [stop]

theorem trimmed (h : Sequential read) : Sequential fun t => read (Text.trimStart t) :=
  h.skipping isBlank

end Sequential

def whole (read : Text → Except Failure α) (t : Text) : Except Failure (α × Text) :=
  (read t).map (·, [])

end RowSieve
