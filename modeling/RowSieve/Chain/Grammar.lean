import RowSieve.Chain.Parse

/-! The written forms of a chain: blanks, then steps that are each followed by blanks. A
setting may have blanks behind its `s`; its field and value are taken as they stand. -/
namespace RowSieve

namespace Step

/-- A field that can be set: it is there, it begins with no blank, and neither of the
characters that end it occurs in it. -/
structure FieldFits (field : Text) : Prop where
  begins : ∃ c rest, field = c :: rest ∧ isBlank c = false
  no_equals : '=' ∉ field
  no_end : ';' ∉ field

def Fits : Step → Prop
  | print => True
  | set field value => FieldFits field ∧ ';' ∉ value

/-- A step as it stands in a text: the blanks behind the `s` of a setting, and the blanks
behind its `;`. -/
structure Placed where
  step : Step
  inner : Text
  after : Text
  deriving DecidableEq, Repr

namespace Placed

def own (p : Placed) : Text :=
  match p.step with
  | print => ['p', ';']
  | set field value => 's' :: p.inner ++ field ++ '=' :: value ++ [';']

def text (p : Placed) : Text := p.own ++ p.after

structure WellFormed (p : Placed) : Prop where
  fits : p.step.Fits
  inner_blank : AllBlank p.inner
  inner_print : p.step = .print → p.inner = []
  after_blank : AllBlank p.after

end Placed
end Step

namespace Chain

structure Placed where
  before : Text
  steps : List Step.Placed
  deriving DecidableEq, Repr

namespace Placed

def text (p : Placed) : Text := p.before ++ p.steps.flatMap Step.Placed.text

def chain (p : Placed) : Chain := p.steps.map Step.Placed.step

structure WellFormed (p : Placed) : Prop where
  before_blank : AllBlank p.before
  steps_formed : ∀ s ∈ p.steps, s.WellFormed
  short : p.steps.length ≤ maxSteps

end Placed

/-- The text is a written form of the chain. -/
def Written (c : Chain) (t : Text) : Prop :=
  ∃ p : Placed, p.WellFormed ∧ p.text = t ∧ p.chain = c

end Chain
end RowSieve
