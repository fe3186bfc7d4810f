import RowSieve.Program.Parse

/-! The frame of a program: its three bodies with their keywords and braces, and the gaps
before, between and behind them. -/
namespace RowSieve.Program

def AllGap (t : Text) : Prop := ∀ c ∈ t, isGap c = true

/-- A section with its keyword as it stands in a text: the gap before the keyword, the gap
before the brace, and the body. -/
structure FramedSection where
  before : Text
  inner : Text
  body : Text
  deriving DecidableEq, Repr

namespace FramedSection

def text (s : FramedSection) (keyword : Char) : Text :=
  s.before ++ keyword :: s.inner ++ '{' :: s.body ++ ['}']

structure WellFormed (s : FramedSection) : Prop where
  before_gap : AllGap s.before
  inner_gap : AllGap s.inner
  body_open : '}' ∉ s.body

end FramedSection

structure Frame where
  query : FramedSection
  onTrue : FramedSection
  onFalse : FramedSection
  after : Text
  deriving DecidableEq, Repr

namespace Frame

def text (f : Frame) : Text :=
  f.query.text 'q' ++ f.onTrue.text 't' ++ f.onFalse.text 'f' ++ f.after

structure WellFormed (f : Frame) : Prop where
  query_formed : f.query.WellFormed
  onTrue_formed : f.onTrue.WellFormed
  onFalse_formed : f.onFalse.WellFormed
  after_gap : AllGap f.after

def bodies (f : Frame) : Bodies := ⟨f.query.body, f.onTrue.body, f.onFalse.body⟩

end Frame
end RowSieve.Program
