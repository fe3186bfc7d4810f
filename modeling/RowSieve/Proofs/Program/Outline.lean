import RowSieve.Program.Explain
import RowSieve.Proofs.Program.RoundTrip
import RowSieve.Proofs.Text.Escaped
import RowSieve.Query.Preorder

/-! An explanation tells its program. A field is shown as it is, but it ends where the relation
begins, and a value stands in escaped form, which shows where it ends; so a line tells its node, and
as every line of an outline has the indentation of its depth, the lines tell the tree. -/
namespace RowSieve

namespace Atom

def castNote (k : Cast) : Text :=
  " as ".toList ++ (k.name ++ if k = .integer then " (compared as string)".toList else [])

theorem castNote_inj {k k' : Cast} (same : castNote k = castNote k') : k = k' := by
  have table : ∀ k k' : Cast, castNote k = castNote k' → k = k' := by
    intro k k'
    cases k <;> cases k' <;> decide
  exact table k k' same

theorem explain_eq (a : Atom) :
    a.explain = (a.field ++ [' ']) ++
      a.relation.symbol :: ' ' :: (Text.escaped a.value ++ castNote a.cast) := by
  have regroup (shown word name note : Text) :
      a.field ++ ' ' :: a.relation.symbol :: ' ' :: shown ++ word ++ name ++ note =
        (a.field ++ [' ']) ++ a.relation.symbol :: ' ' :: (shown ++ (word ++ (name ++ note))) := by
    simp
  exact regroup _ _ _ _

theorem symbol_mem_explain (a : Atom) : a.relation.symbol ∈ a.explain := by
  rw [explain_eq]
  exact List.mem_append_right _ List.mem_cons_self

theorem inField_space {field : Text} (named : ∀ c ∈ field, inField c = true) :
    ∀ c ∈ field ++ [' '], inField c = true :=
  List.forall_mem_append.mpr ⟨named, List.forall_mem_singleton.mpr rfl⟩

/-- A field without the symbol of a relation ends in one place. -/
theorem explain_inj {a a' : Atom} (named : ∀ c ∈ a.field, inField c = true)
    (named' : ∀ c ∈ a'.field, inField c = true) (same : a.explain = a'.explain) : a = a' := by
  rw [explain_eq, explain_eq] at same
  obtain ⟨front, symbols, behind⟩ := Text.append_stop_inj (inField_space named)
    (inField_space named') (inField_symbol _) (inField_symbol _) same
  obtain ⟨values, notes⟩ := Text.escaped_append_inj (List.cons.inj behind).2
  have fields : a.field = a'.field := List.append_cancel_right front
  have relations : a.relation = a'.relation := by
    have symbol := congrArg Relation.ofSymbol? symbols
    simpa using symbol
  have casts := castNote_inj notes
  obtain ⟨_, _, _, _⟩ := a
  obtain ⟨_, _, _, _⟩ := a'
  simp_all

end Atom

namespace Query

def Node.line : Node → Text
  | atom a => a.explain
  | and => "AND".toList
  | or => "OR".toList
  | not => "NOT".toList

/-- The node can be an atom only if its field ends where the relation begins. -/
def Node.Named : Node → Prop
  | atom a => ∀ c ∈ a.field, Atom.inField c = true
  | and | or | not => True

/-- The word for a connective has no symbol of a relation. -/
theorem Node.symbol_notMem_line {n : Node} (connective : n.isConnective = true) (r : Relation) :
    r.symbol ∉ n.line := by
  cases n with
  | atom => contradiction
  | and | or | not => cases r <;> decide

theorem Node.line_ne_explain {n : Node} (connective : n.isConnective = true) (a : Atom) :
    n.line ≠ a.explain :=
  fun same => Node.symbol_notMem_line connective a.relation (same ▸ a.symbol_mem_explain)

theorem Node.line_inj {n n' : Node} (named : n.Named) (named' : n'.Named)
    (same : n.line = n'.line) : n = n' := by
  have words : Node.and.line ≠ Node.or.line ∧ Node.and.line ≠ Node.not.line ∧
      Node.or.line ≠ Node.not.line := by decide
  cases n with
  | atom a =>
    cases n' with
    | atom a' => rw [Atom.explain_inj named named' same]
    | and | or | not => exact absurd same.symm (Node.line_ne_explain rfl a)
  | and | or | not =>
    cases n' with
    | atom a' => exact absurd same (Node.line_ne_explain rfl a')
    | and | or | not => simp_all

/-- The outline has one line for each node, in preorder, indented by its depth. -/
theorem outline_eq (depth : Nat) (q : Query) :
    q.outline depth = (q.preorder depth).map fun (level, node) => indent level ++ node.line := by
  induction q generalizing depth with
  | atom a => rfl
  | and l r left right | or l r left right =>
    simp only [outline, preorder, List.map_cons, List.map_append, left, right]
    rfl
  | not q child =>
    simp only [outline, preorder, List.map_cons, child]
    rfl

theorem outline_cons (depth : Nat) (q : Query) :
    q.outline depth = (indent depth ++ q.root.line) :: q.operands.flatMap (outline (depth + 1)) := by
  cases q <;> simp [outline, root, operands, Node.line]

def Named (q : Query) : Prop := ∀ a ∈ q.atoms, ∀ c ∈ a.field, Atom.inField c = true

theorem Named.root {q : Query} (named : q.Named) : q.root.Named := by
  cases q with
  | atom a => exact named a (by simp [atoms])
  | and | or | not => trivial

/-- The first line of an outline tells the root, and what is left of the lines is about its
operands. -/
theorem root_of_outline {q q' : Query} (named : q.Named) (named' : q'.Named) {depth : Nat}
    {rest rest' : List Text} (same : q.outline depth ++ rest = q'.outline depth ++ rest') :
    q.root = q'.root ∧ q.operands.flatMap (outline (depth + 1)) ++ rest =
      q'.operands.flatMap (outline (depth + 1)) ++ rest' := by
  rw [outline_cons, outline_cons, List.cons_append, List.cons_append] at same
  obtain ⟨heads, behind⟩ := List.cons.inj same
  exact ⟨Node.line_inj named.root named'.root (List.append_cancel_left heads), behind⟩

/-- Two outlines from one depth that begin the same list of lines are those of one tree. -/
theorem outline_append_inj {q q' : Query} (named : q.Named) (named' : q'.Named) {depth : Nat}
    {rest rest' : List Text} (same : q.outline depth ++ rest = q'.outline depth ++ rest') :
    q = q' ∧ rest = rest' := by
  induction q generalizing q' depth rest rest' with
  | atom a =>
    obtain ⟨roots, behind⟩ := root_of_outline named named' same
    cases q' <;> cases roots
    exact ⟨rfl, behind⟩
  | and l r left right | or l r left right =>
    obtain ⟨roots, behind⟩ := root_of_outline named named' same
    cases q' <;> cases roots
    obtain ⟨namedLeft, namedRight⟩ := List.forall_mem_append.mp named
    obtain ⟨namedLeft', namedRight'⟩ := List.forall_mem_append.mp named'
    simp only [operands, List.flatMap_cons, List.flatMap_nil, List.append_nil,
      List.append_assoc] at behind
    obtain ⟨rfl, afterLeft⟩ := left namedLeft namedLeft' behind
    obtain ⟨rfl, afterRight⟩ := right namedRight namedRight' afterLeft
    exact ⟨rfl, afterRight⟩
  | not q child =>
    obtain ⟨roots, behind⟩ := root_of_outline named named' same
    cases q' <;> cases roots
    rename_i q'
    have namedChild : q'.Named := named'
    simp only [operands, List.flatMap_cons, List.flatMap_nil, List.append_nil] at behind
    obtain ⟨rfl, afterChild⟩ := child named namedChild behind
    exact ⟨rfl, afterChild⟩

theorem outline_inj {q q' : Query} (named : q.Named) (named' : q'.Named) {depth : Nat}
    (same : q.outline depth = q'.outline depth) : q = q' :=
  (outline_append_inj named named' (congrArg (· ++ []) same)).1

/-- A query that was read has such fields. -/
theorem named_of_readable {q : Query} {above : Nat} (readable : q.readableUnder above = true) :
    q.Named := by
  induction q generalizing above with
  | atom a =>
    have parted := (Atom.readableUnder_iff.mp readable).1
    exact List.forall_mem_singleton.mpr parted.field
  | and l r left right | or l r left right =>
    obtain ⟨inLeft, inRight⟩ := Bool.and_eq_true_iff.mp readable
    exact List.forall_mem_append.mpr ⟨left inLeft, right inRight⟩
  | not q child => exact child readable

end Query

namespace Step

theorem explain_set (field value : Text) :
    (set field value).explain =
      "set ".toList ++ ((field ++ [' ']) ++ '=' :: ' ' :: Text.escaped value) := by
  -- Regrouping is slow where the words are spelled out.
  have regroup (word shown : Text) : word ++ field ++ [' ', '=', ' '] ++ shown =
      word ++ ((field ++ [' ']) ++ '=' :: ' ' :: shown) := by simp
  exact regroup _ _

theorem explain_print_ne (field value : Text) : print.explain ≠ (set field value).explain := by
  intro same
  have letters : some 'p' = some 's' := congrArg List.head? same
  exact absurd letters (by decide)

/-- A field without the `=` of a setting ends in one place. -/
theorem explain_inj {s s' : Step} (fits : s.Fits) (fits' : s'.Fits)
    (same : s.explain = s'.explain) : s = s' := by
  have passes {field : Text} (fit : FieldFits field) : ∀ c ∈ field ++ [' '], decide (c ≠ '=') :=
    Text.passes_of_not_mem (by simp [fit.no_equals])
  cases s with
  | print =>
    cases s' with
    | print => rfl
    | set field' value' => exact absurd same (explain_print_ne field' value')
  | set field value =>
    cases s' with
    | print => exact absurd same.symm (explain_print_ne field value)
    | set field' value' =>
      rw [explain_set, explain_set] at same
      obtain ⟨front, _, behind⟩ := Text.append_stop_inj (passes fits.1) (passes fits'.1)
        (by decide) (by decide) (List.append_cancel_left same)
      have fields := List.append_cancel_right front
      have values := (List.cons.inj behind).2
      rw [fields, (Text.escaped_append_inj (congrArg (· ++ []) values)).1]

end Step

namespace Chain

theorem map_explain_inj {c c' : Chain} (fits : ∀ s ∈ c, s.Fits) (fits' : ∀ s ∈ c', s.Fits)
    (same : c.map Step.explain = c'.map Step.explain) : c = c' := by
  induction c generalizing c' with
  | nil => exact (List.map_eq_nil_iff.mp same.symm).symm
  | cons s steps ih =>
    cases c' with
    | nil => contradiction
    | cons s' steps' =>
      obtain ⟨first, rest⟩ := List.cons.inj same
      obtain ⟨fit, fits⟩ := List.forall_mem_cons.mp fits
      obtain ⟨fit', fits'⟩ := List.forall_mem_cons.mp fits'
      rw [Step.explain_inj fit fit' first, ih fits fits' rest]

end Chain

namespace Program

/-- The parts of a program that was read can be told from their explanations. -/
theorem legible_of_parse {t : Text} {p : Program} (read : parse t = .ok p) :
    p.query.Named ∧ (∀ s ∈ p.onTrue, s.Fits) ∧ ∀ s ∈ p.onFalse, s.Fits := by
  obtain ⟨f, _, _, bodies⟩ := parse_eq_ok_iff_framed.mp read
  obtain ⟨query, onTrue, onFalse⟩ := ofBodies_eq_ok_iff.mp bodies
  exact ⟨Query.named_of_readable (Query.readable_of_parse query),
    (Chain.writable_of_parse onTrue).fits, (Chain.writable_of_parse onFalse).fits⟩

/-- The explanations of two programs that were read tell them apart part by part. The lines about
the query are its nodes from the root down and from left to right, each behind two blanks for every
connective above it. -/
theorem explain_unambiguous {t t' : Text} {p p' : Program} (read : parse t = .ok p)
    (read' : parse t' = .ok p') :
    (p.explain.query = p'.explain.query → p.query = p'.query) ∧
      (p.explain.onTrue = p'.explain.onTrue → p.onTrue = p'.onTrue) ∧
      (p.explain.onFalse = p'.explain.onFalse → p.onFalse = p'.onFalse) ∧
      p.explain.query = (p.query.preorder 0).map (fun (level, node) =>
        List.replicate (2 * level) ' ' ++ node.line) ∧
      p.explain.query.length = p.query.nodes := by
  obtain ⟨named, onTrue, onFalse⟩ := legible_of_parse read
  obtain ⟨named', onTrue', onFalse'⟩ := legible_of_parse read'
  have lines := Query.outline_eq 0 p.query
  refine ⟨?_, ?_, ?_, lines, ?_⟩
  · exact fun same => Query.outline_inj named named' same
  · exact fun same => Chain.map_explain_inj onTrue onTrue' same
  · exact fun same => Chain.map_explain_inj onFalse onFalse' same
  · rw [← Query.length_preorder 0, explain, lines, List.length_map]

/-- Two spellings of one program whose atoms imitate a connective and an indentation. -/
theorem explain_unambiguous_imitations :
    let t : Text := ['q', '{', '(', 'O', 'R', '=', '"', ')', '&', '(', '!', '(', '=', 'x', ' ', '.',
      'i', ')', ')', '}', 't', '{', 's', ' ', 'a', '"', '=', '"', ';', 'p', ';', '}', 'f', '{', '}']
    let t' : Text := ['q', ' ', '{', '(', ' ', 'O', 'R', '=', '"', '.', 's', ')', '&', '(', '!', '(',
      '=', 'x', ' ', '.', 'i', ')', ')', '}', 't', '{', 's', ' ', ' ', 'a', '"', '=', '"', ';', ' ',
      'p', ';', '}', 'f', '{', ' ', '}']
    let p : Program := ⟨.and (.atom ⟨['O', 'R'], .equal, ['"'], .text⟩)
      (.not (.atom ⟨[], .equal, ['x', ' '], .integer⟩)), [.set ['a', '"'] ['"'], .print], []⟩
    parse t = .ok p ∧ parse t' = .ok p ∧
      p.explain.query = ["AND".toList, "  OR = \"\\\"\" as string".toList, "  NOT".toList,
        "     = \"x \" as int (compared as string)".toList] ∧
      p.explain.query.length = p.query.nodes ∧
      ∀ q : Program, parse t' = .ok q → p.explain.query = q.explain.query → p.query = q.query := by
  intro t t' p
  have read : parse t = .ok p := by rfl
  have read' : parse t' = .ok p := by rfl
  refine ⟨read, read', ?_, (explain_unambiguous read read').2.2.2.2, ?_⟩
  · rw [(explain_unambiguous read read').2.2.2.1]
    decide
  · exact fun q readAgain => (explain_unambiguous read readAgain).1

end Program
end RowSieve
