import RowSieve.Program.Explain
import RowSieve.Proofs.Program.Attributed
import RowSieve.Proofs.Program.Outline
import RowSieve.Proofs.Terminal

/-! What is shown of a program in colours is what is shown without them. The outline is coloured
line by line from the finished text: a line is taken for a connective if nothing but its word is
left behind the indentation, which is never so for an atom, whatever its field looks like. -/
namespace RowSieve

open Terminal

def Program.Plain (p : Program) : Prop := ∀ u ∈ p.texts, Terminal.Plain u

theorem Program.Frame.body_subset (f : Program.Frame) (part : Part) :
    f.bodies.of part ⊆ f.text := by
  intro c inside
  cases part <;> simp_all [Bodies.of, bodies, text, FramedSection.text]

namespace Program

theorem plain_of_parse {t : Text} {p : Program} (plain : Terminal.Plain t)
    (read : parse t = .ok p) : p.Plain := by
  obtain ⟨f, _, rfl, inBodies⟩ := texts_subset_of_parse read
  intro u member
  rcases inBodies u member with here | here | here
  · exact plain.mono (List.Subset.trans here (f.body_subset .query))
  · exact plain.mono (List.Subset.trans here (f.body_subset .onTrue))
  · exact plain.mono (List.Subset.trans here (f.body_subset .onFalse))

/-- A rejection quotes the text or a part of it. -/
theorem plain_of_rejected {t : Text} {e : SyntaxError} (plain : Terminal.Plain t)
    (rejected : parse t = .error e) : Terminal.Plain e.text := by
  rw [parse] at rejected
  split at rejected
  · obtain rfl := Except.error.inj rejected
    exact plain
  · rename_i b found
    obtain ⟨f, _, rfl, rfl⟩ := readBodies_eq_ok_iff.mp found
    obtain ⟨part, own, failed, _, rfl⟩ := ofBodies_eq_error rejected
    have quoted : own.text = Text.trim (f.bodies.of part) :=
      (SyntaxError.located_of_verdict failed).text
    have inside : (own.within part).text ⊆ f.text := by
      rw [SyntaxError.within, quoted]
      exact List.Subset.trans (Text.trim_subset _) (f.body_subset part)
    exact plain.mono inside

theorem plain_render {p : Program} (plain : p.Plain) : Terminal.Plain p.render := by
  simp only [Plain, texts, List.mem_append] at plain
  have query : Terminal.Plain p.query.render :=
    Query.notMem_render (by decide) fun u inside => plain u (.inl inside)
  have onTrue : Terminal.Plain (Chain.render p.onTrue) :=
    Chain.notMem_render (by decide) fun u inside => plain u (.inr (.inl inside))
  have onFalse : Terminal.Plain (Chain.render p.onFalse) :=
    Chain.notMem_render (by decide) fun u inside => plain u (.inr (.inr inside))
  have signs : escape ≠ 'q' ∧ escape ≠ 't' ∧ escape ≠ 'f' ∧ escape ≠ '{' ∧ escape ≠ '}' ∧
      escape ≠ ' ' := by decide
  simp [render, renderSection, query, onTrue, onFalse, signs]

end Program

namespace Atom

theorem plain_castNote (k : Cast) : Terminal.Plain (castNote k) := by
  cases k <;> decide

theorem plain_explain {a : Atom} (field : Terminal.Plain a.field) : Terminal.Plain a.explain := by
  have symbol : escape ≠ a.relation.symbol := by cases a.relation <;> decide
  have blank : escape ≠ ' ' := by decide
  have value : Terminal.Plain (Text.escaped a.value) := Text.no_escape_escaped a.value
  rw [explain_eq]
  simp [field, symbol, blank, value, plain_castNote]

end Atom

theorem plain_indented {line : Text} (plain : Terminal.Plain line) (depth : Nat) :
    Terminal.Plain (indent depth ++ line) :=
  plain_append.mpr ⟨plain_replicate _ (by decide), plain⟩

theorem Query.plain_outline {q : Query} (fields : ∀ a ∈ q.atoms, Terminal.Plain a.field)
    (depth : Nat) : ∀ line ∈ q.outline depth, Terminal.Plain line := by
  induction q generalizing depth with
  | atom a =>
    have field := fields a (List.mem_singleton_self a)
    exact List.forall_mem_singleton.mpr (plain_indented (Atom.plain_explain field) depth)
  | and l r left right | or l r left right =>
    obtain ⟨inLeft, inRight⟩ := List.forall_mem_append.mp fields
    rw [outline, List.cons_append, List.forall_mem_cons, List.forall_mem_append]
    exact ⟨plain_indented (.literal (by decide)) depth, left inLeft _, right inRight _⟩
  | not q child =>
    rw [outline, List.forall_mem_cons]
    exact ⟨plain_indented (.literal (by decide)) depth, child fields _⟩

theorem Step.plain_explain {s : Step} (texts : ∀ u ∈ s.texts, Terminal.Plain u) :
    Terminal.Plain s.explain := by
  cases s with
  | print => exact .literal (by decide)
  | set field value =>
    have named : Terminal.Plain field := texts field (by simp [Step.texts])
    have signs : escape ≠ ' ' ∧ escape ≠ '=' := by decide
    have shown : Terminal.Plain (Text.escaped value) := Text.no_escape_escaped value
    rw [explain_set, plain_append]
    exact ⟨.literal (by decide), by simp [named, signs, shown]⟩

namespace Explanation

structure Plain (e : Explanation) : Prop where
  source : Terminal.Plain e.source
  query : ∀ line ∈ e.query, Terminal.Plain line
  onTrue : ∀ step ∈ e.onTrue, Terminal.Plain step
  onFalse : ∀ step ∈ e.onFalse, Terminal.Plain step

theorem plain_explain {p : Program} (plain : p.Plain) : p.explain.Plain where
  source := Program.plain_render plain
  query := by
    refine Query.plain_outline (fun a member => ?_) 0
    refine plain a.field (List.mem_append_left _ (List.mem_flatMap.mpr ⟨a, member, ?_⟩))
    exact List.mem_cons_self
  onTrue := by
    intro line member
    obtain ⟨s, step, rfl⟩ := List.mem_map.mp member
    refine Step.plain_explain fun u inside => plain u ?_
    exact List.mem_append_right _ (List.mem_append_left _ (List.mem_flatMap.mpr ⟨s, step, inside⟩))
  onFalse := by
    intro line member
    obtain ⟨s, step, rfl⟩ := List.mem_map.mp member
    refine Step.plain_explain fun u inside => plain u ?_
    exact List.mem_append_right _ (List.mem_append_right _ (List.mem_flatMap.mpr ⟨s, step, inside⟩))

theorem takeWhile_append_trimStart (line : Text) :
    line.takeWhile isBlank ++ Text.trimStart line = line :=
  List.takeWhile_append_dropWhile

theorem shows_line {line : Text} (plain : Terminal.Plain line) :
    Shows (colouredLine line) ("    ".toList ++ line) := by
  have margin : Shows "    ".toList "    ".toList := .literal (by decide)
  have blanks : Terminal.Plain (line.takeWhile isBlank) :=
    plain.mono (List.takeWhile_sublist _).subset
  have bare : Terminal.Plain (Text.trimStart line) := plain.mono (List.dropWhile_sublist _).subset
  have whole : "    ".toList ++ line.takeWhile isBlank ++ Text.trimStart line =
      "    ".toList ++ line :=
    (List.append_assoc ..).trans (congrArg _ (takeWhile_append_trimStart line))
  rw [← whole]
  exact (margin.append (.of_plain blanks)).append ((Shows.of_plain bare).paint .cyan _)

theorem shows_stepLines {steps : List Text} (plain : ∀ step ∈ steps, Terminal.Plain step)
    (n : Nat) : List.Forall₂ Shows (colouredStepLines n steps) (stepLines n steps) := by
  induction steps generalizing n with
  | nil => exact .nil
  | cons step steps ih =>
    obtain ⟨first, more⟩ := List.forall_mem_cons.mp plain
    have number : Shows (Text.decimal n ++ ['.']) (Text.decimal n ++ ['.']) :=
      .of_plain ((plain_decimal n).append (by decide))
    have grouped : "    ".toList ++ Text.decimal n ++ ['.'] =
        "    ".toList ++ (Text.decimal n ++ ['.']) := List.append_assoc ..
    refine .cons ?_ (ih more (n + 1))
    rw [grouped]
    exact (Shows.append (.literal (by decide)) (number.paint .dim true)).append
      (.of_plain (plain_cons.mpr ⟨by decide, first⟩))

theorem shows_chainLines {label : Text} {steps : List Text} (title : Terminal.Plain label)
    (plain : ∀ step ∈ steps, Terminal.Plain step) :
    List.Forall₂ Shows (colouredChainLines label steps) (chainLines label steps) := by
  have heading : Shows (label ++ [':']) (label ++ [':']) :=
    .of_plain (title.append (by decide))
  have nothing : Shows "(no action)".toList "(no action)".toList := .literal (by decide)
  rw [chainLines, List.append_assoc]
  refine .cons (Shows.append (.literal (by decide)) (heading.paint .bold true)) ?_
  split
  · exact .cons (Shows.append (.literal (by decide)) (nothing.paint .dim true)) .nil
  · exact shows_stepLines plain 1

theorem shows_render {e : Explanation} (plain : e.Plain) :
    Shows (e.render true) (e.render false) := by
  have title : Shows "Program:".toList "Program:".toList := .literal (by decide)
  have heading : Shows "Query:".toList "Query:".toList := .literal (by decide)
  have source : Shows e.source e.source := .of_plain plain.source
  have outline : List.Forall₂ Shows (e.query.map colouredLine)
      (e.query.map ("    ".toList ++ ·)) := by
    rw [List.forall₂_map_left_iff, List.forall₂_map_right_iff, List.forall₂_same]
    exact fun line member => shows_line (plain.query line member)
  have top := (title.paint .bold true).append
    (Shows.cons (c := ' ') (by decide) (source.paint .boldGreen true))
  have margin : Shows "  ".toList "  ".toList := .literal (by decide)
  have second := margin.append (heading.paint .bold true)
  refine Shows.lines (List.rel_append (List.rel_append (.cons top (.cons second outline)) ?_) ?_)
  · exact shows_chainLines (.literal (by decide)) plain.onTrue
  · exact shows_chainLines (.literal (by decide)) plain.onFalse

theorem trimStart_indented (depth : Nat) (line : Text) :
    Text.trimStart (indent depth ++ line) = Text.trimStart line := by
  refine Text.trimStart_append_of_blank fun c member => ?_
  rw [List.eq_of_mem_replicate member]
  decide

theorem trimStart_connective {n : Query.Node} (connective : n.isConnective = true) :
    Text.trimStart n.line = n.line := by
  cases n with
  | atom => contradiction
  | and | or | not => decide

/-- The line of an atom has the symbol of its relation, which is no blank. -/
theorem symbol_mem_trimStart (a : Atom) : a.relation.symbol ∈ Text.trimStart a.explain := by
  have member := a.symbol_mem_explain
  rw [← takeWhile_append_trimStart a.explain, List.mem_append] at member
  refine member.resolve_left fun blank => ?_
  have dark := Atom.isBlank_symbol a.relation
  simp [List.mem_takeWhile_imp blank] at dark

/-- A line is taken for that of a connective just where it is one. -/
theorem isConnective_line (depth : Nat) (n : Query.Node) :
    isConnective (indent depth ++ n.line) = n.isConnective := by
  rw [isConnective, trimStart_indented]
  cases n with
  | atom a =>
    have member := symbol_mem_trimStart a
    have other (word : Query.Node) (connective : word.isConnective = true) :
        (Text.trimStart a.explain == word.line) = false :=
      beq_eq_false_iff_ne.mpr fun same =>
        Query.Node.symbol_notMem_line connective a.relation (same ▸ member)
    change (Text.trimStart a.explain == Query.Node.and.line ||
      Text.trimStart a.explain == Query.Node.or.line ||
      Text.trimStart a.explain == Query.Node.not.line) = false
    rw [other .and rfl, other .or rfl, other .not rfl]
    rfl
  | and | or | not => decide

/-- Of the lines of an outline the words of connectives are painted, and nothing else is. -/
theorem colouredLine_node (depth : Nat) (n : Query.Node) :
    colouredLine (indent depth ++ n.line) =
      "    ".toList ++ (indent depth ++ paint n.isConnective .cyan n.line) := by
  have parts := takeWhile_append_trimStart (indent depth ++ n.line)
  refine (List.append_assoc ..).trans (congrArg _ ?_)
  rw [isConnective_line]
  cases connective : n.isConnective with
  | false => exact parts
  | true =>
    rw [trimStart_indented, trimStart_connective connective] at parts ⊢
    rw [List.append_cancel_right parts]

/-- The coloured explanation of a program, line by line. -/
theorem render_coloured (p : Program) :
    p.explain.render true =
      ([paint true .bold "Program:".toList ++ ' ' :: paint true .boldGreen p.render,
          "  ".toList ++ paint true .bold "Query:".toList] ++
        (p.query.preorder 0).map (fun node =>
          "    ".toList ++ (indent node.1 ++ paint node.2.isConnective .cyan node.2.line)) ++
        colouredChainLines "When true".toList (p.onTrue.map Step.explain) ++
        colouredChainLines "When false".toList (p.onFalse.map Step.explain)).flatMap
          (· ++ ['\n']) := by
  have outline : p.explain.query.map colouredLine = (p.query.preorder 0).map fun node =>
      "    ".toList ++ (indent node.1 ++ paint node.2.isConnective .cyan node.2.line) := by
    rw [Program.explain, Query.outline_eq, List.map_map]
    exact List.map_congr_left fun node _ => colouredLine_node node.1 node.2
  rw [← outline]
  rfl

/-- Where the program has no escape character, there is one in a line of the outline just if the
line is that of a connective. -/
theorem escape_mem_line_iff {p : Program} (plain : p.Plain) {node : Nat × Query.Node}
    (member : node ∈ p.query.preorder 0) :
    escape ∈ "    ".toList ++ (indent node.1 ++ paint node.2.isConnective .cyan node.2.line) ↔
      node.2.isConnective = true := by
  have line : indent node.1 ++ node.2.line ∈ p.explain.query := by
    rw [Program.explain, Query.outline_eq]
    exact List.mem_map_of_mem member
  have shown : Terminal.Plain ("    ".toList ++ (indent node.1 ++ node.2.line)) :=
    (Terminal.Plain.literal (by decide)).append ((plain_explain plain).query _ line)
  cases node.2.isConnective with
  | false => exact iff_of_false shown Bool.false_ne_true
  | true => simp [paint, Terminal.sequence]

end Explanation
end RowSieve
