import RowSieve.Program.Report
import RowSieve.Proofs.Program.Coloured

/-! The report of a check is the same with and without colours: for each way to reject a text, for
each warning about a program, and for the closing line. -/
namespace RowSieve

open Terminal

theorem Cause.plain_reason (c : Cause) : Terminal.Plain c.reason := by
  cases c <;> exact .literal (by decide)

theorem Stage.plain_label (s : Stage) : Terminal.Plain s.label := by
  cases s <;> exact .literal (by decide)

theorem Part.plain_label (part : Part) : Terminal.Plain part.label := by
  cases part <;> exact .literal (by decide)

namespace SyntaxError
variable {e : SyntaxError}

/-- A message without escape characters, whatever it says about the section. -/
theorem plain_pieces (plain : Terminal.Plain e.text) {part : Text} (place : Terminal.Plain part) :
    Terminal.Plain ("invalid ".toList ++ e.stage.label ++ " syntax".toList ++ part ++ ": ".toList ++
      e.reason ++ " at offset ".toList ++ Text.decimal e.offset ++ " in ".toList ++
      Text.accented e.text) := by
  have stage : Terminal.Plain ("invalid ".toList ++ e.stage.label ++ " syntax".toList) :=
    (Plain.append (.literal (by decide)) e.stage.plain_label).append (.literal (by decide))
  have colon : Terminal.Plain ": ".toList := .literal (by decide)
  have before : Terminal.Plain " at offset ".toList := .literal (by decide)
  have quotes : Terminal.Plain " in ".toList := .literal (by decide)
  have reason := ((stage.append place).append colon).append e.cause.plain_reason
  have offset := (reason.append before).append (plain_decimal e.offset)
  exact (offset.append quotes).append (plain_accented plain)

theorem plain_message (plain : Terminal.Plain e.text) : Terminal.Plain e.message := by
  rcases e with ⟨cause, text, offset, _ | part⟩
  · exact plain_pieces plain plain_nil
  · have place : Terminal.Plain (" in ".toList ++ part.label ++ " section".toList) :=
      (Plain.append (.literal (by decide)) part.plain_label).append (.literal (by decide))
    exact plain_pieces plain place

theorem shows_report (plain : Terminal.Plain e.text) : Shows (e.report true) (e.report false) := by
  have title : Shows "error".toList "error".toList := .literal (by decide)
  have colon : Shows ": ".toList ": ".toList := .literal (by decide)
  have margin : Shows "\n  ".toList "\n  ".toList := .literal (by decide)
  have blanks : Terminal.Plain (List.replicate e.column ' ') := plain_replicate _ (by decide)
  have message := ((title.paint .boldRed true).append colon).append (.of_plain (plain_message plain))
  have quoted := (message.append margin).append (.of_plain plain)
  exact ((quoted.append margin).append (.of_plain blanks)).append (.of_plain (by decide))

end SyntaxError

theorem Chain.repeatedSets_subset_texts (pending : List Text) (steps : Chain) :
    Chain.repeatedSets pending steps ⊆ Chain.texts steps := by
  fun_induction Chain.repeatedSets pending steps with
  | case1 => exact List.nil_subset _
  | case2 pending steps ih => exact ih
  | case3 pending field value steps _ ih =>
    refine List.cons_subset.mpr ⟨List.mem_cons_self, fun u inside => ?_⟩
    exact List.mem_append_right [field, value] (ih inside)
  | case4 pending field value steps _ ih =>
    exact fun u inside => List.mem_append_right [field, value] (ih inside)

namespace Warning

theorem plain_code (w : Warning) : Terminal.Plain w.code := by
  cases w <;> exact .literal (by decide)

theorem plain_integerCast {a : Atom} (texts : ∀ u ∈ (Query.atom a).texts, Terminal.Plain u) :
    Terminal.Plain (integerCast a).message := by
  have atom : Terminal.Plain a.render :=
    Query.notMem_render (q := .atom a) (by decide) texts
  exact (plain_accented atom).append (.literal (by decide))

theorem plain_repeatedSet {field : Text} (plain : Terminal.Plain field) (part : Part) :
    Terminal.Plain (repeatedSet part field).message :=
  (Plain.append (.literal (by decide)) (plain_accented plain)).append (.literal (by decide))

/-- The warnings about a program quote nothing but its atoms and fields. -/
theorem plain_of_mem_lint {p : Program} (plain : p.Plain) {w : Warning} (warned : w ∈ p.lint) :
    Terminal.Plain w.message := by
  simp only [Program.Plain, Program.texts, List.forall_mem_append] at plain
  obtain ⟨inQuery, inTrue, inFalse⟩ := plain
  simp only [Program.lint, Program.integerCasts, List.mem_append, List.mem_map] at warned
  rcases warned with ((⟨a, found, rfl⟩ | ⟨field, again, rfl⟩) | ⟨field, again, rfl⟩) | nothing
  · refine plain_integerCast fun u member => inQuery u ?_
    have own : u ∈ [a.field, a.value] := by simpa [Query.texts, Query.atoms] using member
    exact List.mem_flatMap.mpr ⟨a, List.mem_of_mem_filter found, own⟩
  · exact plain_repeatedSet (inTrue _ (Chain.repeatedSets_subset_texts _ _ again)) _
  · exact plain_repeatedSet (inFalse _ (Chain.repeatedSets_subset_texts _ _ again)) _
  · obtain ⟨_, rfl⟩ : _ ∧ w = .emptyBranches := by simpa using nothing
    exact .literal (by decide)

theorem shows_report {w : Warning} (plain : Terminal.Plain w.message) :
    Shows (w.report true) (w.report false) := by
  have title : Terminal.Plain ("warning[".toList ++ w.code ++ [']']) :=
    (Plain.append (.literal (by decide)) w.plain_code).append (by decide)
  have place : Shows " in ".toList " in ".toList := .literal (by decide)
  have colon : Shows ": ".toList ": ".toList := .literal (by decide)
  have part : Shows w.part.label w.part.label := .of_plain w.part.plain_label
  have named := (((Shows.of_plain title).paint .boldOrange true).append place).append part
  exact (named.append colon).append (.of_plain plain)

theorem shows_summary (count : Nat) : Shows (summary true count) (summary false count) := by
  have good : Shows "No issues found.".toList "No issues found.".toList := .literal (by decide)
  rw [summary, summary]
  split
  · exact good.paint .boldGreen true
  · exact .of_plain ((plain_decimal count).append (.literal (by decide)))

end Warning
end RowSieve
