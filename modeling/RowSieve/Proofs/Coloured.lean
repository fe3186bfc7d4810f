import RowSieve.Proofs.Log.Plain
import RowSieve.Proofs.Program.Report

/-! Colours add nothing to what is shown and hide nothing of it, in explanations, in the reports of
checks and in log lines. -/
namespace RowSieve.Terminal

/-- Without its colours a text is what is shown plainly. That is so for the explanation of a program
and for its warnings, where the program was read from a plain text or has no escape character in its
fields and values; for the report of a rejected text; for the closing line of a check; and for the
lines of a log. The coloured explanation has a line for each node of the query, in which the word of
a connective is painted and nothing of an atom is. -/
theorem strip_coloured :
    (∀ p : Program, p.Plain → strip (p.explain.render true) = p.explain.render false ∧
      ∀ w ∈ p.lint, strip (w.report true) = w.report false) ∧
    (∀ e : SyntaxError, Plain e.text → strip (e.report true) = e.report false) ∧
    (∀ t : Text, Plain t → (∀ p, Program.parse t = .ok p → p.Plain) ∧
      ∀ e, Program.parse t = .error e → Plain e.text) ∧
    (∀ count : Nat, strip (Warning.summary true count) = Warning.summary false count) ∧
    (∀ (e : Log.Event) (time : Text), e.Plain → Plain time →
      strip (e.plainLine true time) = e.plainLine false time) ∧
    ∀ p : Program,
      p.explain.render true =
        ([paint true .bold "Program:".toList ++ ' ' :: paint true .boldGreen p.render,
            "  ".toList ++ paint true .bold "Query:".toList] ++
          (p.query.preorder 0).map (fun node =>
            "    ".toList ++ (indent node.1 ++ paint node.2.isConnective .cyan node.2.line)) ++
          Explanation.colouredChainLines "When true".toList (p.onTrue.map Step.explain) ++
          Explanation.colouredChainLines "When false".toList (p.onFalse.map Step.explain)).flatMap
            (· ++ ['\n']) ∧
      (p.Plain → ∀ node ∈ p.query.preorder 0,
        (escape ∈ "    ".toList ++ (indent node.1 ++ paint node.2.isConnective .cyan node.2.line) ↔
          node.2.isConnective = true)) := by
  refine ⟨fun p plain => ⟨?_, fun w warned => ?_⟩, fun e plain => ?_, fun t plain => ⟨?_, ?_⟩,
    fun count => ?_, fun e time plain clock => ?_,
    fun p => ⟨Explanation.render_coloured p, fun plain node member => ?_⟩⟩
  · exact (Explanation.shows_render (Explanation.plain_explain plain)).strip_eq
  · exact (Warning.shows_report (Warning.plain_of_mem_lint plain warned)).strip_eq
  · exact (SyntaxError.shows_report plain).strip_eq
  · exact fun p read => Program.plain_of_parse plain read
  · exact fun e rejected => Program.plain_of_rejected plain rejected
  · exact (Warning.shows_summary count).strip_eq
  · exact (Log.Event.shows_plainLine plain clock).strip_eq
  · exact Explanation.escape_mem_line_iff plain member

/-- A field that is the word of a connective, one that begins with blanks before it, a rejected
text, and a log event with a domain and two more fields. -/
theorem strip_coloured_lookalikes :
    let p : Program := ⟨.or (.atom ⟨['O', 'R'], .equal, [], .text⟩)
      (.not (.atom ⟨[' ', 'N', 'O', 'T'], .less, ['1'], .integer⟩)),
      [.set ['a'] ['b'], .set ['a'] ['c']], []⟩
    let e : Log.Event := ⟨.warn, ['x'], ['h', 'i'],
      [(['d'], .plain ['1']), (Log.Event.domainName, .quoted ['i', 'o']), (['n'], .integer 2)]⟩
    p.Plain ∧ strip (p.explain.render true) = p.explain.render false ∧
      p.explain.render true =
        (["\x1b[1mProgram:\x1b[0m " ++
            "\x1b[1;32mq\x7b(OR=)|(!( NOT<1.i))\x7d t\x7bs a=b; s a=c;\x7d f\x7b\x7d\x1b[0m",
          "  \x1b[1mQuery:\x1b[0m",
          "    \x1b[36mOR\x1b[0m",
          "      OR = \"\" as string",
          "      \x1b[36mNOT\x1b[0m",
          "         NOT < \"1\" as int (compared as string)",
          "  \x1b[1mWhen true:\x1b[0m",
          "    \x1b[2m1.\x1b[0m set a = \"b\"",
          "    \x1b[2m2.\x1b[0m set a = \"c\"",
          "  \x1b[1mWhen false:\x1b[0m",
          "    \x1b[2m(no action)\x1b[0m"].map String.toList).flatMap (· ++ ['\n']) ∧
      (∀ t, t = ['q'] → ∀ r, Program.parse t = .error r → strip (r.report true) = r.report false) ∧
      e.Plain ∧ e.plainLine false ['0'] = "0  WARN [io] hi d=1 n=2\n".toList ∧
      strip (e.plainLine true ['0']) = "0  WARN [io] hi d=1 n=2\n".toList := by
  intro p e
  obtain ⟨programs, errors, texts, _, events, outline⟩ := strip_coloured
  have plain : p.Plain := by
    have each : ∀ u ∈ p.texts, Plain u := by decide
    exact each
  have eventPlain : e.Plain := ⟨by decide, by decide, by decide⟩
  have line : e.plainLine false ['0'] = "0  WARN [io] hi d=1 n=2\n".toList := by decide
  refine ⟨plain, (programs p plain).1, ?_, ?_, eventPlain, line, ?_⟩
  · rw [(outline p).1]
    decide +kernel
  · rintro t rfl r rejected
    exact errors r ((texts ['q'] (by decide)).2 r rejected)
  · rw [events e ['0'] eventPlain (by decide), line]

end RowSieve.Terminal
