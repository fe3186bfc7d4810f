import RowSieve.Log.Plain
import RowSieve.Proofs.Terminal
import RowSieve.Proofs.Text.Escaped
import RowSieve.Proofs.Text.Split

/-! A log line is the same with and without colours, whichever of its parts are there: the domain,
the message, other fields. -/
namespace RowSieve.Log

open Terminal

def Value.text : Value → Text
  | quoted t | debugged t | plain t => t
  | integer _ | boolean _ => []

theorem Value.plain_render {v : Value} (own : Terminal.Plain v.text) :
    Terminal.Plain v.render := by
  cases v with
  | quoted t | debugged t => exact Text.no_escape_escaped t
  | plain t => exact own
  | integer n => exact plain_signed n
  | boolean b => cases b <;> exact .literal (by decide)

namespace Event

structure Plain (e : Event) : Prop where
  message : Terminal.Plain e.message
  names : ∀ field ∈ e.fields, Terminal.Plain field.1
  values : ∀ field ∈ e.fields, Terminal.Plain field.2.text

theorem trimQuotes_subset (t : Text) : trimQuotes t ⊆ t := by
  intro c member
  have inner := (List.dropWhile_sublist _).subset (List.mem_reverse.mp member)
  exact (List.dropWhile_sublist _).subset (List.mem_reverse.mp inner)

theorem plain_domainText {v : Value} (own : Terminal.Plain v.text) :
    Terminal.Plain (domainText v) := by
  cases v with
  | quoted t => exact own
  | debugged | plain | integer | boolean =>
    exact (Value.plain_render own).mono (trimQuotes_subset _)

theorem plain_domain {e : Event} (plain : e.Plain) {domain : Text}
    (told : e.domain? = some domain) : Terminal.Plain domain := by
  obtain ⟨field, last, rfl⟩ := Option.map_eq_some_iff.mp told
  have member := List.mem_of_mem_filter (List.mem_of_getLast? last)
  exact plain_domainText (plain.values field member)

theorem plain_renderFields {fields : List (Text × Value)}
    (names : ∀ field ∈ fields, Terminal.Plain field.1)
    (values : ∀ field ∈ fields, Terminal.Plain field.2.text) :
    Terminal.Plain (renderFields fields) := by
  intro inside
  rcases Text.mem_intercalate inside with blank | ⟨piece, member, here⟩
  · exact absurd blank (by decide)
  · obtain ⟨field, own, rfl⟩ := List.mem_map.mp member
    have value := Value.plain_render (values field own)
    exact (names field own).append (plain_cons.mpr ⟨by decide, value⟩) here

theorem Level.plain_name (l : Level) : Terminal.Plain l.name := by
  cases l <;> exact .literal (by decide)

theorem plain_rest {e : Event} (plain : e.Plain) : Terminal.Plain (renderFields e.rest) :=
  plain_renderFields (fun field own => plain.names field (List.mem_of_mem_filter own))
    fun field own => plain.values field (List.mem_of_mem_filter own)

theorem shows_plainLine {e : Event} (plain : e.Plain) {time : Text} (clock : Terminal.Plain time) :
    Shows (e.plainLine true time) (e.plainLine false time) := by
  have blank : escape ≠ ' ' := by decide
  have timed : Shows (paint true .dim time) (paint false .dim time) :=
    (Shows.of_plain clock).paint .dim true
  have level : Shows (Text.padLeft 5 ' ' e.level.name) (Text.padLeft 5 ' ' e.level.name) :=
    .of_plain ((plain_replicate _ blank).append (Level.plain_name e.level))
  have rest : Shows (if e.rest.isEmpty then [] else ' ' :: paint true .italic (renderFields e.rest))
      (if e.rest.isEmpty then [] else ' ' :: paint false .italic (renderFields e.rest)) := by
    split
    · exact .of_plain plain_nil
    · exact .cons blank ((Shows.of_plain (plain_rest plain)).paint .italic true)
  -- the line around a domain, or around nothing if there is none
  have line {coloured shown : Text} (domain : Shows coloured shown) := by
    have named := (level.paint e.level.style true).append (.cons blank domain)
    have body := (named.append (.of_plain plain.message)).append rest
    exact (timed.append (.cons blank body)).append (.of_plain (t := ['\n']) (by decide))
  unfold plainLine plainBody
  cases told : e.domain? with
  | none => exact line (.of_plain plain_nil)
  | some domain =>
    have named : Shows ('[' :: domain ++ [']']) ('[' :: domain ++ [']']) :=
      .cons (by decide) (.of_plain ((plain_domain plain told).append (by decide)))
    exact line ((named.paint .boldCyan true).append (.of_plain (t := [' ']) (by decide)))

end Event
end RowSieve.Log
