import RowSieve.Proofs.Settings.Shape
import RowSieve.Proofs.Toml.Reading

/-! Settings follow their document: each is what the value of its key says, and its default where
the document has none. -/
namespace RowSieve.Settings

open Toml

/-! The values of settings. -/

section
variable {v : Value} {span : Span}

theorem readText_eq_ok_iff {expected : String} {t : Text} :
    readText expected v = .ok t ↔ v = .string t := by
  cases v <;> simp [readText, mismatch_ne_ok]

theorem isPath_of_read {expected : String} {t : Text} (read : readText expected v = .ok t) :
    IsPath v (some t) := ⟨t, readText_eq_ok_iff.mp read, rfl⟩

theorem readBoolean_eq_ok_iff {b : Bool} : readBoolean v = .ok b ↔ IsFlag v b := by
  cases v <;> simp [readBoolean, IsFlag, mismatch_ne_ok]

theorem readDelimiter_eq_ok_iff {d : Delimiter} : readDelimiter v = .ok d ↔ IsDelimiter v d := by
  rw [readDelimiter, bind_eq_ok_iff, IsDelimiter]
  simp only [readText_eq_ok_iff]
  refine exists_congr fun t => and_congr_right fun _ => ?_
  cases Delimiter.parse t <;> simp [reject]

theorem names_of_readTextMap {entries : Entries} {pairs : List (Text × Text)}
    (read : readTextMap entries = .ok pairs) :
    entries.map (fun entry => (entry.1.name, entry.2.2)) =
      pairs.map fun (name, text) => (name, .string text) := by
  induction entries generalizing pairs with
  | nil =>
    obtain rfl := Except.ok.inj read
    rfl
  | cons entry entries ih =>
    obtain ⟨key, span, v⟩ := entry
    obtain ⟨t, own, read⟩ := bind_eq_ok_iff.mp read
    obtain ⟨rest, later, made⟩ := bind_eq_ok_iff.mp read
    obtain rfl := pure_eq_ok_iff.mp made
    obtain rfl := readText_eq_ok_iff.mp (inSpan_eq_ok_iff.mp own)
    rw [List.map_cons, List.map_cons, ih later]

theorem isModules_of_read {modules : List (Text × Text)}
    (read : readModules span v = .ok modules) : IsModules v modules := by
  rw [readModules] at read
  split at read
  · rename_i entries found
    exact ⟨span, entries, found, names_of_readTextMap read⟩
  · exact absurd read mismatch_ne_ok

theorem name_of_formatNamed {t : Text} {f : LogFormat} (read : formatNamed t = .ok f) :
    f.name = t := by
  rw [formatNamed] at read
  split at read
  · rename_i f' found
    obtain rfl := Except.ok.inj read
    have same : (f'.name == t) = true :=
      List.find?_some (p := fun f : LogFormat => f.name == t) found
    exact beq_iff_eq.mp same
  · contradiction

theorem isFormat_of_read {f : LogFormat} (read : readFormat v = .ok f) : IsFormat v f := by
  unfold readFormat at read
  split at read
  · exact .inl (congrArg Value.string (name_of_formatNamed read).symm)
  · contradiction
  · rename_i kind key span w
    obtain ⟨f', named, empty⟩ := bind_eq_ok_iff.mp read
    rw [inSpan_eq_ok_iff] at named empty
    split at empty
    · obtain rfl := Except.ok.inj empty
      exact .inr ⟨_, _, _, _, rfl, (name_of_formatNamed named).symm, .inl ⟨_, rfl⟩⟩
    · obtain rfl := Except.ok.inj empty
      exact .inr ⟨_, _, _, _, rfl, (name_of_formatNamed named).symm, .inr ⟨_, rfl⟩⟩
    · contradiction
    · contradiction
    · contradiction
  · contradiction
  · contradiction

end

/-! The keys of each section, and the fields they give. -/

theorem Input.keys : Input.shape.Keys (documented (some .input)) where
  nodup := by decide
  named := rfl
  own := by simp only [Input.shape, List.forall_mem_cons]; exact ⟨rfl, rfl, nofun⟩
  noDate := by decide

theorem Output.keys : Output.shape.Keys (documented (some .output)) where
  nodup := by decide
  named := rfl
  own := by simp only [Output.shape, List.forall_mem_cons]; exact ⟨rfl, rfl, nofun⟩
  noDate := by decide

theorem Logging.keys : Logging.shape.Keys (documented (some .logging)) where
  nodup := by decide
  named := rfl
  own := by simp only [Logging.shape, List.forall_mem_cons]; exact ⟨rfl, rfl, rfl, rfl, nofun⟩
  noDate := by decide

theorem keys : shape.Keys (documented none) where
  nodup := by decide
  named := rfl
  own := by simp only [shape, List.forall_mem_cons]; exact ⟨rfl, rfl, rfl, nofun⟩
  noDate := by decide

theorem Input.delimiter_field :
    Input.shape.Field "delimiter".toList Input.delimiter IsDelimiter where
  known := rfl
  keys := by
    simp only [Input.shape, List.forall_mem_cons]
    refine ⟨.inl ⟨trivial, Setter.gives_of_read readDelimiter_eq_ok_iff.mp⟩, ?_, nofun⟩
    exact .inr ⟨by decide, Setter.keeps_of_read fun _ _ => rfl⟩

theorem Input.trimFields_field :
    Input.shape.Field "trim_fields".toList Input.trimFields IsFlag where
  known := rfl
  keys := by
    simp only [Input.shape, List.forall_mem_cons]
    refine ⟨?_, .inl ⟨trivial, Setter.gives_of_read readBoolean_eq_ok_iff.mp⟩, nofun⟩
    exact .inr ⟨by decide, Setter.keeps_of_read fun _ _ => rfl⟩

theorem Output.delimiter_field :
    Output.shape.Field "delimiter".toList Output.delimiter IsDelimiter where
  known := rfl
  keys := by
    simp only [Output.shape, List.forall_mem_cons]
    refine ⟨.inl ⟨trivial, Setter.gives_of_read readDelimiter_eq_ok_iff.mp⟩, ?_, nofun⟩
    exact .inr ⟨by decide, Setter.keeps_of_read fun _ _ => rfl⟩

theorem Output.header_field : Output.shape.Field "header".toList Output.header IsFlag where
  known := rfl
  keys := by
    simp only [Output.shape, List.forall_mem_cons]
    refine ⟨?_, .inl ⟨trivial, Setter.gives_of_read readBoolean_eq_ok_iff.mp⟩, nofun⟩
    exact .inr ⟨by decide, Setter.keeps_of_read fun _ _ => rfl⟩

theorem Logging.level_field : Logging.shape.Field "level".toList Logging.level IsText where
  known := rfl
  keys := by
    simp only [Logging.shape, List.forall_mem_cons]
    refine ⟨.inl ⟨trivial, Setter.gives_of_read readText_eq_ok_iff.mp⟩, ?_, ?_, ?_, nofun⟩
    all_goals exact .inr ⟨by decide, Setter.keeps_of_read fun _ _ => rfl⟩

theorem Logging.modules_field : Logging.shape.Field "modules".toList Logging.modules IsModules where
  known := rfl
  keys := by
    simp only [Logging.shape, List.forall_mem_cons]
    refine ⟨?_, .inl ⟨trivial, Setter.gives_of_read isModules_of_read⟩, ?_, ?_, nofun⟩
    all_goals exact .inr ⟨by decide, Setter.keeps_of_read fun _ _ => rfl⟩

theorem Logging.file_field : Logging.shape.Field "file".toList Logging.file IsPath where
  known := rfl
  keys := by
    simp only [Logging.shape, List.forall_mem_cons]
    refine ⟨?_, ?_, .inl ⟨trivial, Setter.gives_of_read isPath_of_read⟩, ?_, nofun⟩
    all_goals exact .inr ⟨by decide, Setter.keeps_of_read fun _ _ => rfl⟩

theorem Logging.format_field : Logging.shape.Field "format".toList Logging.format IsFormat where
  known := rfl
  keys := by
    simp only [Logging.shape, List.forall_mem_cons]
    refine ⟨?_, ?_, ?_, .inl ⟨trivial, Setter.gives_of_read isFormat_of_read⟩, nofun⟩
    all_goals exact .inr ⟨by decide, Setter.keeps_of_read fun _ _ => rfl⟩

theorem input_field : shape.Field Section.input.header Settings.input
    fun v i => ∃ span, Input.shape.decode .default span v = .ok i where
  known := rfl
  keys := by
    simp only [shape, List.forall_mem_cons]
    refine ⟨.inl ⟨rfl, Setter.gives_of_read fun read => ⟨_, read⟩⟩, ?_, ?_, nofun⟩
    all_goals exact .inr ⟨by decide, Setter.keeps_of_read fun _ _ => rfl⟩

theorem output_field : shape.Field Section.output.header Settings.output
    fun v o => ∃ span, Output.shape.decode .default span v = .ok o where
  known := rfl
  keys := by
    simp only [shape, List.forall_mem_cons]
    refine ⟨?_, .inl ⟨rfl, Setter.gives_of_read fun read => ⟨_, read⟩⟩, ?_, nofun⟩
    all_goals exact .inr ⟨by decide, Setter.keeps_of_read fun _ _ => rfl⟩

theorem logging_field : shape.Field Section.logging.header Settings.logging
    fun v l => ∃ span, Logging.shape.decode .default span v = .ok l where
  known := rfl
  keys := by
    simp only [shape, List.forall_mem_cons]
    refine ⟨?_, ?_, .inl ⟨rfl, Setter.gives_of_read fun read => ⟨_, read⟩⟩, nofun⟩
    all_goals exact .inr ⟨by decide, Setter.keeps_of_read fun _ _ => rfl⟩

/-! From the sections to the document. -/

section
variable {document : Entries} {s : Settings}

/-- What a document gives to a field of one of its sections. -/
theorem stands_of_section {σ α : Type} {shape' : Shape σ} {part : Section} {name : Text}
    {get : Settings → σ} {field : σ → α} {means : Value → α → Prop} {default : σ}
    (ordered : document.Ordered) (decoded : shape.ofEntries .default document = .ok s)
    (place : shape.Field part.header get
      fun v own => ∃ span, shape'.decode default span v = .ok own)
    (first : get .default = default) (keys' : shape'.Keys (documented (some part)))
    (inner : shape'.Field name field means) :
    Stands (given? document part name) means (field default) (field (get s)) := by
  have own := place.of_ofEntries ordered.nodup decoded
  unfold given?
  cases found : document.get? part.header with
  | none =>
    rw [found] at own
    exact congrArg field (own.trans first)
  | some located =>
    rw [found] at own
    obtain ⟨span, read⟩ := own
    exact inner.of_decode keys' (ordered.of_get? found) read

/-- Settings that were read from a document follow it. -/
theorem follows_of_ofEntries (ordered : document.Ordered)
    (decoded : shape.ofEntries .default document = .ok s) : Follows document s where
  inputDelimiter :=
    stands_of_section ordered decoded input_field rfl Input.keys Input.delimiter_field
  trimFields := stands_of_section ordered decoded input_field rfl Input.keys Input.trimFields_field
  outputDelimiter :=
    stands_of_section ordered decoded output_field rfl Output.keys Output.delimiter_field
  header := stands_of_section ordered decoded output_field rfl Output.keys Output.header_field
  level := stands_of_section ordered decoded logging_field rfl Logging.keys Logging.level_field
  modules := stands_of_section ordered decoded logging_field rfl Logging.keys Logging.modules_field
  file := stands_of_section ordered decoded logging_field rfl Logging.keys Logging.file_field
  format := stands_of_section ordered decoded logging_field rfl Logging.keys Logging.format_field

/-- A document is accepted if its entries are read and its names of levels are in order. -/
theorem parse_eq_ok_iff {t : Text} :
    parse t = .ok s ↔ ∃ document, Toml.read? t = some document ∧
      shape.ofEntries .default document = .ok s ∧ checkLevels s.logging.levels = .ok () := by
  rw [parse]
  cases Toml.read? t with
  | none => simp
  | some document =>
    simp only [Option.some.injEq, exists_eq_left', ofEntries]
    cases decoded : shape.ofEntries .default document with
    | error => simp
    | ok a =>
      dsimp only
      constructor
      · intro accepted
        split at accepted
        · rename_i checked
          obtain rfl := Except.ok.inj accepted
          exact ⟨rfl, checked⟩
        · contradiction
      · rintro ⟨⟨rfl⟩, checked⟩
        simp only [checked]

end
end RowSieve.Settings
