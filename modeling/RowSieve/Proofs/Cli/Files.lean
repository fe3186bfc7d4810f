import RowSieve.Cli.Job
import RowSieve.Proofs.Outcome

/-! Which files a step of a run can change: making folders changes none, putting a file changes
the file at its place, and opening a log or adding to it changes the log file. -/
namespace RowSieve.Cli.FileTree

/-! ### Trees that differ at few places -/

theorem SameBut.refl (places : List Place) (t : FileTree) : SameBut places t t := fun _ _ => rfl

theorem SameBut.trans {places : List Place} {a b c : FileTree} (first : SameBut places a b)
    (second : SameBut places b c) : SameBut places a c :=
  fun p other => (second p other).trans (first p other)

theorem SameBut.mono {few many : List Place} {a b : FileTree} (same : SameBut few a b)
    (within : few ⊆ many) : SameBut many a b :=
  fun p other => same p fun inside => other (within inside)

theorem sameBut_of_files_eq {places : List Place} {a b : FileTree} (same : b.files = a.files) :
    SameBut places a b := fun p _ => by rw [same]

/-! ### Single steps -/

theorem lookup_cons_ite (p q : Place) (content : Bytes) (files : List (Place × Bytes)) :
    ((p, content) :: files).lookup q = if q = p then some content else files.lookup q := by
  rw [List.lookup_cons]
  split
  · rename_i same
    rw [if_pos (eq_of_beq same)]
  · rename_i other
    rw [if_neg (ne_of_beq_false other)]

theorem lookup_putIn (p q : Place) (content : Bytes) (files : List (Place × Bytes)) :
    (putIn p content files).lookup q = if q = p then some content else files.lookup q := by
  induction files with
  | nil => exact lookup_cons_ite ..
  | cons head rest ih =>
    obtain ⟨r, old⟩ := head
    rw [putIn, lookup_cons_ite r]
    split
    · rename_i found
      subst found
      rw [lookup_cons_ite]
      split <;> rfl
    · rename_i other
      rw [lookup_cons_ite, ih]
      by_cases there : q = r
      · simp [there, other]
      · simp [there]

theorem lookup_put (t : FileTree) (p q : Place) (content : Bytes) :
    (t.put p content).files.lookup q = if q = p then some content else t.files.lookup q :=
  lookup_putIn ..

theorem sameBut_put (t : FileTree) (p : Place) (content : Bytes) :
    SameBut [p] t (t.put p content) := by
  intro q other
  rw [lookup_put, if_neg (mt List.mem_singleton.mpr other)]

theorem sameBut_append (t : FileTree) (p : Place) (content : Bytes) :
    SameBut [p] t (t.append p content) := sameBut_put t p _

theorem files_makeFolders {t made : FileTree} {p q : Place} {names : List Text}
    (done : t.makeFolders p names = .ok (made, q)) : made.files = t.files := by
  fun_induction makeFolders t p names with
  | case1 => cases done; rfl
  | case2 t p names ih => exact ih done
  | case3 t p names _ ih => exact ih done
  | case4 => contradiction
  | case5 => contradiction
  | case6 t p name names _ _ _ _ ih => exact ih done
  | case7 t p name names _ _ _ _ ih => exact ih done

/-! ### Reading and writing -/

theorem node_eq_file_iff {t : FileTree} {p : Place} {content : Bytes} :
    t.node p = .file content ↔ t.files.lookup p = some content := by
  unfold node
  split
  · rename_i found there
    simp [there]
  · rename_i nothing
    rw [nothing]
    split <;> simp

/-- A path can be read if it leads to a file, and what is read is what the file holds. -/
theorem read_eq_ok_iff {t : FileTree} {cwd : Place} {path : Text} {content : Bytes} :
    t.read cwd path = .ok content ↔
      ∃ p, t.place cwd path = .ok p ∧ t.files.lookup p = some content := by
  unfold read
  rw [bind_eq_ok_iff]
  refine exists_congr fun p => and_congr_right fun _ => ?_
  rw [← node_eq_file_iff]
  cases t.node p <;> simp

theorem place_of_writable {t : FileTree} {cwd p : Place} {path : Text}
    (found : t.writable cwd path = .ok p) : t.place cwd path = .ok p := by
  obtain ⟨q, led, free⟩ := bind_eq_ok_iff.mp found
  rw [led]
  split at free
  · exact free
  · contradiction
  · split at free
    · contradiction
    · exact free

/-- Where a file is, a file can be written. -/
theorem writable_of_lookup {t : FileTree} {cwd p : Place} {path : Text} {content : Bytes}
    (led : t.place cwd path = .ok p) (there : t.files.lookup p = some content) :
    t.writable cwd path = .ok p :=
  bind_eq_ok_iff.mpr ⟨p, led, by rw [node_eq_file_iff.mpr there]⟩

/-! ### The log -/

theorem sameBut_openLogFile {t opened : FileTree} {path : Text} {p : Place}
    (done : openLogFile t path = .ok (opened, p)) : SameBut [p] t opened := by
  simp only [openLogFile] at done
  split at done
  · contradiction
  · split at done
    · contradiction
    · split at done
      · contradiction
      · rename_i made folder folders
        split at done
        · contradiction
        · cases done
          exact (sameBut_of_files_eq (files_makeFolders folders)).trans (sameBut_append _ _ _)

theorem sameBut_openLog {t opened : FileTree} {s : Settings.Logging} {base : Place} {l : Logger}
    (done : openLog t s base = .ok (opened, l)) : SameBut l.file.toList t opened := by
  unfold openLog at done
  split at done
  · contradiction
  · split at done
    · cases done
      exact .refl _ _
    · obtain ⟨⟨made, p⟩, file, done⟩ := bind_eq_ok_iff.mp done
      cases done
      exact sameBut_openLogFile file

theorem sameBut_record (l : Logger) (time : Text) (events : List Log.Event) (t : FileTree) :
    SameBut l.file.toList t (l.record time events t) := by
  unfold Logger.record
  split
  · exact .refl _ _
  · rename_i p file
    rw [file]
    exact sameBut_append _ _ _

end RowSieve.Cli.FileTree
