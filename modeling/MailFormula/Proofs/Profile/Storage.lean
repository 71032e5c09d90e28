import MailFormula.Profile.Storage
import MailFormula.Proofs.Files
import MailFormula.Proofs.Json.RoundTrip
import MailFormula.Proofs.Profile.Settings
/-!
# Profiles loaded back

A profile is kept in its file as a JSON object of sections. One that can be
kept there (`Kept`) stays so whatever settings are put into it, and is loaded
back as it was saved (`load_save`). A profile that has no file yet starts
empty, so it can be kept; what is left to the file system is whether a file
can be written at the path (`FileTree.Takes`).
-/

namespace MailFormula.Profile

open MailFormula.JsonValue

variable {p : Profile} {files files' : FileTree} {path : String} {levels : Nat} {v : JsonValue}

/-! ## What can be kept -/

/-- **A profile that can be kept in a file**: its sections are read back. -/
def Kept (p : Profile) : Prop := Writable mostLevels (.object p.root)

/-- A section of the profile is an object in it, or is to become one. -/
theorem writable_members (h : Writable (levels + 2) (.object p.root)) (sec : String) :
    Writable (levels + 1) (.object (p.members sec)) := by
  have hsections : ∀ m ∈ p.root, Writable (levels + 1) m.2 := by
    cases h with
    | object _ hsections => exact hsections
  unfold members
  split
  case h_1 hsec =>
    obtain ⟨before, after, hroot, -⟩ := List.lookup_eq_some_iff.1 hsec
    exact hsections _ (hroot ▸ List.mem_append_right before List.mem_cons_self)
  case h_2 => exact .object .nil nofun

theorem writable_put (h : Writable (levels + 2) (.object p.root)) (hv : Writable levels v)
    (sec key : String) : Writable (levels + 2) (.object (p.put sec key v).root) :=
  writable_putMember h (writable_putMember (writable_members h sec) hv key) sec

theorem Setting.writable (setting : Setting) : Writable levels setting.toValue := by
  cases setting with
  | text s => exact .string s
  | integer n =>
    have hlow : -(UInt64.size / 2 : Nat) ≤ n.toInt := n.minValue_le_toInt
    have hhigh : n.toInt ≤ mostExact := Int.le_trans n.toInt_le (by decide)
    exact .integer hlow hhigh

theorem Kept.write (h : p.Kept) (w : Write) : (p.write w).Kept := by
  -- Two levels of nesting are taken by the sections.
  have hsetting : Writable 125 w.setting.toValue := w.setting.writable
  rw [write_eq]
  exact writable_put h hsetting w.sec w.key

/-- **What is put into a profile can be kept** with the rest. -/
theorem Kept.writeAll (h : p.Kept) (ws : List Write) : (p.writeAll ws).Kept := by
  induction ws generalizing p with
  | nil => exact h
  | cons w ws ih => exact ih (h.write w)

/-! ## Its file -/

/-- Settings change the sections only. -/
theorem exists_writeAll_eq (p : Profile) (ws : List Write) :
    ∃ root, p.writeAll ws = { p with root := root } := by
  induction ws generalizing p with
  | nil => exact ⟨p.root, rfl⟩
  | cons w ws ih =>
    have hcons : p.writeAll (w :: ws) = (p.write w).writeAll ws := rfl
    obtain ⟨root, hroot⟩ := ih (p.write w)
    refine ⟨root, ?_⟩
    rw [hcons, hroot, write_eq]
    rfl

/-- Without a file a profile starts empty. -/
theorem load_of_notFound (h : files.read path = .error .notFound) :
    load files path = .ok { name := fileStem path, path := some path, root := [] } := by
  rw [load, h]

theorem save_eq (hpath : p.path = some path) : p.save files = files.write path p.fileText := by
  rw [save, hpath]

/-- **A saved profile is loaded back** as it was, from the file it was saved
in. -/
theorem load_save (h : p.Kept) (hpath : p.path = some path) (hname : p.name = fileStem path)
    (hsave : p.save files = .ok files') : load files' path = .ok p := by
  rw [save_eq hpath] at hsave
  have htext : JsonValue.read p.fileText = .ok (.object p.root) := read_toPrettyText h
  rw [load, FileTree.read_write hsave]
  dsimp only
  rw [htext, ← hname, ← hpath]
  rfl

end Profile

/-- **A saved profile answers as before when it is loaded.** It is opened at
a path without a file, where it starts empty, and any settings are put into
it: under any names, texts of any characters, integers of 64 bits.

Where a file can be written at the path, saving succeeds, loading succeeds,
and every setting is answered as by the profile that was saved. Anywhere
else the file system refuses the path with a fault, and saving fails with
that fault. -/
theorem saved_profile_loads_back (files : FileTree) (path : String)
    (hmissing : files.read path = .error .notFound) :
    ∃ p, Profile.load files path = .ok p ∧ p.root = [] ∧ ∀ ws : List Profile.Write,
      (files.Takes path → ∃ files' q,
        (p.writeAll ws).save files = .ok files' ∧ Profile.load files' path = .ok q ∧
        ∀ sec key, q.getText sec key = (p.writeAll ws).getText sec key ∧
          q.getInteger sec key = (p.writeAll ws).getInteger sec key) ∧
      (¬ files.Takes path → ∃ fault, files.Refuses path fault ∧
        (p.writeAll ws).save files = .error fault) := by
  refine ⟨_, Profile.load_of_notFound hmissing, rfl, fun ws => ?_⟩
  generalize hp : ({ name := fileStem path, path := some path, root := [] } : Profile) = p
  have hempty : p.Kept := hp ▸ .object .nil nofun
  obtain ⟨root, hroot⟩ := p.exists_writeAll_eq ws
  have hpath : (p.writeAll ws).path = some path := hroot ▸ hp ▸ rfl
  have hname : (p.writeAll ws).name = fileStem path := hroot ▸ hp ▸ rfl
  constructor
  · intro htakes
    rw [FileTree.takes_iff (p.writeAll ws).fileText, ← Profile.save_eq hpath] at htakes
    obtain ⟨files', hsave⟩ := htakes
    exact ⟨files', p.writeAll ws, hsave, Profile.load_save (hempty.writeAll ws) hpath hname hsave,
      fun _ _ => ⟨rfl, rfl⟩⟩
  · intro hnone
    obtain ⟨fault, hrefuses⟩ := FileTree.not_takes_iff.1 hnone
    refine ⟨fault, hrefuses, ?_⟩
    rw [Profile.save_eq hpath, FileTree.write_eq_error_iff]
    exact hrefuses

/-- A directory that holds another file only. -/
def boxDirectory : FileTree := .ofFiles [("box/notes.txt", "")]

/-- Settings with every kind of escape, written over one another. -/
def awkwardSettings : List Profile.Write :=
  [⟨"a \"b\"", "\\", .text "first"⟩,
    ⟨"", "ключ", .integer (-9223372036854775808)⟩,
    ⟨"a \"b\"", "\\", .text "\x01\t\"\\/\n\x1f 日本"⟩]

/-- They are loaded back. -/
theorem awkward_settings_load_back :
    boxDirectory.read "box/main.json" = .error .notFound ∧ boxDirectory.Takes "box/main.json" ∧
    ∃ p files' q, Profile.load boxDirectory "box/main.json" = .ok p ∧ p.root = [] ∧
      (p.writeAll awkwardSettings).save boxDirectory = .ok files' ∧
      Profile.load files' "box/main.json" = .ok q ∧
      q.getText "a \"b\"" "\\" = some "\x01\t\"\\/\n\x1f 日本" ∧
      q.getInteger "" "ключ" = some (-9223372036854775808) := by
  have hmissing : boxDirectory.read "box/main.json" = .error .notFound := by decide +kernel
  have htakes : boxDirectory.Takes "box/main.json" :=
    ⟨⟨some 0, ["box", "main.json"]⟩, by decide +kernel, by decide +kernel⟩
  obtain ⟨p, hload, hempty, hsaved⟩ :=
    saved_profile_loads_back boxDirectory "box/main.json" hmissing
  obtain ⟨files', q, hsave, hback, hanswers⟩ := (hsaved awkwardSettings).1 htakes
  obtain rfl := Except.ok.inj ((Profile.load_of_notFound hmissing).symm.trans hload)
  refine ⟨hmissing, htakes, _, files', q, hload, hempty, hsave, hback, ?_, ?_⟩
  · rw [(hanswers _ _).1]
    decide +kernel
  · rw [(hanswers _ _).2]
    decide +kernel

/-- In a directory that is not there, a profile is opened, and starts empty,
but cannot be saved. -/
theorem missing_directory_refuses_profile :
    FileTree.read {} "missing/main.json" = .error .notFound ∧
    ∃ p, Profile.load {} "missing/main.json" = .ok p ∧ p.root = [] ∧
      (p.writeAll [⟨"s", "k", .text "v"⟩]).save {} = .error .notFound ∧
      ¬ ∃ files' q, (p.writeAll [⟨"s", "k", .text "v"⟩]).save {} = .ok files' ∧
        Profile.load files' "missing/main.json" = .ok q := by
  have hmissing : FileTree.read {} "missing/main.json" = .error .notFound := by decide +kernel
  have hlocate : FileTree.locateToWrite {} "missing/main.json" = .error .notFound := by
    decide +kernel
  have hrefused : ∀ text, FileTree.write {} "missing/main.json" text = .error .notFound :=
    fun _ => FileTree.write_eq_error_iff.2 (.inl hlocate)
  refine ⟨hmissing, _, Profile.load_of_notFound hmissing, rfl, ?_⟩
  rw [Profile.save_eq rfl, hrefused]
  refine ⟨rfl, ?_⟩
  rintro ⟨files', q, hsave, -⟩
  cases hsave

end MailFormula
