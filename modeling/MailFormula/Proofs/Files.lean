import MailFormula.Files
/-!
# Files read back

A file can be written where the path leads to a place in directories that
there are, and no directory stands at the place itself (`FileTree.Takes`).
Exactly there writing succeeds, and the path then names the file with its
text (`FileTree.read_write`): the new file changes nothing about the
directories that the path passes. Everywhere else writing is refused, with
what is wrong with the path, or because a directory stands at the place
(`FileTree.Refuses`).
-/

namespace MailFormula.FileTree

variable {t t' : FileTree} {place d : FilePlace} {content : FileContent} {path text : String}
  {fault : FileFault}

/-- **A file can be written** at a path. -/
def Takes (t : FileTree) (path : String) : Prop :=
  ∃ place, t.locateToWrite path = .ok place ∧ t.node place ≠ .directory

theorem write_eq_ok_iff :
    t.write path text = .ok t' ↔
      ∃ place, t.locateToWrite path = .ok place ∧ t.node place ≠ .directory ∧
        t.add place text = t' := by
  unfold write
  cases t.locateToWrite path with
  | error fault => exact iff_of_false nofun nofun
  | ok place =>
    dsimp only
    split
    case h_1 hdirectory =>
      refine iff_of_false nofun ?_
      rintro ⟨_, ⟨⟩, hnode, -⟩
      exact hnode hdirectory
    all_goals
      rename_i hnode
      rw [Except.ok.injEq]
      constructor
      · rintro rfl
        exact ⟨place, rfl, hnode ▸ nofun, rfl⟩
      · rintro ⟨_, ⟨⟩, -, rfl⟩
        rfl

/-- **There, and nowhere else**, the file system writes. -/
theorem takes_iff (text : String) : t.Takes path ↔ ∃ t', t.write path text = .ok t' := by
  constructor
  · rintro ⟨place, hplace, hnode⟩
    exact ⟨t.add place text, write_eq_ok_iff.2 ⟨place, hplace, hnode, rfl⟩⟩
  · rintro ⟨t', h⟩
    obtain ⟨place, hplace, hnode, -⟩ := write_eq_ok_iff.1 h
    exact ⟨place, hplace, hnode⟩

/-- **Writing at a path is refused** with a fault: the path leads nowhere,
and the fault says why, or it leads to a directory. -/
def Refuses (t : FileTree) (path : String) (fault : FileFault) : Prop :=
  t.locateToWrite path = .error fault ∨
    ∃ place, t.locateToWrite path = .ok place ∧ t.node place = .directory ∧ fault = .isDirectory

/-- **That fault is what the file system answers**, whatever is to be
written. -/
theorem write_eq_error_iff : t.write path text = .error fault ↔ t.Refuses path fault := by
  unfold write Refuses
  cases t.locateToWrite path with
  | error fault' =>
    rw [Except.error.injEq, Except.error.injEq, iff_self_or]
    rintro ⟨_, ⟨⟩, -⟩
  | ok place =>
    dsimp only
    split
    case h_1 hdirectory =>
      rw [Except.error.injEq]
      constructor
      · rintro rfl
        exact .inr ⟨place, rfl, hdirectory, rfl⟩
      · rintro (⟨⟨⟩⟩ | ⟨_, -, -, rfl⟩)
        rfl
    all_goals
      rename_i hnode
      refine iff_of_false nofun ?_
      rintro (⟨⟨⟩⟩ | ⟨_, ⟨⟩, hdirectory, -⟩)
      rw [hnode] at hdirectory
      cases hdirectory

/-- A file is written or refused, never both. -/
theorem not_takes_iff : ¬ t.Takes path ↔ ∃ fault, t.Refuses path fault := by
  rw [takes_iff "", not_exists]
  constructor
  · intro hnone
    cases hwrite : t.write path "" with
    | error fault => exact ⟨fault, write_eq_error_iff.1 hwrite⟩
    | ok t' => exact absurd hwrite (hnone t')
  · rintro ⟨fault, hrefuses⟩ t' hwrite
    rw [write_eq_error_iff.2 hrefuses] at hwrite
    cases hwrite

/-- A path that a file can be written at names its place. -/
theorem locate_of_locateToWrite (h : t.locateToWrite path = .ok place) :
    t.locate path = .ok place := by
  unfold locateToWrite at h
  split at h
  · exact h
  · dsimp only at h
    split at h <;> cases h

theorem node_eq_directory_iff :
    t.node d = .directory ↔ d.names = [] ∨ t.files.lookup d = none ∧ d ∈ t.directories := by
  unfold node
  split
  case isTrue hnames => exact iff_of_true rfl (.inl hnames)
  case isFalse hnames =>
    cases hfile : t.files.lookup d with
    | some content => exact iff_of_false nofun (by simp [hnames])
    | none =>
      by_cases hd : d ∈ t.directories <;> simp [hnames, hd]

/-- The file is there. -/
theorem node_put_self (hnames : place.names ≠ []) :
    (t.put place content).node place = .file content := by
  rw [node, if_neg hnames, put, List.lookup_cons_self]

/-- **The directories stay** where the file is not put. -/
theorem node_put_of_directory (hd : t.node d = .directory) (hne : d ≠ place) :
    (t.put place content).node d = .directory := by
  rw [node_eq_directory_iff] at hd ⊢
  refine hd.imp_right (fun ⟨hfile, hmem⟩ => ⟨?_, List.mem_append_left _ hmem⟩)
  rw [List.lookup_eq_none_iff] at hfile ⊢
  intro p hp
  rcases List.mem_cons.1 hp with rfl | hp
  · exact bne_iff_ne.2 hne
  · exact hfile p (List.mem_filter.1 hp).1

/-- Every path is walked as before. -/
theorem walk_put {start : FilePlace} {pieces : List (List Char)} {p : FilePlace}
    (hplace : t.node place ≠ .directory) (h : t.walk start pieces = .ok p) :
    (t.put place content).walk start pieces = .ok p := by
  induction pieces generalizing start with
  | nil => exact h
  | cons piece pieces ih =>
    rw [walk] at h ⊢
    split at h
    · cases h
    · cases h
    · rename_i hstart
      have hne : start ≠ place := fun heq => hplace (heq ▸ hstart)
      rw [node_put_of_directory hstart hne]
      dsimp only
      split at h
      · cases h
      · rename_i hname
        rw [if_neg hname]
        exact ih h

theorem locate_put {p : FilePlace} (hplace : t.node place ≠ .directory)
    (h : t.locate path = .ok p) : (t.put place content).locate path = .ok p := by
  unfold locate at h ⊢
  split at h
  · cases h
  · split at h
    · cases h
    · split at h
      · cases h
      · rename_i hnul hempty hlong
        rw [if_neg hnul, if_neg hempty, if_neg hlong]
        exact walk_put hplace h

/-- **What is written is read back.** -/
theorem read_write (h : t.write path text = .ok t') : t'.read path = .ok text := by
  obtain ⟨place, hplace, hnode, rfl⟩ := write_eq_ok_iff.1 h
  have hnames : place.names ≠ [] := fun hnil => hnode (if_pos hnil)
  have hlocate : (t.add place text).locate path = .ok place :=
    locate_put hnode (locate_of_locateToWrite hplace)
  have hfile : (t.add place text).node place = .file (.text text) := node_put_self hnames
  rw [read, hlocate]
  dsimp only
  rw [hfile]

end MailFormula.FileTree
