import MailFormula.Proofs.Evaluation.Variables
/-!
# What a write does to the reads

A name is read from the innermost frame that binds it, else from the
globals. A write looks for that same frame, and takes the innermost one
where there is none; so it is the write that is read next, and nothing
else that is read changes (`Scope.get?_set`).

How long it lasts is another matter. A write in the innermost frame is
gone with that frame, and one that reaches out of it (`Scope.ReachesOut`)
stays (`Scope.get?_pop_set`). A global write can be read only where no frame
stands before it (`Scope.get?_setGlobal`).
-/

namespace MailFormula

open Text

/-- A frame that binds a name has a value for it. -/
theorem Frame.binds_eq_false_iff {f : Frame} {name : String} :
    f.binds name = false ↔ f.vars.get? name = none := by
  rw [binds, Table.contains, Option.isSome_eq_false_iff, Option.isNone_iff_eq_none]

/-- Names that differ in case are bound alike. -/
theorem Frame.binds_congr {name other : String} (h : asciiLower name = asciiLower other)
    (f : Frame) : f.binds name = f.binds other :=
  Table.contains_congr h f.vars

/-- A frame with a variable written into it. -/
def Frame.write (f : Frame) (name : String) (v : Value) : Frame :=
  { f with vars := f.vars.put name v }

namespace Scope

variable {f : Frame} {fs gs : List Frame} {globals : Table Value} {name other : String} {v : Value}

/-! ## Frames -/

/-- What frames alone give a name. -/
def lookup (frames : List Frame) (name : String) : Option Value :=
  frames.findSome? fun f => f.vars.get? name

theorem get?_eq (s : Scope) (name : String) :
    s.get? name = (lookup s.frames name <|> s.globals.get? name) := rfl

theorem lookup_cons (f : Frame) (fs : List Frame) (name : String) :
    lookup (f :: fs) name = (f.vars.get? name <|> lookup fs name) := by
  rw [lookup, List.findSome?_cons]
  cases f.vars.get? name with
  | none => rfl
  | some v => rfl

/-- Frames give a name nothing if none of them binds it. -/
theorem lookup_eq_none_iff : lookup fs name = none ↔ ∀ f ∈ fs, f.binds name = false := by
  rw [lookup, List.findSome?_eq_none_iff]
  exact forall₂_congr fun _ _ => Frame.binds_eq_false_iff.symm

/-- A frame reads back what was written into it, and gives every other
name what it gave. -/
theorem lookup_write (f : Frame) (fs : List Frame) (name other : String) (v : Value) :
    lookup (f.write name v :: fs) other =
      if asciiLower name = asciiLower other then some v else lookup (f :: fs) other := by
  rw [lookup_cons, lookup_cons, Frame.write, Table.get?_put]
  split
  · rfl
  · rfl

theorem overwrite_cons (f : Frame) (fs : List Frame) (name : String) (v : Value) :
    overwrite name v (f :: fs) =
      if f.binds name then some (f.write name v :: fs) else (overwrite name v fs).map (f :: ·) :=
  rfl

/-- Nothing is overwritten where nothing is bound. -/
theorem overwrite_eq_none_iff : overwrite name v fs = none ↔ ∀ f ∈ fs, f.binds name = false := by
  induction fs with
  | nil => exact ⟨fun _ => nofun, fun _ => rfl⟩
  | cons f fs ih =>
    rw [overwrite_cons, List.forall_mem_cons, ← ih]
    cases hbinds : f.binds name with
    | true => exact ⟨nofun, fun h => by cases h.1⟩
    | false =>
      rw [if_neg Bool.false_ne_true, Option.map_eq_none_iff]
      exact ⟨fun h => ⟨rfl, h⟩, fun h => h.2⟩

/-- **What is overwritten is what is read.** The frame that an assignment
finds is the one that a read would have found. -/
theorem lookup_overwrite (h : overwrite name v fs = some gs) (other : String) :
    lookup gs other = if asciiLower name = asciiLower other then some v else lookup fs other := by
  induction fs generalizing gs with
  | nil => cases h
  | cons f fs ih =>
    rw [overwrite_cons] at h
    cases hbinds : f.binds name with
    | true =>
      rw [if_pos hbinds] at h
      obtain rfl := Option.some.inj h
      exact lookup_write f fs name other v
    | false =>
      rw [if_neg (Bool.eq_false_iff.1 hbinds)] at h
      obtain ⟨hs, hover, rfl⟩ := Option.map_eq_some_iff.1 h
      rw [lookup_cons, lookup_cons, ih hover]
      by_cases hname : asciiLower name = asciiLower other
      · have hnone : f.vars.get? other = none := by
          rwa [← Frame.binds_eq_false_iff, ← Frame.binds_congr hname]
        rw [if_pos hname, if_pos hname, hnone]
        rfl
      · rw [if_neg hname, if_neg hname]

/-! ## Writes -/

/-- **Where an assignment goes**: to a frame around the innermost one, if
there the name is bound and the innermost frame does not stand before it. -/
def ReachesOut (f : Frame) (fs : List Frame) (name : String) : Prop :=
  f.binds name = false ∧ ∃ g ∈ fs, g.binds name = true

instance : Decidable (ReachesOut f fs name) := inferInstanceAs (Decidable (_ ∧ _))

/-- What it overwrites there. -/
theorem overwrite_of_reachesOut (h : ReachesOut f fs name) (v : Value) :
    ∃ gs, overwrite name v fs = some gs ∧ overwrite name v (f :: fs) = some (f :: gs) := by
  obtain ⟨hfree, g, hg, hbound⟩ := h
  have hsome : overwrite name v fs ≠ none := fun hnone => by
    rw [overwrite_eq_none_iff.1 hnone g hg] at hbound
    cases hbound
  obtain ⟨gs, hgs⟩ := Option.ne_none_iff_exists'.1 hsome
  refine ⟨gs, hgs, ?_⟩
  rw [overwrite_cons, hfree, hgs]
  rfl

/-- Any other assignment goes to the innermost frame. -/
theorem set_of_not_reachesOut (h : ¬ ReachesOut f fs name) (globals : Table Value) (v : Value) :
    (Scope.mk (f :: fs) globals).set name v = ⟨f.write name v :: fs, globals⟩ := by
  cases hbinds : f.binds name with
  | true =>
    have hover : overwrite name v (f :: fs) = some (f.write name v :: fs) := by
      rw [overwrite_cons, hbinds]
      rfl
    rw [set, hover]
  | false =>
    have hfree : ∀ g ∈ fs, g.binds name = false := fun g hg =>
      Bool.eq_false_iff.2 fun hbound => h ⟨hbinds, g, hg, hbound⟩
    have hover : overwrite name v (f :: fs) = none :=
      overwrite_eq_none_iff.2 (List.forall_mem_cons.2 ⟨hbinds, hfree⟩)
    rw [set, hover]
    rfl

/-- **An assignment is what is read next**, and alone. -/
theorem get?_set (f : Frame) (fs : List Frame) (globals : Table Value) (name other : String)
    (v : Value) :
    ((Scope.mk (f :: fs) globals).set name v).get? other =
      if asciiLower name = asciiLower other then some v
      else (Scope.mk (f :: fs) globals).get? other := by
  have hlookup : lookup ((Scope.mk (f :: fs) globals).set name v).frames other =
      if asciiLower name = asciiLower other then some v else lookup (f :: fs) other := by
    by_cases h : ReachesOut f fs name
    · obtain ⟨gs, -, hover⟩ := overwrite_of_reachesOut h v
      rw [set, hover]
      exact lookup_overwrite hover other
    · rw [set_of_not_reachesOut h]
      exact lookup_write f fs name other v
  rw [get?_eq, get?_eq, hlookup, globals_set (List.cons_ne_nil f fs)]
  split
  · rfl
  · rfl

/-- **And it lasts as long as its frame.** -/
theorem get?_pop_set (f : Frame) (fs : List Frame) (globals : Table Value)
    (name other : String) (v : Value) :
    ((Scope.mk (f :: fs) globals).set name v).pop.get? other =
      if asciiLower name = asciiLower other ∧ ReachesOut f fs name then some v
      else (Scope.mk (f :: fs) globals).pop.get? other := by
  by_cases h : ReachesOut f fs name
  · obtain ⟨gs, hgs, hover⟩ := overwrite_of_reachesOut h v
    rw [set, hover]
    change (lookup gs other <|> globals.get? other) =
      if _ then _ else (lookup fs other <|> globals.get? other)
    rw [lookup_overwrite hgs]
    simp only [h, and_true]
    split
    · rfl
    · rfl
  · rw [set_of_not_reachesOut h, if_neg fun hboth => h hboth.2]
    rfl

/-- **A global write is read where no frame stands before it.** -/
theorem get?_setGlobal (s : Scope) (name other : String) (v : Value) :
    (s.setGlobal name v).get? other =
      if asciiLower name = asciiLower other ∧ ∀ f ∈ s.frames, f.binds name = false then some v
      else s.get? other := by
  have hread : (s.setGlobal name v).get? other =
      (lookup s.frames other <|>
        if asciiLower name = asciiLower other then some v else s.globals.get? other) := by
    rw [get?_eq, setGlobal, Table.get?_put]
  rw [hread, get?_eq]
  by_cases hname : asciiLower name = asciiLower other
  · have hfree : (∀ f ∈ s.frames, f.binds name = false) ↔ lookup s.frames other = none := by
      rw [lookup_eq_none_iff]
      exact forall₂_congr fun f _ => by rw [Frame.binds_congr hname]
    simp only [hname, hfree, true_and, if_true]
    cases lookup s.frames other with
    | none => rfl
    | some w => rfl
  · rw [if_neg hname, if_neg fun hboth => hname hboth.1]

/-- So it is read, whatever it is, where no frame binds the name at all. -/
theorem reads_every_global_iff (s : Scope) (name : String) :
    (∀ w, (s.setGlobal name w).get? name = some w) ↔ ∀ f ∈ s.frames, f.binds name = false := by
  constructor
  · intro h
    -- A frame that binds the name would make all writes read alike.
    by_contra hbound
    have hread : ∀ w, s.get? name = some w := fun w => by
      rw [← h w, get?_setGlobal, if_neg fun hboth => hbound hboth.2]
    cases (hread (.number 0)).symm.trans (hread (.number 1))
  · intro hfree w
    rw [get?_setGlobal, if_pos ⟨rfl, hfree⟩]

/-- Arguments are found by the arguments of the frames alone. -/
theorem argument?_of_map_args {a b : Scope} (h : b.frames.map Frame.args = a.frames.map Frame.args)
    (i : Nat) : b.argument? i = a.argument? i := by
  have hfind : ∀ s : Scope, s.frames.findSome? Frame.args =
      (s.frames.map Frame.args).findSome? id := fun s => by
    rw [List.findSome?_map]
    rfl
  rw [argument?, argument?, hfind, hfind, h]

/-- **Writes obey the scope rules.** Take a scope with frames.

An assignment that is not global is what its name then reads as, in
whatever case the name is written; every other name reads as before, and
the globals, the number of frames and the arguments of each of them are as
before, and so what is read as an argument. If the innermost frame is
dropped then, the name still reads as the value if a frame around it had
bound the name and it had not itself; otherwise, and so with every other
name, the read is that of the scope whose innermost frame was dropped
without the assignment.

A global assignment is what its name then reads as if no frame binds the
name; otherwise the name, like every other, reads as before. So exactly
where no frame binds the name does it read as the value that is assigned,
whatever that is. -/
theorem writes_obey_scopes (s : Scope) (hs : s.frames ≠ []) (name : String) (v : Value) :
    (∀ other, (s.set name v).get? other =
      if asciiLower name = asciiLower other then some v else s.get? other) ∧
    (s.set name v).globals = s.globals ∧
    (s.set name v).frames.length = s.frames.length ∧
    (s.set name v).frames.map Frame.args = s.frames.map Frame.args ∧
    (∀ i, (s.set name v).argument? i = s.argument? i) ∧
    (∀ other, (s.set name v).pop.get? other =
      if asciiLower name = asciiLower other ∧ (s.frames.head hs).binds name = false ∧
          ∃ f ∈ s.frames.tail, f.binds name = true then some v
      else s.pop.get? other) ∧
    (∀ other, (s.setGlobal name v).get? other =
      if asciiLower name = asciiLower other ∧ ∀ f ∈ s.frames, f.binds name = false then some v
      else s.get? other) ∧
    ((∀ w, (s.setGlobal name w).get? name = some w) ↔
      ∀ f ∈ s.frames, f.binds name = false) := by
  obtain ⟨frames, globals⟩ := s
  obtain ⟨f, fs, rfl⟩ := List.exists_cons_of_ne_nil hs
  have hargs := map_args_set ⟨f :: fs, globals⟩ name v
  refine ⟨fun other => get?_set f fs globals name other v, globals_set hs name v, ?_, hargs,
    fun i => argument?_of_map_args hargs i, fun other => get?_pop_set f fs globals name other v,
    fun other => get?_setGlobal _ name other v, reads_every_global_iff _ name⟩
  have hlength := congrArg List.length hargs
  rwa [List.length_map, List.length_map] at hlength

/-- The frame of a call, over that of its caller, which binds a name; and
a global. -/
def nested : Scope where
  frames := [{ args := some [.string "F"] }, { vars := ({} : Table Value).put "X" (.number 1) }]
  globals := ({} : Table Value).put "y" (.number 0)

/-- What the call writes to the name of its caller stays; what it writes
to the other name is gone with it, and the global is read again. -/
theorem nested_writes :
    nested.frames ≠ [] ∧
    (nested.set "x" (.number 2)).pop.get? "X" = some (.number 2) ∧
    (nested.set "Y" (.number 3)).get? "y" = some (.number 3) ∧
    (nested.set "Y" (.number 3)).pop.get? "y" = some (.number 0) ∧
    (nested.setGlobal "x" (.number 4)).get? "x" = some (.number 1) := by
  have hframes : nested.frames ≠ [] := List.cons_ne_nil _ _
  obtain ⟨-, -, -, -, -, houter, -⟩ :=
    writes_obey_scopes nested (List.cons_ne_nil _ _) "x" (.number 2)
  obtain ⟨hread, -, -, -, -, hinner, -⟩ :=
    writes_obey_scopes nested (List.cons_ne_nil _ _) "Y" (.number 3)
  obtain ⟨-, -, -, -, -, -, hglobal, -⟩ :=
    writes_obey_scopes nested (List.cons_ne_nil _ _) "x" (.number 4)
  refine ⟨hframes, ?_, ?_, ?_, ?_⟩
  · rw [houter, if_pos (by decide)]
  · rw [hread, if_pos (by decide)]
  · rw [hinner, if_neg (by decide)]
    rfl
  · rw [hglobal, if_neg (by decide)]
    rfl

end Scope

end MailFormula
