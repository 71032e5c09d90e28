import MailFormula.Proofs.Evaluation.Law
/-!
# Balance

Evaluation opens frames and counts the calls that are open, and gives
all of it back, whether it ends with a value, a failure or a signal.
`balance` is the law that says so: the frames afterwards are the frames
before, with the same positional arguments, and the counter stands where
it stood. The variables of a frame may change; its arguments never do.
-/

namespace MailFormula

namespace Scope

/-- Overwriting a variable moves no frame and no argument. -/
theorem map_args_overwrite {name : String} {v : Value} {frames frames' : List Frame}
    (h : overwrite name v frames = some frames') :
    frames'.map Frame.args = frames.map Frame.args := by
  induction frames generalizing frames' with
  | nil => cases h
  | cons f fs ih =>
    rw [overwrite] at h
    split at h
    · obtain rfl := Option.some.inj h
      rfl
    · obtain ⟨gs, hgs, rfl⟩ := Option.map_eq_some_iff.1 h
      rw [List.map_cons, List.map_cons, ih hgs]

/-- Nor does binding one. -/
theorem map_args_set (s : Scope) (name : String) (v : Value) :
    (s.set name v).frames.map Frame.args = s.frames.map Frame.args := by
  rw [set]
  split
  · rename_i frames h
    exact map_args_overwrite h
  · split
    · rename_i f fs h
      rw [h]
      rfl
    · rfl

end Scope

/-- **The two sessions are balanced**: they agree on the limits, on the
number of open calls, and on the frames and their arguments. -/
structure Balanced (s t : Session) : Prop where
  limits : t.limits = s.limits
  depth : t.depth = s.depth
  args : t.scope.frames.map Frame.args = s.scope.frames.map Frame.args

namespace Balanced

variable {s t u : Session}

theorem refl (s : Session) : Balanced s s := ⟨rfl, rfl, rfl⟩

theorem trans (h : Balanced s t) (k : Balanced t u) : Balanced s u :=
  ⟨k.limits.trans h.limits, k.depth.trans h.depth, k.args.trans h.args⟩

/-- There are as many frames as before. -/
theorem length_frames (h : Balanced s t) :
    t.scope.frames.length = s.scope.frames.length := by
  have hlen := congrArg List.length h.args
  rwa [List.length_map, List.length_map] at hlen

/-- The levels that are left are the levels that were left. -/
theorem levels (h : Balanced s t) :
    t.limits.maxDepth - t.depth = s.limits.maxDepth - s.depth := by
  rw [h.limits, h.depth]

theorem effect {r : Request} (hr : r.isPlain = true) (s : Session) :
    Balanced s (r.effect s).2 := by
  have hset := sameSetting_effect hr s
  refine ⟨hset.limits, hset.depth, ?_⟩
  rcases scope_effect hr s with h | ⟨name, v, h | h⟩
  · rw [h]
  · rw [h, Scope.map_args_set]
  · rw [h]
    rfl

/-- A call gives back the level it took. -/
theorem leave (h : Balanced s.enter t) : Balanced s t.leave := by
  have hdepth : t.depth = s.depth + 1 := h.depth
  refine ⟨h.limits, ?_, h.args⟩
  change t.depth - 1 = s.depth
  omega

/-- A frame that was opened is the one that is dropped. -/
theorem popFrame {args : Option (List Value)} (h : Balanced (s.pushFrame args) t) :
    Balanced s t.popFrame := by
  refine ⟨h.limits, h.depth, ?_⟩
  have hargs : t.scope.frames.map Frame.args = args :: s.scope.frames.map Frame.args := h.args
  change t.scope.frames.tail.map Frame.args = _
  rw [List.map_tail, hargs, List.tail_cons]

theorem withContextOf {key : MessageKey} (h : Balanced (s.openChild key) t) :
    Balanced s (t.withContextOf s) :=
  ⟨h.limits, h.depth, h.args⟩

end Balanced

/-- Balance of an outcome does not ask how it ended. -/
theorem obeys_balanced_iff {α : Type} {s : Session} {o : Outcome α} :
    Obeys Balanced (fun s _ t => Balanced s t) s o ↔ Balanced s o.2 := by
  obtain ⟨e | a, t⟩ := o
  · exact Iff.rfl
  · exact Iff.rfl

/-- **The law of balance.** -/
def balance : Law where
  keeps := Balanced
  stops := fun s _ t => Balanced s t
  refl := Balanced.refl
  trans := Balanced.trans
  stops_trans := Balanced.trans
  fails := fun s _ => Balanced.refl s
  tires := fun _ h => h
  caught := fun h => h
  effect := fun _ hr s => obeys_balanced_iff.2 (Balanced.effect hr s)
  call := fun h => h.imp Balanced.leave fun _ => Balanced.leave
  frame := fun h => h.imp Balanced.popFrame fun _ => Balanced.popFrame
  child := fun h => h.imp Balanced.withContextOf fun _ => Balanced.withContextOf

/-- **Evaluation is balanced**, at every number of levels. -/
theorem balanced_eval (patience levels : Nat) (f : Formula) (s : Session) :
    Balanced s (eval patience levels f s).2 :=
  obeys_balanced_iff.1 (balance.holds_eval patience levels f s)

/-- And so is evaluation in a session. -/
theorem Balanced.of_evaluate {patience : Nat} {f : Formula} {s t : Session}
    {r : Except Stop Value} (h : s.evaluate patience f = (r, t)) : Balanced s t := by
  have hbal := balanced_eval patience (s.limits.maxDepth - s.depth) f s
  rw [Session.evaluate] at h
  rwa [h] at hbal

/-- So is running a formula by itself. -/
theorem balanced_value (patience : Nat) (f : Formula) (s : Session) :
    Balanced s (s.value patience f).2 := by
  have h : Balanced s (Session.evaluate patience f { s with signal := none }).2 :=
    ⟨(balanced_eval patience _ f { s with signal := none }).limits,
      (balanced_eval patience _ f { s with signal := none }).depth,
      (balanced_eval patience _ f { s with signal := none }).args⟩
  rw [Session.value]
  generalize Session.evaluate patience f { s with signal := none } = o at h ⊢
  obtain ⟨(e | g | -) | v, t⟩ := o
  · exact ⟨h.limits, h.depth, h.args⟩
  · exact h
  · exact h
  · exact h

end MailFormula
