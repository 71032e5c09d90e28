import MailFormula.Proofs.Evaluation.Agreement
/-!
# What holds at every moment

At every moment of an evaluation the open calls and frames are those
that something pending will give back: the counter stands at its first
value plus the calls that are open, and there are as many frames as at
first plus those that are open (`Course.Accounted`). Since a call is
admitted only below the limit, the counter never exceeds it, and the
frame that was there first is never dropped.
-/

namespace MailFormula

namespace Course

/-- How many levels something pending gives back. -/
def Pending.levels : Pending → Nat
  | .call => 1
  | _ => 0

/-- How many frames something pending drops. -/
def Pending.frames : Pending → Nat
  | .frame | .visit _ _ _ _ | .found _ _ _ => 1
  | _ => 0

/-- The calls that are open. -/
def openCalls : List Pending → Nat
  | [] => 0
  | p :: k => p.levels + openCalls k

/-- The frames that are open. -/
def openFrames : List Pending → Nat
  | [] => 0
  | p :: k => p.frames + openFrames k

/-- **Everything that is open is accounted for**, from the session that
an evaluation started in. -/
structure Accounted (base : Session) (k : List Pending) (s : Session) : Prop where
  limits : s.limits = base.limits
  depth : s.depth = base.depth + openCalls k
  frames : s.scope.frames.length = base.scope.frames.length + openFrames k
  within : s.depth ≤ base.limits.maxDepth

namespace Accounted

variable {base s t : Session} {k : List Pending} {p q : Pending}

theorem of_balanced (h : Accounted base k s) (hb : Balanced s t) : Accounted base k t where
  limits := hb.limits.trans h.limits
  depth := hb.depth.trans h.depth
  frames := hb.length_frames.trans h.frames
  within := by rw [hb.depth]; exact h.within

/-- Something pending that holds neither a level nor a frame may come. -/
theorem note (hl : p.levels = 0) (hf : p.frames = 0) (h : Accounted base k s) :
    Accounted base (p :: k) s := by
  refine ⟨h.limits, ?_, ?_, h.within⟩
  · rw [openCalls, hl, Nat.zero_add, h.depth]
  · rw [openFrames, hf, Nat.zero_add, h.frames]

/-- And go. -/
theorem drop (hl : p.levels = 0) (hf : p.frames = 0) (h : Accounted base (p :: k) s) :
    Accounted base k s := by
  have hdepth := h.depth
  have hframes := h.frames
  rw [openCalls, hl, Nat.zero_add] at hdepth
  rw [openFrames, hf, Nat.zero_add] at hframes
  exact ⟨h.limits, hdepth, hframes, h.within⟩

/-- A call that is admitted is below the limit. -/
theorem enter (h : Accounted base k s) (hs : s.tryEnter = .ok t) :
    Accounted base (.call :: k) t := by
  rw [Session.tryEnter] at hs
  split at hs
  · rename_i hlt
    obtain rfl := Except.ok.inj hs
    have hdepth := h.depth
    have hlimits := h.limits
    refine ⟨h.limits, ?_, ?_, ?_⟩
    · change s.depth + 1 = _
      rw [openCalls, show Pending.call.levels = 1 from rfl]
      omega
    · change s.scope.frames.length = _
      rw [openFrames, show Pending.call.frames = 0 from rfl, h.frames, Nat.zero_add]
    · change s.depth + 1 ≤ base.limits.maxDepth
      rw [← hlimits]
      exact hlt
  · cases hs

theorem leave (h : Accounted base (.call :: k) s) : Accounted base k s.leave := by
  have hdepth := h.depth
  have hframes := h.frames
  have hwithin := h.within
  rw [openCalls, show Pending.call.levels = 1 from rfl] at hdepth
  rw [openFrames, show Pending.call.frames = 0 from rfl, Nat.zero_add] at hframes
  refine ⟨h.limits, ?_, hframes, ?_⟩
  · change s.depth - 1 = base.depth + openCalls k
    omega
  · change s.depth - 1 ≤ base.limits.maxDepth
    omega

/-- A frame is opened together with what will drop it. -/
theorem pushFrame {args : Option (List Value)} (hl : p.levels = 0) (hf : p.frames = 1)
    (h : Accounted base k s) : Accounted base (p :: k) (s.pushFrame args) := by
  have hframes := h.frames
  refine ⟨h.limits, ?_, ?_, h.within⟩
  · rw [openCalls, hl, Nat.zero_add]
    exact h.depth
  · change s.scope.frames.length + 1 = _
    rw [openFrames, hf]
    omega

theorem popFrame (hl : p.levels = 0) (hf : p.frames = 1) (h : Accounted base (p :: k) s) :
    Accounted base k s.popFrame := by
  have hdepth := h.depth
  have hframes := h.frames
  rw [openCalls, hl, Nat.zero_add] at hdepth
  rw [openFrames, hf] at hframes
  refine ⟨h.limits, hdepth, ?_, h.within⟩
  change s.scope.frames.tail.length = _
  rw [List.length_tail]
  omega

/-- One thing takes the place of another that holds the same. -/
theorem replace (h : Accounted base (p :: k) s) (hl : q.levels = p.levels)
    (hf : q.frames = p.frames) : Accounted base (q :: k) s := by
  have hdepth := h.depth
  have hframes := h.frames
  rw [openCalls, ← hl, ← openCalls] at hdepth
  rw [openFrames, ← hf, ← openFrames] at hframes
  exact ⟨h.limits, hdepth, hframes, h.within⟩

theorem withContextOf (h : Accounted base k s) (outside : Session) :
    Accounted base k (s.withContextOf outside) :=
  ⟨h.limits, h.depth, h.frames, h.within⟩

/-- The frames that were there first are still there. -/
theorem length_frames_le (h : Accounted base k s) :
    base.scope.frames.length ≤ s.scope.frames.length := by
  have hframes := h.frames
  omega

/-! ## One step keeps the account

One lemma for each way in which a step goes on: beginning a formula,
serving a request, and handing a value to what is pending. -/

theorem start (h : Accounted base k s) (f : Formula) :
    Accounted base (Course.start f k s).pending (Course.start f k s).session := by
  cases f with
  | text t => exact h
  | number n => exact h
  | regex r => exact h
  | field name =>
    exact h.of_balanced (obeys_balanced_iff.1 (balance.holds_fieldValue name s))
  | var name => exact h
  | call name args =>
    rw [Course.start]
    split
    · exact h
    · rename_i t ht
      exact h.enter ht

theorem serve (h : Accounted base k s) (name : String) (r : Request)
    (next : r.Reply → Action Value) :
    Accounted base (Course.serve name k s r next).pending
      (Course.serve name k s r next).session := by
  by_cases hr : r.isPlain = true
  · have hb := Balanced.effect hr s
    rw [serve_of_isPlain hr]
    generalize r.effect s = o at hb ⊢
    obtain ⟨e | a, t⟩ := o
    · exact h.of_balanced hb
    · exact h.of_balanced hb
  · cases r with
    | evaluate f => exact h.note rfl rfl
    | attempt f => exact h.note rfl rfl
    | loop test body => exact h.note rfl rfl
    | visit key body found =>
      have hchild : Accounted base k (s.openChild key) :=
        ⟨h.limits, h.depth, h.frames, h.within⟩
      exact hchild.pushFrame rfl rfl
    | _ => exact absurd rfl hr

theorem resume (r : Except Stop Value) (h : Accounted base (p :: k) s) :
    Accounted base (Course.resume r k s p).pending (Course.resume r k s p).session := by
  cases p with
  | call => exact h.leave
  | frame => exact h.popFrame rfl rfl
  | argument target done rest =>
    obtain e | v := r
    · exact h.drop rfl rfl
    · exact h.drop rfl rfl
  | value name next =>
    obtain e | v := r
    · exact h.drop rfl rfl
    · exact h.drop rfl rfl
  | attempt name next =>
    obtain (e | g | -) | v := r
    · exact h.drop rfl rfl
    · exact h.drop rfl rfl
    · exact h.drop rfl rfl
    · exact h.drop rfl rfl
  | condition test body rounds name next =>
    obtain e | v := r
    · exact h.drop rfl rfl
    · simp only [Course.resume]
      split
      · split
        · split
          · exact h.drop rfl rfl
          · exact h.replace rfl rfl
        · exact h.replace rfl rfl
      · exact h.drop rfl rfl
  | body test body rounds name next =>
    obtain e | v := r
    · exact h.drop rfl rfl
    · exact h.replace rfl rfl
  | visit outside found name next =>
    have hback := (h.popFrame rfl rfl).withContextOf outside
    obtain e | v := r
    · exact hback
    · simp only [Course.resume]
      split
      · split
        · exact hback
        -- The formula for what was found goes on in the same frame.
        · exact h.replace rfl rfl
      · exact hback
  | found outside name next =>
    have hback := (h.popFrame rfl rfl).withContextOf outside
    obtain e | v := r
    · exact hback
    · exact hback

end Accounted

variable {base s : Session} {c d : State}

/-- **A step keeps the account.** -/
theorem accounted_step (h : Accounted base c.pending c.session) :
    Accounted base (step c).pending (step c).session := by
  obtain ⟨control, k, s⟩ := c
  cases control with
  | evaluate f => exact h.start f
  | arguments target done rest =>
    cases rest with
    | cons f rest => exact h.note rfl rfl
    | nil =>
      cases target with
      | builtin sig name => exact h
      | user name body => exact h.pushFrame rfl rfl
  | act name a =>
    cases a with
    | done v => exact h
    | fail f => exact h
    | look next => exact h
    | request r next => exact h.serve name r next
  | give r =>
    cases k with
    | nil => exact h
    | cons p k => exact h.resume r

/-- **So does a run of steps.** -/
theorem accounted_of_leads (h : Accounted base c.pending c.session) (hcd : Leads c d) :
    Accounted base d.pending d.session := by
  obtain ⟨n, rfl⟩ := hcd
  induction n with
  | zero => exact h
  | succ n ih =>
    rw [Function.iterate_succ_apply']
    exact accounted_step ih

/-- At the beginning nothing is open. -/
theorem accounted_beginning (hs : s.depth ≤ s.limits.maxDepth) (f : Formula) :
    Accounted s (beginning f s).pending (beginning f s).session :=
  ⟨rfl, rfl, rfl, hs⟩

end Course

/-! ## Sessions that can be reached -/

namespace Session

/-- A session as it is built: whatever the host chose, nothing has been
defined, bound, matched, raised or fetched, and the root frame is the
only one. -/
structure Fresh (s : Session) : Prop where
  functions : s.functions = {}
  scope : s.scope = {}
  captures : s.captures = []
  signal : s.signal = none
  depth : s.depth = 0
  enclosing : s.enclosing = []
  fetched : s.context.fetched = none

/-- **What a sequence of evaluations reaches** from a session as it is
built. -/
inductive Reachable : Session → Prop
  | fresh {s : Session} : s.Fresh → Reachable s
  /-- A formula is evaluated, whatever comes of it. -/
  | evaluate {s : Session} (patience : Nat) (f : Formula) :
      Reachable s → Reachable (s.evaluate patience f).2
  /-- A formula is run by itself, whatever comes of it. -/
  | value {s : Session} (patience : Nat) (f : Formula) :
      Reachable s → Reachable (s.value patience f).2

/-- Between two evaluations there is the root frame, and no call is open. -/
theorem Reachable.rest {s : Session} (h : s.Reachable) :
    s.scope.frames.map Frame.args = [none] ∧ s.depth = 0 := by
  induction h with
  | @fresh s hs =>
    refine ⟨?_, hs.depth⟩
    rw [hs.scope]
    rfl
  | @evaluate s patience f _ ih =>
    have hb := balanced_eval patience (s.limits.maxDepth - s.depth) f s
    exact ⟨hb.args.trans ih.1, hb.depth.trans ih.2⟩
  | @value s patience f _ ih =>
    have hb := balanced_value patience f s
    exact ⟨hb.args.trans ih.1, hb.depth.trans ih.2⟩

end Session

/-- **Frames and levels are given back.** Every evaluation, whatever its
outcome, leaves as many frames as it found, each with the arguments it
had, and the counter where it stood. So what can be reached has the root
frame, and at every moment of an evaluation that starts there a frame is
left and the counter is within the limit. -/
theorem frames_and_depth_balanced :
    (∀ (patience : Nat) (f : Formula) (s : Session),
      (s.evaluate patience f).2.scope.frames.length = s.scope.frames.length ∧
      (s.evaluate patience f).2.scope.frames.map Frame.args = s.scope.frames.map Frame.args ∧
      (s.evaluate patience f).2.depth = s.depth) ∧
    ∀ s : Session, s.Reachable →
      (∃ root : Frame, s.scope.frames = [root] ∧ root.args = none) ∧
      ∀ (f : Formula) (c : Course.State), Course.Leads (Course.beginning f s) c →
        c.session.scope.frames ≠ [] ∧ c.session.depth ≤ s.limits.maxDepth := by
  refine ⟨fun patience f s => ?_, fun s hs => ⟨?_, fun f c hc => ?_⟩⟩
  · have hb := balanced_eval patience (s.limits.maxDepth - s.depth) f s
    exact ⟨hb.length_frames, hb.args, hb.depth⟩
  · obtain ⟨hargs, -⟩ := hs.rest
    obtain ⟨root, hframes, hroot⟩ := List.map_eq_singleton_iff.1 hargs
    exact ⟨root, hframes, hroot⟩
  · obtain ⟨hargs, hdepth⟩ := hs.rest
    have hone : s.scope.frames.length = 1 := by
      have hlen := congrArg List.length hargs
      rwa [List.length_map] at hlen
    -- No call is open at the beginning, so the account starts within the limit.
    have hacc := Course.accounted_of_leads
      (Course.accounted_beginning (by rw [hdepth]; exact Nat.zero_le _) f) hc
    have hframes := hacc.length_frames_le
    refine ⟨fun hnil => ?_, hacc.within⟩
    rw [hnil, hone] at hframes
    exact absurd hframes (by decide)

/-- A function that calls itself without end never counts beyond the
limit: the session here has defined it by evaluating a formula. -/
theorem endless_call_within_limit :
    (Session.evaluate 0 (.call "Defun" [.text "Again", .call "Again" []]) {}).2.Reachable ∧
    ∀ c, Course.Leads (Course.beginning (.call "Again" [])
        (Session.evaluate 0 (.call "Defun" [.text "Again", .call "Again" []]) {}).2) c →
      c.session.scope.frames ≠ [] ∧ c.session.depth ≤ 256 := by
  have hfresh : Session.Fresh {} := ⟨rfl, rfl, rfl, rfl, rfl, rfl, rfl⟩
  have hreach := (Session.Reachable.fresh hfresh).evaluate 0
    (.call "Defun" [.text "Again", .call "Again" []])
  refine ⟨hreach, fun c hc => ?_⟩
  have hlimit := (balanced_eval 0 256 (.call "Defun" [.text "Again", .call "Again" []]) {}).limits
  obtain ⟨hframes, hdepth⟩ := (frames_and_depth_balanced.2 _ hreach).2 _ c hc
  exact ⟨hframes, Nat.le_trans hdepth (Nat.le_of_eq (congrArg Limits.maxDepth hlimit))⟩

end MailFormula
