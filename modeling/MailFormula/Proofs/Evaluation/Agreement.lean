import MailFormula.Proofs.Evaluation.Course
/-!
# The steps agree with the evaluator

A run of steps comes to an end with an outcome exactly when some
patience is enough for `eval` to finish with it (`halts_iff`). So the
levels of `eval` are the counter of the session in disguise, and
patience is only a matter of waiting.

The proof goes along `eval`: one lemma for each of its parts, under
anything that may be pending. What the parts need of each other is that
the levels that are left stay the same from one to the next, which is
balance.
-/

namespace MailFormula

namespace Course

variable {α : Type} {c d : State} {k : List Pending} {s t : Session}

/-! ## Following an evaluator

The steps that start at `c` follow an outcome if they come to what goes
on with its value, or hand its reason to stop to what is pending. An
outcome that ran out of patience is followed by running on at least as
long. -/

/-- **The steps from `c` follow an outcome.** -/
def Follows (patience : Nat) (k : List Pending) (c : State) (goOn : α → Session → State) :
    Outcome α → Prop
  | (.ok a, t) => Leads c (goOn a t)
  | (.error .unfinished, _) => Outlasts patience c
  | (.error e, t) => Leads c ⟨.give (.error e), k, t⟩

variable {patience : Nat} {goOn : α → Session → State} {o : Outcome α}

theorem Follows.of_leads (h : Leads c d) (hd : Follows patience k d goOn o) :
    Follows patience k c goOn o := by
  obtain ⟨(f | g | -) | a, t⟩ := o
  · exact h.trans hd
  · exact h.trans hd
  · exact Outlasts.of_leads h hd
  · exact h.trans hd

theorem Follows.of_step (hstep : step c = d) (hd : Follows patience k d goOn o) :
    Follows patience k c goOn o :=
  hd.of_leads ⟨1, hstep⟩

/-- A reason to stop passes a pending thing that hands it on. -/
theorem Follows.pass {β : Type} {p : Pending} {goOn' : β → Session → State} {e : Stop}
    {u : Session} (h : Follows patience (p :: k) c goOn (.error e, t))
    (hstep : step ⟨.give (.error e), p :: k, t⟩ = ⟨.give (.error e), k, u⟩) :
    Follows patience k c goOn' (.error e, u) := by
  cases e with
  | failure f => exact Leads.then_step h hstep
  | signal g => exact Leads.then_step h hstep
  | unfinished => exact h

/-- What goes on with a value of a formula: it is handed over. -/
def handOver (k : List Pending) (v : Value) (s : Session) : State := ⟨.give (.ok v), k, s⟩

/-- What an evaluator owes at so many levels: the steps follow it, under
anything that may be pending. -/
def Faithful (patience levels : Nat) (evaluate : Formula → Run Value) : Prop :=
  ∀ f k s, s.limits.maxDepth - s.depth = levels →
    Follows patience k ⟨.evaluate f, k, s⟩ (handOver k) (evaluate f s)

variable {levels : Nat} {evaluate : Formula → Run Value}

/-- Arguments are evaluated one after the other. -/
theorem follows_evalArgs (hev : Faithful patience levels evaluate)
    (hbal : ∀ f s, balance.Holds s (evaluate f s)) (target : Target) (args : List Formula)
    (done : List Value) (k : List Pending) (s : Session)
    (hs : s.limits.maxDepth - s.depth = levels) :
    Follows patience k ⟨.arguments target done args, k, s⟩
      (fun vs t => ⟨.arguments target (done ++ vs) [], k, t⟩) (evalArgs evaluate args s) := by
  induction args generalizing done s with
  | nil =>
    refine ⟨0, ?_⟩
    dsimp only
    rw [List.append_nil]
    rfl
  | cons f rest ih =>
    have hf := hev f (.argument target done rest :: k) s hs
    have hb := hbal f s
    rw [evalArgs]
    refine Follows.of_step rfl ?_
    generalize evaluate f s = o at hf hb ⊢
    obtain ⟨e | v, t⟩ := o
    · exact hf.pass rfl
    · have hb' : Balanced s t := hb
      have hrest := ih (done ++ [v]) t (by rw [hb'.levels]; exact hs)
      have hvalue : Leads _ ⟨.arguments target (done ++ [v]) rest, k, t⟩ :=
        Leads.then_step hf rfl
      refine Follows.of_leads hvalue ?_
      dsimp only
      generalize evalArgs evaluate rest t = o at hrest ⊢
      obtain ⟨(e | g | -) | vs, u⟩ := o
      · exact hrest
      · exact hrest
      · exact hrest
      · obtain ⟨n, hn⟩ := hrest
        refine ⟨n, ?_⟩
        dsimp only at hn ⊢
        rw [hn, List.append_assoc, List.singleton_append]

/-! Three things can follow the condition of a loop: the loop ends, or
its bound is reached, or there is another round. -/

theorem step_condition_ends {test body : Formula} {rounds : Nat} {name : String}
    {next : Except Nat Value → Action Value} {v : Value} (hv : ¬ v.truth = true) :
    step ⟨.give (.ok v), .condition test body rounds name next :: k, t⟩ =
      ⟨.act name (next (.ok v)), k, t⟩ := by
  simp only [step, resume, if_neg hv]

theorem step_condition_bound {test body : Formula} {rounds bound : Nat} {name : String}
    {next : Except Nat Value → Action Value} {v : Value} (hv : v.truth = true)
    (hbound : t.limits.maxIterations = some bound) (hle : bound ≤ rounds) :
    step ⟨.give (.ok v), .condition test body rounds name next :: k, t⟩ =
      ⟨.act name (next (.error bound)), k, t⟩ := by
  simp only [step, resume, if_pos hv, hbound, if_pos hle]

theorem step_condition_round {test body : Formula} {rounds : Nat} {name : String}
    {next : Except Nat Value → Action Value} {v : Value} (hv : v.truth = true)
    (hbound : ∀ bound, t.limits.maxIterations = some bound → rounds < bound) :
    step ⟨.give (.ok v), .condition test body rounds name next :: k, t⟩ =
      ⟨.evaluate body, .body test body (rounds + 1) name next :: k, t⟩ := by
  simp only [step, resume, if_pos hv]
  split
  · rename_i bound hsome
    rw [if_neg (Nat.not_le.2 (hbound bound hsome))]
  · rfl

/-- What an action makes of the end of a loop within a bound. -/
def loopAnswer (bound : Nat) : Option Value → Except Nat Value
  | some v => .ok v
  | none => .error bound

/-- **A bounded loop.** After `rounds` of them, as many are left as the
bound allows. -/
theorem follows_iterate (hev : Faithful patience levels evaluate)
    (hbal : ∀ f s, balance.Holds s (evaluate f s)) (test body : Formula) (name : String)
    (next : Except Nat Value → Action Value) (k : List Pending) {bound left rounds : Nat}
    (hleft : rounds + left = bound) (s : Session) (hs : s.limits.maxDepth - s.depth = levels)
    (hbound : s.limits.maxIterations = some bound) :
    Follows patience k ⟨.evaluate test, .condition test body rounds name next :: k, s⟩
      (fun r t => ⟨.act name (next (loopAnswer bound r)), k, t⟩)
      (iterate evaluate test body left s) := by
  induction left generalizing rounds s with
  | zero =>
    have hc := hev test (.condition test body rounds name next :: k) s hs
    have hb := hbal test s
    rw [iterate]
    generalize evaluate test s = o at hc hb ⊢
    obtain ⟨e | v, t⟩ := o
    · exact hc.pass rfl
    · have hb' : Balanced s t := hb
      have hbound' : t.limits.maxIterations = some bound := by rw [hb'.limits]; exact hbound
      by_cases hv : v.truth = true
      -- No round is left, so the count of rounds stands at the bound.
      · simp only [hv, if_true]
        exact Leads.then_step hc (step_condition_bound hv hbound' (by omega))
      · simp only [hv]
        exact Leads.then_step hc (step_condition_ends hv)
  | succ left ih =>
    have hc := hev test (.condition test body rounds name next :: k) s hs
    have hb := hbal test s
    rw [iterate]
    generalize evaluate test s = o at hc hb ⊢
    obtain ⟨e | v, t⟩ := o
    · exact hc.pass rfl
    · have hb' : Balanced s t := hb
      have hlevels : t.limits.maxDepth - t.depth = levels := by rw [hb'.levels]; exact hs
      have hbound' : t.limits.maxIterations = some bound := by rw [hb'.limits]; exact hbound
      by_cases hv : v.truth = true
      · have hround : step ⟨.give (.ok v), .condition test body rounds name next :: k, t⟩ =
            ⟨.evaluate body, .body test body (rounds + 1) name next :: k, t⟩ := by
          refine step_condition_round hv fun other hother => ?_
          rw [hbound'] at hother
          obtain rfl := Option.some.inj hother
          omega
        have hbody := hev body (.body test body (rounds + 1) name next :: k) t hlevels
        have hbb := hbal body t
        simp only [hv, if_true]
        refine Follows.of_leads (Leads.then_step hc hround) ?_
        generalize evaluate body t = o at hbody hbb ⊢
        obtain ⟨e | w, u⟩ := o
        · exact hbody.pass rfl
        · have hbb' : Balanced t u := hbb
          refine Follows.of_leads (Leads.then_step hbody rfl) ?_
          exact ih (by omega) u (by rw [hbb'.levels]; exact hlevels)
            (by rw [hbb'.limits]; exact hbound')
      · simp only [hv]
        exact Leads.then_step hc (step_condition_ends hv)

/-- **A loop without a bound.** If it is still running after so many
rounds, it has taken at least as many steps. -/
theorem follows_iterate_unbounded (hev : Faithful patience levels evaluate)
    (hbal : ∀ f s, balance.Holds s (evaluate f s)) (test body : Formula) (name : String)
    (next : Except Nat Value → Action Value) (k : List Pending) {left : Nat}
    (hleft : left ≤ patience) (rounds : Nat) (s : Session)
    (hs : s.limits.maxDepth - s.depth = levels) (hnone : s.limits.maxIterations = none) :
    Follows left k ⟨.evaluate test, .condition test body rounds name next :: k, s⟩
      (fun r t => ⟨.act name (next r), k, t⟩)
      (match iterate evaluate test body left s with
      | (.ok (some v), t) => (.ok (.ok v), t)
      | (.ok none, t) => (.error .unfinished, t)
      | (.error e, t) => (.error e, t)) := by
  induction left generalizing rounds s with
  | zero =>
    have hc := hev test (.condition test body rounds name next :: k) s hs
    have hb := hbal test s
    rw [iterate]
    generalize evaluate test s = o at hc hb ⊢
    obtain ⟨(e | g | -) | v, t⟩ := o
    · exact Leads.then_step hc rfl
    · exact Leads.then_step hc rfl
    · exact Outlasts.mono hleft hc
    · by_cases hv : v.truth = true
      · simp only [hv, if_true]
        exact ⟨0, Nat.le_refl 0, fun r u h => by cases h⟩
      · simp only [hv]
        exact Leads.then_step hc (step_condition_ends hv)
  | succ left ih =>
    have hc := hev test (.condition test body rounds name next :: k) s hs
    have hb := hbal test s
    rw [iterate]
    generalize evaluate test s = o at hc hb ⊢
    obtain ⟨(e | g | -) | v, t⟩ := o
    · exact Leads.then_step hc rfl
    · exact Leads.then_step hc rfl
    · exact Outlasts.mono hleft hc
    · have hb' : Balanced s t := hb
      have hlevels : t.limits.maxDepth - t.depth = levels := by rw [hb'.levels]; exact hs
      have hnone' : t.limits.maxIterations = none := by rw [hb'.limits]; exact hnone
      by_cases hv : v.truth = true
      · have hround : step ⟨.give (.ok v), .condition test body rounds name next :: k, t⟩ =
            ⟨.evaluate body, .body test body (rounds + 1) name next :: k, t⟩ := by
          refine step_condition_round hv fun other hother => ?_
          rw [hnone'] at hother
          cases hother
        have hbody := hev body (.body test body (rounds + 1) name next :: k) t hlevels
        have hbb := hbal body t
        simp only [hv, if_true]
        refine Follows.of_leads (Leads.then_step hc hround) ?_
        generalize evaluate body t = o at hbody hbb ⊢
        obtain ⟨(e | g | -) | w, u⟩ := o
        · exact Leads.then_step hbody rfl
        · exact Leads.then_step hbody rfl
        · exact Outlasts.mono hleft hbody
        · have hbb' : Balanced t u := hbb
          have hagain := ih (by omega) (rounds + 1) u (by rw [hbb'.levels]; exact hlevels)
            (by rw [hbb'.limits]; exact hnone')
          refine Follows.of_leads hbody ?_
          -- the step back to the condition is the one that pays for the round
          dsimp only
          generalize iterate evaluate test body left u = o at hagain ⊢
          obtain ⟨(e | g | -) | (- | w'), u'⟩ := o
          · exact Leads.of_step rfl hagain
          · exact Leads.of_step rfl hagain
          · exact Outlasts.succ_of_step rfl hagain
          · exact Outlasts.succ_of_step rfl hagain
          · exact Leads.of_step rfl hagain
      · simp only [hv]
        exact Leads.then_step hc (step_condition_ends hv)

/-! A visit whose body is not true has no answer; one whose body is true
has its value, or goes on with another formula. -/

theorem step_visit_false {outside : Session} {found : Option Formula} {name : String}
    {next : Option Value → Action Value} {v : Value} (hv : ¬ v.truth = true) :
    step ⟨.give (.ok v), .visit outside found name next :: k, t⟩ =
      ⟨.act name (next none), k, t.popFrame.withContextOf outside⟩ := by
  simp only [step, resume, if_neg hv]

theorem step_visit_true {outside : Session} {name : String}
    {next : Option Value → Action Value} {v : Value} (hv : v.truth = true) :
    step ⟨.give (.ok v), .visit outside none name next :: k, t⟩ =
      ⟨.act name (next (some v)), k, t.popFrame.withContextOf outside⟩ := by
  simp only [step, resume, if_pos hv]

theorem step_visit_found {outside : Session} {f : Formula} {name : String}
    {next : Option Value → Action Value} {v : Value} (hv : v.truth = true) :
    step ⟨.give (.ok v), .visit outside (some f) name next :: k, t⟩ =
      ⟨.evaluate f, .found outside name next :: k, t⟩ := by
  simp only [step, resume, if_pos hv]

/-- **A visit.** Whatever the way it ends, the frame and the context go. -/
theorem follows_visit (hev : Faithful patience levels evaluate)
    (hbal : ∀ f s, balance.Holds s (evaluate f s)) (key : MessageKey) (body : Formula)
    (found : Option Formula) (name : String) (next : Option Value → Action Value)
    (k : List Pending) (s : Session) (hs : s.limits.maxDepth - s.depth = levels) :
    Follows patience k
      ⟨.evaluate body, .visit s found name next :: k, (s.openChild key).pushFrame none⟩
      (fun r t => ⟨.act name (next r), k, t⟩) (visit evaluate key body found s) := by
  have hbody := hev body (.visit s found name next :: k) ((s.openChild key).pushFrame none) hs
  have hb := hbal body ((s.openChild key).pushFrame none)
  rw [visit_eq]
  generalize evaluate body ((s.openChild key).pushFrame none) = o at hbody hb ⊢
  obtain ⟨e | v, t⟩ := o
  · exact hbody.pass rfl
  · have hb' : Balanced ((s.openChild key).pushFrame none) t := hb
    by_cases hv : v.truth = true
    · simp only [hv, if_true]
      cases found with
      | none => exact Leads.then_step hbody (step_visit_true hv)
      | some f =>
        have hf := hev f (.found s name next :: k) t (by rw [hb'.levels]; exact hs)
        refine Follows.of_leads (Leads.then_step hbody (step_visit_found hv)) ?_
        dsimp only
        generalize evaluate f t = o at hf ⊢
        obtain ⟨e | w, u⟩ := o
        · exact hf.pass rfl
        · exact Leads.then_step hf rfl
    · simp only [hv]
      exact Leads.then_step hbody (step_visit_false hv)

/-- A plain request is served at once. -/
theorem serve_of_isPlain {r : Request} (hr : r.isPlain = true) (name : String)
    (k : List Pending) (s : Session) (next : r.Reply → Action Value) :
    serve name k s r next =
      match r.effect s with
      | (.ok a, t) => ⟨.act name (next a), k, t⟩
      | (.error e, t) => ⟨.give (.error e), k, t⟩ := by
  cases r <;> first | rfl | cases hr

/-- **Every request is followed.** -/
theorem follows_perform (hev : Faithful patience levels evaluate)
    (hbal : ∀ f s, balance.Holds s (evaluate f s)) (name : String) (r : Request)
    (next : r.Reply → Action Value) (k : List Pending) (s : Session)
    (hs : s.limits.maxDepth - s.depth = levels) :
    Follows patience k (serve name k s r next) (fun a t => ⟨.act name (next a), k, t⟩)
      (perform patience evaluate r s) := by
  by_cases hr : r.isPlain = true
  · rw [perform_of_isPlain hr, serve_of_isPlain hr]
    have hplain := effect_ne_unfinished hr s
    generalize r.effect s = o at hplain ⊢
    obtain ⟨(f | g | -) | a, t⟩ := o
    · exact Leads.refl _
    · exact Leads.refl _
    · exact absurd rfl hplain
    · exact Leads.refl _
  · cases r with
    | evaluate f =>
      have hf := hev f (.value name next :: k) s hs
      rw [perform]
      generalize evaluate f s = o at hf ⊢
      obtain ⟨e | v, t⟩ := o
      · exact hf.pass rfl
      · exact Leads.then_step hf rfl
    | attempt f =>
      have hf := hev f (.attempt name next :: k) s hs
      rw [perform]
      dsimp only
      generalize evaluate f s = o at hf ⊢
      obtain ⟨(e | g | -) | v, t⟩ := o
      · exact Leads.then_step hf rfl
      · exact Leads.then_step hf rfl
      · exact hf
      · exact Leads.then_step hf rfl
    | loop test body =>
      rw [perform, loopWithin]
      split
      · rename_i bound hbound
        have hloop :=
          follows_iterate hev hbal test body name next k (Nat.zero_add bound) s hs hbound
        generalize iterate evaluate test body bound s = o at hloop ⊢
        obtain ⟨(e | g | -) | (- | v), t⟩ := o
        · exact hloop
        · exact hloop
        · exact hloop
        · exact hloop
        · exact hloop
      · rename_i hnone
        exact follows_iterate_unbounded hev hbal test body name next k (Nat.le_refl _) 0 s hs hnone
    | visit key body found => exact follows_visit hev hbal key body found name next k s hs
    | _ => exact absurd rfl hr

/-- **Every action is followed.** -/
theorem follows_run (hev : Faithful patience levels evaluate)
    (hbal : ∀ f s, balance.Holds s (evaluate f s)) (name : String) (a : Action Value)
    (k : List Pending) (s : Session) (hs : s.limits.maxDepth - s.depth = levels) :
    Follows patience k ⟨.act name a, k, s⟩ (handOver k)
      (a.run (perform patience evaluate) name s) := by
  induction a generalizing s with
  | done v => exact ⟨1, rfl⟩
  | fail f => exact ⟨1, rfl⟩
  | look next ih => exact Follows.of_step rfl (ih s.view s hs)
  | request r next ih =>
    have hr := follows_perform hev hbal name r next k s hs
    have hb := Law.holds_perform hbal patience r s
    rw [Action.run]
    refine Follows.of_step (d := serve name k s r next) rfl ?_
    generalize perform patience evaluate r s = o at hr hb ⊢
    obtain ⟨(e | g | -) | a, t⟩ := o
    · exact hr
    · exact hr
    · exact hr
    · have hb' : Balanced s t := hb
      exact Follows.of_leads hr (ih a t (by rw [hb'.levels]; exact hs))

/-- **Every call is followed**, from the moment it is admitted. -/
theorem follows_call (hev : Faithful patience levels evaluate)
    (hbal : ∀ f s, balance.Holds s (evaluate f s)) (name : String) (args : List Formula)
    (k : List Pending) (s : Session) (hs : s.limits.maxDepth - s.depth = levels) :
    Follows patience k ⟨dispatch name args s, k, s⟩ (handOver k)
      (call patience evaluate name args s) := by
  rw [call, dispatch]
  cases Signature.find? name with
  | some sig =>
    dsimp only
    rw [callBuiltin]
    split
    · exact Leads.refl _
    · split
      · exact follows_run hev hbal name _ k s hs
      · have hargs := follows_evalArgs hev hbal (.builtin sig name) args [] k s hs
        have hb := Law.holds_evalArgs hbal args s
        generalize evalArgs evaluate args s = o at hargs hb ⊢
        obtain ⟨(e | g | -) | vs, t⟩ := o
        · exact hargs
        · exact hargs
        · exact hargs
        · have hb' : Balanced s t := hb
          refine Follows.of_leads (Leads.then_step hargs rfl) ?_
          exact follows_run hev hbal name _ k t (by rw [hb'.levels]; exact hs)
  | none =>
    dsimp only
    rw [callUser_eq]
    cases s.functions.get? name with
    | none => exact Leads.refl _
    | some body =>
      have hargs := follows_evalArgs hev hbal (.user name body) args [] k s hs
      have hb := Law.holds_evalArgs hbal args s
      dsimp only
      generalize evalArgs evaluate args s = o at hargs hb ⊢
      obtain ⟨(e | g | -) | vs, t⟩ := o
      · exact hargs
      · exact hargs
      · exact hargs
      · have hb' : Balanced s t := hb
        have hbody := hev body (.frame :: k) (t.pushFrame (some (.string name :: vs)))
          (by change t.limits.maxDepth - t.depth = levels; rw [hb'.levels]; exact hs)
        refine Follows.of_leads (Leads.then_step hargs rfl) ?_
        dsimp only
        generalize evaluate body (t.pushFrame (some (.string name :: vs))) = o at hbody ⊢
        obtain ⟨(e | g | -) | w, u⟩ := o
        · exact Leads.then_step hbody rfl
        · exact Leads.then_step hbody rfl
        · exact hbody
        · exact Leads.then_step hbody rfl

/-! ## The counter admits what the levels admit -/

theorem tryEnter_of_levels {below : Nat} (h : s.limits.maxDepth - s.depth = below + 1) :
    s.tryEnter = .ok s.enter := by
  rw [Session.tryEnter, if_pos (by omega)]

theorem tryEnter_of_no_levels (h : s.limits.maxDepth - s.depth = 0) :
    s.tryEnter = .error s.tooDeep := by
  rw [Session.tryEnter, if_neg (by omega)]

/-- A formula that is no call is evaluated in one step. -/
theorem follows_of_not_call {f : Formula} (hf : ∀ name args, f ≠ .call name args)
    (patience levels : Nat) (k : List Pending) (s : Session) :
    Follows patience k ⟨.evaluate f, k, s⟩ (handOver k) (eval patience levels f s) := by
  cases f with
  | text t =>
    rw [eval]
    exact ⟨1, rfl⟩
  | number n =>
    rw [eval]
    exact ⟨1, rfl⟩
  | regex r =>
    rw [eval]
    exact ⟨1, rfl⟩
  | field name =>
    refine Follows.of_step (d := start (.field name) k s) rfl ?_
    rw [eval, start, fieldValue]
    generalize s.context.content s.store .header = o
    obtain ⟨code | handle, context, store⟩ := o
    · exact Leads.refl _
    · exact Leads.refl _
  | var name =>
    rw [eval]
    exact ⟨1, rfl⟩
  | call name args => exact absurd rfl (hf name args)

/-- **The steps follow `eval`**, where its levels are those that the
counter leaves. The induction is on the levels, and at each of them the
built-ins, loops and visits only need the evaluator below. -/
theorem faithful_eval (patience levels : Nat) :
    Faithful patience levels (eval patience levels) := by
  induction levels with
  | zero =>
    intro f k s hs
    by_cases hf : ∃ name args, f = .call name args
    · obtain ⟨name, args, rfl⟩ := hf
      refine ⟨1, ?_⟩
      change start (.call name args) k s = _
      rw [start, tryEnter_of_no_levels hs]
    · exact follows_of_not_call (fun name args h => hf ⟨name, args, h⟩) patience 0 k s
  | succ below ih =>
    intro f k s hs
    by_cases hf : ∃ name args, f = .call name args
    · obtain ⟨name, args, rfl⟩ := hf
      have hbegin : step ⟨.evaluate (.call name args), k, s⟩ =
          ⟨dispatch name args s.enter, .call :: k, s.enter⟩ := by
        change start (.call name args) k s = _
        rw [start, tryEnter_of_levels hs]
      have hlevels : s.enter.limits.maxDepth - s.enter.depth = below := by
        change s.limits.maxDepth - (s.depth + 1) = below
        omega
      have hcall := follows_call ih (balance.holds_eval patience below) name args (.call :: k)
        s.enter hlevels
      rw [eval]
      refine Follows.of_step hbegin ?_
      dsimp only
      generalize call patience (eval patience below) name args s.enter = o at hcall ⊢
      obtain ⟨(e | g | -) | v, t⟩ := o
      · exact Leads.then_step hcall rfl
      · exact Leads.then_step hcall rfl
      · exact hcall
      · exact Leads.then_step hcall rfl
    · exact follows_of_not_call (fun name args h => hf ⟨name, args, h⟩) patience _ k s

/-! ## The two agree -/

/-- The beginning of an evaluation, with nothing left to do after it. -/
def beginning (f : Formula) (s : Session) : State := ⟨.evaluate f, [], s⟩

/-- An evaluation that finishes is one that comes to its end. -/
theorem leads_halt_of_evaluate {f : Formula} {r : Except Stop Value}
    (h : s.evaluate patience f = (r, t)) (hr : r ≠ .error .unfinished) :
    Leads (beginning f s) (halt r t) := by
  have hsteps := faithful_eval patience _ f [] s rfl
  rw [Session.evaluate] at h
  rw [h] at hsteps
  obtain (e | g | -) | v := r
  · exact hsteps
  · exact hsteps
  · exact absurd rfl hr
  · exact hsteps

/-- And one that runs out of patience takes at least as many steps. -/
theorem outlasts_of_evaluate {f : Formula} (h : s.evaluate patience f = (.error .unfinished, t)) :
    Outlasts patience (beginning f s) := by
  have hsteps := faithful_eval patience _ f [] s rfl
  rw [Session.evaluate] at h
  rw [h] at hsteps
  exact hsteps

/-- **The steps and the evaluator agree.** The steps come to an end with
an outcome exactly when some patience is enough to finish with it. -/
theorem halts_iff {f : Formula} {r : Except Stop Value} :
    Leads (beginning f s) (halt r t) ↔
      r ≠ .error .unfinished ∧ ∃ patience, s.evaluate patience f = (r, t) := by
  constructor
  · rintro ⟨n, hn⟩
    -- patience for as many steps as there are is enough
    rcases hval : s.evaluate n f with ⟨r', t'⟩
    by_cases hr' : r' = .error .unfinished
    · rw [hr'] at hval
      exact absurd (outlasts_of_evaluate hval) (not_outlasts hn)
    · obtain ⟨rfl, rfl⟩ := halt_unique ⟨n, hn⟩ (leads_halt_of_evaluate hval hr')
      exact ⟨hr', n, hval⟩
  · rintro ⟨hr, patience, h⟩
    exact leads_halt_of_evaluate h hr

/-- More patience changes no outcome that was reached. -/
theorem evaluate_eq_of_finished {f : Formula} {patience' : Nat} {r r' : Except Stop Value}
    {t' : Session} (h : s.evaluate patience f = (r, t)) (hr : r ≠ .error .unfinished)
    (h' : s.evaluate patience' f = (r', t')) (hr' : r' ≠ .error .unfinished) :
    r = r' ∧ t = t' :=
  halt_unique (leads_halt_of_evaluate h hr) (leads_halt_of_evaluate h' hr')

end Course

end MailFormula
