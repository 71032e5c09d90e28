import MailFormula.Proofs.Evaluation.Fragment
import MailFormula.Proofs.Evaluation.Origin
import MailFormula.Proofs.Evaluation.Twin
/-!
# Limits

The limits of a session are looked at in two places: where a call is
admitted, and where the condition of a loop is true once more. Both do
nothing but fail when a limit is hit (`AtLimit`). Where no formula takes
a failure for an answer, such a failure is the outcome of the evaluation
(`limit_reaches_end`). An evaluation with another outcome has not hit a
limit at any moment, and so takes the same steps under larger ones
(`larger_limits_change_nothing`).
-/

namespace MailFormula

/-! ## Failures of limits -/

/-- **The failures of limits**, in a call of some name. -/
inductive Limits.Fails (l : Limits) : Failure → Prop
  /-- A call is too deep. -/
  | depth (name : String) : Fails l
      { code := .fail
        function := some name
        detail := some ("recursion limit of " ++ toString l.maxDepth ++ " exceeded") }
  /-- A loop is too long. -/
  | rounds {bound : Nat} (name : String) : l.maxIterations = some bound → Fails l
      { code := .fail
        function := some name
        detail := some ("iteration limit of " ++ toString bound ++ " exceeded") }

/-- What is wrong with a loop that is too long. -/
def Fault.tooLong (bound : Nat) : Fault :=
  { code := .fail, detail := some ("iteration limit of " ++ toString bound ++ " exceeded") }

/-! ## Formulas that hand every failure on -/

/-- Whether a built-in takes no failure for an answer and evaluates no
formulas but those of its arguments. -/
def Builtin.handsFailuresOn (b : Builtin) (_ : Nat) : Bool :=
  b != .recover && b != .eval && b != .includeFile

theorem Builtin.handsFailuresOn_iff {b : Builtin} {count : Nat} :
    b.handsFailuresOn count = true ↔ b ≠ .recover ∧ b ≠ .eval ∧ b ≠ .includeFile := by
  simp only [handsFailuresOn, Bool.and_eq_true, bne_iff_ne, and_assoc]

/-- **Formulas that hand every failure on.** -/
def Fragment.handingOn : Fragment :=
  Fragment.ofAllowed Builtin.handsFailuresOn (fun r => ∀ f, r ≠ .attempt f)
    (fun h => (Builtin.handsFailuresOn_iff.1 h).2)
    (by
      intro b args h
      refine (b.onFormulas_only args).mono ?_
      rintro r hask f rfl
      exact (Builtin.handsFailuresOn_iff.1 h).1 (List.mem_singleton.1 hask))
    (by
      intro b args h
      refine (b.onValues_only args).mono ?_
      rintro r hask f rfl
      exact (Builtin.handsFailuresOn_iff.1 h).1 (List.mem_singleton.1 hask))

namespace Course

variable {c d : State} {f : Formula} {s t : Session} {k : List Pending}

/-- Nothing that is pending takes a failure. -/
theorem takes_of_within (h : c.Within Fragment.handingOn.toFamily) (e : Stop) :
    ∀ p ∈ c.pending, p.takes e = false := by
  intro p hp
  have hwithin := h.pending p hp
  cases p with
  | attempt name next =>
    obtain ⟨⟨g, hattempt⟩, -⟩ := hwithin
    exact absurd rfl (hattempt.1 g)
  | _ => rfl

/-! ## What a loop makes of its bound -/

/-- A loop that is told of a bound fails because of it. -/
def Pending.FailsAtBound : Pending → Prop
  | .condition _ _ _ _ next | .body _ _ _ _ next =>
    ∀ bound, next (.error bound) = .fail (.tooLong bound)
  | _ => True

theorem left_loop {args : List Formula} {test body : Formula}
    {next : Except Nat Value → Action Value}
    (h : (Behaviour.loop args).Left s (.request (.loop test body) next) t) (bound : Nat) :
    next (.error bound) = .fail (.tooLong bound) := by
  unfold Behaviour.loop at h
  split at h
  · rcases Action.Left.of_request h with ⟨hr, -⟩ | ⟨reply, u, h⟩
    · cases hr
      rfl
    · obtain bound | v := reply
      · cases Action.Left.of_fail h
      · cases Action.Left.of_done h
  · cases h.of_fail

/-- Only `While` asks for a loop. -/
theorem fails_of_begins {name : String} {test body : Formula}
    {next : Except Nat Value → Action Value}
    (h : Begins d name (.request (.loop test body) next) t) (bound : Nat) :
    next (.error bound) = .fail (.tooLong bound) := by
  cases h with
  | @formulas sig args u _ _ _ _ hleft =>
    have honly := (sig.builtin.onFormulas_only args).left hleft
    cases honly with
    | request hask _ =>
      rw [List.mem_singleton.1 hask] at hleft
      exact left_loop hleft bound
  | @values sig args _ hleft =>
    have honly := (sig.builtin.onValues_only args).left hleft
    cases honly with
    | request hask _ =>
      rw [List.mem_singleton.1 hask] at hleft
      cases Action.Left.of_fail hleft

/-- **Every loop that is under way fails at its bound.** -/
theorem failsAtBound_of_leads (hc : Leads (beginning f s) c) :
    ∀ p ∈ c.pending, p.FailsAtBound := by
  obtain ⟨n, rfl⟩ := hc
  induction n with
  | zero => exact fun p hp => absurd hp List.not_mem_nil
  | succ n ih =>
    rw [Function.iterate_succ_apply']
    intro p hp
    rcases notes_step hp with hp | hnotes
    · exact ih p hp
    · cases hnotes with
      | loop hcontrol =>
        obtain ⟨d, -, -, hbegins⟩ := origin ⟨n, rfl⟩ hcontrol
        exact fails_of_begins hbegins
      -- The condition and the body of a loop note the same.
      | round hq =>
        have hloop := ih _ hq
        exact hloop
      | again hq =>
        have hloop := ih _ hq
        exact hloop
      | _ => trivial

/-! ## A limit that is hit -/

/-- The limits are the same at every moment. -/
def sameLimits (l : Limits) : Invariant where
  holds := fun s => s.limits = l
  effect := fun hr h => (sameSetting_effect hr _).limits.trans h
  enter := fun h => h
  leave := fun h => h
  push := fun _ h => h
  pop := fun h => h
  openChild := fun _ h => h
  withContextOf := fun h _ => h

/-- **A limit that is hit is a failure**, within two steps. -/
theorem fails_of_atLimit (hbound : ∀ p ∈ c.pending, p.FailsAtBound) (h : AtLimit c) :
    ∃ e k, c.session.limits.Fails e ∧ (∀ p ∈ k, p ∈ c.pending) ∧
      Leads c ⟨.give (.error (.failure e)), k, c.session⟩ := by
  cases h with
  | @depth name args k s hdepth =>
    refine ⟨_, k, .depth name, fun p hp => hp, 1, ?_⟩
    change start (.call name args) k s = _
    rw [start, Session.tryEnter, if_neg (by omega)]
    rfl
  | @rounds v test body rounds bound name next k s hv hiterations hle =>
    have hfails : next (.error bound) = .fail (.tooLong bound) :=
      hbound _ List.mem_cons_self bound
    refine ⟨_, k, .rounds name hiterations, fun p hp => List.mem_cons_of_mem _ hp, ?_⟩
    refine Leads.of_step (step_condition_bound hv hiterations hle) ⟨1, ?_⟩
    rw [hfails]
    rfl

variable (hf : Fragment.handingOn.holds f) (hs : Fragment.handingOn.Bodies s.functions)

include hf hs

/-- **It is the outcome**, where every failure is handed on. -/
theorem limit_reaches_end (hc : Leads (beginning f s) c) (h : AtLimit c) :
    ∃ e t, s.limits.Fails e ∧ Leads (beginning f s) (halt (.error (.failure e)) t) := by
  obtain ⟨e, k, he, hk, hleads⟩ := fails_of_atLimit (failsAtBound_of_leads hc) h
  have htakes : ∀ p ∈ k, p.takes (.failure e) = false := fun p hp =>
    takes_of_within (within_of_leads hf hs hc) (.failure e) p (hk p hp)
  have hlimits : c.session.limits = s.limits := (sameLimits s.limits).at_moment rfl hc
  rw [hlimits] at he
  exact ⟨e, _, he, (hc.trans hleads).trans (stop_reaches_end htakes c.session)⟩

end Course

/-! ## Larger limits -/

/-- The session under other limits. -/
def Session.withLimits (s : Session) (l : Limits) : Session := { s with limits := l }

/-- No plain request looks at the limits. -/
theorem effect_withLimits {r : Request} (h : r.isPlain = true) (s : Session) (l : Limits) :
    r.effect (s.withLimits l) = ((r.effect s).1, (r.effect s).2.withLimits l) := by
  by_cases hdefine : ∃ name body, r = .define name body
  · obtain ⟨name, body, rfl⟩ := hdefine
    rfl
  · have hr : ∀ name body, r ≠ .define name body := fun name body he => hdefine ⟨name, body, he⟩
    have hunder : r.effect (s.withLimits l) = _ := effect_under h hr s l s.functions
    rw [hunder, ← functions_effect_of_ne h hr s]
    rfl

/-- **Limits make no difference to an evaluation that does not hit them.** -/
def Course.widened (l : Limits) : Course.Twin where
  alike := fun s t => s.limits.Below l ∧ t = s.withLimits l
  asks := fun _ => True
  limits := by
    rintro s t ⟨h, rfl⟩
    exact h
  depth := by
    rintro s t ⟨-, rfl⟩
    rfl
  view := by
    rintro s t ⟨-, rfl⟩
    rfl
  functions := by
    rintro s t ⟨-, rfl⟩ name -
    rfl
  effect := by
    rintro s t r ⟨h, rfl⟩ - hr
    rw [effect_withLimits hr]
    refine ⟨rfl, ?_, rfl⟩
    rwa [(sameSetting_effect hr s).limits]
  field := trivial
  enter := by
    rintro s t ⟨h, rfl⟩
    exact ⟨h, rfl⟩
  leave := by
    rintro s t ⟨h, rfl⟩
    exact ⟨h, rfl⟩
  push := by
    rintro s t args ⟨h, rfl⟩
    exact ⟨h, rfl⟩
  pop := by
    rintro s t ⟨h, rfl⟩
    exact ⟨h, rfl⟩
  openChild := by
    rintro s t key ⟨h, rfl⟩
    exact ⟨h, rfl⟩
  withContextOf := by
    rintro s t o p ⟨h, rfl⟩ ⟨-, rfl⟩
    exact ⟨h, rfl⟩

/-- **Limits are transparent until they are hit.** Let neither the formula
nor any function take a failure for an answer or read a text as a
formula. If the evaluation finishes with an outcome that is no failure of
its limits, then under larger limits it finishes with the same outcome,
and leaves the same session. -/
theorem larger_limits_change_nothing {f : Formula} {s : Session} {l : Limits}
    (hl : s.limits.Below l) (hf : f.callsOnly Builtin.handsFailuresOn = true)
    (hs : ∀ name body, s.functions.get? name = some body →
      body.callsOnly Builtin.handsFailuresOn = true)
    {patience : Nat} {r : Except Stop Value} {t : Session}
    (hval : s.evaluate patience f = (r, t)) (hr : r ≠ .error .unfinished)
    (hlimits : ∀ e, r = .error (.failure e) → ¬ s.limits.Fails e) :
    ∃ patience', (s.withLimits l).evaluate patience' f = (r, t.withLimits l) := by
  have hend := Course.leads_halt_of_evaluate hval hr
  have hfree : ∀ c, Course.Leads (Course.beginning f s) c → ¬ Course.AtLimit c := by
    intro c hc hat
    obtain ⟨e, u, he, hu⟩ := Course.limit_reaches_end hf hs hc hat
    exact hlimits e (Course.halt_unique hend hu).1 he
  obtain ⟨u, hu, -, rfl⟩ := Course.Twin.halts (T := Course.widened l) ⟨hl, rfl⟩
    (fun _ _ _ _ _ _ _ => trivial) (fun c hc hat => absurd hat (hfree c hc)) hend
  exact (Course.halts_iff.1 hu).2

/-- A session with three levels, and two rounds to a loop. -/
def narrow : Session := { limits := { maxDepth := 3, maxIterations := some 2 } }

/-- Counts to two: a loop of two rounds, three levels deep. -/
def countUp : Formula :=
  .call "While" [.call "Less" [.var "n", .number 2],
    .call "Set" [.text "n", .call "Add" [.var "n", .number 1]]]

/-- Counting uses up the limits without hitting them, so it comes to the
same with one more level and no bound on loops. -/
theorem counting_under_larger_limits :
    narrow.limits.Below { maxDepth := 4 } ∧
    countUp.callsOnly Builtin.handsFailuresOn = true ∧
    (∀ name body, narrow.functions.get? name = some body →
      body.callsOnly Builtin.handsFailuresOn = true) ∧
    ∃ r t, narrow.evaluate 0 countUp = (r, t) ∧ r.isOk = true ∧
      ∃ patience', (narrow.withLimits { maxDepth := 4 }).evaluate patience' countUp =
        (r, t.withLimits { maxDepth := 4 }) := by
  have hl : narrow.limits.Below { maxDepth := 4 } := ⟨by decide, nofun⟩
  have hf : countUp.callsOnly Builtin.handsFailuresOn = true := by decide +kernel
  have hs : ∀ name body, narrow.functions.get? name = some body →
      body.callsOnly Builtin.handsFailuresOn = true := nofun
  have hok : (narrow.evaluate 0 countUp).1.isOk = true := by decide +kernel
  rcases hval : narrow.evaluate 0 countUp with ⟨e | v, t⟩
  · rw [hval] at hok
    cases hok
  · exact ⟨hl, hf, hs, .ok v, t, rfl, rfl,
      larger_limits_change_nothing hl hf hs hval nofun nofun⟩

end MailFormula
