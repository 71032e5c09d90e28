import MailFormula.Proofs.Evaluation.Agreement
/-!
# The equation of a call

`eval` goes down by levels, so the evaluator inside a call is another one
than the evaluator outside. But the levels are the counter of the session
in disguise: inside a call it stands one higher, and no evaluation moves
it for good. Two evaluators that agree where so many levels are left
therefore make the same of everything that a call does (`AgreeAt.call`),
and `Session.evaluate` satisfies the equation that one would write for it
without levels: a call is refused, or it does its work one level deeper,
with `Session.evaluate` itself as the evaluator (`Session.calls_evaluate`).
-/

namespace MailFormula

variable {levels : Nat} {ev ev' : Formula → Run Value}

/-- **Two evaluators agree** where so many levels are left. -/
def AgreeAt (levels : Nat) (ev ev' : Formula → Run Value) : Prop :=
  ∀ f s, s.limits.maxDepth - s.depth = levels → ev f s = ev' f s

/-- An action that asks for something goes on with the answer. -/
theorem Action.run_ask_bind {α : Type} (perform : (r : Request) → Run r.Reply) (name : String)
    (r : Request) (next : r.Reply → Action α) (s : Session) :
    (Action.ask r >>= next).run perform name s =
      match perform r s with
      | (.ok a, t) => (next a).run perform name t
      | (.error e, t) => (.error e, t) := by
  change (Action.request r next).run perform name s = _
  rcases hr : perform r s with ⟨e | a, t⟩
  · rw [Action.run, hr]
  · rw [Action.run, hr]

/-- A call of a built-in that receives formulas is its action on them. -/
theorem call_of_lazy {name : String} {sig : Signature} (hsig : Signature.find? name = some sig)
    (hlazy : sig.builtin.isLazy = true) (args : List Formula)
    (haccepts : sig.arity.accepts args.length = true) (patience : Nat)
    (ev : Formula → Run Value) (s : Session) :
    call patience ev name args s =
      (sig.builtin.onFormulas args).run (perform patience ev) name s := by
  rw [call, hsig]
  dsimp only
  rw [callBuiltin, haccepts, hlazy]
  rfl

namespace AgreeAt

/-! What is done between two evaluations leaves the levels as they are, so
the agreement goes from one to the next. -/

section

variable (hev : AgreeAt levels ev ev') (hbal : ∀ f s, balance.Holds s (ev f s))

include hev hbal

theorem evalArgs (args : List Formula) {s : Session}
    (hs : s.limits.maxDepth - s.depth = levels) :
    evalArgs ev args s = MailFormula.evalArgs ev' args s := by
  induction args generalizing s with
  | nil => rfl
  | cons f rest ih =>
    have hb := hbal f s
    rw [MailFormula.evalArgs, MailFormula.evalArgs, ← hev f s hs]
    generalize ev f s = o at hb ⊢
    obtain ⟨e | v, t⟩ := o
    · rfl
    · have hb' : Balanced s t := hb
      dsimp only
      rw [ih (hb'.levels.trans hs)]

theorem iterate (test body : Formula) (rounds : Nat) {s : Session}
    (hs : s.limits.maxDepth - s.depth = levels) :
    iterate ev test body rounds s = MailFormula.iterate ev' test body rounds s := by
  induction rounds generalizing s with
  | zero => rw [MailFormula.iterate, MailFormula.iterate, hev test s hs]
  | succ rounds ih =>
    have hb := hbal test s
    rw [MailFormula.iterate, MailFormula.iterate, ← hev test s hs]
    generalize ev test s = o at hb ⊢
    obtain ⟨e | v, t⟩ := o
    · rfl
    · have hb' : Balanced s t := hb
      have ht := hb'.levels.trans hs
      have hbb := hbal body t
      dsimp only
      rw [← hev body t ht]
      generalize ev body t = o at hbb ⊢
      obtain ⟨e | w, u⟩ := o
      · rfl
      · have hbb' : Balanced t u := hbb
        dsimp only
        rw [ih (hbb'.levels.trans ht)]

theorem loopWithin (patience : Nat) (test body : Formula) {s : Session}
    (hs : s.limits.maxDepth - s.depth = levels) :
    loopWithin patience ev test body s = MailFormula.loopWithin patience ev' test body s := by
  rw [MailFormula.loopWithin, MailFormula.loopWithin]
  simp only [hev.iterate hbal test body _ hs]

theorem visit (key : MessageKey) (body : Formula) (found : Option Formula) {s : Session}
    (hs : s.limits.maxDepth - s.depth = levels) :
    visit ev key body found s = MailFormula.visit ev' key body found s := by
  have hb := hbal body ((s.openChild key).pushFrame none)
  rw [visit_eq, visit_eq, ← hev body ((s.openChild key).pushFrame none) hs]
  generalize ev body ((s.openChild key).pushFrame none) = o at hb ⊢
  obtain ⟨e | v, t⟩ := o
  · rfl
  · have hb' : Balanced ((s.openChild key).pushFrame none) t := hb
    cases found with
    | none => rfl
    | some f =>
      dsimp only
      rw [hev f t (hb'.levels.trans hs)]

/-- **Every request is served alike.** -/
theorem perform (patience : Nat) (r : Request) {s : Session}
    (hs : s.limits.maxDepth - s.depth = levels) :
    perform patience ev r s = MailFormula.perform patience ev' r s := by
  by_cases hr : r.isPlain = true
  · rw [perform_of_isPlain hr, perform_of_isPlain hr]
  · cases r with
    | evaluate f => exact hev f s hs
    | attempt f =>
      rw [MailFormula.perform, MailFormula.perform]
      dsimp only
      rw [hev f s hs]
    | loop test body => exact hev.loopWithin hbal patience test body hs
    | visit key body found => exact hev.visit hbal key body found hs
    | _ => exact absurd rfl hr

theorem run {α : Type} (patience : Nat) (name : String) (a : Action α) {s : Session}
    (hs : s.limits.maxDepth - s.depth = levels) :
    a.run (MailFormula.perform patience ev) name s =
      a.run (MailFormula.perform patience ev') name s := by
  induction a generalizing s with
  | done x => rfl
  | fail f => rfl
  | look next ih => exact ih s.view hs
  | request r next ih =>
    have hb := Law.holds_perform hbal patience r s
    rw [Action.run, Action.run, ← hev.perform hbal patience r hs]
    generalize MailFormula.perform patience ev r s = o at hb ⊢
    obtain ⟨e | x, t⟩ := o
    · rfl
    · have hb' : Balanced s t := hb
      exact ih x (hb'.levels.trans hs)

theorem callBuiltin (patience : Nat) (sig : Signature) (name : String) (args : List Formula)
    {s : Session} (hs : s.limits.maxDepth - s.depth = levels) :
    callBuiltin patience ev sig name args s =
      MailFormula.callBuiltin patience ev' sig name args s := by
  have hb := Law.holds_evalArgs hbal args s
  rw [MailFormula.callBuiltin, MailFormula.callBuiltin, hev.run hbal patience name _ hs,
    ← hev.evalArgs hbal args hs]
  generalize MailFormula.evalArgs ev args s = o at hb ⊢
  obtain ⟨e | vs, t⟩ := o
  · rfl
  · have hb' : Balanced s t := hb
    dsimp only
    rw [hev.run hbal patience name _ (hb'.levels.trans hs)]

theorem callUser (name : String) (args : List Formula) {s : Session}
    (hs : s.limits.maxDepth - s.depth = levels) :
    callUser ev name args s = MailFormula.callUser ev' name args s := by
  have hb := Law.holds_evalArgs hbal args s
  rw [callUser_eq, callUser_eq, ← hev.evalArgs hbal args hs]
  generalize MailFormula.evalArgs ev args s = o at hb ⊢
  obtain ⟨e | vs, t⟩ := o
  · rfl
  · have hb' : Balanced s t := hb
    have hbody : ∀ body, ev body (t.pushFrame (some (.string name :: vs))) =
        ev' body (t.pushFrame (some (.string name :: vs))) :=
      fun body => hev body _ (hb'.levels.trans hs)
    simp only [hbody]

/-- **So every call does the same.** -/
theorem call (patience : Nat) (name : String) (args : List Formula) {s : Session}
    (hs : s.limits.maxDepth - s.depth = levels) :
    call patience ev name args s = MailFormula.call patience ev' name args s := by
  rw [MailFormula.call, MailFormula.call]
  cases Signature.find? name with
  | some sig => exact hev.callBuiltin hbal patience sig name args hs
  | none => exact hev.callUser hbal name args hs

end

/-- The evaluator at so many levels agrees with that of the session. -/
theorem eval_evaluate (patience levels : Nat) :
    AgreeAt levels (eval patience levels) (Session.evaluate patience) := by
  intro f s hs
  rw [Session.evaluate, hs]

end AgreeAt

namespace Session

variable {s : Session} {name : String} {args : List Formula} {o : Outcome Value}
  {work work' : Session → Outcome Value → Prop}

/-- **How a call goes.** It is refused because of its depth; or it is
admitted, does its work one level deeper, and gives the level back. -/
inductive Calls (s : Session) (name : String) (work : Session → Outcome Value → Prop) :
    Outcome Value → Prop
  | refused {e : Failure} : s.tryEnter = .error e →
      Calls s name work (.error (.failure { e with function := some name }), s)
  | admitted {t u : Session} {r : Except Stop Value} : s.tryEnter = .ok t → work t (r, u) →
      Calls s name work (r, u.leave)

theorem Calls.mono (h : s.Calls name work o)
    (hwork : ∀ t o, s.tryEnter = .ok t → work t o → work' t o) : s.Calls name work' o := by
  cases h with
  | refused he => exact .refused he
  | admitted ht hw => exact .admitted ht (hwork _ _ ht hw)

/-- A call that is admitted does its work. -/
theorem Calls.work_of_admitted {t : Session} (h : s.Calls name work o) (ht : s.tryEnter = .ok t) :
    ∃ r u, work t (r, u) ∧ o = (r, u.leave) := by
  cases h with
  | refused he => exact nomatch he.symm.trans ht
  | admitted ht' hw =>
    obtain rfl := Except.ok.inj (ht'.symm.trans ht)
    exact ⟨_, _, hw, rfl⟩

/-- A call goes one way, if its work does. -/
theorem Calls.unique {o' : Outcome Value} (h : s.Calls name work o) (h' : s.Calls name work' o')
    (hwork : ∀ t o o', s.tryEnter = .ok t → work t o → work' t o' → o = o') : o = o' := by
  cases h with
  | refused he =>
    cases h' with
    | refused he' =>
      obtain rfl := Except.error.inj (he.symm.trans he')
      rfl
    | admitted ht' _ => exact nomatch he.symm.trans ht'
  | admitted ht hw =>
    obtain ⟨r, u, hw', rfl⟩ := h'.work_of_admitted ht
    obtain ⟨rfl, rfl⟩ := Prod.mk.inj (hwork _ _ _ ht hw hw')
    rfl

/-- **The equation of a call.** Evaluating one is refused, or does the
work of the call, whose evaluator is this one. -/
theorem calls_evaluate (patience : Nat) (name : String) (args : List Formula) (s : Session) :
    s.Calls name (fun t o => call patience (Session.evaluate patience) name args t = o)
      (s.evaluate patience (.call name args)) := by
  rcases hlevels : s.limits.maxDepth - s.depth with - | below
  · rw [Session.evaluate, hlevels, eval]
    exact .refused (Course.tryEnter_of_no_levels hlevels)
  · have henter : s.enter.limits.maxDepth - s.enter.depth = below := by
      change s.limits.maxDepth - (s.depth + 1) = below
      omega
    rw [Session.evaluate, hlevels, eval,
      (AgreeAt.eval_evaluate patience below).call (balance.holds_eval patience below) patience name
        args henter]
    exact .admitted (Course.tryEnter_of_levels hlevels) rfl

end Session

end MailFormula
