import MailFormula.Proofs.Evaluation.Agreement
/-!
# Calls that do not come about

A call is checked before its arguments are touched: how many there are,
and whether there is a function of its name. Then, unless the built-in
wants them unevaluated, the arguments are evaluated in order, and only
with all their values does the function begin. So a call that is rejected
has done nothing, and a call that stops at an argument has done what was
done for the arguments up to that one.

Both are said of the outcome and of the steps. The outcome says what is
left of the session; the steps, that from the rejection or the stop on
nothing is evaluated any more (`Course.handsOn_of_stop`).
-/

namespace MailFormula

/-- **Formulas evaluated in order**, each in the session that the one
before it left, and all of them to values. -/
inductive Session.EvaluatesAll (patience : Nat) :
    Session → List Formula → List Value → Session → Prop
  | nil (s : Session) : EvaluatesAll patience s [] [] s
  | cons {s t u : Session} {f : Formula} {fs : List Formula} {v : Value} {vs : List Value} :
      s.evaluate patience f = (.ok v, t) → EvaluatesAll patience t fs vs u →
      EvaluatesAll patience s (f :: fs) (v :: vs) u

/-- A built-in refuses so many arguments: by its arity, or because they do
not make conditions, branches and something otherwise. -/
def Signature.Refuses (sig : Signature) (count : Nat) : Prop :=
  sig.arity.accepts count = false ∨ sig.builtin = .choose ∧ (count < 3 ∨ count % 2 = 0)

/-- **A call that evaluates its arguments first**: of a built-in that wants
values and accepts so many, or of a function of the session. -/
def Session.EvaluatesArguments (s : Session) (name : String) (args : List Formula) : Prop :=
  (∃ sig, Signature.find? name = some sig ∧ sig.builtin.isLazy = false ∧
    sig.arity.accepts args.length = true) ∨
  Signature.find? name = none ∧ ∃ body, s.functions.get? name = some body

variable {patience levels : Nat} {s t u : Session} {name : String} {f : Formula}
  {args fs rest : List Formula} {vs : List Value} {e : Stop}

/-! ## The arguments up to one that stops -/

/-- What is left after the arguments up to some point is the rest. -/
theorem evalArgs_append {evaluate : Formula → Run Value}
    (h : evalArgs evaluate fs s = (.ok vs, t)) (rest : List Formula) :
    evalArgs evaluate (fs ++ rest) s =
      match evalArgs evaluate rest t with
      | (.error e, u) => (.error e, u)
      | (.ok ws, u) => (.ok (vs ++ ws), u) := by
  induction fs generalizing s vs with
  | nil =>
    obtain ⟨rfl, rfl⟩ : [] = vs ∧ s = t := by simpa [evalArgs] using h
    rw [List.nil_append]
    generalize evalArgs evaluate rest s = o
    obtain ⟨e | ws, u⟩ := o
    · rfl
    · rfl
  | cons f fs ih =>
    rw [evalArgs] at h
    rw [List.cons_append, evalArgs]
    generalize evaluate f s = o at h ⊢
    obtain ⟨e | v, s'⟩ := o
    · cases h
    · dsimp only at h ⊢
      rcases hfs : evalArgs evaluate fs s' with ⟨e | ws, t'⟩
      · rw [hfs] at h
        cases h
      · rw [hfs] at h
        obtain ⟨rfl, rfl⟩ : v :: ws = vs ∧ t' = t := by simpa using h
        rw [ih hfs]
        generalize evalArgs evaluate rest t' = o
        obtain ⟨e | xs, u⟩ := o
        · rfl
        · rfl

/-- **An argument that stops is the end of the arguments**, whatever comes
after it. -/
theorem evalArgs_of_stop {evaluate : Formula → Run Value}
    (h : evalArgs evaluate fs s = (.ok vs, t)) (hf : evaluate f t = (.error e, u))
    (rest : List Formula) : evalArgs evaluate (fs ++ f :: rest) s = (.error e, u) := by
  rw [evalArgs_append h, evalArgs, hf]

namespace Session.EvaluatesAll

/-- The levels that are left stay the same. -/
theorem levels_eq (h : EvaluatesAll patience s fs vs t) :
    t.limits.maxDepth - t.depth = s.limits.maxDepth - s.depth := by
  induction h with
  | nil s => rfl
  | @cons s t u f fs v vs hf _ ih =>
    have hbal := balanced_eval patience (s.limits.maxDepth - s.depth) f s
    rw [Session.evaluate] at hf
    rw [hf] at hbal
    exact ih.trans hbal.levels

/-- So a call evaluates its arguments in that order. -/
theorem evalArgs_eq (h : EvaluatesAll patience s fs vs t)
    (hs : s.limits.maxDepth - s.depth = levels) :
    evalArgs (eval patience levels) fs s = (.ok vs, t) := by
  induction h with
  | nil s => rfl
  | @cons s t u f fs v vs hf hfs ih =>
    have hlevels := levels_eq (.cons hf (.nil t))
    rw [Session.evaluate, hs] at hf
    rw [evalArgs, hf]
    dsimp only
    rw [ih (hlevels.trans hs)]

end Session.EvaluatesAll

/-! ## The call -/

/-- A call below the limit is a call with a level less, and gives the
level back. -/
theorem evaluate_call_eq {below : Nat} (h : s.limits.maxDepth - s.depth = below + 1)
    (patience : Nat) (name : String) (args : List Formula) :
    s.evaluate patience (.call name args) =
      ((call patience (eval patience below) name args s.enter).1,
        (call patience (eval patience below) name args s.enter).2.leave) := by
  rw [Session.evaluate, h, eval]

/-- A choice between too few arguments, or an even number of them, fails
before any of them is evaluated. -/
theorem choose_of_refused (h : args.length < 3 ∨ args.length % 2 = 0) :
    Behaviour.choose args = .failWith .invalidArgSize := by
  rw [Behaviour.choose, if_pos]
  rcases h with h | h
  · rw [decide_eq_true h, Bool.true_or]
  · rw [decide_eq_true h, Bool.or_true]

namespace Course

/-- A call fails at once, with nothing done. -/
inductive Rejects (name : String) (e : Failure) : Control → Prop
  | counted : Rejects name e (.give (.error (.failure e)))
  | acted {fault : Fault} : fault.inCall name = e → Rejects name e (.act name (.fail fault))

/-- **What is refused is rejected.** -/
theorem rejects_of_refuses {sig : Signature} (hsig : Signature.find? name = some sig)
    (h : sig.Refuses args.length) :
    ∃ e : Failure, e.code = .invalidArgSize ∧ e.function = some name ∧
      (∀ patience evaluate s, call patience evaluate name args s = (.error (.failure e), s)) ∧
      ∀ s, Rejects name e (dispatch name args s) := by
  by_cases haccepts : sig.arity.accepts args.length = true
  · obtain ⟨hchoose, hcount⟩ := h.resolve_left (by rw [haccepts]; exact nofun)
    have hlazy : sig.builtin.isLazy = true := by rw [hchoose]; rfl
    have haction : sig.builtin.onFormulas args = .failWith .invalidArgSize := by
      rw [hchoose]
      exact choose_of_refused hcount
    refine ⟨Fault.inCall { code := .invalidArgSize } name, rfl, rfl, fun patience evaluate s => ?_,
      fun s => ?_⟩
    · simp only [call, hsig, callBuiltin, haccepts, hlazy, haction]
      rfl
    · simp only [dispatch, hsig, haccepts, hlazy, haction]
      exact .acted rfl
  · rw [Bool.not_eq_true] at haccepts
    refine ⟨wrongCount name args.length, rfl, rfl, fun patience evaluate s => ?_, fun s => ?_⟩
    · simp only [call, hsig, callBuiltin, haccepts]
      rfl
    · simp only [dispatch, hsig, haccepts]
      exact .counted

/-- So is a call of a function that there is not. -/
theorem rejects_of_unknown (args : List Formula) (hname : Signature.find? name = none)
    (hs : s.functions.get? name = none) :
    let e : Failure := { code := .unknownFunction, function := some name }
    (∀ patience evaluate, call patience evaluate name args s = (.error (.failure e), s)) ∧
      Rejects name e (dispatch name args s) := by
  refine ⟨fun patience evaluate => ?_, ?_⟩
  · simp only [call, hname, callUser, hs]
  · simp only [dispatch, hname, hs]
    exact .counted

/-- A call below the limit is dispatched. -/
theorem step_call (hdepth : s.depth < s.limits.maxDepth) (name : String) (args : List Formula)
    (k : List Pending) :
    step ⟨.evaluate (.call name args), k, s⟩ =
      ⟨dispatch name args s.enter, .call :: k, s.enter⟩ := by
  change start (.call name args) k s = _
  rw [start, Session.tryEnter, if_pos (by omega)]

/-- **Once it is rejected, nothing is evaluated.** -/
theorem not_evaluate_of_rejects {e : Failure} (hdepth : s.depth < s.limits.maxDepth)
    (h : Rejects name e (dispatch name args s.enter)) {n : Nat} (hn : 0 < n) (g : Formula) :
    (step^[n] (beginning (.call name args) s)).control ≠ .evaluate g := by
  obtain ⟨n, rfl⟩ : ∃ m, n = m + 1 := ⟨n - 1, by omega⟩
  rw [Function.iterate_succ_apply, beginning, step_call hdepth]
  generalize dispatch name args s.enter = control at h
  -- The failure is given at once, or in one step; the call is left in another.
  cases h with
  | counted =>
    match n with
    | 0 => exact nofun
    | n + 1 =>
      change (step^[n] (halt _ _)).control ≠ _
      rw [iterate_halt]
      exact nofun
  | acted _ =>
    match n with
    | 0 => exact nofun
    | 1 => exact nofun
    | n + 2 =>
      change (step^[n] (halt _ _)).control ≠ _
      rw [iterate_halt]
      exact nofun

/-! ## The arguments, step by step -/

/-- The steps come to the arguments that are left, with the values of
those before them. -/
theorem leads_arguments (h : s.EvaluatesAll patience fs vs t) (target : Target)
    (done : List Value) (rest : List Formula) (k : List Pending) :
    Leads ⟨.arguments target done (fs ++ rest), k, s⟩
      ⟨.arguments target (done ++ vs) rest, k, t⟩ := by
  induction h generalizing done with
  | nil s =>
    rw [List.append_nil]
    exact Leads.refl _
  | @cons s t u f fs v vs hf _ ih =>
    have hvalue := faithful_eval patience _ f (.argument target done (fs ++ rest) :: k) s rfl
    rw [Session.evaluate] at hf
    rw [hf] at hvalue
    have hfirst : Leads ⟨.arguments target done (f :: (fs ++ rest)), k, s⟩
        ⟨.arguments target (done ++ [v]) (fs ++ rest), k, t⟩ :=
      Leads.trans ⟨1, rfl⟩ (hvalue.then_step rfl)
    have hmore := ih (done ++ [v])
    rw [List.append_assoc, List.singleton_append] at hmore
    exact hfirst.trans hmore

/-- **And to an argument that stops.** -/
theorem leads_stop (h : s.EvaluatesAll patience fs vs t)
    (hf : t.evaluate patience f = (.error e, u)) (he : e ≠ .unfinished) (target : Target)
    (rest : List Formula) (k : List Pending) :
    Leads ⟨.arguments target [] (fs ++ f :: rest), k, s⟩
      ⟨.give (.error e), .argument target vs rest :: k, u⟩ := by
  have hbefore := leads_arguments h target [] (f :: rest) k
  have hstop := faithful_eval patience _ f (.argument target vs rest :: k) t rfl
  rw [Session.evaluate] at hf
  rw [hf] at hstop
  refine hbefore.trans (Leads.of_step rfl ?_)
  cases e with
  | unfinished => exact absurd rfl he
  | failure _ => exact hstop
  | signal _ => exact hstop

/-- From then on the stop is handed on, and nothing else is done. -/
theorem handsOn_of_stop (target : Target) (rest : List Formula) (s : Session) (n : Nat) :
    (step^[n] ⟨.give (.error e), [.argument target vs rest, .call], s⟩).control =
      .give (.error e) := by
  match n with
  | 0 => rfl
  | 1 => rfl
  | n + 2 =>
    change (step^[n] (halt (.error e) s.leave)).control = _
    rw [iterate_halt]
    rfl

/-- A call that evaluates its arguments first begins with them. -/
theorem dispatch_of_evaluatesArguments (h : s.EvaluatesArguments name args) :
    ∃ target, dispatch name args s = .arguments target [] args := by
  rcases h with ⟨sig, hsig, hlazy, haccepts⟩ | ⟨hname, body, hbody⟩
  · exact ⟨.builtin sig name, by simp [dispatch, hsig, hlazy, haccepts]⟩
  · exact ⟨.user name body, by simp [dispatch, hname, hbody]⟩

end Course

/-- And it stops with them. -/
theorem call_of_evalArgs {evaluate : Formula → Run Value} (h : s.EvaluatesArguments name args)
    (hargs : evalArgs evaluate args s = (.error e, u)) (patience : Nat) :
    call patience evaluate name args s = (.error e, u) := by
  rcases h with ⟨sig, hsig, hlazy, haccepts⟩ | ⟨hname, body, hbody⟩
  · simp [call, hsig, callBuiltin, hlazy, haccepts, hargs]
  · simp [call, hname, callUser, hbody, hargs]

/-- **A call that is rejected or aborted never runs partially.** Below the
depth limit, a built-in that refuses so many arguments fails because of
their number, and a function that there is not because there is none; the
session is as before, and nothing is evaluated but the call itself. If a
call evaluates its arguments first, and those before some argument have
values but that one stops, then the call stops so; the session is the one
that this argument left, without the call's level and with the frames it
had before the call. From the moment at which the argument has stopped,
with all further arguments still to come, the stop is handed on and
nothing else is done. -/
theorem calls_never_run_partially {s : Session} (hdepth : s.depth < s.limits.maxDepth)
    (name : String) (args : List Formula) :
    (∀ sig, Signature.find? name = some sig → sig.Refuses args.length →
      (∃ e : Failure, e.code = .invalidArgSize ∧ e.function = some name ∧
        ∀ patience, s.evaluate patience (.call name args) = (.error (.failure e), s)) ∧
      ∀ n g, 0 < n →
        (Course.step^[n] (Course.beginning (.call name args) s)).control ≠ .evaluate g) ∧
    (Signature.find? name = none → s.functions.get? name = none →
      (∀ patience, s.evaluate patience (.call name args) =
        (.error (.failure { code := .unknownFunction, function := some name }), s)) ∧
      ∀ n g, 0 < n →
        (Course.step^[n] (Course.beginning (.call name args) s)).control ≠ .evaluate g) ∧
    (s.EvaluatesArguments name args → ∀ patience before f rest vs t e u,
      args = before ++ f :: rest → s.enter.EvaluatesAll patience before vs t →
      t.evaluate patience f = (.error e, u) →
        s.evaluate patience (.call name args) = (.error e, u.leave) ∧
        u.leave.scope.frames.length = s.scope.frames.length ∧
        (e ≠ .unfinished → ∃ target n,
          Course.step^[n] (Course.beginning (.call name args) s) =
            ⟨.give (.error e), [.argument target vs rest, .call], u⟩ ∧
          ∀ m, n ≤ m → (Course.step^[m] (Course.beginning (.call name args) s)).control =
            .give (.error e))) := by
  obtain ⟨below, hbelow⟩ : ∃ below, s.limits.maxDepth - s.depth = below + 1 :=
    ⟨s.limits.maxDepth - s.depth - 1, by omega⟩
  have hcall := evaluate_call_eq hbelow
  refine ⟨fun sig hsig hrefuses => ?_, fun hname hs => ?_, ?_⟩
  · obtain ⟨e, hcode, hfunction, heval, hrejects⟩ := Course.rejects_of_refuses hsig hrefuses
    refine ⟨⟨e, hcode, hfunction, fun patience => ?_⟩, fun n g hn =>
      Course.not_evaluate_of_rejects hdepth (hrejects s.enter) hn g⟩
    rw [hcall, heval]
    rfl
  · obtain ⟨heval, hrejects⟩ := Course.rejects_of_unknown (s := s.enter) args hname hs
    refine ⟨fun patience => ?_, fun n g hn =>
      Course.not_evaluate_of_rejects hdepth hrejects hn g⟩
    rw [hcall, heval]
    rfl
  · rintro hs patience before f rest vs t e u rfl hbefore hf
    have henter : s.enter.EvaluatesArguments name (before ++ f :: rest) := hs
    have hlevels : s.enter.limits.maxDepth - s.enter.depth = below := by
      change s.limits.maxDepth - (s.depth + 1) = below
      omega
    have hargs : evalArgs (eval patience below) (before ++ f :: rest) s.enter = (.error e, u) := by
      refine evalArgs_of_stop (hbefore.evalArgs_eq hlevels) ?_ rest
      rwa [Session.evaluate, hbefore.levels_eq, hlevels] at hf
    have hval : s.evaluate patience (.call name (before ++ f :: rest)) = (.error e, u.leave) := by
      rw [hcall, call_of_evalArgs henter hargs]
    have hbal := balanced_eval patience (s.limits.maxDepth - s.depth)
      (.call name (before ++ f :: rest)) s
    rw [← Session.evaluate, hval] at hbal
    refine ⟨hval, hbal.length_frames, fun he => ?_⟩
    obtain ⟨target, htarget⟩ := Course.dispatch_of_evaluatesArguments henter
    obtain ⟨n, hn⟩ := Course.leads_stop hbefore hf he target rest [.call]
    have hbegin : Course.step^[n + 1] (Course.beginning (.call name (before ++ f :: rest)) s) =
        ⟨.give (.error e), [.argument target vs rest, .call], u⟩ := by
      rw [Function.iterate_succ_apply, Course.beginning, Course.step_call hdepth, htarget, hn]
    refine ⟨target, n + 1, hbegin, fun m hm => ?_⟩
    rw [← Nat.sub_add_cancel hm, Function.iterate_add_apply, hbegin]
    exact Course.handsOn_of_stop target rest u _

/-- A session with one function. -/
def defining : Session := { functions := ({} : Table Formula).put "Pair" (.call "Exit" []) }

/-- Assigns one variable, fails, and would assign another. -/
def failingArguments : List Formula :=
  [.call "Set" [.text "a", .number 1], .field "Subject", .call "Set" [.text "b", .number 2]]

/-- What the first of the arguments leaves. -/
def afterFirst : Session := (defining.enter.evaluate 0 (.call "Set" [.text "a", .number 1])).2

/-- A choice between two is refused, and a function that nobody defined is
unknown. A call with an argument that fails, since there is no message,
is aborted there: one variable is assigned and the other is not, and the
body does not exit. -/
theorem failing_arguments_abort :
    defining.depth < defining.limits.maxDepth ∧
    (∃ e : Failure, e.code = .invalidArgSize ∧ e.function = some "iF" ∧
      defining.evaluate 0 (.call "iF" failingArguments.tail) = (.error (.failure e), defining)) ∧
    defining.evaluate 0 (.call "Triple" failingArguments) =
      (.error (.failure { code := .unknownFunction, function := some "Triple" }), defining) ∧
    ∃ e u, e.function = some "%Subject" ∧
      defining.evaluate 0 (.call "pair" failingArguments) = (.error (.failure e), Session.leave u) ∧
      (u.scope.get? "a").map Value.toNumber = some 1 ∧ (u.scope.get? "b").isNone ∧
      u.leave.scope.frames.length = 1 := by
  have hdepth : defining.depth < defining.limits.maxDepth := by decide
  have hknown : defining.functions.get? "pair" = some (.call "Exit" []) := rfl
  have hfirst : (defining.enter.evaluate 0 (.call "Set" [.text "a", .number 1])).1 =
      .ok (.number 1) := rfl
  have hfield : (afterFirst.evaluate 0 (.field "Subject")).1 =
      .error (.failure { code := .noContextMessage, function := some "%Subject" }) := rfl
  obtain ⟨⟨e, hcode, hfunction, hchoose⟩, -⟩ :=
    (calls_never_run_partially hdepth "iF" failingArguments.tail).1 _ rfl
      (.inr ⟨rfl, .inl (by decide)⟩)
  obtain ⟨hunknown, -⟩ :=
    (calls_never_run_partially hdepth "Triple" failingArguments).2.1 rfl rfl
  have hbefore : defining.enter.EvaluatesAll 0 [.call "Set" [.text "a", .number 1]] [.number 1]
      afterFirst := .cons (Prod.ext hfirst rfl) (.nil _)
  obtain ⟨haborted, hframes, -⟩ :=
    (calls_never_run_partially hdepth "pair" failingArguments).2.2
      (.inr ⟨rfl, _, hknown⟩) 0 _ _ _ _ _ _ _ rfl hbefore (Prod.ext hfield rfl)
  exact ⟨hdepth, ⟨e, hcode, hfunction, hchoose 0⟩, hunknown 0, _, _, rfl, haborted, rfl, rfl,
    hframes⟩

end MailFormula
