import MailFormula.Proofs.Evaluation.Unwinding
import Mathlib.Data.List.Forall2
/-!
# Two evaluations in step

Two sessions may differ in something that an evaluation does not look at.
Evaluating a formula in both then takes the same steps, and what they
differ in stays all they differ in. A `Twin` is such a relation between
sessions; its fields are what it owes, one for each way in which a step
looks at the session or touches it. `Twin.alike_step` carries it over a
step, `Twin.alike_steps` over a run of steps from any two moments alike,
and `Twin.halts` over an evaluation to its end.

The limits are the one thing that two such sessions may differ in
although steps do look at it. As long as the smaller ones are not hit
(`AtLimit`), larger ones decide the same.
-/

namespace MailFormula

/-- **Larger limits**: calls may be deeper and loops longer. A loop
without a bound is as long as it likes. -/
structure Limits.Below (l m : Limits) : Prop where
  depth : l.maxDepth ≤ m.maxDepth
  iterations : ∀ bound, m.maxIterations = some bound →
    ∃ smaller, l.maxIterations = some smaller ∧ smaller ≤ bound

theorem Limits.Below.refl (l : Limits) : l.Below l :=
  ⟨Nat.le_refl _, fun bound h => ⟨bound, h, Nat.le_refl _⟩⟩

/-! ## What no request looks at -/

/-- The session under other limits and with other functions. -/
def Session.under (s : Session) (l : Limits) (functions : Table Formula) : Session :=
  { s with limits := l, functions := functions }

theorem mark_under (flag : Flag) (on : Bool) (s : Session) (l : Limits)
    (functions : Table Formula) :
    mark flag on (s.under l functions) =
      ((mark flag on s).1, (mark flag on s).2.under l functions) := by
  have hcontext : (s.under l functions).context = s.context := rfl
  have hstore : (s.under l functions).store = s.store := rfl
  rw [mark, mark, hcontext, hstore]
  cases s.context.permissions.modify with
  | false => rfl
  | true =>
    cases s.context.holder with
    | none => rfl
    | some key =>
      dsimp only
      rcases s.store.setFlags key (if on then flag.bit else 0) flag.bit with ⟨- | -, store⟩
      · rfl
      · rfl

theorem prompt_under {α : Type} (shown : Dialog → Option α × Dialog) (s : Session) (l : Limits)
    (functions : Table Formula) :
    prompt shown (s.under l functions) =
      ((prompt shown s).1, (prompt shown s).2.under l functions) := by
  have hcontext : (s.under l functions).context = s.context := rfl
  have hdialog : (s.under l functions).dialog = s.dialog := rfl
  rw [prompt, prompt, hcontext, hdialog]
  cases s.context.permissions.prompts with
  | false => rfl
  | true =>
    cases s.context.permissions.promptThread with
    | false => rfl
    | true =>
      cases s.dialog with
      | none => rfl
      | some dialog =>
        dsimp only
        rcases shown dialog with ⟨- | answer, dialog'⟩
        · rfl
        · rfl

/-- **No plain request looks at limits or functions**, and only a
definition touches them. -/
theorem effect_under {r : Request} (h : r.isPlain = true) (hr : ∀ name body, r ≠ .define name body)
    (s : Session) (l : Limits) (functions : Table Formula) :
    r.effect (s.under l functions) = ((r.effect s).1, (r.effect s).2.under l functions) := by
  cases r with
  | define name body => exact absurd rfl (hr name body)
  | mark flag on => exact mark_under flag on s l functions
  | askText message default multiline => exact prompt_under _ s l functions
  | askButton text kind => exact prompt_under _ s l functions
  | write path text =>
    have hfiles : (s.under l functions).files = s.files := rfl
    rw [Request.effect, perform]
    dsimp only
    rw [hfiles]
    cases s.files.write path text with
    | ok files => rfl
    | error fault => rfl
  | evaluate _ | attempt _ | loop _ _ | visit _ _ _ => cases h
  | _ => rfl

namespace Course

/-- **A limit is hit.** A call is one level too deep, or the condition of
a loop is true once more after as many rounds as are allowed. -/
inductive AtLimit : State → Prop
  | depth {name : String} {args : List Formula} {k : List Pending} {s : Session} :
      s.limits.maxDepth ≤ s.depth → AtLimit ⟨.evaluate (.call name args), k, s⟩
  | rounds {v : Value} {test body : Formula} {rounds bound : Nat} {name : String}
      {next : Except Nat Value → Action Value} {k : List Pending} {s : Session} :
      v.truth = true → s.limits.maxIterations = some bound → bound ≤ rounds →
        AtLimit ⟨.give (.ok v), .condition test body rounds name next :: k, s⟩

/-- **A relation that evaluation keeps between two sessions.** -/
structure Twin where
  alike : Session → Session → Prop
  /-- The requests that both sessions serve alike. -/
  asks : Request → Prop
  limits : ∀ {s t}, alike s t → s.limits.Below t.limits
  depth : ∀ {s t}, alike s t → t.depth = s.depth
  view : ∀ {s t}, alike s t → t.view = s.view
  functions : ∀ {s t}, alike s t → ∀ {name}, Signature.find? name = none →
    t.functions.get? name = s.functions.get? name
  effect : ∀ {s t} {r : Request}, alike s t → asks r → r.isPlain = true →
    (r.effect t).1 = (r.effect s).1 ∧ alike (r.effect s).2 (r.effect t).2
  /-- A header field asks for the header. -/
  field : asks (.content .header)
  enter : ∀ {s t}, alike s t → alike s.enter t.enter
  leave : ∀ {s t}, alike s t → alike s.leave t.leave
  push : ∀ {s t} args, alike s t → alike (s.pushFrame args) (t.pushFrame args)
  pop : ∀ {s t}, alike s t → alike s.popFrame t.popFrame
  openChild : ∀ {s t} key, alike s t → alike (s.openChild key) (t.openChild key)
  withContextOf : ∀ {s t o p}, alike s t → alike o p →
    alike (s.withContextOf o) (t.withContextOf p)

namespace Twin

variable (T : Twin)

/-- What is pending is the same, but visits go back to two sessions. -/
inductive Pends : Pending → Pending → Prop
  | same {p : Pending} : p.outside? = none → Pends p p
  | visit {o p : Session} {found : Option Formula} {name : String}
      {next : Option Value → Action Value} : T.alike o p →
        Pends (.visit o found name next) (.visit p found name next)
  | found {o p : Session} {name : String} {next : Option Value → Action Value} : T.alike o p →
        Pends (.found o name next) (.found p name next)

/-- **Two moments alike**: the same is being done and left to do. -/
structure Alike (c d : State) : Prop where
  control : d.control = c.control
  pending : List.Forall₂ T.Pends c.pending d.pending
  session : T.alike c.session d.session

variable {T} {c d : State} {k l : List Pending} {s t : Session}

/-! ## A step -/

theorem dispatch_eq (h : T.alike s t) (name : String) (args : List Formula) :
    dispatch name args t = dispatch name args s := by
  rw [dispatch, dispatch]
  cases hname : Signature.find? name with
  | some sig => rfl
  | none => rw [T.functions h hname]

theorem fieldValue_fst (name : String) (s : Session) :
    (fieldValue name s).1 =
      match (s.context.content s.store .header).1 with
      | .ok handle => .ok (.field name (handle.part.field name))
      | .error code => .error (.failure { code, function := some ("%" ++ name) }) := by
  rw [fieldValue]
  generalize s.context.content s.store .header = o
  obtain ⟨code | handle, context, store⟩ := o
  · rfl
  · rfl

/-- A header field has one value in both. -/
theorem fieldValue_fst_eq (h : T.alike s t) (name : String) :
    (fieldValue name t).1 = (fieldValue name s).1 := by
  have hcontent : (t.context.content t.store .header).1 = (s.context.content s.store .header).1 :=
    Except.ok.inj (T.effect h T.field rfl).1
  rw [fieldValue_fst, fieldValue_fst, hcontent]

theorem valueOf_eq (h : T.alike s t) (name : String) : t.valueOf name = s.valueOf name := by
  have hscope : t.scope = s.scope := congrArg View.scope (T.view h)
  rw [Session.valueOf, Session.valueOf, hscope]

theorem alike_start {f : Formula} (h : T.alike s t) (hk : List.Forall₂ T.Pends k l)
    (hlimit : AtLimit ⟨.evaluate f, k, s⟩ → t.limits = s.limits) :
    T.Alike (start f k s) (start f l t) := by
  cases f with
  | text _ | number _ | regex _ => exact ⟨rfl, hk, h⟩
  | field name =>
    refine ⟨congrArg Control.give (fieldValue_fst_eq h name), hk, ?_⟩
    change T.alike (fieldValue name s).2 (fieldValue name t).2
    rw [fieldValue_snd, fieldValue_snd]
    exact (T.effect h T.field rfl).2
  | var name =>
    exact ⟨congrArg (fun v => Control.give (.ok v)) (valueOf_eq h name), hk, h⟩
  | call name args =>
    have hdepth := T.depth h
    have hmax := (T.limits h).depth
    rw [start, start, Session.tryEnter, Session.tryEnter]
    by_cases hs : s.depth + 1 ≤ s.limits.maxDepth
    · rw [if_pos hs, if_pos (by omega)]
      exact ⟨dispatch_eq (T.enter h) name args, .cons (.same rfl) hk, T.enter h⟩
    · have hsame := hlimit (.depth (by omega))
      rw [if_neg hs, if_neg (by rw [hsame]; omega)]
      refine ⟨?_, hk, h⟩
      dsimp only
      rw [Session.tooDeep, Session.tooDeep, hsame]

theorem alike_serve {name : String} {r : Request} {next : r.Reply → Action Value}
    (h : T.alike s t) (hk : List.Forall₂ T.Pends k l) (hr : r.isPlain = true → T.asks r) :
    T.Alike (serve name k s r next) (serve name l t r next) := by
  by_cases hplain : r.isPlain = true
  · obtain ⟨hanswer, hleft⟩ := T.effect h (hr hplain) hplain
    rw [serve_of_isPlain hplain, serve_of_isPlain hplain]
    generalize r.effect s = o at hanswer hleft ⊢
    generalize r.effect t = o' at hanswer hleft ⊢
    obtain ⟨e | a, s'⟩ := o
    · obtain ⟨a', t'⟩ := o'
      obtain rfl : a' = .error e := hanswer
      exact ⟨rfl, hk, hleft⟩
    · obtain ⟨a', t'⟩ := o'
      obtain rfl : a' = .ok a := hanswer
      exact ⟨rfl, hk, hleft⟩
  · cases r with
    | evaluate f => exact ⟨rfl, .cons (.same rfl) hk, h⟩
    | attempt f => exact ⟨rfl, .cons (.same rfl) hk, h⟩
    | loop test body => exact ⟨rfl, .cons (.same rfl) hk, h⟩
    | visit key body found =>
      exact ⟨rfl, .cons (.visit h) hk, T.push none (T.openChild key h)⟩
    | _ => exact absurd rfl hplain

/-- A loop goes on in both, or ends in both. -/
theorem alike_condition {r : Except Stop Value} {test body : Formula} {rounds : Nat}
    {name : String} {next : Except Nat Value → Action Value} (h : T.alike s t)
    (hk : List.Forall₂ T.Pends k l)
    (hlimit : AtLimit ⟨.give r, .condition test body rounds name next :: k, s⟩ →
      t.limits = s.limits) :
    T.Alike (resume r k s (.condition test body rounds name next))
      (resume r l t (.condition test body rounds name next)) := by
  obtain e | v := r
  · exact ⟨rfl, hk, h⟩
  · by_cases hv : v.truth = true
    · by_cases hsame : t.limits = s.limits
      · simp only [resume, if_pos hv, hsame]
        split
        · split
          · exact ⟨rfl, hk, h⟩
          · exact ⟨rfl, .cons (.same rfl) hk, h⟩
        · exact ⟨rfl, .cons (.same rfl) hk, h⟩
      -- The smaller bound is not hit, so neither is the larger one.
      · have hs : ∀ bound, s.limits.maxIterations = some bound → rounds < bound :=
          fun bound hbound => Nat.lt_of_not_le fun hle => hsame (hlimit (.rounds hv hbound hle))
        have ht : ∀ bound, t.limits.maxIterations = some bound → rounds < bound := by
          intro bound hbound
          obtain ⟨smaller, hsmaller, hle⟩ := (T.limits h).iterations bound hbound
          exact Nat.lt_of_lt_of_le (hs smaller hsmaller) hle
        have hround : resume (.ok v) k s (.condition test body rounds name next) =
            ⟨.evaluate body, .body test body (rounds + 1) name next :: k, s⟩ :=
          step_condition_round hv hs
        have hround' : resume (.ok v) l t (.condition test body rounds name next) =
            ⟨.evaluate body, .body test body (rounds + 1) name next :: l, t⟩ :=
          step_condition_round hv ht
        rw [hround, hround']
        exact ⟨rfl, .cons (.same rfl) hk, h⟩
    · simp only [resume, if_neg hv]
      exact ⟨rfl, hk, h⟩

theorem alike_resume {r : Except Stop Value} {p q : Pending} (h : T.alike s t)
    (hp : T.Pends p q) (hk : List.Forall₂ T.Pends k l)
    (hlimit : AtLimit ⟨.give r, p :: k, s⟩ → t.limits = s.limits) :
    T.Alike (resume r k s p) (resume r l t q) := by
  cases hp with
  | same hout =>
    cases p with
    | call => exact ⟨rfl, hk, T.leave h⟩
    | frame => exact ⟨rfl, hk, T.pop h⟩
    | argument target done rest =>
      obtain e | v := r
      · exact ⟨rfl, hk, h⟩
      · exact ⟨rfl, hk, h⟩
    | value name next =>
      obtain e | v := r
      · exact ⟨rfl, hk, h⟩
      · exact ⟨rfl, hk, h⟩
    | attempt name next =>
      obtain (e | g | -) | v := r
      · exact ⟨rfl, hk, h⟩
      · exact ⟨rfl, hk, h⟩
      · exact ⟨rfl, hk, h⟩
      · exact ⟨rfl, hk, h⟩
    | condition test body rounds name next => exact alike_condition h hk hlimit
    | body test body rounds name next =>
      obtain e | v := r
      · exact ⟨rfl, hk, h⟩
      · exact ⟨rfl, .cons (.same rfl) hk, h⟩
    | visit _ _ _ _ | found _ _ _ => cases hout
  | visit ho =>
    have hback := T.withContextOf (T.pop h) ho
    obtain e | v := r
    · exact ⟨rfl, hk, hback⟩
    · simp only [resume]
      split
      · split
        · exact ⟨rfl, hk, hback⟩
        · exact ⟨rfl, .cons (.found ho) hk, h⟩
      · exact ⟨rfl, hk, hback⟩
  | found ho =>
    have hback := T.withContextOf (T.pop h) ho
    obtain e | v := r
    · exact ⟨rfl, hk, hback⟩
    · exact ⟨rfl, hk, hback⟩

/-- **Two moments alike are alike a step later**, unless the step hits a
limit in which the sessions differ. -/
theorem alike_step (h : T.Alike c d)
    (hasks : ∀ name r next, c.control = .act name (.request r next) → r.isPlain = true → T.asks r)
    (hlimit : AtLimit c → d.session.limits = c.session.limits) : T.Alike (step c) (step d) := by
  obtain ⟨control, k, s⟩ := c
  obtain ⟨control', l, t⟩ := d
  obtain ⟨rfl, hk, hs⟩ : control' = control ∧ List.Forall₂ T.Pends k l ∧ T.alike s t :=
    ⟨h.control, h.pending, h.session⟩
  cases control' with
  | evaluate f => exact alike_start hs hk hlimit
  | arguments target done rest =>
    cases rest with
    | cons f rest => exact ⟨rfl, .cons (.same rfl) hk, hs⟩
    | nil =>
      cases target with
      | builtin sig name => exact ⟨rfl, hk, hs⟩
      | user name body => exact ⟨rfl, .cons (.same rfl) hk, T.push _ hs⟩
  | act name a =>
    cases a with
    | done v => exact ⟨rfl, hk, hs⟩
    | fail f => exact ⟨rfl, hk, hs⟩
    | look next => exact ⟨congrArg (fun v => Control.act name (next v)) (T.view hs), hk, hs⟩
    | request r next => exact alike_serve hs hk (hasks name r next rfl)
  | give r =>
    cases hk with
    | nil => exact ⟨rfl, .nil, hs⟩
    | cons hp hk => exact alike_resume hs hp hk hlimit

/-! ## A run of steps -/

section run

variable (h : T.Alike c d)
  (hasks : ∀ b, Leads c b → ∀ name r next,
    b.control = .act name (.request r next) → r.isPlain = true → T.asks r)
  (hlimit : ∀ b, Leads c b → AtLimit b → ∀ t, T.alike b.session t → t.limits = b.session.limits)

include h hasks hlimit

/-- **What begins alike stays alike**, step by step. -/
theorem alike_steps (n : Nat) : T.Alike (step^[n] c) (step^[n] d) := by
  induction n with
  | zero => exact h
  | succ n ih =>
    rw [Function.iterate_succ_apply', Function.iterate_succ_apply']
    exact alike_step ih (hasks _ ⟨n, rfl⟩) fun hat => hlimit _ ⟨n, rfl⟩ hat _ ih.session

/-- **It comes to the same end**, and leaves sessions alike. -/
theorem alike_halts {r : Except Stop Value} {s' : Session} (hs : Leads c (halt r s')) :
    ∃ t', Leads d (halt r t') ∧ T.alike s' t' := by
  obtain ⟨n, hn⟩ := hs
  have hend := alike_steps h hasks hlimit n
  rw [hn] at hend
  rcases hd : step^[n] d with ⟨control, k, t'⟩
  rw [hd] at hend
  obtain ⟨hcontrol, hpending, hsession⟩ := hend
  obtain rfl : control = .give r := hcontrol
  cases hpending
  exact ⟨t', ⟨n, hd⟩, hsession⟩

end run

/-! ## An evaluation -/

/-- Evaluations of one formula begin alike. -/
theorem alike_beginning (h : T.alike s t) (f : Formula) :
    T.Alike (beginning f s) (beginning f t) := ⟨rfl, .nil, h⟩

section evaluation

variable {f : Formula} (h : T.alike s t)
  (hasks : ∀ c, Leads (beginning f s) c → ∀ name r next,
    c.control = .act name (.request r next) → r.isPlain = true → T.asks r)
  (hlimit : ∀ c, Leads (beginning f s) c → AtLimit c →
    ∀ t, T.alike c.session t → t.limits = c.session.limits)

include h hasks hlimit

/-- Evaluations that begin alike stay alike. -/
theorem alike_iterate (n : Nat) :
    T.Alike (step^[n] (beginning f s)) (step^[n] (beginning f t)) :=
  alike_steps (alike_beginning h f) hasks hlimit n

/-- They come to the same end. -/
theorem halts {r : Except Stop Value} {s' : Session} (hs : Leads (beginning f s) (halt r s')) :
    ∃ t', Leads (beginning f t) (halt r t') ∧ T.alike s' t' :=
  alike_halts (alike_beginning h f) hasks hlimit hs

end evaluation

/-! ## Unwinding -/

theorem alike_undo {p q : Pending} (hp : T.Pends p q) (h : T.alike s t) :
    T.alike (p.undo s) (q.undo t) := by
  cases hp with
  | same hout =>
    cases p with
    | call => exact T.leave h
    | frame => exact T.pop h
    | visit _ _ _ _ | found _ _ _ => cases hout
    | _ => exact h
  | visit ho => exact T.withContextOf (T.pop h) ho
  | found ho => exact T.withContextOf (T.pop h) ho

/-- What is given back is alike in both. -/
theorem alike_unwind (hk : List.Forall₂ T.Pends k l) (h : T.alike s t) :
    T.alike (unwind k s) (unwind l t) := by
  induction hk generalizing s t with
  | nil => exact h
  | cons hp _ ih => exact ih (alike_undo hp h)

end Twin

end Course

end MailFormula
