import MailFormula.Eval
/-!
# Laws of evaluation

A law says how the session after a computation relates to the one
before it, once for computations that give a result and once for those
that stop. This file states what a law owes (`Law`) and proves that a
law which owes nothing more holds of every evaluation
(`Law.holds_eval`). The induction over formulas, loops, visits and
built-ins is done here and nowhere else: a later file that wants an
invariant of evaluation proves the fields of a `Law`, one for each way
in which a session is touched.

Requests fall into two kinds. Four of them evaluate formulas again; the
others are **plain**, and what a plain request does is a function of the
session alone (`Request.effect`). Plain requests, the counter of open
calls, frames and child contexts are all a law is asked about.
-/

namespace MailFormula

/-- Whether a request is served without evaluating a formula. -/
def Request.isPlain : Request → Bool
  | evaluate _ | attempt _ | loop _ _ | visit _ _ _ => false
  | _ => true

/-- What a plain request does. No formula is evaluated for it, so the
evaluator that stands here is never asked. -/
def Request.effect (r : Request) : Run r.Reply :=
  perform 0 (fun _ s => (.error .unfinished, s)) r

/-- A plain request asks neither for patience nor for the evaluator. -/
theorem perform_of_isPlain {r : Request} (h : r.isPlain = true) (patience : Nat)
    (evaluate : Formula → Run Value) (s : Session) :
    perform patience evaluate r s = r.effect s := by
  cases r <;> first | rfl | cases h

/-! ## What a plain request leaves alone -/

/-- **What a plain request may leave of a session.** Definitions,
assignments, content and marks are told apart; the other requests touch
what no formula is evaluated with but what they put there themselves. -/
inductive Request.Leaves (r : Request) (s : Session) : Session → Prop
  | define {name : String} {body : Formula} : r = .define name body →
      Leaves r s { s with functions := s.functions.put name body }
  | assign {name : String} {v : Value} {isGlobal : Bool} : r = .assign name v isGlobal →
      Leaves r s { s with
        scope := if isGlobal then s.scope.setGlobal name v else s.scope.set name v }
  | content {hint : Hint} (context : Context) (store : Store) : r = .content hint →
      Leaves r s { s with context, store }
  | mark {flag : Flag} {on : Bool} (store : Store) : r = .mark flag on →
      Leaves r s { s with store }
  | other (captures : List String) (signal : Option Signal) (dialog : Option Dialog)
      (files : FileTree) (complaints : List String) (profile : Profile) :
      Leaves r s { s with captures, signal, dialog, files, complaints, profile }

theorem leaves_mark (flag : Flag) (on : Bool) (s : Session) :
    (Request.mark flag on).Leaves s ((Request.mark flag on).effect s).2 := by
  rw [Request.effect, perform, mark]
  split
  · exact .mark s.store rfl
  · split
    · exact .mark s.store rfl
    · split
      · exact .mark _ rfl
      · exact .mark s.store rfl

theorem leaves_prompt {α : Type} {r : Request} (shown : Dialog → Option α × Dialog)
    (s : Session) : r.Leaves s (prompt shown s).2 := by
  rw [prompt]
  split
  · exact .other _ _ _ _ _ _
  · split
    · exact .other _ _ _ _ _ _
    · split
      · exact .other _ _ _ _ _ _
      · split
        · exact .other _ _ _ _ _ _
        · exact .other _ _ _ _ _ _

/-- **A plain request leaves one of these.** -/
theorem leaves_effect {r : Request} (h : r.isPlain = true) (s : Session) :
    r.Leaves s (r.effect s).2 := by
  cases r with
  | define name body => exact .define rfl
  | assign name v isGlobal => exact .assign rfl
  | content hint => exact .content _ _ rfl
  | mark flag on => exact leaves_mark flag on s
  | askText message default multiline => exact leaves_prompt _ s
  | askButton text kind => exact leaves_prompt _ s
  | write path text =>
    rw [Request.effect, perform]
    dsimp only
    split
    · exact .other _ _ _ _ _ _
    · exact .other _ _ _ _ _ _
  | evaluate _ | attempt _ | loop _ _ | visit _ _ _ => cases h
  | _ => exact .other _ _ _ _ _ _

/-- The two sessions agree on what belongs to the host and to the calls
around: no request touches any of it. -/
structure SameSetting (s t : Session) : Prop where
  limits : t.limits = s.limits
  includeDir : t.includeDir = s.includeDir
  depth : t.depth = s.depth
  enclosing : t.enclosing = s.enclosing
  reported : t.reported = s.reported
  clock : t.clock = s.clock

/-- **The setting of a session outlives every plain request.** -/
theorem sameSetting_effect {r : Request} (h : r.isPlain = true) (s : Session) :
    SameSetting s (r.effect s).2 := by
  have hleaves := leaves_effect h s
  generalize (r.effect s).2 = t at hleaves ⊢
  cases hleaves <;> exact ⟨rfl, rfl, rfl, rfl, rfl, rfl⟩

/-- **Only an assignment touches the variables.** -/
theorem scope_effect_of_ne {r : Request} (h : r.isPlain = true)
    (hr : ∀ name v isGlobal, r ≠ .assign name v isGlobal) (s : Session) :
    (r.effect s).2.scope = s.scope := by
  have hleaves := leaves_effect h s
  generalize (r.effect s).2 = t at hleaves ⊢
  cases hleaves with
  | assign hassign => exact absurd hassign (hr _ _ _)
  | _ => rfl

/-- **Only a definition touches the functions.** -/
theorem functions_effect_of_ne {r : Request} (h : r.isPlain = true)
    (hr : ∀ name body, r ≠ .define name body) (s : Session) :
    (r.effect s).2.functions = s.functions := by
  have hleaves := leaves_effect h s
  generalize (r.effect s).2 = t at hleaves ⊢
  cases hleaves with
  | define hdefine => exact absurd hdefine (hr _ _)
  | _ => rfl

/-- **Only a request for the content touches the context.** -/
theorem context_effect_of_ne {r : Request} (h : r.isPlain = true)
    (hr : ∀ hint, r ≠ .content hint) (s : Session) : (r.effect s).2.context = s.context := by
  have hleaves := leaves_effect h s
  generalize (r.effect s).2 = t at hleaves ⊢
  cases hleaves with
  | content context store hcontent => exact absurd hcontent (hr _)
  | _ => rfl

/-- What an assignment does to them. -/
theorem scope_effect {r : Request} (h : r.isPlain = true) (s : Session) :
    (r.effect s).2.scope = s.scope ∨
      ∃ name v, (r.effect s).2.scope = s.scope.set name v ∨
        (r.effect s).2.scope = s.scope.setGlobal name v := by
  by_cases hr : ∃ name v isGlobal, r = .assign name v isGlobal
  · obtain ⟨name, v, isGlobal, rfl⟩ := hr
    refine .inr ⟨name, v, ?_⟩
    cases isGlobal with
    | false => exact .inl rfl
    | true => exact .inr rfl
  · exact .inl (scope_effect_of_ne h (fun name v isGlobal he => hr ⟨name, v, isGlobal, he⟩) s)

/-- How a prompt ends: with an answer of some kind, or with a signal that
it has left in the session. -/
theorem prompt_cases {α : Type} (shown : Dialog → Option α × Dialog) (s : Session) :
    (∃ a, (prompt shown s).1 = .ok a ∧ (prompt shown s).2.signal = s.signal) ∨
      ∃ g, (prompt shown s).1 = .error (.signal g) ∧ (prompt shown s).2.signal = some g := by
  rw [prompt]
  split
  · exact .inl ⟨_, rfl, rfl⟩
  · split
    · exact .inl ⟨_, rfl, rfl⟩
    · split
      · exact .inl ⟨_, rfl, rfl⟩
      · split
        · exact .inl ⟨_, rfl, rfl⟩
        · exact .inr ⟨.cancel, rfl, rfl⟩

/-- **A plain request never fails.** It gives an answer and leaves the
last signal alone, or it raises a signal and leaves it in the session. -/
theorem effect_cases {r : Request} (h : r.isPlain = true) (s : Session) :
    (∃ a, (r.effect s).1 = .ok a ∧ (r.effect s).2.signal = s.signal) ∨
      ∃ g, (r.effect s).1 = .error (.signal g) ∧ (r.effect s).2.signal = some g := by
  cases r with
  | mark flag on =>
    rw [Request.effect, perform, mark]
    split
    · exact .inl ⟨_, rfl, rfl⟩
    · split
      · exact .inl ⟨_, rfl, rfl⟩
      · split <;> exact .inl ⟨_, rfl, rfl⟩
  | askText message default multiline => exact prompt_cases _ s
  | askButton text kind => exact prompt_cases _ s
  | exit => exact .inr ⟨.exit, rfl, rfl⟩
  | write path text =>
    rw [Request.effect, perform]
    dsimp only
    split <;> exact .inl ⟨_, rfl, rfl⟩
  | evaluate _ | attempt _ | loop _ _ | visit _ _ _ => cases h
  | _ => exact .inl ⟨_, rfl, rfl⟩

theorem effect_ne_unfinished {r : Request} (h : r.isPlain = true) (s : Session) :
    (r.effect s).1 ≠ .error .unfinished := by
  rcases effect_cases h s with ⟨a, ha, -⟩ | ⟨g, hg, -⟩
  · rw [ha]
    exact nofun
  · rw [hg]
    exact nofun

/-! ## Frames and child contexts -/

namespace Session

/-- The session with a frame more. -/
def pushFrame (s : Session) (args : Option (List Value)) : Session :=
  { s with scope := s.scope.push args }

/-- The session without its innermost frame. -/
def popFrame (s : Session) : Session := { s with scope := s.scope.pop }

/-- The session with the contexts of another one. -/
def withContextOf (t s : Session) : Session :=
  { t with context := s.context, enclosing := s.enclosing }

end Session

/-- A visit, in the words above: a child context and a frame are opened,
and at the end both are given up. -/
theorem visit_eq (evaluate : Formula → Run Value) (key : MessageKey) (body : Formula)
    (found : Option Formula) (s : Session) :
    visit evaluate key body found s =
      match evaluate body ((s.openChild key).pushFrame none) with
      | (.error e, t) => (.error e, t.popFrame.withContextOf s)
      | (.ok v, t) =>
        if v.truth then
          match found with
          | none => (.ok (some v), t.popFrame.withContextOf s)
          | some f =>
            match evaluate f t with
            | (.ok w, u) => (.ok (some w), u.popFrame.withContextOf s)
            | (.error e, u) => (.error e, u.popFrame.withContextOf s)
        else (.ok none, t.popFrame.withContextOf s) := rfl

/-- A call of a function of the session, in the same words. -/
theorem callUser_eq (evaluate : Formula → Run Value) (name : String) (args : List Formula)
    (s : Session) :
    callUser evaluate name args s =
      match s.functions.get? name with
      | none => (.error (.failure { code := .unknownFunction, function := some name }), s)
      | some body =>
        match evalArgs evaluate args s with
        | (.error e, t) => (.error e, t)
        | (.ok vs, t) =>
          match evaluate body (t.pushFrame (some (.string name :: vs))) with
          | (r, u) => (r, u.popFrame) := rfl

/-! ## What a law owes -/

/-- How an outcome relates to the session it came from. -/
def Obeys {α : Type} (keeps : Session → Session → Prop)
    (stops : Session → Stop → Session → Prop) (s : Session) : Outcome α → Prop
  | (.ok _, t) => keeps s t
  | (.error e, t) => stops s e t

/-- What is read off the two sessions may be read off two others that
agree with them in it. -/
theorem Obeys.imp {α : Type} {keeps : Session → Session → Prop}
    {stops : Session → Stop → Session → Prop} {s s' t t' : Session} {r : Except Stop α}
    (h : Obeys keeps stops s (r, t)) (hk : keeps s t → keeps s' t')
    (hs : ∀ e, stops s e t → stops s' e t') : Obeys keeps stops s' (r, t') := by
  obtain e | a := r
  · exact hs e h
  · exact hk h

/-- **A law of evaluation.** `keeps` relates the sessions before and
after a computation that gives a result, `stops` those of one that
stops. The other fields are what the law owes. -/
structure Law where
  keeps : Session → Session → Prop
  stops : Session → Stop → Session → Prop
  refl : ∀ s, keeps s s
  trans : ∀ {s t u}, keeps s t → keeps t u → keeps s u
  stops_trans : ∀ {s t u e}, keeps s t → stops t e u → stops s e u
  /-- A failure may arise anywhere and changes nothing by itself. -/
  fails : ∀ s f, stops s (.failure f) s
  /-- Patience may end where loops are not bounded. -/
  tires : ∀ {s t}, s.limits.maxIterations = none → keeps s t → stops s .unfinished t
  /-- A failure may be caught. -/
  caught : ∀ {s t f}, stops s (.failure f) t → keeps s t
  effect : ∀ r : Request, r.isPlain = true → ∀ s, Obeys keeps stops s (r.effect s)
  /-- A call counts one level up, and down again. -/
  call : ∀ {s t} {r : Except Stop Value},
    Obeys keeps stops s.enter (r, t) → Obeys keeps stops s (r, t.leave)
  /-- A frame is opened, and dropped again. -/
  frame : ∀ {s t args} {α : Type} {r : Except Stop α},
    Obeys keeps stops (s.pushFrame args) (r, t) → Obeys keeps stops s (r, t.popFrame)
  /-- A child context is entered, and left again. -/
  child : ∀ {s t key} {α : Type} {r : Except Stop α},
    Obeys keeps stops (s.openChild key) (r, t) → Obeys keeps stops s (r, t.withContextOf s)

namespace Law

variable (L : Law)

/-- The law holds of what a computation leaves. -/
def Holds {α : Type} (s : Session) (o : Outcome α) : Prop := Obeys L.keeps L.stops s o

variable {L} {α β : Type} {s t : Session} {evaluate : Formula → Run Value}

/-- The law is followed along a result. -/
theorem Holds.after {o : Outcome α} (h : L.keeps s t) (ho : L.Holds t o) : L.Holds s o := by
  obtain ⟨r | a, u⟩ := o
  · exact L.stops_trans h ho
  · exact L.trans h ho

/-- A failure after a result. -/
theorem Holds.failing {f : Failure} (h : L.keeps s t) :
    L.Holds (α := α) s (.error (.failure f), t) :=
  L.stops_trans h (L.fails t f)

/-- What becomes of the result does not matter. -/
theorem Holds.of_ok {a : α} {b : β} (h : L.Holds s (.ok a, t)) : L.Holds s (.ok b, t) := h

/-! ## Loops and visits -/

/-- **A loop obeys the law**, whatever the number of rounds: each round
goes on from where the one before it left. -/
theorem holds_iterate (hev : ∀ f s, L.Holds s (evaluate f s)) (condition body : Formula)
    (rounds : Nat) (s : Session) : L.Holds s (iterate evaluate condition body rounds s) := by
  induction rounds generalizing s with
  | zero =>
    have hc := hev condition s
    rw [iterate]
    generalize evaluate condition s = o at hc ⊢
    obtain ⟨e | v, t⟩ := o
    · exact hc
    · exact hc
  | succ rounds ih =>
    have hc := hev condition s
    rw [iterate]
    generalize evaluate condition s = o at hc ⊢
    obtain ⟨e | v, t⟩ := o
    · exact hc
    · dsimp only
      split
      · have hb := hev body t
        generalize evaluate body t = o at hb ⊢
        obtain ⟨e | w, u⟩ := o
        -- The condition gave a value, so the law has come as far as `t`.
        · exact L.stops_trans hc hb
        · exact (ih u).after (L.trans hc hb)
      · exact hc

theorem holds_loopWithin (hev : ∀ f s, L.Holds s (evaluate f s)) (patience : Nat)
    (condition body : Formula) (s : Session) :
    L.Holds s (loopWithin patience evaluate condition body s) := by
  rw [loopWithin]
  split
  · rename_i bound _
    have h := holds_iterate hev condition body bound s
    generalize iterate evaluate condition body bound s = o at h ⊢
    obtain ⟨e | (- | v), t⟩ := o
    · exact h
    · exact h
    · exact h
  · rename_i hnone
    have h := holds_iterate hev condition body patience s
    generalize iterate evaluate condition body patience s = o at h ⊢
    obtain ⟨e | (- | v), t⟩ := o
    · exact h
    -- The one place where patience ends: no bound, and rounds still to go.
    · exact L.tires hnone h
    · exact h

/-- Leaving a visit: the frame is dropped and the context around it taken
up again. -/
theorem Holds.back {key : MessageKey} {r : Except Stop α}
    (h : L.Holds ((s.openChild key).pushFrame none) (r, t)) :
    L.Holds s (r, t.popFrame.withContextOf s) :=
  L.child (L.frame h)

theorem holds_visit (hev : ∀ f s, L.Holds s (evaluate f s)) (key : MessageKey) (body : Formula)
    (found : Option Formula) (s : Session) :
    L.Holds s (visit evaluate key body found s) := by
  rw [visit_eq]
  have hb := hev body ((s.openChild key).pushFrame none)
  generalize evaluate body ((s.openChild key).pushFrame none) = o at hb ⊢
  obtain ⟨e | v, t⟩ := o
  · exact Holds.back (α := Option Value) hb
  · dsimp only
    split
    · rcases found with - | f
      · exact hb.of_ok.back
      · have hf := hev f t
        dsimp only
        generalize evaluate f t = o at hf ⊢
        obtain ⟨e | w, u⟩ := o
        · exact Holds.back (α := Option Value) (hf.after hb)
        · exact (hf.after hb).of_ok.back
    · exact hb.of_ok.back

/-! ## Requests and actions -/

/-- **Every request obeys the law**, if evaluating a formula does. -/
theorem holds_perform (hev : ∀ f s, L.Holds s (evaluate f s)) (patience : Nat) (r : Request)
    (s : Session) : L.Holds s (perform patience evaluate r s) := by
  by_cases hr : r.isPlain = true
  · rw [perform_of_isPlain hr]
    exact L.effect r hr s
  · cases r with
    | evaluate f => exact hev f s
    | attempt f =>
      have hf := hev f s
      rw [perform]
      dsimp only
      generalize evaluate f s = o at hf ⊢
      obtain ⟨(e | g | -) | v, t⟩ := o
      · exact L.caught hf
      · exact hf
      · exact hf
      · exact hf
    | loop condition body => exact holds_loopWithin hev patience condition body s
    | visit key body found => exact holds_visit hev key body found s
    | _ => exact absurd rfl hr

/-- So does every action that asks for such requests. -/
theorem holds_run {perform : (r : Request) → Run r.Reply}
    (hp : ∀ r s, L.Holds s (perform r s)) (name : String) (a : Action α) (s : Session) :
    L.Holds s (a.run perform name s) := by
  induction a generalizing s with
  | done a => exact L.refl s
  | fail f => exact L.fails s _
  | look next ih => exact ih s.view s
  | request r next ih =>
    have hr := hp r s
    rw [Action.run]
    generalize perform r s = o at hr ⊢
    obtain ⟨e | a, t⟩ := o
    · exact hr
    · exact (ih a t).after hr

/-! ## Calls and formulas -/

theorem holds_evalArgs (hev : ∀ f s, L.Holds s (evaluate f s)) (args : List Formula)
    (s : Session) : L.Holds s (evalArgs evaluate args s) := by
  induction args generalizing s with
  | nil => exact L.refl s
  | cons f rest ih =>
    have hf := hev f s
    rw [evalArgs]
    generalize evaluate f s = o at hf ⊢
    obtain ⟨e | v, t⟩ := o
    · exact hf
    · have hrest := ih t
      dsimp only
      generalize evalArgs evaluate rest t = o at hrest ⊢
      obtain ⟨e | vs, u⟩ := o
      · exact L.stops_trans hf hrest
      · exact L.trans hf hrest

theorem holds_callBuiltin (hev : ∀ f s, L.Holds s (evaluate f s)) (patience : Nat)
    (sig : Signature) (name : String) (args : List Formula) (s : Session) :
    L.Holds s (callBuiltin patience evaluate sig name args s) := by
  have hp := holds_perform hev patience
  rw [callBuiltin]
  split
  · exact L.fails s _
  · split
    · exact holds_run hp name _ s
    · have ha := holds_evalArgs hev args s
      generalize evalArgs evaluate args s = o at ha ⊢
      obtain ⟨e | vs, t⟩ := o
      · exact ha
      · exact (holds_run hp name _ t).after ha

theorem holds_callUser (hev : ∀ f s, L.Holds s (evaluate f s)) (name : String)
    (args : List Formula) (s : Session) : L.Holds s (callUser evaluate name args s) := by
  rw [callUser_eq]
  split
  · exact L.fails s _
  · rename_i body _
    have ha := holds_evalArgs hev args s
    generalize evalArgs evaluate args s = o at ha ⊢
    obtain ⟨e | vs, t⟩ := o
    · exact ha
    · have hb : L.Holds t (_, Session.popFrame _) :=
        L.frame (hev body (t.pushFrame (some (.string name :: vs))))
      exact hb.after ha

theorem holds_call (hev : ∀ f s, L.Holds s (evaluate f s)) (patience : Nat) (name : String)
    (args : List Formula) (s : Session) :
    L.Holds s (MailFormula.call patience evaluate name args s) := by
  rw [MailFormula.call]
  cases Signature.find? name with
  | some sig => exact holds_callBuiltin hev patience sig name args s
  | none => exact holds_callUser hev name args s

/-- A header field is read off the content of the message, so it touches
the session as that request does. -/
theorem holds_fieldValue (L : Law) (name : String) (s : Session) :
    L.Holds s (fieldValue name s) := by
  have hc : L.Holds s ((Request.content .header).effect s) := L.effect _ rfl s
  rw [Request.effect, perform] at hc
  dsimp only at hc
  rw [fieldValue]
  generalize s.context.content s.store .header = o at hc ⊢
  obtain ⟨code | handle, context, store⟩ := o
  · exact Holds.failing hc
  · exact hc

/-- **A law holds of every evaluation**, for every number of levels and
every patience. -/
theorem holds_eval (L : Law) (patience levels : Nat) (f : Formula) (s : Session) :
    L.Holds s (eval patience levels f s) := by
  induction levels generalizing f s with
  | zero =>
    cases f with
    | text t => exact L.refl s
    | number n => exact L.refl s
    | regex r => exact L.refl s
    | field name => exact L.holds_fieldValue name s
    | var name => exact L.refl s
    | call name args => exact L.fails s _
  | succ below ih =>
    cases f with
    | text t => exact L.refl s
    | number n => exact L.refl s
    | regex r => exact L.refl s
    | field name => exact L.holds_fieldValue name s
    | var name => exact L.refl s
    | call name args => exact L.call (holds_call ih patience name args s.enter)

/-- **And of the evaluation in a session**, with the levels it has left. -/
theorem holds_evaluate (L : Law) (patience : Nat) (f : Formula) (s : Session) :
    L.Holds s (s.evaluate patience f) :=
  L.holds_eval patience _ f s

end Law

end MailFormula
