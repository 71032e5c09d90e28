import MailFormula.Proofs.Evaluation.Balance
import Mathlib.Logic.Function.Iterate
/-!
# The course of an evaluation

`eval` says what comes out of an evaluation; this file says what happens
on the way. A `State` holds what is being done, what is left to do, and
the session; `step` does one thing: it opens a call, hands over a value,
serves one request, drops one frame. Nothing bounds the number of steps,
neither levels nor patience. A call is admitted by the counter of the
session (`Session.tryEnter`), and a loop counts its own rounds.

That the steps do what `eval` says is a theorem of the next file
(`Course.halts_iff`). What holds at every moment of an evaluation is
stated over `Leads`.
-/

namespace MailFormula

namespace Course

/-- What a list of arguments is evaluated for. -/
inductive Target where
  | builtin (sig : Signature) (name : String)
  | user (name : String) (body : Formula)

/-- What is left to do once a value is there. -/
inductive Pending where
  /-- Give back the level of a call. -/
  | call
  /-- Drop the frame of a function's body. -/
  | frame
  /-- Go on with the arguments. -/
  | argument (target : Target) (done : List Value) (rest : List Formula)
  /-- Go on with an action that asked for the value. -/
  | value (name : String) (next : Value → Action Value)
  /-- The same, for an action that takes a failure as an answer. -/
  | attempt (name : String) (next : Except Failure Value → Action Value)
  /-- Decide about another round of a loop, after so many of them. -/
  | condition (test body : Formula) (rounds : Nat) (name : String)
      (next : Except Nat Value → Action Value)
  /-- Test the condition of a loop again. -/
  | body (test body : Formula) (rounds : Nat) (name : String)
      (next : Except Nat Value → Action Value)
  /-- Decide about a visit that was begun from a session. -/
  | visit (outside : Session) (found : Option Formula) (name : String)
      (next : Option Value → Action Value)
  /-- End a visit. -/
  | found (outside : Session) (name : String) (next : Option Value → Action Value)

/-- What is being done. -/
inductive Control where
  | evaluate (f : Formula)
  | arguments (target : Target) (done : List Value) (rest : List Formula)
  | act (name : String) (a : Action Value)
  /-- A value, or a reason to stop, is handed to what is left to do. -/
  | give (r : Except Stop Value)

/-- A moment of an evaluation. -/
structure State where
  control : Control
  /-- What is left to do, innermost first. -/
  pending : List Pending
  session : Session

/-- How a call begins, once it is admitted. -/
def dispatch (name : String) (args : List Formula) (s : Session) : Control :=
  match Signature.find? name with
  | some sig =>
    if !sig.arity.accepts args.length then
      .give (.error (.failure (wrongCount name args.length)))
    else if sig.builtin.isLazy then .act name (sig.builtin.onFormulas args)
    else .arguments (.builtin sig name) [] args
  | none =>
    match s.functions.get? name with
    | none => .give (.error (.failure { code := .unknownFunction, function := some name }))
    | some body => .arguments (.user name body) [] args

/-- How the evaluation of a formula begins. -/
def start (f : Formula) (k : List Pending) (s : Session) : State :=
  match f with
  | .text t => ⟨.give (.ok (.string t)), k, s⟩
  | .number n => ⟨.give (.ok (.number n)), k, s⟩
  | .regex r => ⟨.give (.ok (.regex r)), k, s⟩
  | .field name => ⟨.give (fieldValue name s).1, k, (fieldValue name s).2⟩
  | .var name => ⟨.give (.ok (s.valueOf name)), k, s⟩
  | .call name args =>
    match s.tryEnter with
    | .error e => ⟨.give (.error (.failure { e with function := some name })), k, s⟩
    | .ok t => ⟨dispatch name args t, .call :: k, t⟩

/-- How a request is served: a plain one at once, the others by
evaluating a formula and leaving a note of what it is for. -/
def serve (name : String) (k : List Pending) (s : Session) :
    (r : Request) → (r.Reply → Action Value) → State
  | .evaluate f, next => ⟨.evaluate f, .value name next :: k, s⟩
  | .attempt f, next => ⟨.evaluate f, .attempt name next :: k, s⟩
  | .loop test body, next => ⟨.evaluate test, .condition test body 0 name next :: k, s⟩
  | .visit key body found, next =>
    ⟨.evaluate body, .visit s found name next :: k, (s.openChild key).pushFrame none⟩
  | r, next =>
    match r.effect s with
    | (.ok a, t) => ⟨.act name (next a), k, t⟩
    | (.error e, t) => ⟨.give (.error e), k, t⟩

/-- What a value is handed to. A reason to stop is handed on, and each
pending thing gives back what it holds; only an attempt takes a failure
for an answer. -/
def resume (r : Except Stop Value) (k : List Pending) (s : Session) : Pending → State
  | .call => ⟨.give r, k, s.leave⟩
  | .frame => ⟨.give r, k, s.popFrame⟩
  | .argument target done rest =>
    match r with
    | .ok v => ⟨.arguments target (done ++ [v]) rest, k, s⟩
    | .error e => ⟨.give (.error e), k, s⟩
  | .value name next =>
    match r with
    | .ok v => ⟨.act name (next v), k, s⟩
    | .error e => ⟨.give (.error e), k, s⟩
  | .attempt name next =>
    match r with
    | .ok v => ⟨.act name (next (.ok v)), k, s⟩
    | .error (.failure f) => ⟨.act name (next (.error f)), k, s⟩
    | .error e => ⟨.give (.error e), k, s⟩
  | .condition test body rounds name next =>
    match r with
    | .ok v =>
      if v.truth then
        match s.limits.maxIterations with
        | some bound =>
          if bound ≤ rounds then ⟨.act name (next (.error bound)), k, s⟩
          else ⟨.evaluate body, .body test body (rounds + 1) name next :: k, s⟩
        | none => ⟨.evaluate body, .body test body (rounds + 1) name next :: k, s⟩
      else ⟨.act name (next (.ok v)), k, s⟩
    | .error e => ⟨.give (.error e), k, s⟩
  | .body test body rounds name next =>
    match r with
    | .ok _ => ⟨.evaluate test, .condition test body rounds name next :: k, s⟩
    | .error e => ⟨.give (.error e), k, s⟩
  | .visit outside found name next =>
    match r with
    | .ok v =>
      if v.truth then
        match found with
        | none => ⟨.act name (next (some v)), k, s.popFrame.withContextOf outside⟩
        | some f => ⟨.evaluate f, .found outside name next :: k, s⟩
      else ⟨.act name (next none), k, s.popFrame.withContextOf outside⟩
    | .error e => ⟨.give (.error e), k, s.popFrame.withContextOf outside⟩
  | .found outside name next =>
    match r with
    | .ok v => ⟨.act name (next (some v)), k, s.popFrame.withContextOf outside⟩
    | .error e => ⟨.give (.error e), k, s.popFrame.withContextOf outside⟩

/-- **One step of an evaluation.** Where nothing is left to do, nothing
changes any more. -/
def step : State → State
  | ⟨.evaluate f, k, s⟩ => start f k s
  | ⟨.arguments target done (f :: rest), k, s⟩ => ⟨.evaluate f, .argument target done rest :: k, s⟩
  | ⟨.arguments (.builtin sig name) done [], k, s⟩ => ⟨.act name (sig.builtin.onValues done), k, s⟩
  | ⟨.arguments (.user name body) done [], k, s⟩ =>
    ⟨.evaluate body, .frame :: k, s.pushFrame (some (.string name :: done))⟩
  | ⟨.act _ (.done v), k, s⟩ => ⟨.give (.ok v), k, s⟩
  | ⟨.act name (.fail f), k, s⟩ => ⟨.give (.error (.failure (f.inCall name))), k, s⟩
  | ⟨.act name (.look next), k, s⟩ => ⟨.act name (next s.view), k, s⟩
  | ⟨.act name (.request r next), k, s⟩ => serve name k s r next
  | ⟨.give r, p :: k, s⟩ => resume r k s p
  | ⟨.give r, [], s⟩ => ⟨.give r, [], s⟩

/-- The end of an evaluation: its outcome is there and nothing is left to do. -/
def halt (r : Except Stop Value) (s : Session) : State := ⟨.give r, [], s⟩

/-- Some number of steps leads from one state to another. -/
def Leads (c d : State) : Prop := ∃ n, step^[n] c = d

/-- After so many steps, or more, the end is not reached. -/
def Outlasts (n : Nat) (c : State) : Prop :=
  ∃ m, n ≤ m ∧ ∀ r s, step^[m] c ≠ halt r s

/-! ## Runs of steps -/

variable {c d e : State} {s t : Session} {n : Nat}

theorem Leads.refl (c : State) : Leads c c := ⟨0, rfl⟩

theorem Leads.trans (h : Leads c d) (h' : Leads d e) : Leads c e := by
  obtain ⟨n, rfl⟩ := h
  obtain ⟨m, rfl⟩ := h'
  exact ⟨m + n, Function.iterate_add_apply step m n c⟩

/-- A step, and then whatever follows. -/
theorem Leads.of_step (hstep : step c = d) (h : Leads d e) : Leads c e :=
  Leads.trans ⟨1, hstep⟩ h

/-- Whatever came before, and then a step. -/
theorem Leads.then_step (h : Leads c d) (hstep : step d = e) : Leads c e :=
  h.trans ⟨1, hstep⟩

/-- The end is the end. -/
theorem iterate_halt (n : Nat) (r : Except Stop Value) (s : Session) :
    step^[n] (halt r s) = halt r s :=
  Function.iterate_fixed rfl n

/-- **An evaluation has one end.** -/
theorem halt_unique {r r' : Except Stop Value} (h : Leads c (halt r s))
    (h' : Leads c (halt r' t)) : r = r' ∧ s = t := by
  obtain ⟨n, hn⟩ := h
  obtain ⟨m, hm⟩ := h'
  have hboth : halt r s = halt r' t := by
    rw [← iterate_halt m r s, ← hn, ← Function.iterate_add_apply, Nat.add_comm,
      Function.iterate_add_apply, hm, iterate_halt]
  injection hboth with hcontrol _ hsession
  injection hcontrol with hr
  exact ⟨hr, hsession⟩

/-- What is not at its end by then was not at its end before. -/
theorem Outlasts.mono {m : Nat} (hmn : m ≤ n) (h : Outlasts n c) : Outlasts m c := by
  obtain ⟨j, hj, hend⟩ := h
  exact ⟨j, by omega, hend⟩

theorem Outlasts.of_leads (h : Leads c d) (hd : Outlasts n d) : Outlasts n c := by
  obtain ⟨m, rfl⟩ := h
  obtain ⟨j, hj, hend⟩ := hd
  refine ⟨j + m, by omega, fun r s => ?_⟩
  rw [Function.iterate_add_apply]
  exact hend r s

/-- A step more. -/
theorem Outlasts.succ_of_step (hstep : step c = d) (hd : Outlasts n d) : Outlasts (n + 1) c := by
  obtain ⟨j, hj, hend⟩ := hd
  refine ⟨j + 1, by omega, fun r s => ?_⟩
  rw [Function.iterate_succ_apply, hstep]
  exact hend r s

/-- An evaluation that came to its end within so many steps does not
outlast them. -/
theorem not_outlasts {r : Except Stop Value} (h : step^[n] c = halt r s) : ¬ Outlasts n c := by
  rintro ⟨m, hm, hend⟩
  refine hend r s ?_
  rw [← Nat.sub_add_cancel hm, Function.iterate_add_apply, h, iterate_halt]

end Course

end MailFormula
