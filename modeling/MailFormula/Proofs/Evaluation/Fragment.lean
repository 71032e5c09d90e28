import MailFormula.Proofs.Evaluation.Moves
import MailFormula.Proofs.Evaluation.Requests
/-!
# Fragments of the language

What can be said of a formula by looking at it holds of an evaluation
only if it also holds of the formulas that come up on the way: arguments,
the bodies of functions, and bodies that are defined while it runs. A
`Family` is a kind of formulas together with the requests that its
built-ins ask for, and a `Fragment` is one that evaluation does not lead
out of. `Course.within_of_leads` says so of every moment; what is pending
is part of the invariant, because it is evaluated later.

A text that is read as a formula may write anything, so a fragment is
mostly one without `Eval` and `Include` (`Fragment.ofCalls`).
-/

namespace MailFormula

/-! ## Formulas by their calls -/

namespace Formula

mutual
/-- Whether every built-in that the formula calls is allowed to be called
with so many arguments. Functions of the session are always allowed. -/
def callsOnly (allowed : Builtin → Nat → Bool) : Formula → Bool
  | call name args =>
    (match Signature.find? name with
      | some sig => allowed sig.builtin args.length
      | none => true) && allCallOnly allowed args
  | _ => true

/-- The same of several formulas. -/
def allCallOnly (allowed : Builtin → Nat → Bool) : List Formula → Bool
  | [] => true
  | f :: fs => f.callsOnly allowed && allCallOnly allowed fs
end

variable {allowed : Builtin → Nat → Bool} {name : String} {args : List Formula}

theorem allCallOnly_iff :
    allCallOnly allowed args = true ↔ ∀ f ∈ args, f.callsOnly allowed = true := by
  induction args with
  | nil => simp [allCallOnly]
  | cons f fs ih => rw [allCallOnly, Bool.and_eq_true, ih, List.forall_mem_cons]

theorem callsOnly_call_iff : (call name args).callsOnly allowed = true ↔
    (∀ sig, Signature.find? name = some sig → allowed sig.builtin args.length = true) ∧
      ∀ f ∈ args, f.callsOnly allowed = true := by
  rw [callsOnly, Bool.and_eq_true, allCallOnly_iff]
  cases Signature.find? name with
  | none => simp
  | some sig => simp

/-- The hint of a formula is at least that of its arguments. -/
theorem hints_le_iff {H : Hint} : hints args ≤ H ↔ ∀ f ∈ args, f.hint ≤ H := by
  induction args with
  | nil =>
    rw [hints]
    exact ⟨fun _ => List.forall_mem_nil _, fun _ => Nat.zero_le _⟩
  | cons f fs ih => rw [hints, Hint.max_le_iff, ih, List.forall_mem_cons]

/-- And that of the function that it calls. -/
theorem hint_call_le_iff {H : Hint} :
    (call name args).hint ≤ H ↔ ownHint name ≤ H ∧ ∀ f ∈ args, f.hint ≤ H := by
  rw [hint, Hint.max_le_iff, hints_le_iff]

end Formula

/-- **A family of formulas**: formulas whose arguments are again such
formulas, and the requests that their built-ins ask for. Whatever such a
request hands on to be evaluated or kept is in the family too. -/
structure Family where
  holds : Formula → Prop
  asks : Request → Prop
  args : ∀ {name args}, holds (.call name args) → ∀ f ∈ args, holds f
  formulas : ∀ {r}, asks r → ∀ f ∈ r.formulas, holds f
  onFormulas : ∀ {name args sig}, holds (.call name args) → Signature.find? name = some sig →
    (sig.builtin.onFormulas args).Only asks

/-- **A fragment of the language**: a family whose built-ins ask for no
more, whatever values they receive. -/
structure Fragment extends Family where
  onValues : ∀ {name args sig} {values : List Value}, holds (.call name args) →
    Signature.find? name = some sig → values.length = args.length →
      (sig.builtin.onValues values).Only asks

namespace Fragment

/-- **A fragment from its calls**: where nothing is read from texts, the
formulas that come up are arguments of the formula, so a kind of formulas
that is closed under arguments is a fragment. -/
def ofCalls (holds : Formula → Prop) (asks : Request → Prop)
    (args : ∀ {name args}, holds (.call name args) → ∀ f ∈ args, holds f)
    (noText : ∀ {name args sig}, holds (.call name args) → Signature.find? name = some sig →
      sig.builtin ≠ .eval ∧ sig.builtin ≠ .includeFile)
    (onFormulas : ∀ {name args sig}, holds (.call name args) →
      Signature.find? name = some sig → (sig.builtin.onFormulas args).Only asks)
    (onValues : ∀ {name args sig} {values : List Value}, holds (.call name args) →
      Signature.find? name = some sig → values.length = args.length →
        (sig.builtin.onValues values).Only asks) : Fragment where
  holds := holds
  asks := fun r => asks r ∧ ∀ f ∈ r.formulas, holds f
  args := args
  formulas := fun h => h.2
  onFormulas := fun {name formulas sig} h hsig => by
    have hargs := (sig.builtin.onFormulas_only_args formulas).mono
      fun r hr f hf => args h f (hr.2 f hf)
    exact (onFormulas h hsig).and hargs
  onValues := fun {name formulas sig values} h hsig hlength => by
    obtain ⟨heval, hinclude⟩ := noText h hsig
    have hnone := Builtin.onValues_only_values heval hinclude values
    exact ((onValues h hsig hlength).and hnone).mono fun r hr =>
      ⟨hr.1, hr.2 ▸ List.forall_mem_nil _⟩

/-- **A fragment from its built-ins**: what holds of every built-in that is
allowed with so many arguments holds of the formulas that call no others. -/
def ofAllowed (allowed : Builtin → Nat → Bool) (asks : Request → Prop)
    (noText : ∀ {b count}, allowed b count = true → b ≠ .eval ∧ b ≠ .includeFile)
    (onFormulas : ∀ {b} {args : List Formula}, allowed b args.length = true →
      (b.onFormulas args).Only asks)
    (onValues : ∀ {b} {args : List Value}, allowed b args.length = true →
      (b.onValues args).Only asks) : Fragment :=
  ofCalls (fun f => f.callsOnly allowed = true) asks
    (fun h => (Formula.callsOnly_call_iff.1 h).2)
    (fun {_ _ sig} h hsig => noText ((Formula.callsOnly_call_iff.1 h).1 sig hsig))
    (fun {_ _ sig} h hsig => onFormulas ((Formula.callsOnly_call_iff.1 h).1 sig hsig))
    (fun {_ _ sig _} h hsig hlength => onValues
      (hlength ▸ (Formula.callsOnly_call_iff.1 h).1 sig hsig))

end Fragment

namespace Family

variable (F : Family)

/-- All bodies of a table are in the family. -/
def Bodies (functions : Table Formula) : Prop :=
  ∀ name body, functions.get? name = some body → F.holds body

/-- A body that is defined joins the others. -/
theorem Bodies.put {F : Family} {functions : Table Formula} (h : F.Bodies functions)
    {name : String} {body : Formula} (hbody : F.holds body) :
    F.Bodies (functions.put name body) := by
  intro other found hfound
  rw [Table.get?_put] at hfound
  split at hfound
  · obtain rfl := Option.some.inj hfound
    exact hbody
  · exact h other found hfound

end Family

namespace Action

variable {α : Type} {P : Request → Prop}

/-- **In this session, the action asks for nothing else.** What it looks at
before it first asks is the session; what it may look at later is open. -/
inductive OnlyIn (P : Request → Prop) : Session → Action α → Prop
  | done {s : Session} (x : α) : OnlyIn P s (done x)
  | fail {s : Session} (f : Fault) : OnlyIn P s (fail f)
  | look {s : Session} {next : View → Action α} :
      OnlyIn P s (next s.view) → OnlyIn P s (look next)
  | request {s : Session} {r : Request} {next : r.Reply → Action α} :
      P r → (∀ reply t, OnlyIn P t (next reply)) → OnlyIn P s (request r next)

/-- What an action never asks for it does not ask for here. -/
theorem Only.onlyIn {a : Action α} (h : a.Only P) (s : Session) : a.OnlyIn P s := by
  induction h generalizing s with
  | done x => exact .done x
  | fail f => exact .fail f
  | look _ ih => exact .look (ih s.view s)
  | request hr _ ih => exact .request hr fun reply t => ih reply t

end Action

/-! ## Moments within a family -/

namespace Course

variable {F : Family} {c d : State} {k : List Pending} {s : Session}

/-- The arguments that are there and those to come, so many together, are
for a call of the family, which was found to be in order, or for a body. -/
def Target.Within (F : Family) (count : Nat) : Target → Prop
  | .builtin sig name =>
    Signature.find? name = some sig ∧ sig.arity.accepts count = true ∧
      ∃ args, args.length = count ∧ F.holds (.call name args)
  | .user _ body => F.holds body

/-- What is being done is in the family. -/
def Control.Within (F : Family) (s : Session) : Control → Prop
  | .evaluate f => F.holds f
  | .arguments target done rest =>
    target.Within F (done.length + rest.length) ∧ ∀ f ∈ rest, F.holds f
  | .act _ a => a.OnlyIn F.asks s
  | .give _ => True

/-- What is left to do is in the family. -/
def Pending.Within (F : Family) : Pending → Prop
  | .call => True
  | .frame => True
  | .argument target done rest =>
    target.Within F (done.length + 1 + rest.length) ∧ ∀ f ∈ rest, F.holds f
  | .value _ next => ∀ v s, (next v).OnlyIn F.asks s
  | .attempt _ next => (∃ f, F.asks (.attempt f)) ∧ ∀ v s, (next v).OnlyIn F.asks s
  | .condition test repeated _ _ next | .body test repeated _ _ next =>
    F.holds test ∧ F.holds repeated ∧ ∀ v s, (next v).OnlyIn F.asks s
  | .visit _ further _ next => (∀ f ∈ further, F.holds f) ∧ ∀ v s, (next v).OnlyIn F.asks s
  | .found _ _ next => ∀ v s, (next v).OnlyIn F.asks s

/-- **A moment within the family**: what is being done, what is left to
do, and every function of the session. -/
structure State.Within (F : Family) (c : State) : Prop where
  control : c.control.Within F c.session
  pending : ∀ p ∈ c.pending, p.Within F
  bodies : F.Bodies c.session.functions

theorem within_dispatch {name : String} {args : List Formula} (hf : F.holds (.call name args))
    (hs : F.Bodies s.functions) : (dispatch name args s).Within F s := by
  rw [dispatch]
  split
  · rename_i sig hsig
    split
    · trivial
    · rename_i haccepts
      rw [Bool.not_eq_true, Bool.not_eq_false'] at haccepts
      split
      · exact (F.onFormulas hf hsig).onlyIn s
      · have hcount : ([] : List Value).length + args.length = args.length := Nat.zero_add _
        refine ⟨?_, F.args hf⟩
        rw [hcount]
        exact ⟨hsig, haccepts, args, rfl, hf⟩
  · split
    · trivial
    · rename_i body hbody
      exact ⟨hs name body hbody, F.args hf⟩

theorem within_start {f : Formula} (hf : F.holds f) (hk : ∀ p ∈ k, p.Within F)
    (hs : F.Bodies s.functions) : (start f k s).Within F := by
  cases f with
  | field name =>
    refine ⟨trivial, hk, ?_⟩
    have hfunctions := functions_effect_of_ne (r := .content .header) rfl (fun _ _ => nofun) s
    rw [← fieldValue_snd name] at hfunctions
    change F.Bodies (fieldValue name s).2.functions
    rwa [hfunctions]
  | call name args =>
    rw [start]
    split
    · exact ⟨trivial, hk, hs⟩
    · rename_i t ht
      obtain rfl := Session.eq_enter_of_tryEnter ht
      exact ⟨within_dispatch hf hs, List.forall_mem_cons.2 ⟨trivial, hk⟩, hs⟩
  | _ => exact ⟨trivial, hk, hs⟩

/-- What a plain request leaves of the functions is in the family. -/
theorem bodies_effect {r : Request} (hplain : r.isPlain = true) (hr : F.asks r)
    (hs : F.Bodies s.functions) : F.Bodies (r.effect s).2.functions := by
  by_cases hdefine : ∃ name body, r = .define name body
  · obtain ⟨name, body, rfl⟩ := hdefine
    exact hs.put (F.formulas hr body (by simp))
  · rwa [functions_effect_of_ne hplain fun name body h => hdefine ⟨name, body, h⟩]

theorem within_serve {name : String} {r : Request} {next : r.Reply → Action Value}
    (hr : F.asks r) (hnext : ∀ reply t, (next reply).OnlyIn F.asks t) (hk : ∀ p ∈ k, p.Within F)
    (hs : F.Bodies s.functions) : (serve name k s r next).Within F := by
  have hformulas := F.formulas hr
  by_cases hplain : r.isPlain = true
  · rw [serve_of_isPlain hplain]
    have hbodies := bodies_effect hplain hr hs
    generalize r.effect s = o at hbodies ⊢
    obtain ⟨e | a, t⟩ := o
    · exact ⟨trivial, hk, hbodies⟩
    · exact ⟨hnext a t, hk, hbodies⟩
  · cases r with
    | evaluate f =>
      exact ⟨hformulas f (by simp), List.forall_mem_cons.2 ⟨hnext, hk⟩, hs⟩
    | attempt f =>
      exact ⟨hformulas f (by simp), List.forall_mem_cons.2 ⟨⟨⟨f, hr⟩, hnext⟩, hk⟩, hs⟩
    | loop test body =>
      have htest := hformulas test (by simp)
      have hbody := hformulas body (by simp)
      exact ⟨htest, List.forall_mem_cons.2 ⟨⟨htest, hbody, hnext⟩, hk⟩, hs⟩
    | visit key body found =>
      have hfound : ∀ f ∈ found, F.holds f := fun f hf =>
        hformulas f (by simp [Option.mem_def.1 hf])
      exact ⟨hformulas body (by simp), List.forall_mem_cons.2 ⟨⟨hfound, hnext⟩, hk⟩, hs⟩
    | _ => exact absurd rfl hplain

theorem within_resume {p : Pending} (r : Except Stop Value) (hp : p.Within F)
    (hk : ∀ p ∈ k, p.Within F) (hs : F.Bodies s.functions) : (resume r k s p).Within F := by
  cases p with
  | call => exact ⟨trivial, hk, hs⟩
  | frame => exact ⟨trivial, hk, hs⟩
  | argument target done rest =>
    obtain e | v := r
    · exact ⟨trivial, hk, hs⟩
    · refine ⟨⟨?_, hp.2⟩, hk, hs⟩
      rw [List.length_append]
      exact hp.1
  | value name next =>
    obtain e | v := r
    · exact ⟨trivial, hk, hs⟩
    · exact ⟨hp v s, hk, hs⟩
  | attempt name next =>
    obtain (e | g | -) | v := r
    · exact ⟨hp.2 (.error e) s, hk, hs⟩
    · exact ⟨trivial, hk, hs⟩
    · exact ⟨trivial, hk, hs⟩
    · exact ⟨hp.2 (.ok v) s, hk, hs⟩
  | condition test body rounds name next =>
    have hround : State.Within F ⟨.evaluate body, .body test body (rounds + 1) name next :: k, s⟩ :=
      ⟨hp.2.1, List.forall_mem_cons.2 ⟨hp, hk⟩, hs⟩
    obtain e | v := r
    · exact ⟨trivial, hk, hs⟩
    · simp only [resume]
      split
      · split
        · split
          · exact ⟨hp.2.2 _ s, hk, hs⟩
          · exact hround
        · exact hround
      · exact ⟨hp.2.2 _ s, hk, hs⟩
  | body test body rounds name next =>
    obtain e | v := r
    · exact ⟨trivial, hk, hs⟩
    · exact ⟨hp.1, List.forall_mem_cons.2 ⟨hp, hk⟩, hs⟩
  | visit outside found name next =>
    obtain e | v := r
    · exact ⟨trivial, hk, hs⟩
    · simp only [resume]
      split
      · split
        · exact ⟨hp.2 _ _, hk, hs⟩
        · exact ⟨hp.1 _ rfl, List.forall_mem_cons.2 ⟨hp.2, hk⟩, hs⟩
      · exact ⟨hp.2 _ _, hk, hs⟩
  | found outside name next =>
    obtain e | v := r
    · exact ⟨trivial, hk, hs⟩
    · exact ⟨hp _ _, hk, hs⟩

/-- At this moment, a built-in that has received its values asks for no
more than the family does. -/
def State.Receives (F : Family) (c : State) : Prop :=
  ∀ {name args sig} {values : List Value}, c.control = .arguments (.builtin sig name) values [] →
    F.holds (.call name args) → Signature.find? name = some sig → values.length = args.length →
      (sig.builtin.onValues values).OnlyIn F.asks c.session

/-- **A step does not lead out of the family.** -/
theorem within_step (hreceives : c.Receives F) (h : c.Within F) : (step c).Within F := by
  obtain ⟨control, k, s⟩ := c
  obtain ⟨hcontrol, hk, hs⟩ := h
  cases control with
  | evaluate f => exact within_start hcontrol hk hs
  | arguments target done rest =>
    cases rest with
    | cons f rest =>
      obtain ⟨htarget, hrest⟩ := hcontrol
      rw [List.forall_mem_cons] at hrest
      refine ⟨hrest.1, List.forall_mem_cons.2 ⟨⟨?_, hrest.2⟩, hk⟩, hs⟩
      rwa [Nat.add_assoc, Nat.add_comm 1]
    | nil =>
      cases target with
      | builtin sig name =>
        obtain ⟨⟨hsig, -, args, hcount, hf⟩, -⟩ := hcontrol
        exact ⟨hreceives rfl hf hsig hcount.symm, hk, hs⟩
      | user name body => exact ⟨hcontrol.1, List.forall_mem_cons.2 ⟨trivial, hk⟩, hs⟩
  | act name a =>
    cases a with
    | done v => exact ⟨trivial, hk, hs⟩
    | fail f => exact ⟨trivial, hk, hs⟩
    | look next =>
      cases hcontrol with
      | look hnext => exact ⟨hnext, hk, hs⟩
    | request r next =>
      cases hcontrol with
      | request hr hnext => exact within_serve hr hnext hk hs
  | give r =>
    cases k with
    | nil => exact ⟨trivial, hk, hs⟩
    | cons p k =>
      rw [List.forall_mem_cons] at hk
      exact within_resume r hk.1 hk.2 hs

/-- **Nor does an evaluation.** -/
theorem within_of_receives {f : Formula} (hf : F.holds f) (hs : F.Bodies s.functions)
    (hreceives : ∀ d, Leads (beginning f s) d → d.Receives F) (hc : Leads (beginning f s) c) :
    c.Within F := by
  obtain ⟨n, rfl⟩ := hc
  induction n with
  | zero => exact ⟨hf, fun p hp => absurd hp List.not_mem_nil, hs⟩
  | succ n ih =>
    rw [Function.iterate_succ_apply']
    exact within_step (hreceives _ ⟨n, rfl⟩) ih

/-- **Nothing leads out of a fragment.** -/
theorem within_of_leads {F : Fragment} {f : Formula} (hf : F.holds f) (hs : F.Bodies s.functions)
    (hc : Leads (beginning f s) c) : c.Within F.toFamily :=
  within_of_receives hf hs
    (fun d _ _ _ _ _ _ hf hsig hcount => (F.onValues hf hsig hcount).onlyIn d.session) hc

/-- What is asked for within a family is what the family asks for. -/
theorem State.Within.asks {name : String} {r : Request} {next : r.Reply → Action Value}
    (h : c.Within F) (hcontrol : c.control = .act name (.request r next)) : F.asks r := by
  have hact := h.control
  rw [hcontrol] at hact
  cases hact with
  | request hr _ => exact hr

end Course

end MailFormula
