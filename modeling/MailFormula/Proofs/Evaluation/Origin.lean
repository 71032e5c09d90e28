import MailFormula.Proofs.Evaluation.Moves
import MailFormula.Proofs.Evaluation.Requests
/-!
# Where an action comes from

Every action that is being done belongs to a call of a built-in: it is
what is left of the action of that call, after some looks at the session
and some answers. `Course.origin` finds the call. The moment of the call
has the arguments, so what a request says can be traced to what the
call was given.
-/

namespace MailFormula

namespace Action

variable {α : Type} {a b : Action α} {s t : Session}

/-- **What is left of an action**, begun in one session, in another. Until
it first asks for something both are the same; what it is told then, and
in which session, is open. -/
inductive Left (a : Action α) (s : Session) : Action α → Session → Prop
  | begun : Left a s a s
  | looked {next : View → Action α} {t : Session} :
      Left a s (.look next) t → Left a s (next t.view) t
  | told {r : Request} {next : r.Reply → Action α} {t : Session} (reply : r.Reply)
      (u : Session) : Left a s (.request r next) t → Left a s (next reply) u

/-- What is left asks for no more than the whole. -/
theorem Only.left {P : Request → Prop} (ha : a.Only P) (h : Left a s b t) : b.Only P := by
  induction h with
  | begun => exact ha
  | looked _ ih =>
    cases ih with
    | look hnext => exact hnext _
  | told reply u _ ih =>
    cases ih with
    | request _ hnext => exact hnext reply

/-- And blames no other arguments. -/
theorem Abides.left {P : Request → Prop} {count : Nat} (ha : a.Abides P count)
    (h : Left a s b t) : b.Abides P count := by
  induction h with
  | begun => exact ha
  | looked _ ih =>
    cases ih with
    | look hnext => exact hnext _
  | told reply u _ ih =>
    cases ih with
    | request _ hnext => exact hnext reply

namespace Left

theorem of_look {next : View → Action α} (h : Left (.look next) s b t) :
    (b = .look next ∧ t = s) ∨ Left (next s.view) s b t := by
  induction h with
  | begun => exact .inl ⟨rfl, rfl⟩
  | looked _ ih =>
    rcases ih with ⟨hb, rfl⟩ | ih
    · obtain rfl := Action.look.inj hb
      exact .inr .begun
    · exact .inr (.looked ih)
  | told reply u _ ih =>
    rcases ih with ⟨hb, -⟩ | ih
    · cases hb
    · exact .inr (.told reply u ih)

theorem of_request {r : Request} {next : r.Reply → Action α} (h : Left (.request r next) s b t) :
    (b = .request r next ∧ t = s) ∨ ∃ reply u, Left (next reply) u b t := by
  induction h with
  | begun => exact .inl ⟨rfl, rfl⟩
  | looked _ ih =>
    rcases ih with ⟨hb, -⟩ | ⟨reply, u, ih⟩
    · cases hb
    · exact .inr ⟨reply, u, .looked ih⟩
  | told reply u _ ih =>
    rcases ih with ⟨hb, -⟩ | ⟨reply', u', ih⟩
    · cases hb
      exact .inr ⟨reply, u, .begun⟩
    · exact .inr ⟨reply', u', .told reply u ih⟩

theorem of_done {x : α} (h : Left (.done x) s b t) : b = .done x := by
  induction h with
  | begun => rfl
  | looked _ ih => cases ih
  | told _ _ _ ih => cases ih

theorem of_fail {f : Fault} (h : Left (.fail f) s b t) : b = .fail f := by
  induction h with
  | begun => rfl
  | looked _ ih => cases ih
  | told _ _ _ ih => cases ih

end Left

end Action

namespace Course

variable {c : State} {k : List Pending} {s t : Session} {p : Pending} {name : String}
  {a : Action Value}

/-- What is pending may go on with an action of a call. -/
inductive Pending.Resumes : Pending → String → Action Value → Prop
  | value {name next} (v : Value) : Resumes (.value name next) name (next v)
  | attempt {name next} (v : Except Failure Value) : Resumes (.attempt name next) name (next v)
  | condition {test body rounds name next} (v : Except Nat Value) :
      Resumes (.condition test body rounds name next) name (next v)
  | body {test body rounds name next} (v : Except Nat Value) :
      Resumes (.body test body rounds name next) name (next v)
  | visit {outside found name next} (v : Option Value) :
      Resumes (.visit outside found name next) name (next v)
  | found {outside name next} (v : Option Value) :
      Resumes (.found outside name next) name (next v)

/-- **How an action may come up in a step**, and in which session. -/
inductive Arises (c : State) (name : String) : Action Value → Session → Prop
  /-- A built-in that receives formulas is called. -/
  | formulas {sig : Signature} {args : List Formula} {t : Session} :
      c.control = .evaluate (.call name args) → c.session.tryEnter = .ok t →
        Signature.find? name = some sig → sig.arity.accepts args.length = true →
          Arises c name (sig.builtin.onFormulas args) t
  /-- A built-in has received its values. -/
  | values {sig : Signature} {args : List Value} :
      c.control = .arguments (.builtin sig name) args [] →
        Arises c name (sig.builtin.onValues args) c.session
  | looked {next : View → Action Value} :
      c.control = .act name (.look next) → Arises c name (next c.session.view) c.session
  | told {r : Request} {next : r.Reply → Action Value} (reply : r.Reply) (t : Session) :
      c.control = .act name (.request r next) → Arises c name (next reply) t
  | resumed {p : Pending} {a : Action Value} (t : Session) :
      p ∈ c.pending → p.Resumes name a → Arises c name a t

theorem arises_start {f : Formula} (h : (start f k s).control = .act name a) :
    Arises ⟨.evaluate f, k, s⟩ name a (start f k s).session := by
  cases f with
  | call fn args =>
    rw [start] at h ⊢
    split at h
    · cases h
    · rename_i t ht
      simp only [dispatch] at h
      split at h
      · rename_i sig hsig
        split at h
        · cases h
        · rename_i haccepts
          rw [Bool.not_eq_true, Bool.not_eq_false'] at haccepts
          split at h
          · cases h
            exact .formulas rfl ht hsig haccepts
          · cases h
      · split at h
        · cases h
        · cases h
  | _ => cases h

theorem arises_serve {fn : String} {r : Request} {next : r.Reply → Action Value}
    (h : (serve fn k s r next).control = .act name a) :
    Arises ⟨.act fn (.request r next), k, s⟩ name a (serve fn k s r next).session := by
  by_cases hr : r.isPlain = true
  · rw [serve_of_isPlain hr] at h ⊢
    generalize r.effect s = o at h ⊢
    obtain ⟨e | x, t⟩ := o
    · cases h
    · cases h
      exact .told x t rfl
  · cases r with
    | evaluate f => cases h
    | attempt f => cases h
    | loop test body => cases h
    | visit key body found => cases h
    | _ => exact absurd rfl hr

theorem arises_resume {r : Except Stop Value} (h : (resume r k s p).control = .act name a) :
    Arises ⟨.give r, p :: k, s⟩ name a (resume r k s p).session := by
  have hmem : p ∈ p :: k := List.mem_cons_self
  cases p with
  | call => cases h
  | frame => cases h
  | argument target done rest =>
    obtain e | v := r
    · cases h
    · cases h
  | value fn next =>
    obtain e | v := r
    · cases h
    · cases h
      exact .resumed _ hmem (.value v)
  | attempt fn next =>
    obtain (e | g | -) | v := r
    · cases h
      exact .resumed _ hmem (.attempt (.error e))
    · cases h
    · cases h
    · cases h
      exact .resumed _ hmem (.attempt (.ok v))
  | condition test body rounds fn next =>
    obtain e | v := r
    · cases h
    · simp only [resume] at h
      split at h
      · split at h
        · split at h
          · cases h
            exact .resumed _ hmem (.condition (.error _))
          · cases h
        · cases h
      · cases h
        exact .resumed _ hmem (.condition (.ok v))
  | body test body rounds fn next =>
    obtain e | v := r
    · cases h
    · cases h
  | visit outside found fn next =>
    obtain e | v := r
    · cases h
    · simp only [resume] at h
      split at h
      · split at h
        · cases h
          exact .resumed _ hmem (.visit (some v))
        · cases h
      · cases h
        exact .resumed _ hmem (.visit none)
  | found outside fn next =>
    obtain e | v := r
    · cases h
    · cases h
      exact .resumed _ hmem (.found (some v))

/-- **An action comes up in one of these ways.** -/
theorem arises_step (h : (step c).control = .act name a) : Arises c name a (step c).session := by
  obtain ⟨control, k, s⟩ := c
  cases control with
  | evaluate f => exact arises_start h
  | arguments target done rest =>
    cases rest with
    | cons f rest => cases h
    | nil =>
      cases target with
      | builtin sig fn =>
        cases h
        exact .values rfl
      | user fn body => cases h
  | act fn b =>
    cases b with
    | done v => cases h
    | fail f => cases h
    | look next =>
      cases h
      exact .looked rfl
    | request r next => exact arises_serve h
  | give r =>
    cases k with
    | nil => cases h
    | cons p k => exact arises_resume h

/-- **What may be gone on with after a step** could be before it, or
follows a request that is being served. A note that comes of another one
goes on as that would have. -/
theorem resumes_step (hp : p ∈ (step c).pending) (h : p.Resumes name a) :
    (∃ q ∈ c.pending, q.Resumes name a) ∨
      ∃ (r : Request) (next : r.Reply → Action Value) (reply : r.Reply),
        c.control = .act name (.request r next) ∧ next reply = a := by
  rcases notes_step hp with hp | hnotes
  · exact .inl ⟨p, hp, h⟩
  · cases hnotes with
    | call => cases h
    | frame => cases h
    | argument => cases h
    | @value _ f _ hcontrol =>
      cases h with
      | value v => exact .inr ⟨.evaluate f, _, v, hcontrol, rfl⟩
    | @attempt _ f _ hcontrol =>
      cases h with
      | attempt v => exact .inr ⟨.attempt f, _, v, hcontrol, rfl⟩
    | @loop _ test body _ hcontrol =>
      cases h with
      | condition v => exact .inr ⟨.loop test body, _, v, hcontrol, rfl⟩
    | round hq =>
      cases h with
      | body v => exact .inl ⟨_, hq, .condition v⟩
    | again hq =>
      cases h with
      | condition v => exact .inl ⟨_, hq, .body v⟩
    | @visit _ key body found _ hcontrol =>
      cases h with
      | visit v => exact .inr ⟨.visit key body found, _, v, hcontrol, rfl⟩
    | found hq =>
      cases h with
      | found v => exact .inl ⟨_, hq, .visit v⟩

/-! ## The call behind an action -/

/-- At this moment a built-in is called, and the action is what is left
of the call's. -/
inductive Begins (d : State) (name : String) (a : Action Value) (t : Session) : Prop
  | formulas {sig : Signature} {args : List Formula} {u : Session} :
      d.control = .evaluate (.call name args) → d.session.tryEnter = .ok u →
        Signature.find? name = some sig → sig.arity.accepts args.length = true →
          (sig.builtin.onFormulas args).Left u a t → Begins d name a t
  | values {sig : Signature} {args : List Value} :
      d.control = .arguments (.builtin sig name) args [] →
        (sig.builtin.onValues args).Left d.session a t → Begins d name a t

/-- On the way from one moment to another a built-in was called, and the
action is what is left of the call's. -/
def Traced (base c : State) (name : String) (a : Action Value) (t : Session) : Prop :=
  ∃ d, Leads base d ∧ Leads d c ∧ Begins d name a t

theorem Traced.step {base : State} (h : Traced base c name a t) :
    Traced base (step c) name a t := by
  obtain ⟨d, hbase, hd, hbegins⟩ := h
  exact ⟨d, hbase, hd.then_step rfl, hbegins⟩

theorem Traced.looked {base : State} {next : View → Action Value}
    (h : Traced base c name (.look next) t) : Traced base c name (next t.view) t := by
  obtain ⟨d, hbase, hd, hbegins⟩ := h
  refine ⟨d, hbase, hd, ?_⟩
  cases hbegins with
  | formulas hcontrol hu hsig haccepts hleft =>
    exact .formulas hcontrol hu hsig haccepts hleft.looked
  | values hcontrol hleft => exact .values hcontrol hleft.looked

theorem Traced.told {base : State} {r : Request} {next : r.Reply → Action Value}
    (h : Traced base c name (.request r next) t) (reply : r.Reply) (u : Session) :
    Traced base c name (next reply) u := by
  obtain ⟨d, hbase, hd, hbegins⟩ := h
  refine ⟨d, hbase, hd, ?_⟩
  cases hbegins with
  | formulas hcontrol hu hsig haccepts hleft =>
    exact .formulas hcontrol hu hsig haccepts (.told reply u hleft)
  | values hcontrol hleft => exact .values hcontrol (.told reply u hleft)

/-- **Every action has a call behind it.** The invariant of the steps also
says so of the actions that pending things may go on with, in whatever
session that will be. -/
theorem origin {f : Formula} (hc : Leads (beginning f s) c) (ha : c.control = .act name a) :
    Traced (beginning f s) c name a c.session := by
  obtain ⟨n, rfl⟩ := hc
  suffices h : ∀ c, step^[n] (beginning f s) = c →
      (∀ name a, c.control = .act name a → Traced (beginning f s) c name a c.session) ∧
      ∀ p ∈ c.pending, ∀ name a, p.Resumes name a →
        ∀ t, Traced (beginning f s) c name a t from (h _ rfl).1 name a ha
  clear ha
  induction n with
  | zero =>
    rintro c rfl
    exact ⟨fun _ _ => nofun, fun p hp => absurd hp List.not_mem_nil⟩
  | succ n ih =>
    intro c hc
    rw [Function.iterate_succ_apply'] at hc
    obtain ⟨hact, hpending⟩ := ih _ rfl
    have hbefore : Leads (beginning f s) (step^[n] (beginning f s)) := ⟨n, rfl⟩
    generalize step^[n] (beginning f s) = b at hc hact hpending hbefore
    subst hc
    have hstep : Leads b (step b) := ⟨1, rfl⟩
    refine ⟨fun name a ha => ?_, fun p hp name a hres t => ?_⟩
    · have harises := arises_step ha
      generalize (step b).session = t at harises
      cases harises with
      | formulas hcontrol ht hsig haccepts =>
        exact ⟨b, hbefore, hstep, .formulas hcontrol ht hsig haccepts .begun⟩
      | values hcontrol => exact ⟨b, hbefore, hstep, .values hcontrol .begun⟩
      | looked hcontrol => exact (hact _ _ hcontrol).looked.step
      | told reply t hcontrol => exact ((hact _ _ hcontrol).told reply t).step
      | resumed t hp hres => exact (hpending _ hp _ _ hres t).step
    · rcases resumes_step hp hres with ⟨q, hq, hres⟩ | ⟨r, next, reply, hcontrol, rfl⟩
      · exact (hpending q hq name a hres t).step
      · exact ((hact name _ hcontrol).told reply t).step

end Course

end MailFormula
