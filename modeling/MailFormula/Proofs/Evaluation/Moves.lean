import MailFormula.Proofs.Evaluation.Agreement
/-!
# What one step does to the session

A step of an evaluation touches the session in one of eight ways, or not
at all. `Moves` lists them, each with what must be at hand for it, and
`moves_step` says that there are no others. A fact about every moment of
an evaluation then needs one case for each way, and no look at the steps
themselves.

`Notes` and `notes_step` do the same for what a step leaves to do. A
visit goes back to the contexts of the session that it was begun from, so
what is pending holds sessions too (`outsides`); a step adds no session
to them but the present one (`outsides_step`).
-/

namespace MailFormula

/-- A call that is admitted is one level deeper. -/
theorem Session.eq_enter_of_tryEnter {s t : Session} (h : s.tryEnter = .ok t) : t = s.enter := by
  rw [tryEnter] at h
  split at h
  · exact (Except.ok.inj h).symm
  · cases h

namespace Course

/-- The session that something pending goes back to. -/
def Pending.outside? : Pending → Option Session
  | .visit outside _ _ _ | .found outside _ _ => some outside
  | _ => none

/-- The sessions that pending visits were begun from. -/
def outsides (k : List Pending) : List Session := k.filterMap Pending.outside?

variable {c d : State} {k : List Pending} {s t : Session} {p : Pending}

theorem mem_outsides {o : Session} :
    o ∈ outsides k ↔ ∃ p ∈ k, p.outside? = some o := List.mem_filterMap

/-- **What a step may do to the session.** -/
inductive Moves (c : State) : Session → Prop
  | stay : Moves c c.session
  /-- A plain request is served. -/
  | serve {name : String} {r : Request} {next : r.Reply → Action Value} :
      c.control = .act name (.request r next) → r.isPlain = true → Moves c (r.effect c.session).2
  /-- A header field is read, which fetches the content as a request does. -/
  | field {name : String} :
      c.control = .evaluate (.field name) → Moves c ((Request.content .header).effect c.session).2
  /-- A call is admitted. -/
  | enter {t : Session} : c.session.tryEnter = .ok t → Moves c t
  /-- A call ends. -/
  | leave : Moves c c.session.leave
  /-- The body of a function begins. -/
  | push (args : Option (List Value)) : Moves c (c.session.pushFrame args)
  /-- The body of a function ends. -/
  | pop : Moves c c.session.popFrame
  /-- A visit begins. -/
  | visit (key : MessageKey) : Moves c ((c.session.openChild key).pushFrame none)
  /-- A visit ends. -/
  | back {outside : Session} : outside ∈ outsides c.pending →
      Moves c (c.session.popFrame.withContextOf outside)

/-- **The step serves a plain request**: one of an action, or the one for
the header that a field stands for. -/
inductive State.Serves (c : State) : Request → Prop
  | act {name : String} {r : Request} {next : r.Reply → Action Value} :
      c.control = .act name (.request r next) → r.isPlain = true → Serves c r
  | field {name : String} : c.control = .evaluate (.field name) → Serves c (.content .header)

/-- Reading a header field leaves what fetching the content leaves. -/
theorem fieldValue_snd (name : String) (s : Session) :
    (fieldValue name s).2 = ((Request.content .header).effect s).2 := by
  rw [fieldValue, Request.effect, perform]
  dsimp only
  generalize s.context.content s.store .header = o
  obtain ⟨code | handle, context, store⟩ := o
  · rfl
  · rfl

theorem moves_start (f : Formula) (k : List Pending) (s : Session) :
    Moves ⟨.evaluate f, k, s⟩ (start f k s).session := by
  cases f with
  | field name =>
    rw [start, fieldValue_snd]
    exact .field rfl
  | call name args =>
    rw [start]
    split
    · exact .stay
    · rename_i t ht
      exact .enter ht
  | _ => exact .stay

theorem moves_serve (name : String) (r : Request) (next : r.Reply → Action Value)
    (k : List Pending) (s : Session) :
    Moves ⟨.act name (.request r next), k, s⟩ (serve name k s r next).session := by
  by_cases hr : r.isPlain = true
  · have hserve : Moves ⟨.act name (.request r next), k, s⟩ (r.effect s).2 := .serve rfl hr
    rw [serve_of_isPlain hr]
    generalize r.effect s = o at hserve ⊢
    obtain ⟨e | a, t⟩ := o
    · exact hserve
    · exact hserve
  · cases r with
    | evaluate f => exact .stay
    | attempt f => exact .stay
    | loop test body => exact .stay
    | visit key body found => exact .visit key
    | _ => exact absurd rfl hr

theorem moves_resume (r : Except Stop Value) (p : Pending) (k : List Pending) (s : Session) :
    Moves ⟨.give r, p :: k, s⟩ (resume r k s p).session := by
  cases p with
  | call => exact .leave
  | frame => exact .pop
  | argument target done rest =>
    obtain e | v := r
    · exact .stay
    · exact .stay
  | value name next =>
    obtain e | v := r
    · exact .stay
    · exact .stay
  | attempt name next =>
    obtain (e | g | -) | v := r
    · exact .stay
    · exact .stay
    · exact .stay
    · exact .stay
  | condition test body rounds name next =>
    obtain e | v := r
    · exact .stay
    · simp only [resume]
      split
      · split
        · split
          · exact .stay
          · exact .stay
        · exact .stay
      · exact .stay
  | body test body rounds name next =>
    obtain e | v := r
    · exact .stay
    · exact .stay
  | visit outside found name next =>
    have hback : Moves ⟨.give r, .visit outside found name next :: k, s⟩
        (s.popFrame.withContextOf outside) :=
      .back (mem_outsides.2 ⟨_, List.mem_cons_self, rfl⟩)
    obtain e | v := r
    · exact hback
    · simp only [resume]
      split
      · split
        · exact hback
        · exact .stay
      · exact hback
  | found outside name next =>
    have hback : Moves ⟨.give r, .found outside name next :: k, s⟩
        (s.popFrame.withContextOf outside) :=
      .back (mem_outsides.2 ⟨_, List.mem_cons_self, rfl⟩)
    obtain e | v := r
    · exact hback
    · exact hback

/-- **A step moves the session in one of these ways.** -/
theorem moves_step (c : State) : Moves c (step c).session := by
  obtain ⟨control, k, s⟩ := c
  cases control with
  | evaluate f => exact moves_start f k s
  | arguments target done rest =>
    cases rest with
    | cons f rest => exact .stay
    | nil =>
      cases target with
      | builtin sig name => exact .stay
      | user name body => exact .push _
  | act name a =>
    cases a with
    | done v => exact .stay
    | fail f => exact .stay
    | look next => exact .stay
    | request r next => exact moves_serve name r next k s
  | give r =>
    cases k with
    | nil => exact .stay
    | cons p k => exact moves_resume r p k s

/-! ## What a step leaves to do -/

/-- **What a step may add to what is pending**, and where that comes from. -/
inductive Notes (c : State) : Pending → Prop
  | call : Notes c .call
  | frame : Notes c .frame
  | argument {target : Target} {done : List Value} {rest : List Formula} :
      Notes c (.argument target done rest)
  | value {name : String} {f : Formula} {next : Value → Action Value} :
      c.control = .act name (.request (.evaluate f) next) → Notes c (.value name next)
  | attempt {name : String} {f : Formula} {next : Except Failure Value → Action Value} :
      c.control = .act name (.request (.attempt f) next) → Notes c (.attempt name next)
  | loop {name : String} {test body : Formula} {next : Except Nat Value → Action Value} :
      c.control = .act name (.request (.loop test body) next) →
        Notes c (.condition test body 0 name next)
  | round {name : String} {test body : Formula} {rounds : Nat}
      {next : Except Nat Value → Action Value} :
      .condition test body rounds name next ∈ c.pending →
        Notes c (.body test body (rounds + 1) name next)
  | again {name : String} {test body : Formula} {rounds : Nat}
      {next : Except Nat Value → Action Value} :
      .body test body rounds name next ∈ c.pending →
        Notes c (.condition test body rounds name next)
  | visit {name : String} {key : MessageKey} {body : Formula} {found : Option Formula}
      {next : Option Value → Action Value} :
      c.control = .act name (.request (.visit key body found) next) →
        Notes c (.visit c.session found name next)
  | found {name : String} {outside : Session} {found : Option Formula}
      {next : Option Value → Action Value} :
      .visit outside found name next ∈ c.pending → Notes c (.found outside name next)

theorem notes_start {f : Formula} (h : p ∈ (start f k s).pending) :
    p ∈ k ∨ Notes ⟨.evaluate f, k, s⟩ p := by
  cases f with
  | call name args =>
    rw [start] at h
    split at h
    · exact .inl h
    · rcases List.mem_cons.1 h with rfl | h
      · exact .inr .call
      · exact .inl h
  | _ => exact .inl h

theorem notes_serve {name : String} {r : Request} {next : r.Reply → Action Value}
    (h : p ∈ (serve name k s r next).pending) :
    p ∈ k ∨ Notes ⟨.act name (.request r next), k, s⟩ p := by
  by_cases hr : r.isPlain = true
  · rw [serve_of_isPlain hr] at h
    generalize r.effect s = o at h
    obtain ⟨e | a, t⟩ := o
    · exact .inl h
    · exact .inl h
  · cases r with
    | evaluate f =>
      rcases List.mem_cons.1 h with rfl | h
      · exact .inr (.value rfl)
      · exact .inl h
    | attempt f =>
      rcases List.mem_cons.1 h with rfl | h
      · exact .inr (.attempt rfl)
      · exact .inl h
    | loop test body =>
      rcases List.mem_cons.1 h with rfl | h
      · exact .inr (.loop rfl)
      · exact .inl h
    | visit key body found =>
      rcases List.mem_cons.1 h with rfl | h
      · exact .inr (.visit rfl)
      · exact .inl h
    | _ => exact absurd rfl hr

theorem notes_resume {q : Pending} {r : Except Stop Value} (h : p ∈ (resume r k s q).pending) :
    p ∈ k ∨ Notes ⟨.give r, q :: k, s⟩ p := by
  cases q with
  | call => exact .inl h
  | frame => exact .inl h
  | argument target done rest =>
    obtain e | v := r
    · exact .inl h
    · exact .inl h
  | value name next =>
    obtain e | v := r
    · exact .inl h
    · exact .inl h
  | attempt name next =>
    obtain (e | g | -) | v := r
    · exact .inl h
    · exact .inl h
    · exact .inl h
    · exact .inl h
  | condition test body rounds name next =>
    have hround : p ∈ Pending.body test body (rounds + 1) name next :: k →
        p ∈ k ∨ Notes ⟨.give r, .condition test body rounds name next :: k, s⟩ p := by
      intro h
      rcases List.mem_cons.1 h with rfl | h
      · exact .inr (.round List.mem_cons_self)
      · exact .inl h
    obtain e | v := r
    · exact .inl h
    · simp only [resume] at h
      split at h
      · split at h
        · split at h
          · exact .inl h
          · exact hround h
        · exact hround h
      · exact .inl h
  | body test body rounds name next =>
    obtain e | v := r
    · exact .inl h
    · rcases List.mem_cons.1 h with rfl | h
      · exact .inr (.again List.mem_cons_self)
      · exact .inl h
  | visit outside found name next =>
    obtain e | v := r
    · exact .inl h
    · simp only [resume] at h
      split at h
      · split at h
        · exact .inl h
        · rcases List.mem_cons.1 h with rfl | h
          · exact .inr (.found List.mem_cons_self)
          · exact .inl h
      · exact .inl h
  | found outside name next =>
    obtain e | v := r
    · exact .inl h
    · exact .inl h

/-- **What is pending after a step** was pending before it, or is one of
these. -/
theorem notes_step (h : p ∈ (step c).pending) : p ∈ c.pending ∨ Notes c p := by
  obtain ⟨control, k, s⟩ := c
  cases control with
  | evaluate f => exact notes_start h
  | arguments target done rest =>
    cases rest with
    | cons f rest =>
      rcases List.mem_cons.1 h with rfl | h
      · exact .inr .argument
      · exact .inl h
    | nil =>
      cases target with
      | builtin sig name => exact .inl h
      | user name body =>
        rcases List.mem_cons.1 h with rfl | h
        · exact .inr .frame
        · exact .inl h
  | act name a =>
    cases a with
    | done v => exact .inl h
    | fail f => exact .inl h
    | look next => exact .inl h
    | request r next => exact notes_serve h
  | give r =>
    cases k with
    | nil => exact .inl h
    | cons q k => exact (notes_resume h).imp_left (List.mem_cons_of_mem q)

/-- **A step adds no session but the present one** to those that visits
go back to. -/
theorem outsides_step {o : Session} (h : o ∈ outsides (step c).pending) :
    o ∈ outsides c.pending ∨ o = c.session := by
  obtain ⟨p, hp, ho⟩ := mem_outsides.1 h
  rcases notes_step hp with hp | hnotes
  · exact .inl (mem_outsides.2 ⟨p, hp, ho⟩)
  · cases hnotes with
    | visit _ => exact .inr (Option.some.inj ho).symm
    | found hvisit => exact .inl (mem_outsides.2 ⟨_, hvisit, ho⟩)
    | _ => cases ho

/-! ## What every move keeps -/

/-- **What every move keeps holds at every moment**, if it holds at the
beginning. The sessions that visits go back to are carried along. -/
theorem holds_at_moment {P : Session → Prop} {f : Formula} (hs : P s)
    (hmoves : ∀ c, Leads (beginning f s) c → P c.session → (∀ o ∈ outsides c.pending, P o) →
      ∀ t, Moves c t → P t)
    (hc : Leads (beginning f s) c) : P c.session := by
  obtain ⟨n, rfl⟩ := hc
  suffices h : P (step^[n] (beginning f s)).session ∧
      ∀ o ∈ outsides (step^[n] (beginning f s)).pending, P o from h.1
  induction n with
  | zero => exact ⟨hs, fun o ho => absurd ho List.not_mem_nil⟩
  | succ n ih =>
    rw [Function.iterate_succ_apply']
    refine ⟨hmoves _ ⟨n, rfl⟩ ih.1 ih.2 _ (moves_step _), fun o ho => ?_⟩
    rcases outsides_step ho with ho | rfl
    · exact ih.2 o ho
    · exact ih.1

/-- **A property of sessions that every move keeps.** A visit may take up
the contexts of any session that has the property. -/
structure Invariant where
  holds : Session → Prop
  effect : ∀ {r : Request} {s}, r.isPlain = true → holds s → holds (r.effect s).2
  enter : ∀ {s}, holds s → holds s.enter
  leave : ∀ {s}, holds s → holds s.leave
  push : ∀ {s} args, holds s → holds (s.pushFrame args)
  pop : ∀ {s}, holds s → holds s.popFrame
  openChild : ∀ {s} key, holds s → holds (s.openChild key)
  withContextOf : ∀ {s outside}, holds s → holds outside → holds (s.withContextOf outside)

namespace Invariant

variable (I : Invariant)

theorem of_moves (hc : I.holds c.session) (hout : ∀ o ∈ outsides c.pending, I.holds o)
    (h : Moves c t) : I.holds t := by
  cases h with
  | stay => exact hc
  | serve _ hr => exact I.effect hr hc
  | field _ => exact I.effect rfl hc
  | enter ht => exact Session.eq_enter_of_tryEnter ht ▸ I.enter hc
  | leave => exact I.leave hc
  | push args => exact I.push args hc
  | pop => exact I.pop hc
  | visit key => exact I.push none (I.openChild key hc)
  | back ho => exact I.withContextOf (I.pop hc) (hout _ ho)

/-- **It holds at every moment of an evaluation**, if it holds at the
beginning. -/
theorem at_moment {f : Formula} (hs : I.holds s) (hc : Leads (beginning f s) c) :
    I.holds c.session :=
  holds_at_moment hs (fun _ _ hc hout _ => I.of_moves hc hout) hc

end Invariant

end Course

end MailFormula
