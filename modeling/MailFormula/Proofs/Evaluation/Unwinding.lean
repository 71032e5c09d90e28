import MailFormula.Proofs.Evaluation.Moves
/-!
# What is given back

What is pending holds something of the session: a level of a call, a
frame, the contexts around a visit. `unwind` is the session once all of
it has been given back. Opening a call, a frame or a visit takes no more
than is noted, and closing it gives back what was noted, so a step
changes the unwound session only where it serves a request
(`unwind_step`).

It is also the session that an evaluation leaves when it stops and
nothing that is pending takes the stop for an answer
(`stop_reaches_end`).
-/

namespace MailFormula

namespace Course

variable {c : State} {k : List Pending} {s : Session} {p : Pending}

/-- The session once something pending has given back what it holds. -/
def Pending.undo : Pending → Session → Session
  | .call, s => s.leave
  | .frame, s => s.popFrame
  | .visit outside _ _ _, s | .found outside _ _, s => s.popFrame.withContextOf outside
  | _, s => s

/-- **The session once all that is pending has given back what it holds**,
innermost first. -/
def unwind (k : List Pending) (s : Session) : Session := k.foldl (fun s p => p.undo s) s

/-- The two ways in which a step may change the unwound session. -/
inductive Unwinds (c d : State) : Prop
  | same : unwind d.pending d.session = unwind c.pending c.session → Unwinds c d
  | serve {r : Request} : c.Serves r →
      unwind d.pending d.session = unwind c.pending (r.effect c.session).2 → Unwinds c d

theorem unwinds_start (f : Formula) (k : List Pending) (s : Session) :
    Unwinds ⟨.evaluate f, k, s⟩ (start f k s) := by
  cases f with
  | field name =>
    refine .serve (.field rfl) ?_
    rw [start, fieldValue_snd]
  | call name args =>
    rw [start]
    split
    · exact .same rfl
    · rename_i t ht
      obtain rfl := Session.eq_enter_of_tryEnter ht
      exact .same rfl
  | _ => exact .same rfl

theorem unwinds_serve (name : String) (r : Request) (next : r.Reply → Action Value)
    (k : List Pending) (s : Session) :
    Unwinds ⟨.act name (.request r next), k, s⟩ (serve name k s r next) := by
  by_cases hr : r.isPlain = true
  · refine .serve (.act rfl hr) ?_
    rw [serve_of_isPlain hr]
    generalize r.effect s = o
    obtain ⟨e | a, t⟩ := o
    · rfl
    · rfl
  · cases r with
    | evaluate f => exact .same rfl
    | attempt f => exact .same rfl
    | loop test body => exact .same rfl
    -- The visit notes the session it was begun from.
    | visit key body found => exact .same rfl
    | _ => exact absurd rfl hr

theorem unwinds_resume (r : Except Stop Value) (p : Pending) (k : List Pending) (s : Session) :
    Unwinds ⟨.give r, p :: k, s⟩ (resume r k s p) := by
  cases p with
  | call => exact .same rfl
  | frame => exact .same rfl
  | argument target done rest =>
    obtain e | v := r
    · exact .same rfl
    · exact .same rfl
  | value name next =>
    obtain e | v := r
    · exact .same rfl
    · exact .same rfl
  | attempt name next =>
    obtain (e | g | -) | v := r
    · exact .same rfl
    · exact .same rfl
    · exact .same rfl
    · exact .same rfl
  | condition test body rounds name next =>
    obtain e | v := r
    · exact .same rfl
    · simp only [resume]
      split
      · split
        · split
          · exact .same rfl
          · exact .same rfl
        · exact .same rfl
      · exact .same rfl
  | body test body rounds name next =>
    obtain e | v := r
    · exact .same rfl
    · exact .same rfl
  | visit outside found name next =>
    obtain e | v := r
    · exact .same rfl
    · simp only [resume]
      split
      · split
        · exact .same rfl
        · exact .same rfl
      · exact .same rfl
  | found outside name next =>
    obtain e | v := r
    · exact .same rfl
    · exact .same rfl

/-- **A step changes the unwound session only by serving a request.** -/
theorem unwind_step (c : State) : Unwinds c (step c) := by
  obtain ⟨control, k, s⟩ := c
  cases control with
  | evaluate f => exact unwinds_start f k s
  | arguments target done rest =>
    cases rest with
    | cons f rest => exact .same rfl
    | nil =>
      cases target with
      | builtin sig name => exact .same rfl
      | user name body => exact .same rfl
  | act name a =>
    cases a with
    | done v => exact .same rfl
    | fail f => exact .same rfl
    | look next => exact .same rfl
    | request r next => exact unwinds_serve name r next k s
  | give r =>
    cases k with
    | nil => exact .same rfl
    | cons p k => exact unwinds_resume r p k s

/-- **What serving requests does to the unwound session, an evaluation
does to it**, whatever else happens on the way. -/
theorem unwind_of_leads {R : Session → Session → Prop} {f : Formula} (hrefl : R s s)
    (htrans : ∀ {t u}, R s t → R t u → R s u)
    (hserve : ∀ c, Leads (beginning f s) c → ∀ r, c.Serves r →
      R (unwind c.pending c.session) (unwind c.pending (r.effect c.session).2))
    (hc : Leads (beginning f s) c) : R s (unwind c.pending c.session) := by
  obtain ⟨n, rfl⟩ := hc
  induction n with
  | zero => exact hrefl
  | succ n ih =>
    rw [Function.iterate_succ_apply']
    cases unwind_step (step^[n] (beginning f s)) with
    | same h => rwa [h]
    | serve hr h =>
      rw [h]
      exact htrans ih (hserve _ ⟨n, rfl⟩ _ hr)

/-! ## Stops that nobody takes -/

/-- Whether something pending takes a stop for an answer: an attempt
takes failures. -/
def Pending.takes : Pending → Stop → Bool
  | .attempt _ _, .failure _ => true
  | _, _ => false

/-- What does not take a stop hands it on. -/
theorem step_stop {e : Stop} (h : p.takes e = false) :
    step ⟨.give (.error e), p :: k, s⟩ = ⟨.give (.error e), k, p.undo s⟩ := by
  cases p with
  | attempt name next =>
    cases e with
    | failure f => cases h
    | _ => rfl
  | _ => rfl

/-- **A stop that nothing takes reaches the end**, and leaves the unwound
session: the induction is on how much is pending. -/
theorem stop_reaches_end {e : Stop} (h : ∀ p ∈ k, p.takes e = false) (s : Session) :
    Leads ⟨.give (.error e), k, s⟩ (halt (.error e) (unwind k s)) := by
  induction k generalizing s with
  | nil => exact Leads.refl _
  | cons p k ih =>
    rw [List.forall_mem_cons] at h
    exact (ih h.2 (p.undo s)).of_step (step_stop h.1)

end Course

end MailFormula
