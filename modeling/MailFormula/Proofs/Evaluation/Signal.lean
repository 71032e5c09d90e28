import MailFormula.Proofs.Evaluation.Unwinding
/-!
# Signals and reports

A signal travels on two ways at once: as the outcome of the evaluation,
and in the session, where the last one raised is kept. This file shows
that the two never part (`signalLaw`): an evaluation that ends in a
signal leaves that signal in the session, and any other leaves there
what it found. Between the two lies the fact that nothing takes a raised
signal back: step by step it is handed on to the end
(`Course.signal_reaches_end`).

Evaluation never reports a failure. Running a formula by itself reports
the one failure that nobody caught, and nothing else.
-/

namespace MailFormula

/-- The signal that an outcome is, if it is one. -/
def raised {α : Type} : Except Stop α → Option Signal
  | .ok _ => none
  | .error e => e.signal?

/-- The failure that an outcome is, if it is one. -/
def failed {α : Type} : Except Stop α → Option Failure
  | .error (.failure f) => some f
  | _ => none

/-- What the session keeps after an evaluation that ended so: the signal
it ended in, else the one it found. -/
def keptSignal (before : Option Signal) (e : Stop) : Option Signal :=
  e.signal?.or before

/-- The law of a computation that gave a result: no signal was left and
nothing reported. -/
structure SameSignal (s t : Session) : Prop where
  signal : t.signal = s.signal
  reported : t.reported = s.reported

/-- And of one that stopped. -/
structure LeavesSignal (s : Session) (e : Stop) (t : Session) : Prop where
  signal : t.signal = keptSignal s.signal e
  reported : t.reported = s.reported

/-- **The law of signals.** -/
def signalLaw : Law where
  keeps := SameSignal
  stops := LeavesSignal
  refl := fun _ => ⟨rfl, rfl⟩
  trans := fun h k => ⟨k.signal.trans h.signal, k.reported.trans h.reported⟩
  stops_trans := fun h k =>
    ⟨by rw [k.signal, h.signal], k.reported.trans h.reported⟩
  fails := fun _ _ => ⟨rfl, rfl⟩
  tires := fun _ h => ⟨h.signal, h.reported⟩
  caught := fun h => ⟨h.signal, h.reported⟩
  effect := by
    intro r hr s
    have hreported := (sameSetting_effect hr s).reported
    have hcases := effect_cases hr s
    generalize r.effect s = o at hreported hcases ⊢
    obtain ⟨e | a, t⟩ := o
    · rcases hcases with ⟨a, ha, -⟩ | ⟨g, hg, hsignal⟩
      · cases ha
      · obtain rfl := Except.error.inj hg
        exact ⟨hsignal, hreported⟩
    · rcases hcases with ⟨-, -, hsignal⟩ | ⟨g, hg, -⟩
      · exact ⟨hsignal, hreported⟩
      · cases hg
  call := fun h => h.imp (fun k => ⟨k.signal, k.reported⟩) fun _ k => ⟨k.signal, k.reported⟩
  frame := fun h => h.imp (fun k => ⟨k.signal, k.reported⟩) fun _ k => ⟨k.signal, k.reported⟩
  child := fun h => h.imp (fun k => ⟨k.signal, k.reported⟩) fun _ k => ⟨k.signal, k.reported⟩

namespace Course

/-- **A raised signal reaches the end**, whatever is pending: nothing
takes a signal for an answer. -/
theorem signal_reaches_end (g : Signal) (k : List Pending) (s : Session) :
    ∃ t, Leads ⟨.give (.error (.signal g)), k, s⟩ (halt (.error (.signal g)) t) := by
  have htakes : ∀ p ∈ k, p.takes (.signal g) = false := by
    intro p _
    cases p <;> rfl
  exact ⟨unwind k s, stop_reaches_end htakes s⟩

end Course

/-- The signal in the session after an evaluation, and the reports. -/
theorem signal_evaluate (patience : Nat) (f : Formula) (s : Session) :
    (s.evaluate patience f).2.signal = (raised (s.evaluate patience f).1).or s.signal ∧
      (s.evaluate patience f).2.reported = s.reported := by
  have h := signalLaw.holds_evaluate patience f s
  generalize s.evaluate patience f = o at h ⊢
  obtain ⟨e | v, t⟩ := o
  · have h' : LeavesSignal s e t := h
    exact ⟨h'.signal, h'.reported⟩
  · have h' : SameSignal s t := h
    exact ⟨h'.signal, h'.reported⟩

/-- **Running a formula by itself** forgets the last signal first and
reports what nobody caught, so the session holds the signal of the
outcome and one report more exactly if the outcome is a failure. -/
theorem signal_value (patience : Nat) (f : Formula) (s : Session) :
    (s.value patience f).2.signal = raised (s.value patience f).1 ∧
      (s.value patience f).2.reported =
        s.reported ++ (failed (s.value patience f).1).toList := by
  have h := signal_evaluate patience f { s with signal := none }
  rw [Session.value]
  generalize Session.evaluate patience f { s with signal := none } = o at h ⊢
  obtain ⟨hsignal, hreported⟩ := h
  obtain ⟨(e | g | -) | v, t⟩ := o
  · refine ⟨hsignal, ?_⟩
    change t.reported ++ [e] = s.reported ++ [e]
    rw [hreported]
  · exact ⟨hsignal, by rw [hreported]; exact (List.append_nil _).symm⟩
  · exact ⟨hsignal, by rw [hreported]; exact (List.append_nil _).symm⟩
  · exact ⟨hsignal, by rw [hreported]; exact (List.append_nil _).symm⟩

/-- **Outcome, last signal and reports agree.** An evaluation that ends in
a signal leaves that signal in the session and any other leaves the one
it found, no signal that is raised on the way is taken back, and nothing
is reported. After running a formula by itself the session holds the
signal of the outcome, whatever it held before, and the reports have
grown by the failure that the outcome is, if it is one. -/
theorem outcome_signal_reports_agree :
    (∀ (patience : Nat) (f : Formula) (s : Session),
      (∀ g, (s.evaluate patience f).1 = .error (.signal g) →
        (s.evaluate patience f).2.signal = some g) ∧
      ((∀ g, (s.evaluate patience f).1 ≠ .error (.signal g)) →
        (s.evaluate patience f).2.signal = s.signal) ∧
      (s.evaluate patience f).2.reported = s.reported) ∧
    (∀ (f : Formula) (s t : Session) (k : List Course.Pending) (g : Signal),
      Course.Leads (Course.beginning f s) ⟨.give (.error (.signal g)), k, t⟩ →
        ∃ patience u, s.evaluate patience f = (.error (.signal g), u)) ∧
    ∀ (patience : Nat) (f : Formula) (s : Session),
      (s.value patience f).2.signal = raised (s.value patience f).1 ∧
      (s.value patience f).2.reported =
        s.reported ++ (failed (s.value patience f).1).toList := by
  refine ⟨fun patience f s => ?_, fun f s t k g hraised => ?_, signal_value⟩
  · obtain ⟨hsignal, hreported⟩ := signal_evaluate patience f s
    refine ⟨fun g hg => ?_, fun hno => ?_, hreported⟩
    · rw [hsignal, hg]
      rfl
    · have hnone : raised (s.evaluate patience f).1 = none := by
        generalize (s.evaluate patience f).1 = r at hno ⊢
        obtain (e | g | -) | v := r
        · rfl
        · exact absurd rfl (hno g)
        · rfl
        · rfl
      rw [hsignal, hnone]
      rfl
  -- What is pending hands the signal on, and the end of the steps is the evaluator's.
  · obtain ⟨u, hu⟩ := Course.signal_reaches_end g k t
    obtain ⟨-, patience, h⟩ := Course.halts_iff.1 (hraised.trans hu)
    exact ⟨patience, u, h⟩

end MailFormula
