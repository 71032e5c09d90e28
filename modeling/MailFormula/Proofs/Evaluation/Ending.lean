import MailFormula.Proofs.Evaluation.Agreement
/-!
# Evaluation comes to an end

With a bound on loops, every evaluation ends: after some number of steps
nothing is left to do, and the outcome is a value, a failure or a
signal. Function bodies and texts read at run time may be any formulas,
so no formula gets smaller on the way; what gets smaller are the levels
that the counter leaves and the rounds that the bound leaves.

The patience of `eval` is no part of this. It is spent only by loops
without a bound (`bounded`), and where there are none every patience,
even none at all, gives the one outcome that the steps come to.
-/

namespace MailFormula

/-- What holds where a computation stopped: patience is at an end only
where loops have no bound. -/
structure StopsBounded (s : Session) (e : Stop) (t : Session) : Prop where
  limits : t.limits = s.limits
  bound : e = .unfinished → s.limits.maxIterations = none

/-- **The law of bounded loops.** -/
def bounded : Law where
  keeps := fun s t => t.limits = s.limits
  stops := StopsBounded
  refl := fun _ => rfl
  trans := fun h k => k.trans h
  stops_trans := fun h k => ⟨k.limits.trans h, fun he => by rw [← h]; exact k.bound he⟩
  fails := fun _ _ => ⟨rfl, nofun⟩
  tires := fun hnone h => ⟨h, fun _ => hnone⟩
  caught := fun h => h.limits
  effect := by
    intro r hr s
    have hlimits := (sameSetting_effect hr s).limits
    have hplain := effect_ne_unfinished hr s
    generalize r.effect s = o at hlimits hplain ⊢
    obtain ⟨e | a, t⟩ := o
    · exact ⟨hlimits, fun he => absurd (congrArg Except.error he) hplain⟩
    · exact hlimits
  call := fun h => h.imp (fun k => k) fun _ k => ⟨k.limits, k.bound⟩
  frame := fun h => h.imp (fun k => k) fun _ k => ⟨k.limits, k.bound⟩
  child := fun h => h.imp (fun k => k) fun _ k => ⟨k.limits, k.bound⟩

/-- Where loops are bounded, no patience runs out. -/
theorem evaluate_finishes {s : Session} {bound : Nat} (h : s.limits.maxIterations = some bound)
    (patience : Nat) (f : Formula) : (s.evaluate patience f).1 ≠ .error .unfinished := by
  have hlaw := bounded.holds_evaluate patience f s
  generalize s.evaluate patience f = o at hlaw ⊢
  obtain ⟨e | v, t⟩ := o
  · have hstops : StopsBounded s e t := hlaw
    intro he
    have hnone := hstops.bound (Except.error.inj he)
    rw [h] at hnone
    cases hnone
  · exact nofun

/-- **Evaluation ends where loops are bounded**, whatever the depth that
is allowed: after some number of steps nothing is left to do. The
outcome is a value, a failure or a signal, and it is the outcome of the
evaluator for every patience. -/
theorem evaluation_comes_to_an_end (f : Formula) (s : Session) (bound : Nat)
    (h : s.limits.maxIterations = some bound) :
    ∃ (n : Nat) (r : Except Stop Value) (t : Session),
      Course.step^[n] (Course.beginning f s) = Course.halt r t ∧
      r ≠ .error .unfinished ∧
      ∀ patience, s.evaluate patience f = (r, t) := by
  rcases hval : s.evaluate 0 f with ⟨r, t⟩
  have hr : r ≠ .error .unfinished := by
    have hfin := evaluate_finishes h 0 f
    rwa [hval] at hfin
  obtain ⟨n, hn⟩ := Course.leads_halt_of_evaluate hval hr
  refine ⟨n, r, t, hn, hr, fun patience => ?_⟩
  -- Any other patience finishes too, and the steps have only one end.
  rcases hval' : s.evaluate patience f with ⟨r', t'⟩
  have hr' : r' ≠ .error .unfinished := by
    have hfin := evaluate_finishes h patience f
    rwa [hval'] at hfin
  obtain ⟨rfl, rfl⟩ := Course.evaluate_eq_of_finished hval hr hval' hr'
  rfl

/-- A session with a function whose body is a loop that never ends by
itself and calls the function again. -/
def endless : Session :=
  { limits := { maxDepth := 5, maxIterations := some 3 }
    functions := ({} : Table Formula).put "Again"
      (.call "While" [.call "True" [], .call "Catch" [.call "Again" [], .number 0]]) }

/-- A function that calls itself from a loop without an exit comes to an
end, under a bound of three rounds and five levels. -/
theorem evaluation_of_endless_recursion_ends :
    (endless.limits.maxIterations = some 3) ∧
    ∃ (n : Nat) (r : Except Stop Value) (t : Session),
      Course.step^[n] (Course.beginning (.call "Again" []) endless) = Course.halt r t ∧
      r ≠ .error .unfinished ∧
      ∀ patience, endless.evaluate patience (.call "Again" []) = (r, t) :=
  ⟨rfl, evaluation_comes_to_an_end (.call "Again" []) endless 3 rfl⟩

end MailFormula
