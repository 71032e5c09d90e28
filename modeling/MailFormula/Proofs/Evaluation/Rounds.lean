import MailFormula.Proofs.Evaluation.Equation
import MailFormula.Proofs.Evaluation.Limits
/-!
# The rounds of a loop

`Loops` is the loop that no limit stops: it tests its condition, and
while that is true evaluates its body and tests again. It may have no
end. Where it has one, it has started the body so many times.

A bound on the rounds is looked at between a true condition and the
body. So a loop that starts the body no more often than the bound allows
comes to the same as without it (`iterate_of_loops`). Any other has whole
rounds up to the bound and a condition that is true once more
(`exists_rounds_of_not_loops`), and there it stops: the body is not
started again, and the session is the one that this condition left.
-/

namespace MailFormula

open MailFormula.Text

/-! ## The loop without a limit -/

/-- **A loop that no limit stops**, from a session to its end. The number
says how often the body is started. -/
inductive Loops (ev : Formula → Run Value) (test body : Formula) :
    Nat → Session → Outcome Value → Prop
  /-- The condition gives no value. -/
  | testStops {s t : Session} {e : Stop} : ev test s = (.error e, t) →
      Loops ev test body 0 s (.error e, t)
  /-- The condition is false, and its value is that of the loop. -/
  | testFalse {s t : Session} {v : Value} : ev test s = (.ok v, t) → v.truth = false →
      Loops ev test body 0 s (.ok v, t)
  /-- The body gives no value. -/
  | bodyStops {s t u : Session} {v : Value} {e : Stop} : ev test s = (.ok v, t) →
      v.truth = true → ev body t = (.error e, u) → Loops ev test body 1 s (.error e, u)
  /-- A whole round, and on from where it ends. -/
  | round {s t u : Session} {v w : Value} {n : Nat} {o : Outcome Value} :
      ev test s = (.ok v, t) → v.truth = true → ev body t = (.ok w, u) →
      Loops ev test body n u o → Loops ev test body (n + 1) s o

/-- **So many whole rounds**: each time the condition is true and the body
has a value. -/
inductive Rounds (ev : Formula → Run Value) (test body : Formula) :
    Nat → Session → Session → Prop
  | none (s : Session) : Rounds ev test body 0 s s
  | round {s t u x : Session} {v w : Value} {n : Nat} : ev test s = (.ok v, t) →
      v.truth = true → ev body t = (.ok w, u) → Rounds ev test body n u x →
      Rounds ev test body (n + 1) s x

variable {ev : Formula → Run Value} {test body : Formula} {n k : Nat} {s t u : Session}
  {o : Outcome Value}

/-! ## The loop within a bound -/

/-- The end of a loop that was not stopped by its bound. -/
def Outcome.ended {α : Type} (o : Outcome α) : Outcome (Option α) := (o.1.map some, o.2)

/-- **A loop that ends within the bound** does not notice it. -/
theorem iterate_of_loops (h : Loops ev test body n s o) (hn : n ≤ k) :
    iterate ev test body k s = o.ended := by
  induction h generalizing k with
  | testStops he =>
    cases k with
    | zero => rw [iterate, he]; rfl
    | succ k => rw [iterate, he]; rfl
  | testFalse hv hfalse =>
    cases k with
    | zero => rw [iterate, hv]; simp only [hfalse]; rfl
    | succ k => rw [iterate, hv]; simp only [hfalse]; rfl
  | bodyStops hv htrue he =>
    obtain ⟨k, rfl⟩ : ∃ j, k = j + 1 := ⟨k - 1, by omega⟩
    rw [iterate, hv]
    simp only [htrue, if_true, he]
    rfl
  | round hv htrue hw _ ih =>
    obtain ⟨k, rfl⟩ : ∃ j, k = j + 1 := ⟨k - 1, by omega⟩
    rw [iterate, hv]
    simp only [htrue, if_true, hw]
    exact ih (by omega)

/-- **Any other loop** has as many whole rounds as the bound allows, and
then a condition that is true. -/
theorem exists_rounds_of_not_loops (h : ∀ n o, n ≤ k → ¬ Loops ev test body n s o) :
    ∃ t v u, Rounds ev test body k s t ∧ ev test t = (.ok v, u) ∧ v.truth = true := by
  induction k generalizing s with
  | zero =>
    rcases htest : ev test s with ⟨e | v, t⟩
    · exact absurd (.testStops htest) (h 0 _ (Nat.le_refl 0))
    · cases hv : v.truth with
      | false => exact absurd (.testFalse htest hv) (h 0 _ (Nat.le_refl 0))
      | true => exact ⟨s, v, t, .none s, htest, hv⟩
  | succ k ih =>
    rcases htest : ev test s with ⟨e | v, t⟩
    · exact absurd (.testStops htest) (h 0 _ (Nat.zero_le _))
    · cases hv : v.truth with
      | false => exact absurd (.testFalse htest hv) (h 0 _ (Nat.zero_le _))
      | true =>
        rcases hbody : ev body t with ⟨e | w, u⟩
        · exact absurd (.bodyStops htest hv hbody) (h 1 _ (by omega))
        · obtain ⟨x, v', y, hrounds, hagain, htrue⟩ := ih fun n o hn hloops =>
            h (n + 1) o (by omega) (.round htest hv hbody hloops)
          exact ⟨x, v', y, .round htest hv hbody hrounds, hagain, htrue⟩

/-- There the bound stops it. -/
theorem iterate_of_rounds {v : Value} (h : Rounds ev test body k s t)
    (hv : ev test t = (.ok v, u)) (htrue : v.truth = true) :
    iterate ev test body k s = (.ok none, u) := by
  induction h with
  | none s =>
    rw [iterate, hv]
    simp only [htrue, if_true]
  | round htest htrue' hbody _ ih =>
    rw [iterate, htest]
    simp only [htrue', if_true, hbody]
    exact ih hv

/-- And without the bound it would have gone on. -/
theorem not_loops_of_rounds {v : Value} (h : Rounds ev test body k s t)
    (hv : ev test t = (.ok v, u)) (htrue : v.truth = true) (hn : n ≤ k) :
    ¬ Loops ev test body n s o := by
  intro hloops
  have hended := iterate_of_loops hloops hn
  rw [iterate_of_rounds h hv htrue] at hended
  obtain ⟨e | w, x⟩ := o
  · cases hended
  · cases hended

/-! ## The call -/

/-- How many rounds a loop may have: as the limits say, else as patience lasts. -/
def Limits.rounds (l : Limits) (patience : Nat) : Nat := l.maxIterations.getD patience

/-- How a loop ends whose rounds are used up. -/
def Limits.cutOff (l : Limits) (name : String) : Stop :=
  match l.maxIterations with
  | some bound => .failure ((Fault.tooLong bound).inCall name)
  | none => .unfinished

/-- The entry of `While`, in whatever case it is written. -/
theorem Signature.find?_of_while {name : String} (h : asciiLower name = "while") :
    Signature.find? name = some ⟨"While", .exactly 2, .none, .loop⟩ := by
  rw [find?, h]
  decide +kernel

/-- A call of `While` is a loop, and fails where its rounds are used up. -/
theorem call_while {name : String} (hname : asciiLower name = "while") (patience : Nat)
    (ev : Formula → Run Value) (test body : Formula) (s : Session) :
    call patience ev name [test, body] s =
      match iterate ev test body (s.limits.rounds patience) s with
      | (.ok (some v), t) => (.ok v, t)
      | (.ok none, t) => (.error (s.limits.cutOff name), t)
      | (.error e, t) => (.error e, t) := by
  have hcall : call patience ev name [test, body] s =
      (Behaviour.loop [test, body]).run (perform patience ev) name s :=
    call_of_lazy (Signature.find?_of_while hname) rfl [test, body] rfl patience ev s
  have hrun : (Behaviour.loop [test, body]).run (perform patience ev) name s =
      match loopWithin patience ev test body s with
      | (.ok (.ok v), t) => (.ok v, t)
      | (.ok (.error bound), t) => (.error (.failure ((Fault.tooLong bound).inCall name)), t)
      | (.error e, t) => (.error e, t) := by
    rw [Behaviour.loop, Action.run_ask_bind, perform]
    generalize loopWithin patience ev test body s = o
    obtain ⟨e | (bound | v), t⟩ := o
    · rfl
    · rfl
    · rfl
  rw [hcall, hrun, loopWithin, Limits.rounds, Limits.cutOff]
  cases s.limits.maxIterations with
  | none =>
    dsimp only [Option.getD]
    generalize iterate ev test body patience s = o
    obtain ⟨e | (- | v), t⟩ := o
    · rfl
    · rfl
    · rfl
  | some bound =>
    dsimp only [Option.getD]
    generalize iterate ev test body bound s = o
    obtain ⟨e | (- | v), t⟩ := o
    · rfl
    · rfl
    · rfl

/-- **The limit counts.** A loop that ends with its rounds is the loop
without a limit. -/
theorem call_while_of_loops {name : String} (hname : asciiLower name = "while") {patience : Nat}
    (h : Loops ev test body n s o) (hn : n ≤ s.limits.rounds patience) :
    call patience ev name [test, body] s = o := by
  rw [call_while hname, iterate_of_loops h hn]
  obtain ⟨e | v, t⟩ := o
  · rfl
  · rfl

/-- **And it counts exactly.** Any other loop is cut off behind the
condition after the last of its rounds. -/
theorem call_while_of_not_loops {name : String} (hname : asciiLower name = "while")
    {patience : Nat} (h : ∀ n o, n ≤ s.limits.rounds patience → ¬ Loops ev test body n s o) :
    ∃ t v u, Rounds ev test body (s.limits.rounds patience) s t ∧ ev test t = (.ok v, u) ∧
      v.truth = true ∧
      call patience ev name [test, body] s = (.error (s.limits.cutOff name), u) := by
  obtain ⟨t, v, u, hrounds, hv, htrue⟩ := exists_rounds_of_not_loops h
  refine ⟨t, v, u, hrounds, hv, htrue, ?_⟩
  rw [call_while hname, iterate_of_rounds hrounds hv htrue]

/-! ## Evaluation -/

section

variable {name : String} {patience : Nat}

/-- The level of a call has no limits of its own. -/
theorem Session.limits_of_tryEnter (h : s.tryEnter = .ok t) : t.limits = s.limits := by
  obtain rfl := Session.eq_enter_of_tryEnter h
  rfl

/-- A call of `While` whose loop ends with its rounds. -/
theorem evaluate_while_of_loops (hname : asciiLower name = "while")
    (hn : n ≤ s.limits.rounds patience)
    (h : s.Calls name (Loops (Session.evaluate patience) test body n) o) :
    s.evaluate patience (.call name [test, body]) = o := by
  refine (s.calls_evaluate patience name [test, body]).unique h fun t o o' ht hcall hloops => ?_
  rw [← Session.limits_of_tryEnter ht] at hn
  exact hcall.symm.trans (call_while_of_loops hname hloops hn)

/-- A call of `While` whose loop does not: it is admitted, for otherwise
it would end at once, and then cut off. -/
theorem evaluate_while_of_not_loops (hname : asciiLower name = "while")
    (h : ∀ n o, n ≤ s.limits.rounds patience →
      ¬ s.Calls name (Loops (Session.evaluate patience) test body n) o) :
    ∃ t v u, Rounds (Session.evaluate patience) test body (s.limits.rounds patience) s.enter t ∧
      t.evaluate patience test = (.ok v, u) ∧ v.truth = true ∧
      s.evaluate patience (.call name [test, body]) =
        (.error (s.limits.cutOff name), u.leave) := by
  have hcalls := s.calls_evaluate patience name [test, body]
  generalize s.evaluate patience (.call name [test, body]) = o at hcalls ⊢
  cases hcalls with
  | refused he => exact absurd (.refused he) (h 0 _ (Nat.zero_le _))
  | @admitted t u r ht hcall =>
    obtain rfl := Session.eq_enter_of_tryEnter ht
    have hno : ∀ n o, n ≤ s.enter.limits.rounds patience →
        ¬ Loops (Session.evaluate patience) test body n s.enter o := fun n o hn hloops =>
      h n (o.1, o.2.leave) hn (.admitted ht hloops)
    obtain ⟨x, v, y, hrounds, hv, htrue, heval⟩ := call_while_of_not_loops hname hno
    obtain ⟨rfl, rfl⟩ := Prod.mk.inj (hcall.symm.trans heval)
    exact ⟨x, v, u, hrounds, hv, htrue, rfl⟩

end

/-- **The limit of a loop counts exactly.** Let a loop be called in a
session with a limit. If the loop without a limit, its condition and its
body evaluated as here, ends and has started the body no more often than
the limit allows, then the call has its outcome and leaves the session
that it leaves. Otherwise the call goes through as many whole rounds as
the limit allows, and evaluates the condition once more, which is true;
then it fails, and leaves the session that this condition left, the level
of the call given back. A session without a limit runs the loop without a
limit. -/
theorem while_limit_counts_exactly {name : String} (hname : asciiLower name = "while")
    (patience : Nat) (test body : Formula) (s : Session) :
    (∀ k, s.limits.maxIterations = some k →
      (∀ n o, n ≤ k → s.Calls name (Loops (Session.evaluate patience) test body n) o →
        s.evaluate patience (.call name [test, body]) = o) ∧
      ((∀ n o, n ≤ k → ¬ s.Calls name (Loops (Session.evaluate patience) test body n) o) →
        ∃ t v u, Rounds (Session.evaluate patience) test body k s.enter t ∧
          t.evaluate patience test = (.ok v, u) ∧ v.truth = true ∧
          s.evaluate patience (.call name [test, body]) =
            (.error (.failure
              { code := .fail
                function := some name
                detail := some ("iteration limit of " ++ toString k ++ " exceeded") }),
              u.leave))) ∧
    (s.limits.maxIterations = none →
      (s.evaluate patience (.call name [test, body])).1 ≠ .error .unfinished →
      ∃ n, s.Calls name (Loops (Session.evaluate patience) test body n)
        (s.evaluate patience (.call name [test, body]))) := by
  refine ⟨fun k hk => ?_, fun hnone hfinished => ?_⟩
  · have hrounds : s.limits.rounds patience = k := by rw [Limits.rounds, hk]; rfl
    have hcut : s.limits.cutOff name = .failure ((Fault.tooLong k).inCall name) := by
      rw [Limits.cutOff, hk]
    refine ⟨fun n o hn h => evaluate_while_of_loops hname (by omega) h, fun hno => ?_⟩
    rw [← hrounds] at hno
    have hend := evaluate_while_of_not_loops hname hno
    rwa [hrounds, hcut] at hend
  -- If the loop did not end within patience, the call would be cut off unfinished.
  · by_contra hno
    have hloops : ∀ n o, n ≤ s.limits.rounds patience →
        ¬ s.Calls name (Loops (Session.evaluate patience) test body n) o := fun n o hn h =>
      hno ⟨n, by rwa [evaluate_while_of_loops hname hn h]⟩
    obtain ⟨t, v, u, -, -, -, heval⟩ := evaluate_while_of_not_loops hname hloops
    rw [heval, Limits.cutOff, hnone] at hfinished
    exact hfinished rfl

/-- A session with a variable that keeps a loop going. -/
def going (limit : Option Nat) : Session where
  limits := { maxIterations := limit }
  scope := { frames := [{ vars := ({} : Table Value).put "go" (.string "on") }] }

/-- Clears the variable. -/
def clear : Formula := .call "Set" [.text "go", .text ""]

/-- The condition is true at first. -/
theorem evaluate_go (limit : Option Nat) :
    (going limit).enter.evaluate 1 (.var "go") = (.ok (.string "on"), (going limit).enter) := by
  rfl

/-- The loop that clears its own condition has one round. -/
theorem loops_clear :
    ∃ t, Loops (Session.evaluate 1) (.var "go") clear 1 (going (some 1)).enter
      (.ok (.string ""), t) := by
  have hbody : ((going (some 1)).enter.evaluate 1 clear).1 = .ok (.string "") := by rfl
  have hstop : ((going (some 1)).enter.evaluate 1 clear).2.evaluate 1 (.var "go") =
      (.ok (.string ""), ((going (some 1)).enter.evaluate 1 clear).2) := by rfl
  exact ⟨_, .round (evaluate_go _) rfl (Prod.ext hbody rfl) (.testFalse hstop rfl)⟩

/-- One round is within a limit of one, and is not begun under a limit of
none; without a limit the loop ends. -/
theorem clearing_loop_counted :
    (∃ t, (going (some 1)).evaluate 1 (.call "WHILE" [.var "go", clear]) =
      (.ok (.string ""), t)) ∧
    (∃ t v u, Rounds (Session.evaluate 1) (.var "go") clear 0 (going (some 0)).enter t ∧
      t.evaluate 1 (.var "go") = (.ok v, u) ∧ v.truth = true ∧
      (going (some 0)).evaluate 1 (.call "WHILE" [.var "go", clear]) =
        (.error (.failure
          { code := .fail
            function := some "WHILE"
            detail := some ("iteration limit of " ++ toString 0 ++ " exceeded") }),
          u.leave)) ∧
    ∃ n, (going none).Calls "WHILE" (Loops (Session.evaluate 1) (.var "go") clear n)
      ((going none).evaluate 1 (.call "WHILE" [.var "go", clear])) := by
  have hname : asciiLower "WHILE" = "while" := by decide
  refine ⟨?_, ?_, ?_⟩
  · obtain ⟨t, hloops⟩ := loops_clear
    exact ⟨t.leave, ((while_limit_counts_exactly hname 1 (.var "go") clear (going (some 1))).1 1
      rfl).1 1 _ (Nat.le_refl 1) (.admitted rfl hloops)⟩
  · refine ((while_limit_counts_exactly hname 1 (.var "go") clear (going (some 0))).1 0 rfl).2
      fun n o hn h => ?_
    obtain ⟨r, u, hloops, -⟩ := h.work_of_admitted rfl
    exact not_loops_of_rounds (.none _) (evaluate_go (some 0)) rfl hn hloops
  · refine (while_limit_counts_exactly hname 1 (.var "go") clear (going none)).2 rfl fun h => ?_
    have hisOk : ((going none).evaluate 1 (.call "WHILE" [.var "go", clear])).1.isOk = true := by
      rfl
    rw [h] at hisOk
    cases hisOk

end MailFormula
