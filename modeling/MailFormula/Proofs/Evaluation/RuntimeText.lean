import MailFormula.Proofs.Evaluation.Balance
import MailFormula.Proofs.Formula.RoundTrip
/-!
# Formulas read at run time

`Eval` reads a text as a formula and evaluates it. The text is read once
the call is admitted, so the formula is evaluated one level below the
call and has one level less to go (`evaluate_eval_text`). A canonical
text reads as the formula that it is the text of, which makes `Eval`
transparent: apart from that level, a formula and its text are one.
-/

namespace MailFormula

open MailFormula.Lexeme MailFormula.Text

/-- The failure of a call whose first argument writes no formula. -/
def Failure.unreadable (name : String) (e : ParseError) : Failure :=
  { code := .fail, function := some name, argument := some 1, detail := some e.message }

/-- An action that only asks for something is the answer to it. -/
theorem Action.run_ask (perform : (r : Request) → Run r.Reply) (name : String) (r : Request)
    (s : Session) : (Action.ask r).run perform name s = perform r s := by
  rw [ask, run]
  generalize perform r s = o
  obtain ⟨e | a, t⟩ := o
  · rfl
  · rfl

/-- Evaluating a text is evaluating the formula that it writes. -/
theorem run_evaluateText (patience : Nat) (evaluate : Formula → Run Value) (name text : String)
    (s : Session) :
    (Behaviour.evaluateText text).run (perform patience evaluate) name s =
      match Formula.parse text with
      | .ok f => evaluate f s
      | .error e => (.error (.failure (.unreadable name e)), s) := by
  rw [Behaviour.evaluateText]
  cases Formula.parse text with
  | error e => rfl
  | ok f => exact Action.run_ask (perform patience evaluate) name (.evaluate f) s

/-- The entry of `Eval`, in whatever case it is written. -/
theorem Signature.find?_of_eval {name : String} (h : asciiLower name = "eval") :
    Signature.find? name = some ⟨"Eval", .exactly 1, .none, .eval⟩ := by
  rw [find?, h]
  decide +kernel

/-- A call of `Eval` evaluates its text with the evaluator of its arguments. -/
theorem call_eval_text {name : String} (hname : asciiLower name = "eval") (patience : Nat)
    {evaluate : Formula → Run Value} {text : String} {s : Session}
    (harg : evaluate (.text text) s = (.ok (.string text), s)) :
    call patience evaluate name [.text text] s =
      (Behaviour.evaluateText text).run (perform patience evaluate) name s := by
  have hargs : evalArgs evaluate [.text text] s = (.ok [.string text], s) := by
    rw [evalArgs, harg]
    rfl
  rw [call, Signature.find?_of_eval hname]
  dsimp only
  rw [callBuiltin, hargs]
  rfl

/-- **What `Eval` does with a text.** It evaluates the formula that the
text writes, one level deeper; a text that writes none is a failure at
the first argument, and nothing has happened. -/
theorem evaluate_eval_text {name : String} (hname : asciiLower name = "eval") {s : Session}
    (hdepth : s.depth < s.limits.maxDepth) (patience : Nat) (text : String) :
    s.evaluate patience (.call name [.text text]) =
      match Formula.parse text with
      | .ok f => ((s.enter.evaluate patience f).1, (s.enter.evaluate patience f).2.leave)
      | .error e => (.error (.failure (.unreadable name e)), s) := by
  obtain ⟨below, hbelow⟩ : ∃ below, s.limits.maxDepth - s.depth = below + 1 :=
    ⟨s.limits.maxDepth - s.depth - 1, by omega⟩
  -- The levels left to the call are those that the counter leaves after it.
  have henter : ∀ f, s.enter.evaluate patience f = eval patience below f s.enter := by
    intro f
    have hleft : s.enter.limits.maxDepth - s.enter.depth = below := by
      change s.limits.maxDepth - (s.depth + 1) = below
      omega
    rw [Session.evaluate, hleft]
  have harg : eval patience below (.text text) s.enter = (.ok (.string text), s.enter) := by
    rw [eval]
  rw [Session.evaluate, hbelow, eval, call_eval_text hname patience harg, run_evaluateText]
  simp only [henter]
  cases Formula.parse text with
  | error e => rfl
  | ok f => rfl

/-- **`Eval` is transparent.** Where a call is admitted, `Eval` of the
canonical text of a well-formed formula has the outcome of the formula
itself with the counter one higher, and leaves the same session, the
counter back where it was. `Eval` of a text that writes no formula fails
at its argument and leaves the session as it was. -/
theorem eval_of_canonical_text {name : String} (hname : asciiLower name = "eval") {s : Session}
    (hdepth : s.depth < s.limits.maxDepth) (patience : Nat) :
    (∀ f : Formula, f.WellFormed →
      s.evaluate patience (.call name [.text f.toText]) =
        ((s.enter.evaluate patience f).1,
          { (s.enter.evaluate patience f).2 with depth := s.depth })) ∧
    ∀ text e, Formula.parse text = .error e →
      s.evaluate patience (.call name [.text text]) =
        (.error (.failure (.unreadable name e)), s) := by
  constructor
  · intro f hf
    have hleave : (s.enter.evaluate patience f).2.leave =
        { (s.enter.evaluate patience f).2 with depth := s.depth } := by
      have hcount : (s.enter.evaluate patience f).2.depth = s.depth + 1 :=
        (balanced_eval patience _ f s.enter).depth
      rw [Session.leave, hcount, Nat.add_sub_cancel]
    rw [evaluate_eval_text hname hdepth, hf.parse_toText]
    dsimp only
    rw [hleave]
  · intro text e hparse
    rw [evaluate_eval_text hname hdepth, hparse]

/-- A session inside one call, with three levels in all. -/
def underway : Session := { limits := { maxDepth := 3 }, depth := 1 }

/-- A variable is bound to a sum: two levels of calls. -/
def counting : Formula := .call "Set" [.text "it's \"n\"", .call "Add" [.number 1, .var "n"]]

/-- The text of two levels of calls, under a call that leaves one level
less than they need; and a text that breaks off. -/
theorem eval_of_counting_text :
    asciiLower "EVAL" = "eval" ∧ underway.depth < underway.limits.maxDepth ∧
    counting.WellFormed ∧
    underway.evaluate 0 (.call "EVAL" [.text counting.toText]) =
      ((underway.enter.evaluate 0 counting).1,
        { (underway.enter.evaluate 0 counting).2 with depth := 1 }) ∧
    ∃ e, Formula.parse "@Add(1," = .error e ∧
      underway.evaluate 0 (.call "EVAL" [.text "@Add(1,"]) =
        (.error (.failure (.unreadable "EVAL" e)), underway) := by
  have hname : asciiLower "EVAL" = "eval" := by decide
  have hdepth : underway.depth < underway.limits.maxDepth := by decide
  have hset : IsName "Set".toList :=
    ⟨⟨by decide, List.all_eq_true.1 (by decide)⟩, 'S', _, rfl, by decide⟩
  have hadd : IsName "Add".toList :=
    ⟨⟨by decide, List.all_eq_true.1 (by decide)⟩, 'A', _, rfl, by decide⟩
  have hcounting : counting.WellFormed := by
    simp only [counting, Formula.WellFormed, Formula.AllWellFormed]
    exact ⟨hset, trivial, ⟨hadd, trivial, ⟨by decide, List.all_eq_true.1 (by decide)⟩, trivial⟩,
      trivial⟩
  obtain ⟨htext, hbroken⟩ := eval_of_canonical_text hname hdepth 0
  have hparse : (Formula.parse "@Add(1,").isOk = false := by decide +kernel
  rcases hresult : Formula.parse "@Add(1," with e | f
  · exact ⟨hname, hdepth, hcounting, htext counting hcounting, e, rfl, hbroken _ e hresult⟩
  · rw [hresult] at hparse
    cases hparse

end MailFormula
