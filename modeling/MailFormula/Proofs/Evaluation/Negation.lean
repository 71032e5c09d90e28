import MailFormula.Proofs.Evaluation.Selection
/-!
# Negation of connectives

A connective evaluates its operands from left to right until one of them
decides. `Settles` says how that goes, for a conjunction and a disjunction
alike: they differ in the truth value that decides. It also names the
operands that are reached, each with the session it is evaluated in.

A connective is lazy and a negation is not, and still the two forms of a
De Morgan law evaluate their operands at the same depth: each puts two
calls around an operand. In the one form both calls stay open from operand
to operand, in the other the inner one is closed and opened again, which
leaves no trace in the session (`Session.enter_leave`). So what one form
reaches is what the other reaches (`Settles.negated`), whatever the
operands do to the session.
-/

namespace MailFormula

open MailFormula.Text

variable {ev : Formula → Run Value} {patience : Nat} {name : String} {decisive : Bool}
  {es : List Formula} {s t : Session} {reached : List (Formula × Session)}
  {r : Except Stop Bool}

/-! ## Operands -/

/-- **How operands are settled** when one with this truth value decides.
The second list has the operands that are reached, each with the session
that it is evaluated in. -/
inductive Settles (ev : Formula → Run Value) (decisive : Bool) :
    List Formula → Session → List (Formula × Session) → Except Stop Bool → Session → Prop
  /-- None has decided. -/
  | exhausted (s : Session) : Settles ev decisive [] s [] (.ok (!decisive)) s
  /-- An operand that stops ends it. -/
  | stopped {e : Formula} {rest : List Formula} {s t : Session} {stop : Stop} :
      ev e s = (.error stop, t) → Settles ev decisive (e :: rest) s [(e, s)] (.error stop) t
  /-- An operand decides, and those behind it are not evaluated. -/
  | decided {e : Formula} {rest : List Formula} {s t : Session} {v : Value} :
      ev e s = (.ok v, t) → v.truth = decisive →
      Settles ev decisive (e :: rest) s [(e, s)] (.ok decisive) t
  /-- An operand does not decide, and the next one begins where it ended. -/
  | passed {e : Formula} {rest : List Formula} {s t u : Session} {v : Value}
      {reached : List (Formula × Session)} {r : Except Stop Bool} :
      ev e s = (.ok v, t) → v.truth ≠ decisive → Settles ev decisive rest t reached r u →
      Settles ev decisive (e :: rest) s ((e, s) :: reached) r u

/-- All operands are evaluated at the depth of the first. -/
theorem Settles.depth_eq (h : Settles (Session.evaluate patience) decisive es s reached r t) :
    ∀ e ∈ reached, e.2.depth = s.depth := by
  induction h with
  | exhausted s => exact fun e hmem => absurd hmem List.not_mem_nil
  | stopped _ =>
    rw [List.forall_mem_singleton]
  | decided _ _ =>
    rw [List.forall_mem_singleton]
  | @passed e rest s t u v reached r he _ _ ih =>
    rw [(Balanced.of_evaluate he).depth] at ih
    rw [List.forall_mem_cons]
    exact ⟨rfl, ih⟩

/-! ## Connectives -/

/-- The action of a connective that an operand with this truth value decides. -/
def settle (decisive : Bool) : List Formula → Action Value
  | [] => .done (.boolean (!decisive))
  | e :: rest => do
    if (← Action.evaluate e).truth = decisive then .done (.boolean decisive)
    else settle decisive rest

theorem conjunction_eq_settle (es : List Formula) : Behaviour.conjunction es = settle false es := by
  induction es with
  | nil => rfl
  | cons e rest ih =>
    rw [Behaviour.conjunction, settle, ih]
    congr 1
    funext v
    cases v.truth with
    | true => rfl
    | false => rfl

theorem disjunction_eq_settle (es : List Formula) : Behaviour.disjunction es = settle true es := by
  induction es with
  | nil => rfl
  | cons e rest ih => rw [Behaviour.disjunction, settle, ih]

/-- **The action of a connective goes so**, and asks for the operands that
are reached. -/
theorem Settles.of_settle (patience : Nat) (ev : Formula → Run Value) (name : String)
    (decisive : Bool) (es : List Formula) (s : Session) :
    ∃ reached r t, Settles ev decisive es s reached r t ∧
      (settle decisive es).Goes (perform patience ev) name s
        (reached.map fun e => .evaluate e.1) (r.map .boolean, t) := by
  induction es generalizing s with
  | nil => exact ⟨[], _, s, .exhausted s, Action.Goes.done _ s⟩
  | cons e rest ih =>
    rw [settle]
    rcases he : ev e s with ⟨stop | v, t⟩
    · exact ⟨[(e, s)], _, t, .stopped he, Action.Goes.stopped he⟩
    · by_cases hv : v.truth = decisive
      · refine ⟨[(e, s)], _, t, .decided he hv, Action.Goes.answered he ?_⟩
        rw [if_pos hv]
        exact Action.Goes.done _ t
      · obtain ⟨reached, r, u, hsettles, hgoes⟩ := ih t
        refine ⟨(e, s) :: reached, r, u, .passed he hv hsettles, Action.Goes.answered he ?_⟩
        rw [if_neg hv]
        exact hgoes

/-- **Dual connectives**, and the truth value of an operand that decides the
first of them; the opposite one decides the second. -/
inductive Dual : String → String → Bool → Prop
  | and {inner outer : String} : asciiLower inner = "and" → asciiLower outer = "or" →
      Dual inner outer false
  | or {inner outer : String} : asciiLower inner = "or" → asciiLower outer = "and" →
      Dual inner outer true

theorem Dual.symm {inner outer : String} (h : Dual inner outer decisive) :
    Dual outer inner (!decisive) := by
  cases h with
  | and hinner houter => exact .or houter hinner
  | or hinner houter => exact .and houter hinner

/-- The entry of `And`, in whatever case it is written. -/
theorem Signature.find?_of_and (h : asciiLower name = "and") :
    Signature.find? name = some ⟨"And", .atLeast 1, .none, .conjunction⟩ := by
  rw [find?, h]
  decide +kernel

theorem Signature.find?_of_or (h : asciiLower name = "or") :
    Signature.find? name = some ⟨"Or", .atLeast 1, .none, .disjunction⟩ := by
  rw [find?, h]
  decide +kernel

theorem Signature.find?_of_not (h : asciiLower name = "not") :
    Signature.find? name = some ⟨"Not", .exactly 1, .none, .negation⟩ := by
  rw [find?, h]
  decide +kernel

/-- **A call of a connective settles its operands**, and asks for nothing
but those that are reached. -/
theorem Dual.call_settles {outer : String} (h : Dual name outer decisive) (hne : es ≠ [])
    (patience : Nat) (ev : Formula → Run Value) (s : Session) :
    ∃ reached r t, Settles ev decisive es s reached r t ∧
      call patience ev name es s = (r.map .boolean, t) ∧
      callAsks patience ev name es s = reached.map fun e => .evaluate e.1 := by
  obtain ⟨reached, r, t, hsettles, hgoes⟩ := Settles.of_settle patience ev name decisive es s
  have haccepts : (Arity.atLeast 1).accepts es.length = true :=
    decide_eq_true (List.length_pos_iff.2 hne)
  refine ⟨reached, r, t, hsettles, ?_⟩
  cases h with
  | and hname _ =>
    rw [← conjunction_eq_settle] at hgoes
    exact call_of_goes es (Signature.find?_of_and hname) rfl haccepts hgoes
  | or hname _ =>
    rw [← disjunction_eq_settle] at hgoes
    exact call_of_goes es (Signature.find?_of_or hname) rfl haccepts hgoes

/-! ## Negation -/

/-- A call of `Not` evaluates its argument, and negates the value. -/
theorem call_not (hname : asciiLower name = "not") (patience : Nat) (ev : Formula → Run Value)
    (e : Formula) (s : Session) :
    call patience ev name [e] s =
      ((ev e s).1.map fun v => .boolean (!v.truth), (ev e s).2) := by
  rw [call, Signature.find?_of_not hname]
  dsimp only
  rw [callBuiltin, evalArgs]
  generalize ev e s = o
  obtain ⟨stop | v, t⟩ := o
  · rfl
  · rfl

/-- **A call that the depth allows** does its work one level deeper. -/
theorem Session.evaluate_call_of_lt (h : s.depth < s.limits.maxDepth) (patience : Nat)
    (name : String) (args : List Formula) :
    s.evaluate patience (.call name args) =
      ((call patience (Session.evaluate patience) name args s.enter).1,
        (call patience (Session.evaluate patience) name args s.enter).2.leave) := by
  have hadmitted : s.tryEnter = .ok s.enter := if_pos h
  obtain ⟨r, u, hwork, ho⟩ := (s.calls_evaluate patience name args).work_of_admitted hadmitted
  rw [ho, hwork]

/-- **A level that is given back and taken again** is the level it was. -/
theorem Session.enter_leave (h : 0 < s.depth) : s.leave.enter = s := by
  have hdepth : s.depth - 1 + 1 = s.depth := by omega
  rw [leave, enter]
  dsimp only
  rw [hdepth]

/-- A negation around an operand evaluates it one level deeper. -/
theorem Session.evaluate_not (hname : asciiLower name = "not") (patience : Nat) (e : Formula)
    (hpos : 0 < s.depth) (hle : s.depth ≤ s.limits.maxDepth) :
    s.leave.evaluate patience (.call name [e]) =
      ((s.evaluate patience e).1.map fun v => .boolean (!v.truth),
        (s.evaluate patience e).2.leave) := by
  have hlt : s.leave.depth < s.leave.limits.maxDepth := by
    change s.depth - 1 < s.limits.maxDepth
    omega
  rw [evaluate_call_of_lt hlt, enter_leave hpos, call_not hname]

/-- **Negated operands are settled alike**, one level further out, by the
opposite truth value: the same ones are reached, in the same sessions. -/
theorem Settles.negated (hname : asciiLower name = "not")
    (h : Settles (Session.evaluate patience) decisive es s reached r t)
    (hpos : 0 < s.depth) (hle : s.depth ≤ s.limits.maxDepth) :
    Settles (Session.evaluate patience) (!decisive) (es.map fun e => .call name [e]) s.leave
      (reached.map fun e => (.call name [e.1], e.2.leave)) (r.map not) t.leave := by
  induction h with
  | exhausted s => exact .exhausted s.leave
  | @stopped e rest s t stop he =>
    have hnot := Session.evaluate_not hname patience e hpos hle
    rw [he] at hnot
    exact .stopped hnot
  | @decided e rest s t v he hv =>
    have hnot := Session.evaluate_not hname patience e hpos hle
    rw [he] at hnot
    exact .decided hnot (congrArg not hv)
  | @passed e rest s t u v reached r he hv _ ih =>
    have hnot := Session.evaluate_not hname patience e hpos hle
    rw [he] at hnot
    -- The operand gave back what levels it took, so the next one has as many.
    have hbal := Balanced.of_evaluate he
    rw [← hbal.depth] at hpos hle
    rw [← hbal.limits] at hle
    exact .passed hnot (fun heq => hv (Bool.not_inj heq)) (ih hpos hle)

/-- Operands are settled in one way. -/
theorem Settles.unique {reached' : List (Formula × Session)} {r' : Except Stop Bool}
    {t' : Session} (h : Settles ev decisive es s reached r t)
    (h' : Settles ev decisive es s reached' r' t') : reached = reached' ∧ r = r' ∧ t = t' := by
  induction h generalizing reached' r' t' with
  | exhausted s =>
    cases h'
    exact ⟨rfl, rfl, rfl⟩
  | stopped he =>
    cases h' with
    | stopped he' =>
      obtain ⟨⟨⟩, rfl⟩ := Prod.mk.inj (he.symm.trans he')
      exact ⟨rfl, rfl, rfl⟩
    | decided he' _ => cases he.symm.trans he'
    | passed he' _ _ => cases he.symm.trans he'
  | decided he hv =>
    cases h' with
    | stopped he' => cases he.symm.trans he'
    | decided he' _ =>
      obtain ⟨-, rfl⟩ := Prod.mk.inj (he.symm.trans he')
      exact ⟨rfl, rfl, rfl⟩
    | passed he' hv' _ =>
      cases he.symm.trans he'
      exact absurd hv hv'
  | passed he hv _ ih =>
    cases h' with
    | stopped he' => cases he.symm.trans he'
    | decided he' hv' =>
      cases he.symm.trans he'
      exact absurd hv' hv
    | passed he' _ hrest =>
      cases he.symm.trans he'
      obtain ⟨rfl, rfl, rfl⟩ := ih hrest
      exact ⟨rfl, rfl, rfl⟩

/-- **De Morgan's laws hold with side effects.** Negating a connective of
some operands, and joining the negated operands by the dual connective,
give the same outcome and leave the same session, where two levels of
calls are left. Either way the operands are settled two levels deeper, in
the same sessions and up to the same one: the connective under the
negation asks for those that are reached; the dual one, a level further
out, for their negations, which take that level. -/
theorem de_morgan_laws_hold_with_effects {inner outer : String} (hnot : asciiLower name = "not")
    (hdual : Dual inner outer decisive) (patience : Nat) (hne : es ≠ [])
    (hlevels : s.depth + 2 ≤ s.limits.maxDepth) :
    s.evaluate patience (.call name [.call inner es]) =
        s.evaluate patience (.call outer (es.map fun e => .call name [e])) ∧
      ∃ reached r t,
        Settles (Session.evaluate patience) decisive es s.enter.enter reached r t ∧
        callAsks patience (Session.evaluate patience) inner es s.enter.enter =
          reached.map (fun e => .evaluate e.1) ∧
        Settles (Session.evaluate patience) (!decisive) (es.map fun e => .call name [e]) s.enter
          (reached.map fun e => (.call name [e.1], e.2.leave)) (r.map not) t.leave ∧
        callAsks patience (Session.evaluate patience) outer (es.map fun e => .call name [e])
            s.enter =
          reached.map (fun e => .evaluate (.call name [e.1])) ∧
        (∀ e ∈ reached, e.2.depth = s.depth + 2) ∧
        s.evaluate patience (.call name [.call inner es]) =
          (r.map fun b => .boolean (!b), t.leave.leave) := by
  obtain ⟨reached, r, t, hsettles, hcall, hasks⟩ :=
    hdual.call_settles hne patience (Session.evaluate patience) s.enter.enter
  have houter : es.map (fun e => Formula.call name [e]) ≠ [] := by rwa [Ne, List.map_eq_nil_iff]
  obtain ⟨reached', r', t', hsettles', hcall', hasks'⟩ :=
    hdual.symm.call_settles houter patience (Session.evaluate patience) s.enter
  have hdepth : s.enter.enter.depth = s.depth + 2 := rfl
  -- The operands of the dual connective are the negated ones, so it goes the same way.
  have hnegated := hsettles.negated hnot (by omega) (by rw [hdepth]; exact hlevels)
  obtain ⟨rfl, rfl, rfl⟩ := hnegated.unique hsettles'
  have hinner : s.evaluate patience (.call name [.call inner es]) =
      (r.map fun b => .boolean (!b), t.leave.leave) := by
    have hlt : s.enter.depth < s.enter.limits.maxDepth := hlevels
    rw [Session.evaluate_call_of_lt (by omega), call_not hnot,
      Session.evaluate_call_of_lt hlt, hcall]
    cases r with
    | error stop => rfl
    | ok b => rfl
  refine ⟨?_, reached, r, t, hsettles, hasks, hnegated, ?_, ?_, hinner⟩
  · rw [hinner, Session.evaluate_call_of_lt (by omega), hcall']
    cases r with
    | error stop => rfl
    | ok b => rfl
  · rw [hasks', List.map_map]
    rfl
  · exact fun e hmem => (hsettles.depth_eq e hmem).trans hdepth

/-- A session with three levels of calls. -/
def shallow : Session where
  limits := { maxDepth := 3 }

/-- A true operand that sets a variable, one that ends the run, and one
that is not reached. -/
def leaving : List Formula :=
  [.call "Set" [.text "a", .text "on"], .call "Exit" [], .var "a"]

/-- The operands are calls on the last level. Both forms end the run at the
second of them. -/
theorem leaving_settles_alike :
    asciiLower "NOT" = "not" ∧ Dual "and" "Or" false ∧ leaving ≠ [] ∧
      shallow.depth + 2 ≤ shallow.limits.maxDepth ∧
      shallow.evaluate 1 (.call "NOT" [.call "and" leaving]) =
        shallow.evaluate 1 (.call "Or" (leaving.map fun e => .call "NOT" [e])) ∧
      ∃ reached r t, Settles (Session.evaluate 1) false leaving shallow.enter.enter reached r t ∧
        reached.length = 2 ∧ r = .error (.signal .exit) := by
  have hnot : asciiLower "NOT" = "not" := by decide
  have hdual : Dual "and" "Or" false := .and (by decide) (by decide)
  have hne : leaving ≠ [] := List.cons_ne_nil _ _
  have hlevels : shallow.depth + 2 ≤ shallow.limits.maxDepth := by decide
  obtain ⟨hsame, reached, r, t, hsettles, hasks, -, -, -, hinner⟩ :=
    de_morgan_laws_hold_with_effects hnot hdual 1 hne hlevels
  refine ⟨hnot, hdual, hne, hlevels, hsame, reached, r, t, hsettles, ?_, ?_⟩
  · have hlength : (callAsks 1 (Session.evaluate 1) "and" leaving
        shallow.enter.enter).length = 2 := by rfl
    rwa [hasks, List.length_map] at hlength
  · have hexit : (shallow.evaluate 1 (.call "NOT" [.call "and" leaving])).1 =
        .error (.signal .exit) := by rfl
    rw [hinner] at hexit
    cases r with
    | error stop =>
      obtain rfl : stop = .signal .exit := Except.error.inj hexit
      rfl
    | ok b => cases hexit

end MailFormula
