import MailFormula.Eval
import Mathlib.Data.List.Forall2
/-!
# Built-ins on values

A built-in that wants values is called with formulas that have them. Where
the formulas leave the session as it is, the call is the built-in's action
on the values, one level deeper; and where the action does too, the call is
a value itself.
-/

namespace MailFormula

variable {patience below : Nat} {s : Session} {name : String} {sig : Signature}
  {args : List Formula} {vs : List Value} {v : Value}

/-- **Arguments that leave the session as it is** have their values there. -/
theorem evalArgs_of_forall₂ {evaluate : Formula → Run Value}
    (h : List.Forall₂ (fun f v => evaluate f s = (.ok v, s)) args vs) :
    evalArgs evaluate args s = (.ok vs, s) := by
  induction h with
  | nil => rfl
  | cons hv _ ih =>
    rw [evalArgs, hv]
    dsimp only
    rw [ih]

/-- **A call on values** is the action of the built-in on them. -/
theorem eval_builtin (hsig : Signature.find? name = some sig) (hlazy : sig.builtin.isLazy = false)
    (haccepts : sig.arity.accepts args.length = true)
    (hargs : List.Forall₂ (fun f v => eval patience below f s.enter = (.ok v, s.enter)) args vs) :
    eval patience (below + 1) (.call name args) s =
      (((sig.builtin.onValues vs).run (perform patience (eval patience below)) name s.enter).1,
        ((sig.builtin.onValues vs).run (perform patience (eval patience below)) name
          s.enter).2.leave) := by
  rw [eval, call, hsig]
  dsimp only
  rw [callBuiltin, haccepts, hlazy, evalArgs_of_forall₂ hargs]
  rfl

/-- **A call that is a value**: its action gives the value and leaves the
session as it is. -/
theorem eval_builtin_eq_ok (hsig : Signature.find? name = some sig)
    (hlazy : sig.builtin.isLazy = false) (haccepts : sig.arity.accepts args.length = true)
    (hargs : List.Forall₂ (fun f v => eval patience below f s.enter = (.ok v, s.enter)) args vs)
    (hv : (sig.builtin.onValues vs).run (perform patience (eval patience below)) name s.enter =
      (.ok v, s.enter)) :
    eval patience (below + 1) (.call name args) s = (.ok v, s) := by
  rw [eval_builtin hsig hlazy haccepts hargs, hv]
  rfl

/-- **A call in a session**, of a built-in with arguments that have their
values at any level. -/
theorem evaluate_builtin (hdepth : s.depth < s.limits.maxDepth)
    (hsig : Signature.find? name = some sig) (hlazy : sig.builtin.isLazy = false)
    (haccepts : sig.arity.accepts args.length = true)
    (hargs : ∀ below,
      List.Forall₂ (fun f v => eval patience below f s.enter = (.ok v, s.enter)) args vs) :
    ∃ evaluate, s.evaluate patience (.call name args) =
      (((sig.builtin.onValues vs).run (perform patience evaluate) name s.enter).1,
        ((sig.builtin.onValues vs).run (perform patience evaluate) name s.enter).2.leave) := by
  obtain ⟨below, hbelow⟩ : ∃ below, s.limits.maxDepth - s.depth = below + 1 :=
    ⟨s.limits.maxDepth - s.depth - 1, by omega⟩
  refine ⟨eval patience below, ?_⟩
  rw [Session.evaluate, hbelow, eval_builtin hsig hlazy haccepts (hargs below)]

end MailFormula
