import MailFormula.Proofs.Evaluation.Twin
/-!
# The names of built-ins are reserved

Nothing keeps a formula from defining a function under the name of a
built-in. But what a call means is settled by its name, and only a name
that is no built-in's is looked up among the functions, at the moment of
the call. So sessions that differ in functions with reserved names alone
(`Session.SameButReserved`) evaluate every formula in step, the texts
that are read as formulas included: `Course.reserving` is that relation
as a `Twin`. A definition under a reserved name leads from one such
session to another, wherever it is made.
-/

namespace MailFormula

/-- The name of a built-in, in any case. -/
def Reserved (name : String) : Prop := Signature.find? name ≠ none

/-- **The same but for functions with reserved names.** -/
structure Session.SameButReserved (s t : Session) : Prop where
  rest : t = { s with functions := t.functions }
  functions : ∀ name, ¬ Reserved name → t.functions.get? name = s.functions.get? name

namespace Session.SameButReserved

variable {s t u : Session}

theorem refl (s : Session) : s.SameButReserved s := ⟨rfl, fun _ _ => rfl⟩

theorem symm (h : s.SameButReserved t) : t.SameButReserved s where
  rest := by rw [h.rest]
  functions := fun name hname => (h.functions name hname).symm

/-- Such sessions differ in what no request looks at. -/
theorem eq_under (h : s.SameButReserved t) : t = s.under s.limits t.functions := h.rest

/-- A definition leaves them such, under whatever name it is made. -/
theorem define (h : s.SameButReserved t) (name : String) (body : Formula) :
    SameButReserved { s with functions := s.functions.put name body }
      { t with functions := t.functions.put name body } where
  rest := by rw [h.rest]
  functions := by
    intro other hother
    rw [Table.get?_put, Table.get?_put, h.functions other hother]

/-- **A definition under a reserved name** makes no other difference. -/
theorem of_define {name : String} (hname : Reserved name) (body : Formula) (s : Session) :
    SameButReserved s { s with functions := s.functions.put name body } where
  rest := rfl
  functions := by
    intro other hother
    have hne : Text.asciiLower name ≠ Text.asciiLower other := by
      intro heq
      -- Names that differ in case are looked up alike.
      rw [Reserved, Signature.find?, heq] at hname
      exact hother hname
    rw [Table.get?_put, if_neg hne]

/-- Both serve a plain request alike. -/
theorem effect {r : Request} (hr : r.isPlain = true) (h : s.SameButReserved t) :
    (r.effect t).1 = (r.effect s).1 ∧ SameButReserved (r.effect s).2 (r.effect t).2 := by
  by_cases hdefine : ∃ name body, r = .define name body
  · obtain ⟨name, body, rfl⟩ := hdefine
    exact ⟨rfl, h.define name body⟩
  · have hne : ∀ name body, r ≠ .define name body := fun name body he => hdefine ⟨name, body, he⟩
    rw [h.eq_under, effect_under hr hne]
    refine ⟨rfl, ?_, fun name hname => ?_⟩
    · rw [← (sameSetting_effect hr s).limits]
      rfl
    · rw [functions_effect_of_ne hr hne]
      exact h.functions name hname

end Session.SameButReserved

/-- **Functions with reserved names make no difference to a step.** -/
def Course.reserving : Course.Twin where
  alike := Session.SameButReserved
  asks := fun _ => True
  limits := by
    intro s t h
    rw [h.eq_under]
    exact Limits.Below.refl s.limits
  depth := fun h => by rw [h.eq_under]; rfl
  view := fun h => by rw [h.eq_under]; rfl
  functions := by
    intro s t h name hname
    have hfunctions := Session.SameButReserved.functions h
    exact hfunctions name (not_not.2 hname)
  effect := fun h _ hr => h.effect hr
  field := trivial
  enter := fun h => ⟨congrArg Session.enter h.rest, h.functions⟩
  leave := fun h => ⟨congrArg Session.leave h.rest, h.functions⟩
  push := fun args h => ⟨congrArg (Session.pushFrame · args) h.rest, h.functions⟩
  pop := fun h => ⟨congrArg Session.popFrame h.rest, h.functions⟩
  openChild := fun key h => ⟨congrArg (Session.openChild · key) h.rest, h.functions⟩
  withContextOf := by
    intro s t o p h k
    refine ⟨?_, h.functions⟩
    rw [h.eq_under, k.eq_under]
    rfl

namespace Course

variable {s t : Session}

theorem reserving_pends (p : Pending) : reserving.Pends p p := by
  cases p with
  | visit outside found name next => exact .visit (.refl outside)
  | found outside name next => exact .found (.refl outside)
  | _ => exact .same rfl

/-- The limits are the same in both. -/
theorem limits_eq_of_reserving (h : reserving.alike s t) : t.limits = s.limits := by
  have hrest : s.SameButReserved t := h
  rw [hrest.eq_under]
  rfl

end Course

/-- **Built-ins cannot be redefined.** Let two sessions be the same but
for functions under names of built-ins, in any case. Whatever formula is
evaluated, if the evaluation finishes in one of them, it finishes in the
other with the same outcome, and it leaves sessions that are again the
same but for such functions. And wherever a definition under such a name
is made, from there on every step does the same as if it had not been
made. -/
theorem builtins_cannot_be_redefined :
    (∀ s t : Session, s.SameButReserved t → ∀ (f : Formula) (patience : Nat) r s',
      s.evaluate patience f = (r, s') → r ≠ .error .unfinished →
        ∃ patience' t', t.evaluate patience' f = (r, t') ∧ s'.SameButReserved t') ∧
    ∀ (c : Course.State) (fn name : String) (body : Formula) (next : Unit → Action Value),
      c.control = .act fn (.request (.define name body) next) → Reserved name →
      ∀ n,
        (Course.step^[n] { c with control := .act fn (next ()) }).control =
          (Course.step^[n + 1] c).control ∧
        (Course.step^[n] { c with control := .act fn (next ()) }).session.SameButReserved
          (Course.step^[n + 1] c).session := by
  refine ⟨fun s t h f patience r s' hval hr => ?_, ?_⟩
  · have hend := Course.leads_halt_of_evaluate hval hr
    obtain ⟨t', ht', hleft⟩ := Course.Twin.halts (T := Course.reserving) h
      (fun _ _ _ _ _ _ _ => trivial) (fun _ _ _ _ h => Course.limits_eq_of_reserving h) hend
    obtain ⟨-, patience', hval'⟩ := Course.halts_iff.1 ht'
    exact ⟨patience', t', hval', hleft⟩
  · rintro ⟨control, k, s⟩ fn name body next rfl hname n
    -- The moment after the definition is alike to the one without it.
    have hpends : List.Forall₂ Course.reserving.Pends k k :=
      List.forall₂_same.2 fun p _ => Course.reserving_pends p
    have hafter : Course.reserving.Alike ⟨.act fn (next ()), k, s⟩
        (Course.step ⟨.act fn (.request (.define name body) next), k, s⟩) :=
      ⟨rfl, hpends, .of_define hname body s⟩
    have halike := Course.Twin.alike_steps hafter (fun _ _ _ _ _ _ _ => trivial)
      (fun _ _ _ _ h => Course.limits_eq_of_reserving h) n
    rw [← Function.iterate_succ_apply] at halike
    exact ⟨halike.control.symm, halike.session⟩

/-- A session with a function under the name of a built-in. -/
def usurped : Session := { functions := ({} : Table Formula).put "cONCAT" (.call "Exit" []) }

/-- Takes the name of the choice, and then reads a text that calls it. -/
def usurping : Formula :=
  .call "Progn" [.call "Defun" [.text " iF", .call "Exit" []],
    .call "Eval" [.text "@if(@Concat('a'), 1, 2)"]]

/-- The moment at which it does so. -/
def usurpation : Course.State where
  control := .act "Defun" (.request (.define "iF" (.call "Exit" [])) fun _ => .done (.boolean true))
  pending := [.call]
  session := usurped

/-- The text is evaluated as in a session without functions: the choice is
made, and its value is one. Nor does it matter, two steps after it, that
the name was taken. -/
theorem usurping_changes_nothing :
    (({} : Session).SameButReserved usurped ∧ Reserved "iF") ∧
    (∃ v s', ({} : Session).evaluate 0 usurping = (.ok v, s') ∧ v.toNumber = 1 ∧
      ∃ patience' t', usurped.evaluate patience' usurping = (.ok v, t') ∧
        s'.SameButReserved t') ∧
    (Course.step^[3] usurpation).session.functions.get? "if" = some (.call "Exit" []) ∧
    (Course.step^[2] { usurpation with control := .act "Defun" (.done (.boolean true)) }).control =
      (Course.step^[3] usurpation).control := by
  have husurped : ({} : Session).SameButReserved usurped :=
    .of_define (by unfold Reserved; decide) _ _
  have hif : Reserved "iF" := by unfold Reserved; decide
  have hrun : (({} : Session).evaluate 0 usurping).1.toOption.map Value.toNumber = some 1 := by
    decide +kernel
  obtain ⟨htwo, hdefine⟩ := builtins_cannot_be_redefined
  refine ⟨⟨husurped, hif⟩, ?_, rfl, (hdefine usurpation _ _ _ _ rfl hif 2).1⟩
  rcases hval : ({} : Session).evaluate 0 usurping with ⟨e | v, s'⟩
  · rw [hval] at hrun
    cases hrun
  · rw [hval] at hrun
    exact ⟨v, s', rfl, Option.some.inj hrun, htwo _ _ husurped _ 0 _ _ hval nofun⟩

end MailFormula
