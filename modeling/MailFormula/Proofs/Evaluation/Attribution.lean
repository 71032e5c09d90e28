import MailFormula.Proofs.Evaluation.Fragment
import MailFormula.Proofs.Evaluation.Origin
/-!
# Whose failure it is

A failure names the function that failed, as it is written, or the header
field that could not be read, and sometimes an argument. It may come from
far away: out of the body of a function, out of a text that was read as a
formula, or out of what stood in for another failure. This file shows that
it can always be found there.

A failure is made in one of a few steps (`Raises`) and then only handed
on, so there is a moment at which it was made (`raised_of_leads`). At that
moment a formula is begun or an action ends, and the action belongs to a
call (`origin`). What is begun at any moment is among the formulas that
the evaluation involves (`Family.involved`), and the argument that a
built-in blames among those of its call (`Builtin.onValues_abides`).
-/

namespace MailFormula

/-- **A formula and its parts.** -/
inductive Formula.HasPart (f : Formula) : Formula → Prop
  | self : f.HasPart f
  | argument {name : String} {args : List Formula} {g : Formula} :
      f.HasPart (.call name args) → g ∈ args → f.HasPart g

namespace Course

variable {c d : State} {k : List Pending} {f : Formula} {s : Session} {p : Pending}
  {name : String} {e : Failure}

/-! ## The moment of a failure -/

/-- **How a step may make a failure.** -/
inductive Raises (c : State) : Failure → Prop
  /-- The content of the message at hand is not there. -/
  | field {name : String} {code : ErrorCode} :
      c.control = .evaluate (.field name) → Raises c { code, function := some ("%" ++ name) }
  /-- A call is not admitted. -/
  | tooDeep {name : String} {args : List Formula} :
      c.control = .evaluate (.call name args) →
        Raises c { c.session.tooDeep with function := some name }
  | wrongCount {name : String} {args : List Formula} :
      c.control = .evaluate (.call name args) → Raises c (wrongCount name args.length)
  | unknown {name : String} {args : List Formula} :
      c.control = .evaluate (.call name args) →
        Raises c { code := .unknownFunction, function := some name }
  /-- An action fails. -/
  | act {name : String} {fault : Fault} :
      c.control = .act name (.fail fault) → Raises c (fault.inCall name)

theorem raises_start (h : (start f k s).control = .give (.error (.failure e))) :
    Raises ⟨.evaluate f, k, s⟩ e := by
  cases f with
  | field name =>
    change Control.give (fieldValue name s).1 = _ at h
    rw [fieldValue] at h
    generalize s.context.content s.store .header = o at h
    obtain ⟨code | handle, context, store⟩ := o
    · cases h
      exact .field rfl
    · cases h
  | call name args =>
    rw [start, Session.tryEnter] at h
    split at h
    · rename_i hdeep
      split at hdeep
      · cases hdeep
      · cases hdeep
        cases h
        exact .tooDeep rfl
    · simp only [dispatch] at h
      split at h
      · split at h
        · cases h
          exact .wrongCount rfl
        · split at h
          · cases h
          · cases h
      · split at h
        · cases h
          exact .unknown rfl
        · cases h
  | _ => cases h

/-- Serving a request makes no failure: what a plain one stops for is a
signal. -/
theorem control_serve_ne {r : Request} {next : r.Reply → Action Value} (e : Failure) :
    (serve name k s r next).control ≠ .give (.error (.failure e)) := by
  intro h
  by_cases hplain : r.isPlain = true
  · rw [serve_of_isPlain hplain] at h
    have hcases := effect_cases hplain s
    generalize r.effect s = o at hcases h
    obtain ⟨stop | a, t⟩ := o
    · rcases hcases with ⟨a, ha, -⟩ | ⟨g, hg, -⟩
      · cases ha
      · cases hg
        cases h
    · cases h
  · cases r with
    | evaluate _ | attempt _ | loop _ _ | visit _ _ _ => cases h
    | _ => exact hplain rfl

/-- Nothing pending makes one either. -/
theorem eq_failure_of_resume {r : Except Stop Value}
    (h : (resume r k s p).control = .give (.error (.failure e))) : r = .error (.failure e) := by
  cases p with
  | call => exact Control.give.inj h
  | frame => exact Control.give.inj h
  | argument target done rest | value fn next | body test body rounds fn next
  | found outside fn next =>
    obtain e | v := r
    · exact Control.give.inj h
    · cases h
  | attempt fn next =>
    obtain (e | g | -) | v := r
    · cases h
    · cases h
    · cases h
    · cases h
  | condition test body rounds fn next =>
    obtain e | v := r
    · exact Control.give.inj h
    · simp only [resume] at h
      split at h
      · split at h
        · split at h
          · cases h
          · cases h
        · cases h
      · cases h
  | visit outside found fn next =>
    obtain e | v := r
    · exact Control.give.inj h
    · simp only [resume] at h
      split at h
      · split at h
        · cases h
        · cases h
      · cases h

/-- **A failure that is there after a step** is made in it, or was there. -/
theorem raises_step (h : (step c).control = .give (.error (.failure e))) :
    c.control = .give (.error (.failure e)) ∨ Raises c e := by
  obtain ⟨control, k, s⟩ := c
  cases control with
  | evaluate f => exact .inr (raises_start h)
  | arguments target done rest =>
    cases rest with
    | cons f rest => cases h
    | nil =>
      cases target with
      | builtin sig name => cases h
      | user name body => cases h
  | act name a =>
    cases a with
    | done v => cases h
    | fail fault =>
      cases h
      exact .inr (.act rfl)
    | look next => cases h
    | request r next => exact absurd h (control_serve_ne e)
  | give r =>
    cases k with
    | nil => exact .inl h
    | cons p k => exact .inl (congrArg Control.give (eq_failure_of_resume h))

/-- **Every failure was made at some moment**, whether or not something
takes it for an answer. -/
theorem raised_of_leads (hc : Leads (beginning f s) c)
    (h : c.control = .give (.error (.failure e))) :
    ∃ d, Leads (beginning f s) d ∧ Raises d e := by
  obtain ⟨n, rfl⟩ := hc
  induction n with
  | zero => cases h
  | succ n ih =>
    rw [Function.iterate_succ_apply'] at h
    rcases raises_step h with h | hraises
    · exact ih h
    · exact ⟨_, ⟨n, rfl⟩, hraises⟩

/-! ## The formulas that an evaluation involves -/

/-- **The formulas that an evaluation begins with**: the formula itself,
the bodies of the functions that there are, and what is read from texts
while it runs. -/
inductive Source (f : Formula) (s : Session) : Formula → Prop
  | formula : Source f s f
  | function {name : String} {body : Formula} :
      s.functions.get? name = some body → Source f s body
  /-- A text is evaluated. -/
  | eval {d : State} {sig : Signature} {name : String} {v : Value} {g : Formula} :
      Leads (beginning f s) d → d.control = .arguments (.builtin sig name) [v] [] →
        sig.builtin = .eval → Formula.parse (v.text d.session.view.live) = .ok g → Source f s g
  /-- A file is evaluated. -/
  | includeFile {d : State} {sig : Signature} {name : String} {v : Value} {text : String}
      {g : Formula} :
      Leads (beginning f s) d → d.control = .arguments (.builtin sig name) [v] [] →
        sig.builtin = .includeFile →
          d.session.files.read (resolvePath d.session.includeDir (v.text d.session.view.live)) =
            .ok text →
          Formula.parse text = .ok g → Source f s g

/-- **The formulas that an evaluation involves** are those and their parts. -/
def Involves (f : Formula) (s : Session) (g : Formula) : Prop :=
  ∃ root, Source f s root ∧ root.HasPart g

end Course

/-- They are a family: a function that is defined on the way has a part of
some formula as its body. -/
def Family.involved (f : Formula) (s : Session) : Family where
  holds := Course.Involves f s
  asks := fun r => ∀ g ∈ r.formulas, Course.Involves f s g
  args := fun ⟨root, hroot, hpart⟩ _ hg => ⟨root, hroot, hpart.argument hg⟩
  formulas := fun h => h
  onFormulas := fun {_ args sig} ⟨root, hroot, hpart⟩ _ =>
    (sig.builtin.onFormulas_only_args args).mono fun _ h g hg =>
      ⟨root, hroot, hpart.argument (h.2 g hg)⟩

namespace Course

variable {c d : State} {f : Formula} {s : Session} {name : String} {e : Failure}

/-- What is read at a moment of the evaluation is involved. -/
theorem receives_involved (hd : Leads (beginning f s) d) : d.Receives (.involved f s) := by
  intro name args sig values hcontrol _ _ _
  have hread : ∀ {text}, (∀ g, Formula.parse text = .ok g → Source f s g) →
      (Behaviour.evaluateText text).OnlyIn (Family.involved f s).asks d.session := by
    intro text hsource
    rw [Behaviour.evaluateText]
    split
    · rename_i g hparse
      have hg : Involves f s g := ⟨g, hsource g hparse, .self⟩
      exact .request (List.forall_mem_singleton.2 hg) fun _ _ => .done _
    · exact .fail _
  by_cases heval : sig.builtin = .eval
  · rw [heval]
    change (Behaviour.eval values).OnlyIn _ _
    fun_cases Behaviour.eval values with
    | case1 v => exact .look (hread fun _ => .eval hd hcontrol heval)
    | case2 => exact .fail _
  · by_cases hinclude : sig.builtin = .includeFile
    · rw [hinclude]
      change (Behaviour.includeFile values).OnlyIn _ _
      fun_cases Behaviour.includeFile values with
      | case1 v =>
        refine .look ?_
        dsimp only
        split
        · rename_i text htext
          exact hread fun _ => .includeFile hd hcontrol hinclude htext
        · exact .fail _
      | case2 => exact .fail _
    · have hnone := sig.builtin.onValues_only_values heval hinclude values
      exact (hnone.mono fun _ hr _ hg => absurd (hr ▸ hg) List.not_mem_nil).onlyIn d.session

/-- **What an evaluation does, it does with formulas that it involves.** -/
theorem within_involved (hc : Leads (beginning f s) c) : c.Within (.involved f s) :=
  within_of_receives ⟨f, .formula, .self⟩ (fun _ body hbody => ⟨body, .function hbody, .self⟩)
    (fun _ => receives_involved) hc

/-- **A fault is of a call that the evaluation involves**, and what it
blames is among the arguments of that call. -/
theorem call_of_fault {fault : Fault} (hc : Leads (beginning f s) c)
    (h : c.control = .act name (.fail fault)) :
    ∃ sig args, Signature.find? name = some sig ∧ sig.arity.accepts args.length = true ∧
      Involves f s (.call name args) ∧ fault.Blames args.length := by
  obtain ⟨d, hd, -, hbegins⟩ := origin hc h
  have hwithin := (within_involved hd).control
  cases hbegins with
  | @formulas sig args u hcontrol _ hsig haccepts hleft =>
    rw [hcontrol] at hwithin
    have habides := (sig.builtin.onFormulas_abides args).left hleft
    exact ⟨sig, args, hsig, haccepts, hwithin, Action.abides_fail.1 habides⟩
  | @values sig values hcontrol hleft =>
    rw [hcontrol] at hwithin
    obtain ⟨⟨hsig, haccepts, args, hcount, hholds⟩, -⟩ := hwithin
    have hlength : values.length = args.length := hcount.symm
    have habides := (sig.builtin.onValues_abides values).left hleft
    rw [hlength] at habides
    exact ⟨sig, args, hsig, hcount ▸ haccepts, hholds, Action.abides_fail.1 habides⟩

/-- **Whose failure it is**: that of a header field or of a call, by the
name as written; a call whose argument is blamed is of a built-in that
accepts so many arguments. -/
structure Attributed (f : Formula) (s : Session) (e : Failure) (name : String) : Prop where
  function : e.function = some name
  involved : (∃ field, name = "%" ++ field ∧ Involves f s (.field field)) ∨
    ∃ args, Involves f s (.call name args)
  argument : ∀ i, e.argument = some i → 1 ≤ i ∧ ∃ sig args,
    Signature.find? name = some sig ∧ Involves f s (.call name args) ∧ i ≤ args.length ∧
      sig.arity.accepts args.length = true

/-- A failure that is made belongs to what is being done. -/
theorem attributed_of_raises (hc : Leads (beginning f s) c) (h : Raises c e) :
    ∃ name, Attributed f s e name := by
  have hwithin := (within_involved hc).control
  cases h with
  | field hcontrol =>
    rw [hcontrol] at hwithin
    exact ⟨_, rfl, .inl ⟨_, rfl, hwithin⟩, nofun⟩
  | tooDeep hcontrol =>
    rw [hcontrol] at hwithin
    exact ⟨_, rfl, .inr ⟨_, hwithin⟩, nofun⟩
  | wrongCount hcontrol =>
    rw [hcontrol] at hwithin
    exact ⟨_, rfl, .inr ⟨_, hwithin⟩, nofun⟩
  | unknown hcontrol =>
    rw [hcontrol] at hwithin
    exact ⟨_, rfl, .inr ⟨_, hwithin⟩, nofun⟩
  | act hcontrol =>
    obtain ⟨sig, args, hsig, haccepts, hcall, hblames⟩ := call_of_fault hc hcontrol
    refine ⟨_, rfl, .inr ⟨args, hcall⟩, fun i hi => ?_⟩
    obtain ⟨hleast, hmost⟩ := hblames i hi
    exact ⟨hleast, sig, args, hsig, hcall, hmost, haccepts⟩

end Course

/-- **Every failure is attributed.** An evaluation that fails names a
function: `%` and the name of a header field, or the name of a call as it
is written, and the field or the call is in the formula, in the body of a
function, or in a text that was read as a formula on the way. If an
argument is blamed, then it is counted from 1, the name is that of a
built-in, and there is such a call, with a number of arguments that the
built-in accepts and that argument among them. -/
theorem failures_are_attributed {patience : Nat} {f : Formula} {s t : Session} {e : Failure}
    (h : s.evaluate patience f = (.error (.failure e), t)) :
    ∃ name, Course.Attributed f s e name := by
  have hend := Course.leads_halt_of_evaluate h nofun
  obtain ⟨d, hd, hraises⟩ := Course.raised_of_leads hend rfl
  exact Course.attributed_of_raises hd hraises

/-- A session with a function that searches for a number. -/
def searching : Session :=
  { functions := ({} : Table Formula).put "Pick" (.call "regexFIND" [.text "a", .number 1]) }

/-- The header field fails for want of a message, and what stands in for
it fails in the body of the function, at the second argument. -/
theorem fallback_fails_in_body :
    ∃ e t, searching.evaluate 0 (.call "Catch" [.field "Subject", .call "pick" []]) =
        (.error (.failure e), t) ∧
      e.function = some "regexFIND" ∧ e.argument = some 2 ∧
      ∃ args, Course.Involves (.call "Catch" [.field "Subject", .call "pick" []]) searching
        (.call "regexFIND" args) ∧ 2 ≤ args.length := by
  have hresult : (searching.evaluate 0 (.call "Catch" [.field "Subject", .call "pick" []])).1 =
      .error (.failure { code := .invalidArgType, function := some "regexFIND",
                         argument := some 2 }) := rfl
  obtain ⟨name, hattributed⟩ := failures_are_attributed (Prod.ext hresult rfl)
  obtain ⟨-, sig, args, -, hcall, hmost, -⟩ := hattributed.argument 2 rfl
  obtain rfl := Option.some.inj hattributed.function
  exact ⟨_, _, Prod.ext hresult rfl, rfl, rfl, args, hcall, hmost⟩

end MailFormula
