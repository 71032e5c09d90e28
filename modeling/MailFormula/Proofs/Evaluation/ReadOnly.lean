import MailFormula.Proofs.Evaluation.Cache
import MailFormula.Proofs.Evaluation.Ending
import MailFormula.Proofs.Evaluation.Fragment
/-!
# Formulas that only read

Some built-ins only read: they evaluate their arguments, look at the
session and ask for content. A formula of such built-ins, and of
functions whose bodies are made of them, opens frames, calls and visits
like any other; but what it opened it has closed at the end, and in
between nothing was asked for that changes the session. So it leaves the
session as it found it, whatever its outcome, up to the content that is
kept and the fetches that are counted; and since these make no difference
(`Course.rerun`), it has the same outcome again.
-/

namespace MailFormula

/-! ## Built-ins that only read -/

/-- **Whether a built-in only reads**, with so many arguments. `Variable`
binds what it gets as a second argument, and a flag function sets the
flag to what it gets. -/
def Builtin.readOnly : Builtin → Nat → Bool
  | .set, _ | .defun, _ | .eval, _ | .includeFile, _ | .exit, _ => false
  | .regexFind, _ | .regexMatch, _ | .regexReplace, _ => false
  | .execute, _ | .save, _ | .setProfile, _ | .inputBox, _ | .messageBox, _ | .now, _ => false
  | .variableValue, count => count ≤ 1
  | .flag _, count => count = 0
  | _, _ => true

/-- Whether a request changes nothing by itself but what is fetched. -/
def Request.isReading : Request → Bool
  | evaluate _ | attempt _ | loop _ _ | visit _ _ _ | content _ => true
  | _ => false

namespace Behaviour

open MailFormula.Action

variable {P : Request → Prop}

/-- `Variable` without a value to bind asks for nothing. -/
theorem only_variableValue_of_length {args : List Value} (h : args.length ≤ 1) :
    (variableValue args).Only P := by
  match args, h with
  | [], _ => exact .fail _
  | [name], _ =>
    refine .look fun view => ?_
    dsimp only
    split
    · exact .fail _
    · exact .done _

/-- Nor does a flag function without a value to set. -/
theorem only_flag_nil (f : Flag) : (flag f []).Only P :=
  (abides_view.bind fun view => (abides_messageAtHand view).bind fun _ => .done _ :
    (flag f []).Abides P 0).only

end Behaviour

namespace Builtin

variable {b : Builtin} {count : Nat}

/-- What the table says of built-ins that only read. -/
theorem isReading_of_asker (h : b.readOnly count = true) {r : Request} (hask : b ∈ r.askers) :
    r.isReading = true ∨ b = .variableValue ∨ ∃ f, b = .flag f := by
  cases r with
  | evaluate _ | attempt _ | loop _ _ | visit _ _ _ | content _ => exact .inl rfl
  | assign name v isGlobal =>
    simp only [Request.askers, List.mem_cons, List.not_mem_nil, or_false] at hask
    rcases hask with rfl | rfl
    · cases h
    · exact .inr (.inl rfl)
  | mark flag on =>
    simp only [Request.askers, List.mem_cons, List.not_mem_nil, or_false] at hask
    exact .inr (.inr ⟨flag, hask⟩)
  | _ =>
    simp only [Request.askers, List.mem_cons, List.not_mem_nil, or_false] at hask
    rcases hask with rfl | rfl | rfl <;> cases h

/-- **A built-in that only reads asks for nothing else.** -/
theorem onFormulas_reading (h : b.readOnly count = true) (args : List Formula) :
    (b.onFormulas args).Only (fun r => r.isReading = true) := by
  by_cases hvalues : b = .variableValue ∨ ∃ f, b = .flag f
  -- These two receive values, and do nothing with formulas.
  · obtain rfl | ⟨f, rfl⟩ := hvalues
    · exact .fail _
    · exact .fail _
  · exact (b.onFormulas_only args).mono fun r hask =>
      (isReading_of_asker h hask).resolve_right hvalues

theorem onValues_reading {args : List Value} (h : b.readOnly args.length = true) :
    (b.onValues args).Only (fun r => r.isReading = true) := by
  by_cases hvalues : b = .variableValue ∨ ∃ f, b = .flag f
  · obtain rfl | ⟨f, rfl⟩ := hvalues
    · exact Behaviour.only_variableValue_of_length (of_decide_eq_true h)
    · obtain rfl := List.eq_nil_of_length_eq_zero (of_decide_eq_true h)
      exact Behaviour.only_flag_nil f
  · exact (b.onValues_only args).mono fun r hask =>
      (isReading_of_asker h hask).resolve_right hvalues

end Builtin

/-- **Formulas that only read.** -/
def Fragment.reading : Fragment :=
  Fragment.ofAllowed Builtin.readOnly (fun r => r.isReading = true)
    (by
      intro b count h
      constructor
      · rintro rfl
        cases h
      · rintro rfl
        cases h)
    (fun {_ args} h => Builtin.onFormulas_reading h args) Builtin.onValues_reading

namespace Course

variable {c : State} {f : Formula} {s t : Session}

/-- What is served while a formula only reads is asking for content. -/
theorem content_of_serves (h : c.Within Fragment.reading.toFamily) {r : Request} (hr : c.Serves r) :
    ∃ hint, r = .content hint := by
  cases hr with
  | @act name r next hcontrol hplain =>
    have hreading : r.isReading = true := (h.asks hcontrol).1
    cases r with
    | content hint => exact ⟨hint, rfl⟩
    | evaluate _ | attempt _ | loop _ _ | visit _ _ _ => cases hplain
    | _ => cases hreading
  | field _ => exact ⟨.header, rfl⟩

/-! ## Nothing is left behind -/

theorem unfetched_undo {p : Pending} (h : t.unfetched = s.unfetched) :
    (p.undo t).unfetched = (p.undo s).unfetched := by
  cases p with
  | call => exact congrArg Session.leave h
  | frame => exact congrArg Session.popFrame h
  | visit outside _ _ _ | found outside _ _ =>
    exact congrArg (fun u => u.popFrame.withContextOf outside.unfetched) h
  | _ => exact h

/-- What is given back does not hang on what was fetched. -/
theorem unfetched_unwind {k : List Pending} (h : t.unfetched = s.unfetched) :
    (unwind k t).unfetched = (unwind k s).unfetched := by
  induction k generalizing s t with
  | nil => exact h
  | cons p k ih => exact ih (unfetched_undo h)

variable (hf : Fragment.reading.holds f) (hs : Fragment.reading.Bodies s.functions)

include hf hs

/-- **At every moment**, what will be left once all is given back is what
was there, up to what was fetched. -/
theorem unfetched_of_leads (hc : Leads (beginning f s) c) :
    (unwind c.pending c.session).unfetched = s.unfetched := by
  refine unwind_of_leads (R := fun s t => t.unfetched = s.unfetched) rfl
    (fun h k => k.trans h) ?_ hc
  intro c hc r hr
  obtain ⟨hint, rfl⟩ := content_of_serves (within_of_leads hf hs hc) hr
  exact unfetched_unwind (unfetched_content hint c.session)

/-- What is asked for is content, wherever it is asked for. -/
theorem asks_of_leads (hc : Leads (beginning f s) c) {name : String} {r : Request}
    {next : r.Reply → Action Value} (hcontrol : c.control = .act name (.request r next))
    (hplain : r.isPlain = true) : ∃ hint, r = .content hint :=
  content_of_serves (within_of_leads hf hs hc) (.act hcontrol hplain)

/-- **And it gives the same answers**, if what was kept at the beginning
is genuine. -/
theorem sameAnswers_of_leads (hgenuine : s.context.Genuine s.store.catalog)
    (hc : Leads (beginning f s) c) :
    SameAnswers s.store.unfetched s (unwind c.pending c.session) := by
  have hself := SameAnswers.refl hgenuine
  refine unwind_of_leads (R := SameAnswers s.store.unfetched) hself
    (fun h k => h.trans k) ?_ hc
  intro c hc r hr
  obtain ⟨hint, rfl⟩ := content_of_serves (within_of_leads hf hs hc) hr
  obtain ⟨n, rfl⟩ := hc
  -- What is pending goes back to sessions that keep genuine content too.
  have halike : (rerun s.store.unfetched).Alike (step^[n] (beginning f s))
      (step^[n] (beginning f s)) :=
    Twin.alike_iterate (T := rerun s.store.unfetched) hself
      (fun _ hc _ _ _ => asks_of_leads hf hs hc) (fun _ _ _ _ ht => ht.limits_eq) n
  exact Twin.alike_unwind halike.pending (halike.session.content hint)

/-- **The same outcome again**, from whatever answers the same. -/
theorem halts_again {r : Except Stop Value} {u : Session}
    (hsame : SameAnswers s.store.unfetched s u) (hend : Leads (beginning f s) (halt r t)) :
    ∃ u', Leads (beginning f u) (halt r u') := by
  obtain ⟨u', hu', -⟩ := Twin.halts (T := rerun s.store.unfetched) hsame
    (fun _ hc _ _ _ => asks_of_leads hf hs hc) (fun _ _ _ _ ht => ht.limits_eq) hend
  exact ⟨u', hu'⟩

end Course

/-! ## Reading -/

/-- **Formulas that only read leave no trace, and can be repeated.** Let
the formula and every function be made of built-ins that only read, and
of functions of the session. When the evaluation has finished, whatever
its outcome, the session is what it was, but for the content that is kept
and the fetches that are counted. Evaluated again from there, the formula
has the same outcome, if what was kept before was the content of the
message; and nothing else is ever kept. -/
theorem reading_leaves_no_trace {f : Formula} {s : Session}
    (hf : f.callsOnly Builtin.readOnly = true)
    (hs : ∀ name body, s.functions.get? name = some body →
      body.callsOnly Builtin.readOnly = true) :
    (∀ patience r t, s.evaluate patience f = (r, t) → r ≠ .error .unfinished →
      t.unfetched = s.unfetched ∧
      (s.context.Genuine s.store.catalog →
        ∃ patience' u, t.evaluate patience' f = (r, u))) ∧
    ∀ s : Session, s.Reachable → s.context.Genuine s.store.catalog := by
  refine ⟨fun patience r t hval hr => ?_, fun s hreach => hreach.genuine⟩
  have hend := Course.leads_halt_of_evaluate hval hr
  refine ⟨Course.unfetched_of_leads hf hs hend, fun hgenuine => ?_⟩
  have hsame := Course.sameAnswers_of_leads hf hs hgenuine hend
  obtain ⟨u, hu⟩ := Course.halts_again hf hs hsame hend
  obtain ⟨-, patience', hagain⟩ := Course.halts_iff.1 hu
  exact ⟨patience', u, hagain⟩

/-- A session at a message, with another one selected that is marked, and
a function that reads a whole message. A loop has two rounds. -/
def browsing : Session :=
  { limits := { maxIterations := some 2 }
    context := { holder := some 0, selected := [⟨1, 1⟩] }
    store :=
      { (Store.addDetached {} "Subject: x\n\ny" false).addDetached "Subject: z\n\nw" false with
        statuses := [{}, { flags := Flag.marked.bit }] }
    functions := ({} : Table Formula).put "Whole"
      (.call "Concat" [.call "Header" [], .call "Body" []]) }

/-- Reads the subject here, and the whole of every message selected, as
long as it is marked; at a failure, it gives up. -/
def browse : Formula :=
  .call "Catch" [.call "And" [.field "Subject",
    .call "ForEach" [.call "Selected" [], .call "While" [.call "Marked" [], .call "Whole" []]]],
    .number 0]

/-- The mark stays, so the loop fails at its bound inside the visit; by
then both messages were fetched. No other trace is left, and the outcome
is the same again. -/
theorem browsing_leaves_no_trace :
    browse.callsOnly Builtin.readOnly = true ∧
    (∀ name body, browsing.functions.get? name = some body →
      body.callsOnly Builtin.readOnly = true) ∧
    browsing.context.Genuine browsing.store.catalog ∧
    ∃ r t, browsing.evaluate 0 browse = (r, t) ∧ r ≠ .error .unfinished ∧
      t.store.statuses.map Status.fetches = [1, 2] ∧ t.unfetched = browsing.unfetched ∧
      ∃ patience' u, t.evaluate patience' browse = (r, u) := by
  have hf : browse.callsOnly Builtin.readOnly = true := by decide +kernel
  have hs : ∀ name body, browsing.functions.get? name = some body →
      body.callsOnly Builtin.readOnly = true := by
    intro name body h
    rw [browsing, Table.get?_put] at h
    split at h
    · obtain rfl := Option.some.inj h
      decide +kernel
    · cases h
  have hgenuine : browsing.context.Genuine browsing.store.catalog :=
    Context.genuine_of_none rfl _
  have hfetches : (browsing.evaluate 0 browse).2.store.statuses.map Status.fetches = [1, 2] := by
    decide +kernel
  have hfinishes := evaluate_finishes (s := browsing) rfl 0 browse
  rcases hval : browsing.evaluate 0 browse with ⟨r, t⟩
  rw [hval] at hfetches hfinishes
  obtain ⟨htrace, hagain⟩ := (reading_leaves_no_trace hf hs).1 0 r t hval hfinishes
  exact ⟨hf, hs, hgenuine, r, t, rfl, hfinishes, hfetches, htrace, hagain hgenuine⟩

end MailFormula
