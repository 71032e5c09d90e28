import MailFormula.Proofs.Evaluation.Equation
/-!
# What choice and iteration touch

A choice and a pass over messages decide as they go what to evaluate
next. What they evaluate is in what they ask for (`Action.asks`), so it
can be told from what they leave: a condition that is evaluated twice or a
message that is visited in vain need not show in the result.

`Selects`, `VisitsAll` and `VisitsUntil` say how the three built-ins
should go, each along its list, and name the part of the list that is
reached. The built-ins do go so, and ask for that part and nothing else
(`Selects.of_firstTrue`, `VisitsAll.of_visitAll`,
`VisitsUntil.of_visitUntil`).
-/

namespace MailFormula

open MailFormula.Text

/-! ## What an action asks for -/

namespace Action

variable {α : Type} {perform : (r : Request) → Run r.Reply} {name : String} {r : Request}
  {next : r.Reply → Action α} {s t : Session} {rs : List Request} {o : Outcome α}

/-- **The requests that an action makes** as it runs, the first one first. -/
def asks (perform : (r : Request) → Run r.Reply) : Action α → Session → List Request
  | .done _, _ => []
  | .fail _, _ => []
  | .look next, s => (next s.view).asks perform s
  | .request r next, s =>
    r :: match perform r s with
      | (.ok a, t) => (next a).asks perform t
      | (.error _, _) => []

/-- **An action goes so**: it makes these requests, and comes to this. -/
def Goes (perform : (r : Request) → Run r.Reply) (name : String) (a : Action α) (s : Session)
    (rs : List Request) (o : Outcome α) : Prop :=
  a.asks perform s = rs ∧ a.run perform name s = o

theorem Goes.done (a : α) (s : Session) : (Action.done a).Goes perform name s [] (.ok a, s) :=
  ⟨rfl, rfl⟩

/-- With an answer an action goes on. -/
theorem Goes.answered {a : r.Reply} (hr : perform r s = (.ok a, t))
    (h : (next a).Goes perform name t rs o) :
    (Action.ask r >>= next).Goes perform name s (r :: rs) o := by
  refine ⟨?_, ?_⟩
  · change (Action.request r next).asks perform s = _
    rw [asks, hr]
    exact congrArg (r :: ·) h.1
  · rw [run_ask_bind, hr]
    exact h.2

/-- Without one it has come to its end. -/
theorem Goes.stopped {e : Stop} (hr : perform r s = (.error e, t)) :
    (Action.ask r >>= next).Goes perform name s [r] (.error e, t) := by
  refine ⟨?_, ?_⟩
  · change (Action.request r next).asks perform s = _
    rw [asks, hr]
  · rw [run_ask_bind, hr]

/-- Asking for one evaluation. -/
theorem Goes.evaluate (patience : Nat) (ev : Formula → Run Value) (f : Formula) (s : Session) :
    (Action.evaluate f).Goes (MailFormula.perform patience ev) name s [.evaluate f] (ev f s) := by
  change (Action.ask (.evaluate f) >>= Action.done).Goes _ name s _ _
  rcases hf : ev f s with ⟨e | v, t⟩
  · exact Goes.stopped hf
  · exact Goes.answered hf (Goes.done v t)

end Action

/-- What a call asks for of a built-in that receives formulas. -/
def callAsks (patience : Nat) (ev : Formula → Run Value) (name : String) (args : List Formula)
    (s : Session) : List Request :=
  match Signature.find? name with
  | some sig => (sig.builtin.onFormulas args).asks (perform patience ev) s
  | none => []

variable {ev : Formula → Run Value} {patience : Nat} {name : String} {s t u : Session}

/-- Such a call is what the action of the built-in is. -/
theorem call_of_goes (args : List Formula) {sig : Signature} {rs : List Request}
    {o : Outcome Value} (hsig : Signature.find? name = some sig)
    (hlazy : sig.builtin.isLazy = true) (haccepts : sig.arity.accepts args.length = true)
    (h : (sig.builtin.onFormulas args).Goes (perform patience ev) name s rs o) :
    call patience ev name args s = o ∧ callAsks patience ev name args s = rs := by
  refine ⟨?_, ?_⟩
  · rw [call_of_lazy hsig hlazy args haccepts]
    exact h.2
  · rw [callAsks, hsig]
    exact h.1

/-! ## Choice -/

/-- **How a choice goes.** From its arguments and a session to its outcome
there are these formulas to evaluate, in this order. -/
inductive Selects (ev : Formula → Run Value) :
    List Formula → Session → List Formula → Outcome Value → Prop
  /-- The one that is left is evaluated. -/
  | last (f : Formula) (s : Session) : Selects ev [f] s [f] (ev f s)
  /-- A condition that stops ends it. -/
  | stopped {c branch : Formula} {rest : List Formula} {s t : Session} {e : Stop} :
      ev c s = (.error e, t) → Selects ev (c :: branch :: rest) s [c] (.error e, t)
  /-- Behind a true condition only its branch is evaluated. -/
  | taken {c branch : Formula} {rest : List Formula} {s t : Session} {v : Value} :
      ev c s = (.ok v, t) → v.truth = true →
      Selects ev (c :: branch :: rest) s [c, branch] (ev branch t)
  /-- Behind a false one the choice goes on without the two. -/
  | passed {c branch : Formula} {rest fs : List Formula} {s t : Session} {v : Value}
      {o : Outcome Value} : ev c s = (.ok v, t) → v.truth = false → Selects ev rest t fs o →
      Selects ev (c :: branch :: rest) s (c :: fs) o

/-- **A choice among an odd number goes so.** -/
theorem Selects.of_firstTrue (patience : Nat) (ev : Formula → Run Value) (name : String)
    (args : List Formula) (hodd : args.length % 2 = 1) (s : Session) :
    ∃ fs o, Selects ev args s fs o ∧
      (Behaviour.firstTrue args).Goes (perform patience ev) name s (fs.map .evaluate) o := by
  induction args using Behaviour.firstTrue.induct generalizing s with
  | case1 => cases hodd
  | case2 f => exact ⟨[f], _, .last f s, Action.Goes.evaluate patience ev f s⟩
  | case3 c branch rest ih =>
    have hrest : rest.length % 2 = 1 := by
      rw [List.length_cons, List.length_cons] at hodd
      omega
    rw [Behaviour.firstTrue]
    rcases hc : ev c s with ⟨e | v, t⟩
    · exact ⟨[c], _, .stopped hc, Action.Goes.stopped hc⟩
    · cases hv : v.truth with
      | true =>
        refine ⟨[c, branch], _, .taken hc hv, Action.Goes.answered hc ?_⟩
        rw [if_pos hv]
        exact Action.Goes.evaluate patience ev branch t
      | false =>
        obtain ⟨fs, o, hselects, hgoes⟩ := ih hrest t
        refine ⟨c :: fs, o, .passed hc hv hselects, Action.Goes.answered hc ?_⟩
        rw [if_neg (Bool.eq_false_iff.1 hv)]
        exact hgoes

/-! ## Visits -/

/-- The session in the context of a message, with a frame for the visit. -/
def Session.inChild (s : Session) (key : MessageKey) : Session := (s.openChild key).pushFrame none

/-- Back from a visit: the frame is dropped, and the context is the one
around. -/
def Session.backTo (t s : Session) : Session := t.popFrame.withContextOf s

/-- **The answer of a visit** that has found its message: the value of the
body, or that of another formula evaluated there. -/
def answer (ev : Formula → Run Value) (found : Option Formula) (v : Value) : Run Value :=
  match found with
  | none => fun s => (.ok v, s)
  | some f => ev f

section

variable {key : MessageKey} {body : Formula} {found : Option Formula} {v : Value}

theorem visit_of_error {e : Stop} (h : ev body (s.inChild key) = (.error e, t)) :
    perform patience ev (.visit key body found) s = (.error e, t.backTo s) := by
  rw [Session.inChild] at h
  rw [perform, visit_eq, h]
  rfl

theorem visit_of_false (h : ev body (s.inChild key) = (.ok v, t)) (hv : v.truth = false) :
    perform patience ev (.visit key body found) s = (.ok none, t.backTo s) := by
  rw [Session.inChild] at h
  rw [perform, visit_eq, h]
  dsimp only
  rw [if_neg (Bool.eq_false_iff.1 hv)]
  rfl

theorem visit_of_true {r : Except Stop Value} (h : ev body (s.inChild key) = (.ok v, t))
    (hv : v.truth = true) (hanswer : answer ev found v t = (r, u)) :
    perform patience ev (.visit key body found) s = (r.map some, u.backTo s) := by
  rw [Session.inChild] at h
  rw [perform, visit_eq, h]
  dsimp only
  rw [if_pos hv]
  cases found with
  | none =>
    cases hanswer
    rfl
  | some f =>
    dsimp only [answer] at hanswer ⊢
    rw [hanswer]
    cases r with
    | error e => rfl
    | ok w => rfl

end

/-- **How a pass over all messages goes**: in the order of the list, each
time in a child context and a frame that is dropped afterwards, until a
body stops. The second list has the messages that are visited. -/
inductive VisitsAll (ev : Formula → Run Value) (body : Formula) :
    List MessageRef → Session → List MessageRef → Outcome Value → Prop
  | nil (s : Session) : VisitsAll ev body [] s [] (.ok (.boolean true), s)
  | stopped {m : MessageRef} {rest : List MessageRef} {s t : Session} {e : Stop} :
      ev body (s.inChild m.key) = (.error e, t) →
      VisitsAll ev body (m :: rest) s [m] (.error e, t.backTo s)
  | visited {m : MessageRef} {rest ms : List MessageRef} {s t : Session} {v : Value}
      {o : Outcome Value} : ev body (s.inChild m.key) = (.ok v, t) →
      VisitsAll ev body rest (t.backTo s) ms o → VisitsAll ev body (m :: rest) s (m :: ms) o

/-- **How a search goes**: likewise, and a body that is true ends it with
the answer of its visit. -/
inductive VisitsUntil (ev : Formula → Run Value) (body : Formula) (found : Option Formula) :
    List MessageRef → Session → List MessageRef → Outcome Value → Prop
  | nil (s : Session) : VisitsUntil ev body found [] s [] (.ok (.boolean false), s)
  | stopped {m : MessageRef} {rest : List MessageRef} {s t : Session} {e : Stop} :
      ev body (s.inChild m.key) = (.error e, t) →
      VisitsUntil ev body found (m :: rest) s [m] (.error e, t.backTo s)
  | found {m : MessageRef} {rest : List MessageRef} {s t u : Session} {v : Value}
      {r : Except Stop Value} : ev body (s.inChild m.key) = (.ok v, t) → v.truth = true →
      answer ev found v t = (r, u) → VisitsUntil ev body found (m :: rest) s [m] (r, u.backTo s)
  | passed {m : MessageRef} {rest ms : List MessageRef} {s t : Session} {v : Value}
      {o : Outcome Value} : ev body (s.inChild m.key) = (.ok v, t) → v.truth = false →
      VisitsUntil ev body found rest (t.backTo s) ms o →
      VisitsUntil ev body found (m :: rest) s (m :: ms) o

/-- **A pass over all messages goes so.** -/
theorem VisitsAll.of_visitAll (patience : Nat) (ev : Formula → Run Value) (name : String)
    (body : Formula) (list : List MessageRef) (s : Session) :
    ∃ ms o, VisitsAll ev body list s ms o ∧
      (Behaviour.visitAll body list).Goes (perform patience ev) name s
        (ms.map fun m => .visit m.key body none) o := by
  induction list generalizing s with
  | nil => exact ⟨[], _, .nil s, Action.Goes.done _ s⟩
  | cons m rest ih =>
    rw [Behaviour.visitAll]
    rcases hbody : ev body (s.inChild m.key) with ⟨e | v, t⟩
    · exact ⟨[m], _, .stopped hbody, Action.Goes.stopped (visit_of_error hbody)⟩
    · obtain ⟨ms, o, hvisits, hgoes⟩ := ih (t.backTo s)
      -- Whether the body is true makes no difference here.
      have hvisit : ∃ x, perform patience ev (.visit m.key body none) s =
          (.ok x, t.backTo s) := by
        cases hv : v.truth with
        | true => exact ⟨some v, visit_of_true hbody hv rfl⟩
        | false => exact ⟨none, visit_of_false hbody hv⟩
      obtain ⟨x, hx⟩ := hvisit
      exact ⟨m :: ms, o, .visited hbody hvisits, Action.Goes.answered hx hgoes⟩

/-- **A search goes so.** -/
theorem VisitsUntil.of_visitUntil (patience : Nat) (ev : Formula → Run Value) (name : String)
    (body : Formula) (found : Option Formula) (list : List MessageRef) (s : Session) :
    ∃ ms o, VisitsUntil ev body found list s ms o ∧
      (Behaviour.visitUntil body found list).Goes (perform patience ev) name s
        (ms.map fun m => .visit m.key body found) o := by
  induction list generalizing s with
  | nil => exact ⟨[], _, .nil s, Action.Goes.done _ s⟩
  | cons m rest ih =>
    rw [Behaviour.visitUntil]
    rcases hbody : ev body (s.inChild m.key) with ⟨e | v, t⟩
    · exact ⟨[m], _, .stopped hbody, Action.Goes.stopped (visit_of_error hbody)⟩
    · cases hv : v.truth with
      | true =>
        rcases hanswer : answer ev found v t with ⟨e | w, u⟩
        · exact ⟨[m], _, .found hbody hv hanswer,
            Action.Goes.stopped (visit_of_true hbody hv hanswer)⟩
        · exact ⟨[m], _, .found hbody hv hanswer,
            Action.Goes.answered (visit_of_true hbody hv hanswer) (Action.Goes.done w _)⟩
      | false =>
        obtain ⟨ms, o, hvisits, hgoes⟩ := ih (t.backTo s)
        exact ⟨m :: ms, o, .passed hbody hv hvisits,
          Action.Goes.answered (visit_of_false hbody hv) hgoes⟩

/-- The messages of a list are those that are live when it has been
evaluated. -/
theorem goes_messagesOf {list : Formula} {refs : List MessageRef}
    {next : List MessageRef → Action Value} {rs : List Request} {o : Outcome Value}
    (hlist : ev list s = (.ok (.messages refs), t))
    (h : (next (t.liveOnly refs)).Goes (perform patience ev) name t rs o) :
    (Behaviour.messagesOf list >>= next).Goes (perform patience ev) name s
      (.evaluate list :: rs) o := by
  have hgoes : ((Action.look fun view => Action.done (refs.filter fun m => view.live m.key)) >>=
      next).Goes (perform patience ev) name t rs o := h
  exact Action.Goes.answered (r := .evaluate list) hlist hgoes

/-! ## The calls -/

/-- The entry of `If`, in whatever case it is written. -/
theorem Signature.find?_of_if (h : asciiLower name = "if") :
    Signature.find? name = some ⟨"If", .any, .none, .choose⟩ := by
  rw [find?, h]
  decide +kernel

theorem Signature.find?_of_foreach (h : asciiLower name = "foreach") :
    Signature.find? name = some ⟨"ForEach", .exactly 2, .none, .forEach⟩ := by
  rw [find?, h]
  decide +kernel

theorem Signature.find?_of_findeach (h : asciiLower name = "findeach") :
    Signature.find? name = some ⟨"FindEach", .between 2 3, .none, .findEach⟩ := by
  rw [find?, h]
  decide +kernel

/-- A call of `If` is a choice. -/
theorem call_if (hname : asciiLower name = "if") (patience : Nat) (ev : Formula → Run Value)
    {args : List Formula} (hcount : 3 ≤ args.length) (hodd : args.length % 2 = 1) (s : Session) :
    ∃ fs, Selects ev args s fs (call patience ev name args s) ∧
      callAsks patience ev name args s = fs.map .evaluate := by
  obtain ⟨fs, o, hselects, hgoes⟩ := Selects.of_firstTrue patience ev name args hodd s
  have haction : Behaviour.choose args = Behaviour.firstTrue args := by
    rw [Behaviour.choose, if_neg]
    rw [Bool.or_eq_true, decide_eq_true_iff, decide_eq_true_iff]
    omega
  rw [← haction] at hgoes
  obtain ⟨hcall, hasks⟩ := call_of_goes args (Signature.find?_of_if hname) rfl rfl hgoes
  exact ⟨fs, by rwa [hcall], hasks⟩

/-- A call of `ForEach` is a pass over the messages that are live. -/
theorem call_foreach (hname : asciiLower name = "foreach") (patience : Nat) {list body : Formula}
    {refs : List MessageRef} (hlist : ev list s = (.ok (.messages refs), t)) :
    ∃ ms, VisitsAll ev body (t.liveOnly refs) t ms (call patience ev name [list, body] s) ∧
      callAsks patience ev name [list, body] s =
        .evaluate list :: ms.map fun m => .visit m.key body none := by
  obtain ⟨ms, o, hvisits, hgoes⟩ :=
    VisitsAll.of_visitAll patience ev name body (t.liveOnly refs) t
  obtain ⟨hcall, hasks⟩ := call_of_goes [list, body] (Signature.find?_of_foreach hname) rfl rfl
    (goes_messagesOf hlist hgoes)
  exact ⟨ms, by rwa [hcall], hasks⟩

/-- A call of `FindEach` is a search among them. -/
theorem call_findeach (hname : asciiLower name = "findeach") (patience : Nat)
    {list body : Formula} (found : Option Formula) {refs : List MessageRef}
    (hlist : ev list s = (.ok (.messages refs), t)) :
    ∃ ms, VisitsUntil ev body found (t.liveOnly refs) t ms
        (call patience ev name (list :: body :: found.toList) s) ∧
      callAsks patience ev name (list :: body :: found.toList) s =
        .evaluate list :: ms.map fun m => .visit m.key body found := by
  obtain ⟨ms, o, hvisits, hgoes⟩ :=
    VisitsUntil.of_visitUntil patience ev name body found (t.liveOnly refs) t
  have hgoes' := goes_messagesOf hlist hgoes
  have hsig := Signature.find?_of_findeach hname
  cases found with
  | none =>
    obtain ⟨hcall, hasks⟩ := call_of_goes [list, body] hsig rfl rfl hgoes'
    exact ⟨ms, by rwa [← hcall] at hvisits, hasks⟩
  | some f =>
    obtain ⟨hcall, hasks⟩ := call_of_goes [list, body, f] hsig rfl rfl hgoes'
    exact ⟨ms, by rwa [← hcall] at hvisits, hasks⟩

/-- **Choice and iteration touch what they must.** A call of `If` with an
odd number of arguments, three or more, a call of `ForEach`, and a call of
`FindEach` with or without a formula for what is found, are refused
because of their depth, or go one level deeper as follows.

`If` goes as a choice does among its arguments (`Selects`), and asks for
the formulas that the choice evaluates. The other two first evaluate their
list. Where that has a value which is a list of messages, with whatever
messages in it that are no longer live, they pass over the live ones
(`VisitsAll`) or search them (`VisitsUntil`), and ask for the visits to
the messages that are reached. None of the three asks for anything else. -/
theorem selection_and_iteration_touch_what_they_must (patience : Nat) (s : Session)
    (name : String) :
    (asciiLower name = "if" → ∀ args : List Formula, 3 ≤ args.length → args.length % 2 = 1 →
      s.Calls name
        (fun t o => ∃ fs, Selects (Session.evaluate patience) args t fs o ∧
          callAsks patience (Session.evaluate patience) name args t = fs.map .evaluate)
        (s.evaluate patience (.call name args))) ∧
    (asciiLower name = "foreach" → ∀ list body : Formula,
      s.Calls name
        (fun t o => ∀ refs u, t.evaluate patience list = (.ok (.messages refs), u) →
          ∃ ms, VisitsAll (Session.evaluate patience) body (u.liveOnly refs) u ms o ∧
            callAsks patience (Session.evaluate patience) name [list, body] t =
              .evaluate list :: ms.map fun m => .visit m.key body none)
        (s.evaluate patience (.call name [list, body]))) ∧
    (asciiLower name = "findeach" → ∀ (list body : Formula) (found : Option Formula),
      s.Calls name
        (fun t o => ∀ refs u, t.evaluate patience list = (.ok (.messages refs), u) →
          ∃ ms, VisitsUntil (Session.evaluate patience) body found (u.liveOnly refs) u ms o ∧
            callAsks patience (Session.evaluate patience) name
                (list :: body :: found.toList) t =
              .evaluate list :: ms.map fun m => .visit m.key body found)
        (s.evaluate patience (.call name (list :: body :: found.toList)))) := by
  refine ⟨fun hname args hcount hodd => ?_, fun hname list body => ?_,
    fun hname list body found => ?_⟩
  · refine (s.calls_evaluate patience name args).mono fun t o _ hcall => ?_
    rw [← hcall]
    exact call_if hname patience _ hcount hodd t
  · refine (s.calls_evaluate patience name [list, body]).mono fun t o _ hcall refs u hlist => ?_
    rw [← hcall]
    exact call_foreach hname patience hlist
  · refine (s.calls_evaluate patience name (list :: body :: found.toList)).mono
      fun t o _ hcall refs u hlist => ?_
    rw [← hcall]
    exact call_findeach hname patience found hlist

/-- A mailbox of two messages, both selected, with one between them that
is gone. -/
def post : Session where
  store := (Store.addDetached {} "Subject: a" false).addDetached "Subject: b" false
  context := { selected := [⟨0, 1⟩, ⟨7, 1⟩, ⟨1, 1⟩] }

/-- Notes that a message has been seen, and is not true. -/
def note : Formula := .call "Set" [.text "seen", .text ""]

/-- A choice with the condition false, a pass over the two messages, and a
search among them. -/
theorem post_is_touched :
    (∃ o, post.evaluate 1 (.call "IF" [note, .text "a", .text "b"]) = o ∧
      post.Calls "IF"
        (fun t o => ∃ fs, Selects (Session.evaluate 1) [note, .text "a", .text "b"] t fs o ∧
          callAsks 1 (Session.evaluate 1) "IF" [note, .text "a", .text "b"] t =
            fs.map .evaluate) o) ∧
    (∃ ms o, VisitsAll (Session.evaluate 1) note [⟨0, 1⟩, ⟨1, 1⟩] post.enter ms o ∧
      callAsks 1 (Session.evaluate 1) "ForEach" [.call "Selected" [], note] post.enter =
        .evaluate (.call "Selected" []) :: ms.map fun m => .visit m.key note none) ∧
    (∃ ms o, VisitsUntil (Session.evaluate 1) note (some (.text "b")) [⟨0, 1⟩, ⟨1, 1⟩]
        post.enter ms o ∧
      callAsks 1 (Session.evaluate 1) "FindEach" [.call "Selected" [], note, .text "b"]
          post.enter =
        .evaluate (.call "Selected" []) ::
          ms.map fun m => .visit m.key note (some (.text "b"))) := by
  have hlist : post.enter.evaluate 1 (.call "Selected" []) =
      (.ok (.messages [⟨0, 1⟩, ⟨7, 1⟩, ⟨1, 1⟩]), post.enter) := by rfl
  refine ⟨⟨_, rfl, ?_⟩, ?_, ?_⟩
  · exact (selection_and_iteration_touch_what_they_must 1 post "IF").1 (by decide) _
      (by decide) (by decide)
  · have hcall := (selection_and_iteration_touch_what_they_must 1 post "ForEach").2.1 (by decide)
      (.call "Selected" []) note
    obtain ⟨r, u, hwork, -⟩ := hcall.work_of_admitted rfl
    obtain ⟨ms, hvisits⟩ := hwork _ _ hlist
    exact ⟨ms, _, hvisits⟩
  · have hcall := (selection_and_iteration_touch_what_they_must 1 post "FindEach").2.2 (by decide)
      (.call "Selected" []) note (some (.text "b"))
    obtain ⟨r, u, hwork, -⟩ := hcall.work_of_admitted rfl
    obtain ⟨ms, hvisits⟩ := hwork _ _ hlist
    exact ⟨ms, _, hvisits⟩

end MailFormula
