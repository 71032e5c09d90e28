import MailFormula.Behaviour
/-!
# What a built-in may ask for, and which argument it may blame

A built-in touches the session through requests alone, and each request
has few built-ins that ask for it. `Request.askers` is that table: for a
request, the built-ins that may ask for it.

A built-in that fails may blame an argument, counted from 1. The helpers
that built-ins share take the number as a parameter, and some arguments
may be missing, so it is not plain that the number is right.

`Builtin.onValues_abides` and `Builtin.onFormulas_abides` say that the
table is complete and the number that of an argument: whatever the session
shows and whatever the requests before were answered.
-/

namespace MailFormula

/-- The fault blames no argument, or one of so many. -/
def Fault.Blames (count : Nat) (f : Fault) : Prop :=
  ∀ i, f.argument = some i → 1 ≤ i ∧ i ≤ count

namespace Action

variable {α β : Type} {P : Request → Prop} {count i : Nat} {code : ErrorCode} {detail : String}

/-- **Whatever it sees and is told, the action asks for nothing else.** -/
inductive Only (P : Request → Prop) : Action α → Prop
  | done (x : α) : Only P (done x)
  | fail (f : Fault) : Only P (fail f)
  | look {next : View → Action α} : (∀ view, Only P (next view)) → Only P (look next)
  | request {r : Request} {next : r.Reply → Action α} :
      P r → (∀ reply, Only P (next reply)) → Only P (request r next)

theorem Only.mono {Q : Request → Prop} {a : Action α} (ha : a.Only P) (h : ∀ r, P r → Q r) :
    a.Only Q := by
  induction ha with
  | done x => exact .done x
  | fail f => exact .fail f
  | look _ ih => exact .look ih
  | request hr _ ih => exact .request (h _ hr) ih

theorem Only.and {Q : Request → Prop} {a : Action α} (hP : a.Only P) (hQ : a.Only Q) :
    a.Only (fun r => P r ∧ Q r) := by
  induction hP with
  | done x => exact .done x
  | fail f => exact .fail f
  | look _ ih =>
    cases hQ with
    | look hQ => exact .look fun view => ih view (hQ view)
  | request hr _ ih =>
    cases hQ with
    | request hr' hQ => exact .request ⟨hr, hr'⟩ fun reply => ih reply (hQ reply)

/-- **And it blames no argument**, or one of so many. -/
inductive Abides (P : Request → Prop) (count : Nat) : Action α → Prop
  | done (x : α) : Abides P count (done x)
  | fail {f : Fault} : f.Blames count → Abides P count (fail f)
  | look {next : View → Action α} : (∀ view, Abides P count (next view)) →
      Abides P count (look next)
  | request {r : Request} {next : r.Reply → Action α} :
      P r → (∀ reply, Abides P count (next reply)) → Abides P count (request r next)

theorem Abides.only {a : Action α} (h : a.Abides P count) : a.Only P := by
  induction h with
  | done x => exact .done x
  | fail _ => exact .fail _
  | look _ ih => exact .look ih
  | request hr _ ih => exact .request hr ih

theorem Abides.bind {a : Action α} {k : α → Action β} (ha : a.Abides P count)
    (hk : ∀ x, (k x).Abides P count) : (a >>= k).Abides P count := by
  induction ha with
  | done x => exact hk x
  | fail hf => exact .fail hf
  | look _ ih => exact .look ih
  | request hr _ ih => exact .request hr ih

@[simp] theorem abides_done (x : α) : (done x).Abides P count := .done x

@[simp] theorem abides_failWith : (failWith code : Action α).Abides P count := .fail nofun

theorem abides_fail {f : Fault} : (fail f : Action α).Abides P count ↔ f.Blames count :=
  ⟨fun h => by cases h with | fail hf => exact hf, .fail⟩

@[simp] theorem abides_failAt :
    (failAt code i : Action α).Abides P count ↔ 1 ≤ i ∧ i ≤ count :=
  abides_fail.trans ⟨fun h => h i rfl, fun h _ hi => Option.some.inj hi ▸ h⟩

@[simp] theorem abides_failAtWith :
    (failAtWith code i detail : Action α).Abides P count ↔ 1 ≤ i ∧ i ≤ count :=
  abides_fail.trans ⟨fun h => h i rfl, fun h _ hi => Option.some.inj hi ▸ h⟩

theorem abides_ask {r : Request} (h : P r) : (ask r).Abides P count := .request h .done

theorem abides_view : view.Abides P count := .look .done

theorem abides_orFail (r : Except ErrorCode α) : (orFail r).Abides P count := by
  cases r with
  | ok a => exact .done a
  | error code => exact abides_failWith

theorem abides_evaluate {f : Formula} (h : P (.evaluate f)) :
    (Action.evaluate f).Abides P count :=
  abides_ask h

theorem abides_content {hint : Hint} (h : P (.content hint)) :
    (Action.content hint).Abides P count :=
  (abides_ask h).bind abides_orFail

end Action

/-- The built-ins that may ask for a request. -/
@[simp] def Request.askers : Request → List Builtin
  | evaluate _ =>
    [.choose, .conjunction, .disjunction, .recover, .defun, .forEach, .findEach, .eval,
      .includeFile]
  | attempt _ => [.recover]
  | loop _ _ => [.loop]
  | visit _ _ _ => [.forEach, .findEach]
  | define _ _ => [.defun]
  | assign _ _ _ => [.set, .variableValue]
  | capture _ => [.regexFind, .regexMatch, .regexReplace]
  | content .none => []
  | content .header => [.field, .header]
  | content .text => [.body]
  | content .all => [.part, .partCount, .attachment]
  | mark f _ => [.flag f]
  | askText _ _ _ => [.inputBox]
  | askButton _ _ => [.messageBox]
  | exit => [.exit]
  | execute _ _ => [.execute]
  | write _ _ => [.save]
  | setProfile _ _ _ => [.setProfile]

/-- The formulas that a request hands on, to be evaluated or to be kept. -/
@[simp] def Request.formulas : Request → List Formula
  | evaluate f => [f]
  | attempt f => [f]
  | loop condition body => [condition, body]
  | visit _ body found => body :: found.toList
  | define _ body => [body]
  | _ => []

namespace Behaviour

open MailFormula.Action

variable {P : Request → Prop} {count : Nat}

/-! ## Control

A built-in that receives formulas hands on no others. -/

theorem abides_firstTrue {args : List Formula} (h : ∀ f ∈ args, P (.evaluate f)) :
    (firstTrue args).Abides P count := by
  fun_induction firstTrue args with
  | case1 => simp
  | case2 otherwise => exact abides_evaluate (h otherwise (by simp))
  | case3 condition branch rest ih =>
    refine (abides_evaluate (h condition (by simp))).bind fun v => ?_
    split
    · exact abides_evaluate (h branch (by simp))
    · exact ih fun f hf => h f (by simp [hf])

theorem abides_choose {args : List Formula} (h : ∀ f ∈ args, P (.evaluate f)) :
    (choose args).Abides P count := by
  fun_cases choose args
  · simp
  · exact abides_firstTrue h

theorem abides_conjunction {args : List Formula} (h : ∀ f ∈ args, P (.evaluate f)) :
    (conjunction args).Abides P count := by
  fun_induction conjunction args with
  | case1 => simp
  | case2 f rest ih =>
    refine (abides_evaluate (h f (by simp))).bind fun v => ?_
    split
    · exact ih fun g hg => h g (by simp [hg])
    · simp

theorem abides_disjunction {args : List Formula} (h : ∀ f ∈ args, P (.evaluate f)) :
    (disjunction args).Abides P count := by
  fun_induction disjunction args with
  | case1 => simp
  | case2 f rest ih =>
    refine (abides_evaluate (h f (by simp))).bind fun v => ?_
    split
    · simp
    · exact ih fun g hg => h g (by simp [hg])

theorem abides_recover {args : List Formula} (h : ∀ f ∈ args, P (.evaluate f))
    (ha : ∀ f ∈ args, P (.attempt f)) : (recover args).Abides P count := by
  fun_cases recover args with
  | case1 f fallback =>
    refine (abides_ask (ha f (by simp))).bind fun reply => ?_
    split
    · simp
    · exact abides_evaluate (h fallback (by simp))
  | case2 => simp

theorem abides_defun {args : List Formula} (h : ∀ f ∈ args, P (.evaluate f))
    (hd : ∀ name, ∀ body ∈ args, P (.define name body)) : (defun args).Abides P args.length := by
  fun_cases defun args with
  | case1 name body =>
    refine (abides_evaluate (h name (by simp))).bind fun v => abides_view.bind fun view => ?_
    dsimp only
    split
    · simp
    · exact (abides_ask (hd _ body (by simp))).bind fun _ => .done _
  | case2 => simp

theorem abides_loop {args : List Formula}
    (h : ∀ condition ∈ args, ∀ body ∈ args, P (.loop condition body)) :
    (loop args).Abides P count := by
  fun_cases loop args with
  | case1 condition body =>
    refine (abides_ask (h condition (by simp) body (by simp))).bind fun reply => ?_
    split
    · simp
    · exact .fail nofun
  | case2 => simp

theorem abides_messagesOf {list : Formula} (h : P (.evaluate list)) (hcount : 1 ≤ count) :
    (messagesOf list).Abides P count := by
  refine (abides_evaluate h).bind fun v => ?_
  split
  · exact .look fun view => .done _
  · exact abides_failAt.2 ⟨Nat.le_refl 1, hcount⟩

theorem abides_visitAll {body : Formula} (h : ∀ key, P (.visit key body none))
    (refs : List MessageRef) : (visitAll body refs).Abides P count := by
  fun_induction visitAll body refs with
  | case1 => simp
  | case2 m rest ih => exact (abides_ask (h m.key)).bind fun _ => ih

theorem abides_visitUntil {body : Formula} {found : Option Formula}
    (h : ∀ key, P (.visit key body found)) (refs : List MessageRef) :
    (visitUntil body found refs).Abides P count := by
  fun_induction visitUntil body found refs with
  | case1 => simp
  | case2 m rest ih =>
    refine (abides_ask (h m.key)).bind fun reply => ?_
    split
    · simp
    · exact ih

section visiting

variable {args : List Formula} (h : ∀ f ∈ args, P (.evaluate f))
  (hv : ∀ key, ∀ body ∈ args, ∀ found, (∀ f ∈ found, f ∈ args) → P (.visit key body found))

include h hv

theorem abides_forEach : (forEach args).Abides P args.length := by
  fun_cases forEach args with
  | case1 list body =>
    refine (abides_messagesOf (h list (by simp)) (by simp)).bind (abides_visitAll fun key => ?_)
    exact hv key body (by simp) none (by simp)
  | case2 => simp

theorem abides_findEach : (findEach args).Abides P args.length := by
  fun_cases findEach args with
  | case1 list body =>
    refine (abides_messagesOf (h list (by simp)) (by simp)).bind (abides_visitUntil fun key => ?_)
    exact hv key body (by simp) none (by simp)
  | case2 list body found =>
    refine (abides_messagesOf (h list (by simp)) (by simp)).bind (abides_visitUntil fun key => ?_)
    exact hv key body (by simp) (some found) (by simp)
  | case3 => simp

end visiting

section texts

variable (h : ∀ f, P (.evaluate f))

include h

theorem abides_evaluateText (hcount : 1 ≤ count) (text : String) :
    (evaluateText text).Abides P count := by
  fun_cases evaluateText text with
  | case1 f => exact abides_evaluate (h f)
  | case2 => exact abides_failAtWith.2 ⟨Nat.le_refl 1, hcount⟩

theorem abides_eval (args : List Value) : (eval args).Abides P args.length := by
  fun_cases eval args with
  | case1 v => exact .look fun view => abides_evaluateText h (by simp) _
  | case2 => simp

theorem abides_includeFile (args : List Value) : (includeFile args).Abides P args.length := by
  fun_cases includeFile args with
  | case1 v =>
    refine .look fun view => ?_
    dsimp only
    split
    · exact abides_evaluateText h (by simp) _
    · simp
  | case2 => simp

end texts

theorem abides_exit (h : P .exit) (args : List Value) : (exit args).Abides P count := by
  fun_cases exit args with
  | case1 => exact .request h fun e => nomatch e
  | case2 => simp

/-! ## Variables and patterns -/

section assigning

variable (h : ∀ name v isGlobal, P (.assign name v isGlobal))

include h

theorem abides_set (args : List Value) : (set args).Abides P args.length := by
  fun_cases set args with
  | case1 name v more =>
    refine .look fun view => ?_
    dsimp only
    split
    · simp
    · exact .request (h _ _ _) fun _ => .done _
  | case2 => simp

theorem abides_variableValue (args : List Value) : (variableValue args).Abides P args.length := by
  fun_cases variableValue args with
  | case1 name =>
    refine .look fun view => ?_
    dsimp only
    split
    · simp
    · simp
  | case2 => exact abides_set h args

end assigning

theorem abides_regexOf {argument : Nat} (hleast : 1 ≤ argument) (hmost : argument ≤ count)
    (caseSensitive : Bool) (v : Value) (live : MessageKey → Bool) :
    (regexOf argument caseSensitive v live).Abides P count := by
  cases v with
  | string s | field name raw =>
    rw [regexOf.eq_def]
    dsimp only
    split
    · simp
    · exact abides_failAtWith.2 ⟨hleast, hmost⟩
  | regex r => exact .done r
  | _ => exact abides_failAt.2 ⟨hleast, hmost⟩

theorem abides_regex (args : List Value) : (regex args).Abides P args.length := by
  fun_cases regex args with
  | case1 pattern more =>
    exact abides_view.bind fun view =>
      (abides_regexOf (by simp) (by simp) _ _ _).bind fun _ => .done _
  | case2 => simp

section capturing

variable (h : ∀ groups, P (.capture groups))

include h

theorem abides_findWith (matcher : Nat → Option Regex.Match) (text : Array Char) (start : Nat) :
    (findWith matcher text start).Abides P count := by
  fun_cases findWith matcher text start with
  | case1 m => exact .request (h _) fun _ => .done _
  | case2 => simp

theorem abides_replaceWith (matcher : Nat → Option Regex.Match) (text : Array Char)
    (template : List Char) (everywhere : Bool) :
    (replaceWith matcher text template everywhere).Abides P count := by
  rw [replaceWith.eq_def]
  dsimp only
  split
  · exact .request (h _) fun _ => .done _
  · simp

theorem abides_regexFind (args : List Value) : (regexFind args).Abides P args.length := by
  fun_cases regexFind args with
  | case1 text pattern more =>
    exact abides_view.bind fun view =>
      (abides_regexOf (by simp) (by simp) _ _ _).bind fun _ => abides_findWith h _ _ _
  | case2 => simp

theorem abides_regexMatch (args : List Value) : (regexMatch args).Abides P args.length := by
  fun_cases regexMatch args with
  | case1 text pattern =>
    refine abides_view.bind fun view => (abides_regexOf (by simp) (by simp) _ _ _).bind fun _ => ?_
    dsimp only
    split
    · exact .request (h _) fun _ => .done _
    · simp
  | case2 => simp

theorem abides_regexReplace (args : List Value) : (regexReplace args).Abides P args.length := by
  fun_cases regexReplace args with
  | case1 text pattern template more =>
    exact abides_view.bind fun view => (abides_regexOf (by simp) (by simp) _ _ _).bind fun _ =>
      abides_replaceWith h _ _ _ _
  | case2 => simp

end capturing

/-! ## Messages -/

theorem abides_field (h : P (.content .header)) (args : List Value) :
    (field args).Abides P count := by
  fun_cases field args with
  | case1 name => exact abides_view.bind fun view => (abides_content h).bind fun _ => .done _
  | case2 => simp

/-- The part that is blamed is among the arguments. -/
theorem abides_partOr {hint : Hint} (h : P (.content hint)) (args : List Value) (index : Nat) :
    (partOr args index hint).Abides P args.length := by
  have hindex : ∀ v, args[index]? = some v → index + 1 ≤ args.length := fun v hv =>
    (List.getElem?_eq_some_iff.1 hv).1
  fun_cases partOr args index hint with
  | case1 => exact abides_content h
  | case2 => simp
  | case3 hv => exact abides_failAt.2 ⟨Nat.le_add_left 1 index, hindex _ hv⟩
  | case4 v _ _ hv => exact abides_failAt.2 ⟨Nat.le_add_left 1 index, hindex v hv⟩

theorem abides_part (h : P (.content .all)) (args : List Value) :
    (part args).Abides P args.length := by
  fun_cases part args with
  | case1 index more => exact (abides_partOr h _ 1).bind fun _ => .done _
  | case2 => simp

theorem abides_mailboxesOf (hcount : 1 ≤ count) (v : Value) :
    (mailboxesOf v).Abides P count := by
  cases v with
  | field name raw => exact .done _
  | string text => exact .done _
  | _ => exact abides_failAt.2 ⟨Nat.le_refl 1, hcount⟩

theorem abides_address (args : List Value) : (address args).Abides P args.length := by
  fun_cases address args with
  | case1 v => exact (abides_mailboxesOf (by simp) v).bind fun _ => .done _
  | case2 => simp

theorem abides_name (args : List Value) : (name args).Abides P args.length := by
  fun_cases name args with
  | case1 v => exact (abides_mailboxesOf (by simp) v).bind fun _ => .done _
  | case2 => simp

theorem abides_messageAtHand (view : View) : (messageAtHand view).Abides P count := by
  fun_cases messageAtHand view <;> simp

theorem abides_folderAtHand (view : View) : (folderAtHand view).Abides P count := by
  fun_cases folderAtHand view <;> simp

theorem abides_accountAtHand (view : View) : (accountAtHand view).Abides P count := by
  fun_cases accountAtHand view <;> simp

theorem abides_ofMessage (read : Message → Value) (args : List Value) :
    (ofMessage read args).Abides P count := by
  fun_cases ofMessage read args with
  | case1 => exact abides_view.bind fun view => (abides_messageAtHand view).bind fun _ => .done _
  | case2 => simp

theorem abides_folder (args : List Value) : (folder args).Abides P count :=
  abides_view.bind fun view => (abides_folderAtHand view).bind fun _ => .done _

theorem abides_account (args : List Value) : (account args).Abides P count := by
  fun_cases account args with
  | case1 => exact abides_view.bind fun view => (abides_accountAtHand view).bind fun _ => .done _
  | case2 => simp

theorem abides_messages (args : List Value) : (messages args).Abides P args.length := by
  fun_cases messages args with
  | case1 => exact abides_view.bind fun view => (abides_folderAtHand view).bind fun _ => .done _
  | case2 name =>
    refine abides_view.bind fun view => (abides_accountAtHand view).bind fun a => ?_
    split
    · simp
    · simp
  | case3 => simp

theorem abides_thread (args : List Value) : (thread args).Abides P count := by
  refine abides_view.bind fun view => (abides_messageAtHand view).bind fun m => ?_
  dsimp only
  split
  · exact (abides_accountAtHand view).bind fun _ => .done _
  · simp

theorem abides_flag {f : Flag} (h : ∀ on, P (.mark f on)) (args : List Value) :
    (flag f args).Abides P count := by
  refine abides_view.bind fun view => (abides_messageAtHand view).bind fun _ => ?_
  split
  · simp
  · exact (abides_ask (h _)).bind fun reply => (abides_orFail reply).bind fun _ => .done _

/-! ## The outside -/

theorem abides_execute (h : ∀ command input, P (.execute command input)) (args : List Value) :
    (execute args).Abides P args.length := by
  fun_cases execute args with
  | case1 command more =>
    refine .look fun view => ?_
    dsimp only
    split
    · simp
    · split
      · simp
      · exact .request (h _ _) fun _ => .done _
  | case2 => simp

theorem abides_load (args : List Value) : (load args).Abides P args.length := by
  fun_cases load args with
  | case1 path =>
    refine .look fun view => ?_
    dsimp only
    split
    · simp
    · simp
  | case2 => simp

theorem abides_save (h : ∀ path text, P (.write path text)) (args : List Value) :
    (save args).Abides P args.length := by
  fun_cases save args with
  | case1 path text =>
    refine .look fun view => .request (h _ _) fun reply => ?_
    obtain fault | u := reply
    · simp
    · simp
  | case2 => simp

theorem abides_setProfile (h : ∀ sec key text, P (.setProfile sec key text)) (args : List Value) :
    (setProfile args).Abides P count := by
  fun_cases setProfile args with
  | case1 sec key v => exact .look fun view => .request (h _ _ _) fun _ => .done _
  | case2 => simp

theorem abides_inputBox (h : ∀ message default multiline, P (.askText message default multiline))
    (args : List Value) : (inputBox args).Abides P count := by
  fun_cases inputBox args with
  | case1 message more =>
    exact abides_view.bind fun view => (abides_ask (h _ _ _)).bind fun reply =>
      (abides_orFail reply).bind fun _ => .done _
  | case2 => simp

theorem abides_messageBox (h : ∀ text kind, P (.askButton text kind)) (args : List Value) :
    (messageBox args).Abides P count := by
  fun_cases messageBox args with
  | case1 message more =>
    exact abides_view.bind fun view => (abides_ask (h _ _)).bind fun reply =>
      (abides_orFail reply).bind fun _ => .done _
  | case2 => simp

theorem abides_timeOf (hcount : 1 ≤ count) (v : Value) (live : MessageKey → Bool) :
    (timeOf v live).Abides P count := by
  cases v with
  | string s | field name raw =>
    rw [timeOf.eq_def]
    dsimp only
    split
    · simp
    · exact abides_failAtWith.2 ⟨Nat.le_refl 1, hcount⟩
  | time t => exact .done t
  | _ => exact abides_failAt.2 ⟨Nat.le_refl 1, hcount⟩

theorem abides_formatDate (args : List Value) : (formatDate args).Abides P args.length := by
  fun_cases formatDate args with
  | case1 time format =>
    refine abides_view.bind fun view => (abides_timeOf (by simp) _ _).bind fun t => ?_
    split
    · simp
    · simp
  | case2 => simp

end Behaviour

namespace Builtin

open MailFormula.Action MailFormula.Behaviour

/-- **A built-in that receives formulas asks for what the table says**,
hands on no formulas but those it received, and blames none but those. -/
theorem onFormulas_abides (b : Builtin) (args : List Formula) :
    (b.onFormulas args).Abides (fun r => b ∈ r.askers ∧ ∀ f ∈ r.formulas, f ∈ args)
      args.length := by
  cases b with
  | choose => exact abides_choose (by simp)
  | conjunction => exact abides_conjunction (by simp)
  | disjunction => exact abides_disjunction (by simp)
  | loop => exact abides_loop (by simp +contextual)
  | recover => exact abides_recover (by simp) (by simp)
  | defun => exact abides_defun (by simp) (by simp)
  | forEach => exact abides_forEach (by simp) (by simp +contextual)
  | findEach => exact abides_findEach (by simp) (by simp +contextual)
  | _ => exact abides_failWith

theorem onFormulas_only_args (b : Builtin) (args : List Formula) :
    (b.onFormulas args).Only (fun r => b ∈ r.askers ∧ ∀ f ∈ r.formulas, f ∈ args) :=
  (b.onFormulas_abides args).only

theorem onFormulas_only (b : Builtin) (args : List Formula) :
    (b.onFormulas args).Only (fun r => b ∈ r.askers) :=
  (b.onFormulas_only_args args).mono fun _ h => h.1

/-- **So does a built-in that receives values.** -/
theorem onValues_abides (b : Builtin) (args : List Value) :
    (b.onValues args).Abides (fun r => b ∈ r.askers) args.length := by
  cases b with
  | exit => exact abides_exit (by simp) args
  | eval => exact abides_eval (fun _ => by simp) args
  | includeFile => exact abides_includeFile (fun _ => by simp) args
  | set => exact abides_set (fun _ _ _ => by simp) args
  | variableValue => exact abides_variableValue (fun _ _ _ => by simp) args
  | regex => exact abides_regex args
  | regexFind => exact abides_regexFind (fun _ => by simp) args
  | regexMatch => exact abides_regexMatch (fun _ => by simp) args
  | regexReplace => exact abides_regexReplace (fun _ => by simp) args
  | field => exact abides_field (by simp) args
  | header => exact (abides_partOr (by simp) args 0).bind fun _ => .done _
  | body => exact (abides_partOr (by simp) args 0).bind fun _ => .done _
  | part => exact abides_part (by simp) args
  | partCount => exact (abides_partOr (by simp) args 0).bind fun _ => .done _
  | attachment => exact (abides_partOr (by simp) args 0).bind fun _ => .done _
  | address => exact abides_address args
  | name => exact abides_name args
  | id => exact abides_ofMessage (fun m => .number m.id) args
  | size => exact abides_ofMessage (fun m => .number m.size) args
  | date => exact abides_ofMessage (fun m => .time m.date) args
  | folder => exact abides_folder args
  | account => exact abides_account args
  | messages => exact abides_messages args
  | thread => exact abides_thread args
  | flag f => exact abides_flag (fun _ => by simp) args
  | execute => exact abides_execute (fun _ _ => by simp) args
  | load => exact abides_load args
  | save => exact abides_save (fun _ _ => by simp) args
  | setProfile => exact abides_setProfile (fun _ _ _ => by simp) args
  | inputBox => exact abides_inputBox (fun _ _ _ => by simp) args
  | messageBox => exact abides_messageBox (fun _ _ => by simp) args
  | formatDate => exact abides_formatDate args
  -- These look at their arguments and at the session, and ask for nothing.
  | negation | progn | additive _ | equal | relative _ _ | contain _ | find | length
  | substring | replace | quote | group | selected | profile | now =>
    simp only [onValues, Behaviour.negation, Behaviour.progn, Behaviour.additive,
      Behaviour.equal, Behaviour.relative, Behaviour.contain, findText, Behaviour.length,
      Behaviour.substring, Behaviour.replace, Behaviour.quote, Behaviour.group,
      Behaviour.selected, Behaviour.profile, Behaviour.now]
    split <;> first
      | exact .done _
      | exact abides_failWith
      | exact .look fun view => .done _
  | concat => exact .look fun view => .done _
  | constant value => exact .done _
  | _ => exact abides_failWith

theorem onValues_only (b : Builtin) (args : List Value) :
    (b.onValues args).Only (fun r => b ∈ r.askers) :=
  (b.onValues_abides args).only

/-- Only a built-in that receives formulas has formulas to hand on, or one
that reads them from a text. -/
theorem formulas_eq_nil_of_mem_askers {b : Builtin} {r : Request} (h : b ∈ r.askers)
    (hlazy : b.isLazy = false) (heval : b ≠ .eval) (hinclude : b ≠ .includeFile) :
    r.formulas = [] := by
  cases r with
  | evaluate f | attempt f | loop condition body | visit key body found | define name body =>
    simp only [Request.askers, List.mem_cons, List.not_mem_nil, or_false] at h
    grind [isLazy]
  | _ => rfl

/-- **What is evaluated comes from the arguments**, where no text is read
as a formula. -/
theorem onValues_only_values {b : Builtin} (heval : b ≠ .eval) (hinclude : b ≠ .includeFile)
    (args : List Value) : (b.onValues args).Only (fun r => r.formulas = []) := by
  cases hlazy : b.isLazy with
  | false =>
    exact (b.onValues_only args).mono fun r hr =>
      formulas_eq_nil_of_mem_askers hr hlazy heval hinclude
  | true =>
    cases b with
    | choose | conjunction | disjunction | loop | recover | defun | forEach | findEach =>
      exact .fail _
    | _ => cases hlazy

end Builtin

end MailFormula
