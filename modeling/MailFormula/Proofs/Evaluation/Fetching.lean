import MailFormula.Proofs.Evaluation.Cache
import MailFormula.Proofs.Evaluation.Content
import Mathlib.Data.List.Induction
/-!
# How often content is fetched

A context fetches the content of its message when more of it is asked for
than it keeps, and keeps what it fetched. So every fetch raises how much
is kept, and there are few of them: one for each level above nothing, or
a single one where everything is fetched at once
(`content_fetched_as_granularity_grows`).

That holds while the message comes and goes. A request that needs no
fetch does not notice, one that needs a fetch fails and changes nothing
(`served`). As long as the message stays, what was asked for so far tells
which requests fetch: those that ask for more than all before them
(`Reading.Current`).
-/

namespace MailFormula

/-! ## Requests that ask for more -/

namespace Hint

variable {a b hint : Hint} {before : List Hint}

/-- What is fetched for a request: the header at least. -/
def raised (hint : Hint) : Hint := hint.max .header

/-- **A request asks for more** than any before it. -/
def Exceeds (before : List Hint) (hint : Hint) : Prop :=
  ∀ earlier ∈ before, ¬ hint.raised ≤ earlier.raised

instance (before : List Hint) (hint : Hint) : Decidable (Exceeds before hint) :=
  inferInstanceAs (Decidable (∀ earlier ∈ before, _))

/-- **How many requests ask for more** than all before them. -/
def rises (before : List Hint) : List Hint → Nat
  | [] => 0
  | hint :: hints => (if Exceeds before hint then 1 else 0) + rises (before ++ [hint]) hints

theorem rises_concat (before hints : List Hint) (hint : Hint) :
    rises before (hints ++ [hint]) =
      rises before hints + if Exceeds (before ++ hints) hint then 1 else 0 := by
  induction hints generalizing before with
  | nil => rw [List.nil_append, rises, rises, rises, List.append_nil, Nat.add_comm]
  | cons first hints ih =>
    rw [List.cons_append, rises, rises, ih, List.append_assoc, List.singleton_append,
      Nat.add_assoc]

theorem le_of_not_le (h : ¬ a ≤ b) : b ≤ a := Nat.le_of_not_le h

theorem raised_le_raised_iff : a.raised ≤ b.raised ↔ a ≤ b.raised := by
  have hb : b ≤ b.raised ∧ .header ≤ b.raised := max_le_iff.1 (le_refl b.raised)
  rw [raised, max_le_iff]
  exact and_iff_left hb.2

theorem exceeds_concat : Exceeds (before ++ [a]) hint ↔
    Exceeds before hint ∧ ¬ hint ≤ a.raised := by
  rw [Exceeds, List.forall_mem_append, List.forall_mem_singleton, raised_le_raised_iff, Exceeds]

/-- Behind a request that asks for no more, the same requests ask for
more as before. -/
theorem exceeds_concat_of_not_exceeds (h : ¬ Exceeds before a) :
    Exceeds (before ++ [a]) hint ↔ Exceeds before hint := by
  rw [exceeds_concat]
  refine and_iff_left_of_imp fun hhint hle => h fun earlier hmem ha => ?_
  exact hhint earlier hmem (le_trans (raised_le_raised_iff.2 hle) ha)

/-- Behind one that does, it alone tells which. -/
theorem exceeds_concat_of_exceeds (h : Exceeds before a) :
    Exceeds (before ++ [a]) hint ↔ ¬ hint ≤ a.raised := by
  rw [exceeds_concat]
  refine and_iff_right_of_imp fun hle earlier hmem hearlier => h earlier hmem ?_
  rw [← raised_le_raised_iff] at hle
  exact le_trans (le_of_not_le hle) hearlier

end Hint

/-! ## A message and its content -/

/-- The content of a message as it is handed out. -/
def Message.whole (m : Message) (key : MessageKey) : PartHandle := ⟨.message key, [], m.content⟩

namespace Store

variable {s : Store} {key : MessageKey} {m : Message} {st : Status}

/-- **The store has a message**, in some status. -/
structure Has (s : Store) (key : MessageKey) (m : Message) (st : Status) : Prop where
  message : s.catalog.message? key = some m
  status : s.status? key = some st

/-- How often the content of a message was fetched. -/
def fetchCount (s : Store) (key : MessageKey) : Nat := ((s.status? key).map Status.fetches).getD 0

/-- The content of a message can be fetched from now on, or no longer. -/
def switch (s : Store) (key : MessageKey) (available : Bool) : Store :=
  s.modifyStatus key (fun st => { st with available })

/-- A fetch is counted. -/
def count (s : Store) (key : MessageKey) : Store :=
  s.modifyStatus key (fun st => { st with fetches := st.fetches + 1 })

theorem Has.modifyStatus (h : s.Has key m st) (change : Status → Status) :
    (s.modifyStatus key change).Has key m (change st) where
  message := h.message
  status := by
    have hstatus : s.statuses[key]? = some st := h.status
    rw [status?, Store.modifyStatus, List.getElem?_modify_eq, hstatus]
    rfl

theorem Has.fetchCount_eq (h : s.Has key m st) : s.fetchCount key = st.fetches := by
  rw [fetchCount, h.status]
  rfl

/-- **A fetch** hands out the content while it is available, however much
is wanted. -/
theorem Has.fetch_eq (h : s.Has key m st) (wanted : Hint) :
    s.fetch key wanted = if st.available then some (m.content, s.count key) else none := by
  rw [fetch, h.message, h.status]
  rfl

end Store

/-! ## Requests at a context -/

namespace Context

variable {c : Context} {s : Store} {key : MessageKey} {hint had : Hint} {handle : PartHandle}

/-- **A context that was just made for a message**: it keeps no content. -/
structure NewAt (c : Context) (key : MessageKey) : Prop where
  holder : c.holder = some key
  fetched : c.fetched = none

/-- So is the child that a visit opens. -/
theorem newAt_child (c : Context) (catalog : Catalog) (key : MessageKey) :
    (c.child catalog key).NewAt key := ⟨rfl, rfl⟩

theorem kept?_eq_some_iff :
    c.kept? hint = some handle ↔ ∃ had, c.fetched = some (had, handle) ∧ hint ≤ had := by
  rw [kept?]
  rcases hfetched : c.fetched with - | ⟨had, handle'⟩
  · simp
  · simp [eq_comm, and_comm]

theorem not_le_of_kept?_eq_none (h : c.kept? hint = none)
    (hfetched : c.fetched = some (had, handle)) : ¬ hint ≤ had := by
  intro hle
  rw [kept?_eq_some_iff.2 ⟨had, hfetched, hle⟩] at h
  cases h

/-- A request that is answered with what is kept changes nothing. -/
theorem content_of_kept (hkey : c.holder = some key) (h : c.kept? hint = some handle) :
    c.content s hint = (.ok handle, c, s) := by
  obtain ⟨had, hfetched, hle⟩ := kept?_eq_some_iff.1 h
  rw [content, hkey, hfetched]
  exact if_pos hle

/-- Any other depends on whether the content can be fetched. -/
theorem content_of_not_kept (hkey : c.holder = some key) (h : c.kept? hint = none) :
    c.content s hint =
      match s.fetch key (c.wanted hint) with
      | none => (.error .getMessage, c, s)
      | some (part, t) => (.ok ⟨.message key, [], part⟩,
          { c with fetched := some (c.wanted hint, ⟨.message key, [], part⟩) }, t) := by
  rw [content, hkey]
  rcases hfetched : c.fetched with - | ⟨had, handle⟩
  · rfl
  · exact if_neg (not_le_of_kept?_eq_none h hfetched)

/-- At least as much is fetched as was asked for, and the header. -/
theorem raised_le_wanted (c : Context) (hint : Hint) : hint.raised ≤ c.wanted hint := by
  rw [wanted]
  split
  · cases hint <;> decide
  · exact Hint.le_refl _

theorem le_wanted (c : Context) (hint : Hint) : hint ≤ c.wanted hint :=
  (Hint.max_le_iff.1 (c.raised_le_wanted hint)).1

/-- **What is fetched is more than what was kept.** -/
theorem not_wanted_le_granularity (h : c.kept? hint = none) : ¬ c.wanted hint ≤ c.granularity := by
  rw [granularity]
  rcases hfetched : c.fetched with - | ⟨had, handle⟩
  · have hheader := (Hint.max_le_iff.1 (c.raised_le_wanted hint)).2
    exact fun hle => absurd (Hint.le_trans hheader hle) (by decide)
  · exact fun hle => not_le_of_kept?_eq_none h hfetched (Hint.le_trans (c.le_wanted hint) hle)

end Context

/-! ## A context that reads a message -/

/-- A context, which keeps content, and the store that it fetches from. -/
structure ContentCache where
  context : Context
  store : Store

namespace ContentCache

/-- What can happen to a message that is read: its content is asked for,
or can be fetched from now on, or no longer. -/
inductive Event where
  | ask (hint : Hint)
  | switch (available : Bool)
deriving DecidableEq

variable {key : MessageKey} {m : Message} {st : Status} {hint : Hint} {start now : ContentCache}
  {events : List Event}

/-- The answer to a request. -/
def answer (r : ContentCache) (hint : Hint) : Except ErrorCode PartHandle :=
  (r.context.content r.store hint).1

/-- What a request leaves. -/
def ask (r : ContentCache) (hint : Hint) : ContentCache :=
  ⟨(r.context.content r.store hint).2.1, (r.context.content r.store hint).2.2⟩

/-- What an event leaves. -/
def after (key : MessageKey) (r : ContentCache) : Event → ContentCache
  | .ask hint => r.ask hint
  | .switch available => ⟨r.context, r.store.switch key available⟩

/-- What several events leave, one after the other. -/
def run (key : MessageKey) (r : ContentCache) (events : List Event) : ContentCache :=
  events.foldl (after key) r

/-- What the events asked for. -/
def asked (events : List Event) : List Hint :=
  events.filterMap fun
    | .ask hint => some hint
    | .switch _ => none

theorem run_append (key : MessageKey) (r : ContentCache) (events more : List Event) :
    run key r (events ++ more) = run key (run key r events) more := List.foldl_append

theorem run_concat (key : MessageKey) (r : ContentCache) (events : List Event) (e : Event) :
    run key r (events ++ [e]) = after key (run key r events) e := run_append key r events [e]

theorem asked_ask (events : List Event) (hint : Hint) :
    asked (events ++ [.ask hint]) = asked events ++ [hint] := List.filterMap_append

theorem asked_switch (events : List Event) (available : Bool) :
    asked (events ++ [.switch available]) = asked events :=
  List.filterMap_append.trans (List.append_nil _)

/-- **How a request is answered**: with what is kept, if that is enough;
else with what is fetched, which is as much as was asked for and more
than was kept, and is kept from then on; or not at all. -/
inductive Served (key : MessageKey) (m : Message) (r : ContentCache) (hint : Hint) :
    Except ErrorCode PartHandle → ContentCache → Prop
  | kept {had : Hint} :
      r.context.fetched = some (had, m.whole key) → hint ≤ had →
        Served key m r hint (.ok (m.whole key)) r
  | fetched {had : Hint} {st : Status} :
      r.context.kept? hint = none → r.store.Has key m st → st.available = true →
        had = r.context.wanted hint → hint ≤ had → ¬ had ≤ r.context.granularity →
          Served key m r hint (.ok (m.whole key))
            ⟨{ r.context with fetched := some (had, m.whole key) }, r.store.count key⟩
  | failed {st : Status} :
      r.context.kept? hint = none → r.store.Has key m st → st.available = false →
        Served key m r hint (.error .getMessage) r

/-- **At a context that reads a message**, whatever has happened: it is
the same context but for what it keeps, the message is there, and what is
kept is its content, all of it where everything is fetched. -/
structure Since (key : MessageKey) (m : Message) (start now : ContentCache) : Prop where
  holder : now.context.holder = some key
  permissions : now.context.permissions = start.context.permissions
  present : ∃ st, now.store.Has key m st
  kept : ∀ had handle, now.context.fetched = some (had, handle) → handle = m.whole key ∧
    (start.context.permissions.fetchWhole = true → had = .all)

theorem Since.of_newAt (hnew : start.context.NewAt key) (hm : start.store.Has key m st) :
    Since key m start start where
  holder := hnew.holder
  permissions := rfl
  present := ⟨st, hm⟩
  kept := by
    intro had handle hfetched
    rw [hnew.fetched] at hfetched
    cases hfetched

/-- **Every request is answered in one of these ways.** -/
theorem served (h : Since key m start now) (hint : Hint) :
    Served key m now hint (now.answer hint) (now.ask hint) := by
  obtain ⟨st, hm⟩ := h.present
  rw [answer, ask]
  rcases hkept : now.context.kept? hint with - | handle
  · rw [Context.content_of_not_kept h.holder hkept, hm.fetch_eq]
    cases havailable : st.available with
    | true =>
      exact .fetched hkept hm havailable rfl (now.context.le_wanted hint)
        (Context.not_wanted_le_granularity hkept)
    | false => exact .failed hkept hm havailable
  · rw [Context.content_of_kept h.holder hkept]
    obtain ⟨had, hfetched, hle⟩ := Context.kept?_eq_some_iff.1 hkept
    obtain ⟨rfl, -⟩ := h.kept had handle hfetched
    exact .kept hfetched hle

/-- **A request changes nothing, or it fetches** more than was kept. -/
theorem ask_eq_or_fetches (h : Since key m start now) (hint : Hint) :
    now.ask hint = now ∨ ∃ had st, now.store.Has key m st ∧ now.context.kept? hint = none ∧
      had = now.context.wanted hint ∧ ¬ had ≤ now.context.granularity ∧
      now.ask hint =
        ⟨{ now.context with fetched := some (had, m.whole key) }, now.store.count key⟩ := by
  have hserved := served h hint
  generalize now.answer hint = answer at hserved
  generalize now.ask hint = next at hserved ⊢
  cases hserved with
  | kept | failed => exact .inl rfl
  | @fetched had st hnone hm _ hhad _ hmore => exact .inr ⟨had, st, hm, hnone, hhad, hmore, rfl⟩

/-- **Whatever happens next**, the context still reads the message. -/
theorem Since.after (h : Since key m start now) (e : Event) :
    Since key m start (after key now e) := by
  cases e with
  | ask hint =>
    rw [ContentCache.after]
    obtain hsame | ⟨had, st, hm, -, hhad, -, hfetches⟩ := ask_eq_or_fetches h hint
    · rw [hsame]
      exact h
    · rw [hfetches]
      refine ⟨h.holder, h.permissions, ⟨_, hm.modifyStatus _⟩, ?_⟩
      rintro had' handle hfetched
      obtain ⟨rfl, rfl⟩ := Prod.mk.inj (Option.some.inj hfetched)
      refine ⟨rfl, fun hwhole => ?_⟩
      rw [hhad, Context.wanted, h.permissions, if_pos hwhole]
  | switch available =>
    obtain ⟨st, hm⟩ := h.present
    exact ⟨h.holder, h.permissions, ⟨_, hm.modifyStatus _⟩, h.kept⟩

theorem Since.run (h : Since key m start now) (events : List Event) :
    Since key m start (run key now events) := by
  induction events using List.reverseRecOn with
  | nil => exact h
  | append_singleton events e ih =>
    rw [run_concat]
    exact ih.after e

/-! ## How much is kept, and what it took -/

/-- **What is kept never gets less.** -/
theorem granularity_le_after (h : Since key m start now) (e : Event) :
    now.context.granularity ≤ (after key now e).context.granularity := by
  cases e with
  | ask hint =>
    rw [after]
    obtain hsame | ⟨had, st, -, -, -, hmore, hfetches⟩ := ask_eq_or_fetches h hint
    · rw [hsame]
      exact Hint.le_refl _
    · rw [hfetches]
      exact Hint.le_of_not_le hmore
  | switch available => exact Hint.le_refl _

theorem granularity_le_run (h : Since key m start now) (events : List Event) :
    now.context.granularity ≤ (run key now events).context.granularity := by
  induction events using List.reverseRecOn with
  | nil => exact Hint.le_refl _
  | append_singleton events e ih =>
    rw [run_concat]
    exact Hint.le_trans ih (granularity_le_after (h.run events) e)

/-- **How many fetches it can have taken** to keep as much: one where each
fetches everything, and else one for each level. -/
def spent (c : Context) : Nat :=
  if c.permissions.fetchWhole then (if c.fetched.isSome then 1 else 0) else c.granularity.rank

theorem spent_le_three (c : Context) : spent c ≤ 3 := by
  rw [spent]
  split
  · split <;> decide
  · cases c.granularity <;> decide

theorem spent_le_one {c : Context} (h : c.permissions.fetchWhole = true) : spent c ≤ 1 := by
  rw [spent, if_pos h]
  split <;> decide

/-- Everything is enough for every request, so it was not kept when
something was fetched. -/
theorem Since.fetched_eq_none (h : Since key m start now)
    (hwhole : start.context.permissions.fetchWhole = true)
    (hnone : now.context.kept? hint = none) : now.context.fetched = none := by
  rcases hfetched : now.context.fetched with - | ⟨had, handle⟩
  · rfl
  · obtain rfl := (h.kept had handle hfetched).2 hwhole
    exact absurd (by cases hint <;> decide) (Context.not_le_of_kept?_eq_none hnone hfetched)

/-- **A fetch has its price.** -/
theorem fetchCount_after (h : Since key m start now) (e : Event) :
    (after key now e).store.fetchCount key + spent now.context ≤
      now.store.fetchCount key + spent (after key now e).context := by
  cases e with
  | ask hint =>
    rw [after]
    obtain hsame | ⟨had, st, hm, hnone, -, hmore, hfetches⟩ := ask_eq_or_fetches h hint
    · exact Nat.le_of_eq (by rw [hsame])
    · rw [hfetches]
      have hcount : now.store.fetchCount key + 1 = (now.store.count key).fetchCount key := by
        rw [Store.count, (hm.modifyStatus _).fetchCount_eq, hm.fetchCount_eq]
      have hspent : spent now.context + 1 ≤
          spent { now.context with fetched := some (had, m.whole key) } := by
        rw [spent, spent]
        cases hwhole : now.context.permissions.fetchWhole with
        | true =>
          rw [h.fetched_eq_none (h.permissions ▸ hwhole) hnone]
          exact Nat.le_refl 1
        | false => exact Nat.lt_of_not_le hmore
      have hprice := Nat.add_le_add_left hspent (now.store.fetchCount key)
      rw [Nat.add_comm (spent now.context), ← Nat.add_assoc, hcount] at hprice
      exact hprice
  | switch available =>
    obtain ⟨st, hm⟩ := h.present
    have hcount : (now.store.switch key available).fetchCount key = now.store.fetchCount key := by
      rw [Store.switch, (hm.modifyStatus _).fetchCount_eq, hm.fetchCount_eq]
    exact Nat.le_of_eq (congrArg (· + _) hcount)

theorem fetchCount_run (h : Since key m start now) (events : List Event) :
    (run key now events).store.fetchCount key + spent now.context ≤
      now.store.fetchCount key + spent (run key now events).context := by
  induction events using List.reverseRecOn with
  | nil => exact Nat.le_refl _
  | append_singleton events e ih =>
    have hstep := fetchCount_after (h.run events) e
    rw [run_concat]
    omega

/-! ## A message that stays -/

/-- **What was asked for tells what is kept**, and how often that was
fetched. -/
structure Current (key : MessageKey) (m : Message) (start : ContentCache) (asked : List Hint)
    (now : ContentCache) : Prop where
  available : ∃ st, now.store.Has key m st ∧ st.available = true
  enough : ∀ hint, now.context.kept? hint = none ↔ Hint.Exceeds asked hint
  count : now.store.fetchCount key = start.store.fetchCount key + Hint.rises [] asked

theorem Current.of_newAt (hnew : start.context.NewAt key) (hm : start.store.Has key m st)
    (havailable : st.available = true) : Current key m start [] start where
  available := ⟨st, hm, havailable⟩
  enough := by
    intro hint
    rw [Context.kept?, hnew.fetched]
    exact iff_of_true rfl fun _ hmem => absurd hmem List.not_mem_nil
  count := rfl

/-- **A request fetches exactly when it asks for more** than all before. -/
theorem Current.ask {before : List Hint} (h : Current key m start before now)
    (hsince : Since key m start now) (hpart : start.context.permissions.fetchWhole = false)
    (hint : Hint) : Current key m start (before ++ [hint]) (now.ask hint) := by
  obtain ⟨st, hm, havailable⟩ := h.available
  have hserved := served hsince hint
  have hcount := Hint.rises_concat [] before hint
  rw [List.nil_append] at hcount
  generalize now.answer hint = answer at hserved
  generalize now.ask hint = next at hserved ⊢
  cases hserved with
  | @kept had hfetched hle =>
    have hmore : ¬ Hint.Exceeds before hint := fun hexceeds =>
      Context.not_le_of_kept?_eq_none ((h.enough hint).2 hexceeds) hfetched hle
    refine ⟨h.available, fun other => ?_, ?_⟩
    · rw [Hint.exceeds_concat_of_not_exceeds hmore, h.enough]
    · rw [hcount, if_neg hmore, h.count, Nat.add_zero]
  | @fetched had st' hnone hm' _ hhad =>
    have hmore : Hint.Exceeds before hint := (h.enough hint).1 hnone
    have hraised : had = hint.raised := by
      rw [hhad, Context.wanted, hsince.permissions, hpart]
      rfl
    refine ⟨⟨_, hm.modifyStatus _, havailable⟩, fun other => ?_, ?_⟩
    · rw [Hint.exceeds_concat_of_exceeds hmore, Context.kept?, hraised]
      exact ite_eq_right_iff.trans (by simp)
    · rw [hcount, if_pos hmore, ← Nat.add_assoc, ← h.count, Store.count,
        (hm.modifyStatus _).fetchCount_eq, hm.fetchCount_eq]
  | @failed st' _ hm' hgone =>
    obtain rfl : st = st' := Option.some.inj (hm.status.symm.trans hm'.status)
    rw [havailable] at hgone
    cases hgone

/-- Nothing changes for a message that is switched to what it was. -/
theorem Current.switch {before : List Hint} (h : Current key m start before now) :
    Current key m start before (after key now (.switch true)) := by
  obtain ⟨st, hm, -⟩ := h.available
  refine ⟨⟨_, hm.modifyStatus _, rfl⟩, h.enough, ?_⟩
  rw [← h.count, hm.fetchCount_eq]
  exact (hm.modifyStatus _).fetchCount_eq

theorem Current.run (hnew : start.context.NewAt key) (hm : start.store.Has key m st)
    (havailable : st.available = true) (hpart : start.context.permissions.fetchWhole = false)
    (hstays : Event.switch false ∉ events) :
    Current key m start (asked events) (run key start events) := by
  induction events using List.reverseRecOn with
  | nil => exact .of_newAt hnew hm havailable
  | append_singleton events e ih =>
    rw [List.mem_append, not_or, List.mem_singleton] at hstays
    have hcurrent := ih hstays.1
    rw [run_concat]
    cases e with
    | ask hint =>
      rw [asked_ask]
      exact hcurrent.ask ((Since.of_newAt hnew hm).run events) hpart hint
    | switch available =>
      cases available with
      | true =>
        rw [asked_switch]
        exact hcurrent.switch
      | false => exact absurd rfl hstays.2

/-- **Content is fetched no more often than granularity grows.** At a
context that was just made for a message, let its content be asked for
any number of times, and let the message come and go in between. Each
request is then answered with as much as it asks for, kept or fetched, or
fails because the message is gone and changes nothing; one that asks for
no more than is kept is answered from there. What is kept never gets
less. At most three fetches succeed, and one where everything is fetched
at once. As long as the message stays, and not everything is fetched at
once, they are as many as there are requests that ask for more than all
before them. -/
theorem content_fetched_as_granularity_grows {key : MessageKey} {m : Message} {st : Status}
    {start : ContentCache} (hnew : start.context.NewAt key) (hm : start.store.Has key m st)
    (events : List Event) :
    (∀ hint, Served key m (run key start events) hint
      ((run key start events).answer hint) ((run key start events).ask hint)) ∧
    (∀ hint had handle, (run key start events).context.fetched = some (had, handle) → hint ≤ had →
      (run key start events).answer hint = .ok handle ∧
        (run key start events).ask hint = run key start events) ∧
    (∀ more, (run key start events).context.granularity ≤
      (run key start (events ++ more)).context.granularity) ∧
    (run key start events).store.fetchCount key ≤ start.store.fetchCount key + 3 ∧
    (start.context.permissions.fetchWhole = true →
      (run key start events).store.fetchCount key ≤ start.store.fetchCount key + 1) ∧
    (start.context.permissions.fetchWhole = false → st.available = true →
      Event.switch false ∉ events →
        (run key start events).store.fetchCount key =
          start.store.fetchCount key + Hint.rises [] (asked events)) := by
  have hsince := (Since.of_newAt hnew hm).run events
  have hcount := fetchCount_run (Since.of_newAt hnew hm) events
  refine ⟨served hsince, ?_, fun more => ?_, ?_, fun hwhole => ?_,
    fun hpart havailable hstays => (Current.run hnew hm havailable hpart hstays).count⟩
  · intro hint had handle hfetched hle
    have hkept := Context.content_of_kept (s := (run key start events).store) hsince.holder
      (Context.kept?_eq_some_iff.2 ⟨had, hfetched, hle⟩)
    rw [answer, ask, hkept]
    exact ⟨rfl, rfl⟩
  · rw [run_append]
    exact granularity_le_run hsince more
  · have hthree := spent_le_three (run key start events).context
    omega
  · have hone := spent_le_one (hsince.permissions ▸ hwhole)
    omega

/-- A visit to the only message of a mailbox. -/
def visiting : ContentCache :=
  let store := Store.addDetached {} "Subject: x\n\ny" false
  ⟨Context.child {} store.catalog 0, store⟩

/-- Requests that ask for more and more, and some that do not. -/
def asksAgain : List Event :=
  [.ask .none, .ask .header, .switch true, .ask .text, .ask .none, .ask .all, .ask .text, .ask .all]

/-- The first request fetches the header though it asks for nothing; of the
others only two fetch. -/
theorem visiting_fetches_three_times :
    visiting.context.NewAt 0 ∧
    visiting.store.Has 0 (Message.read 1 none false "Subject: x\n\ny") {} ∧
    visiting.context.permissions.fetchWhole = false ∧
    Event.switch false ∉ asksAgain ∧
    (run 0 visiting asksAgain).store.fetchCount 0 = 3 := by
  have hnew : visiting.context.NewAt 0 := Context.newAt_child _ _ _
  have hm : visiting.store.Has 0 (Message.read 1 none false "Subject: x\n\ny") {} :=
    ⟨rfl, rfl⟩
  have hstays : Event.switch false ∉ asksAgain := by decide
  obtain ⟨-, -, -, -, -, hcount⟩ :=
    content_fetched_as_granularity_grows hnew hm asksAgain
  refine ⟨hnew, hm, rfl, hstays, (hcount rfl rfl hstays).trans ?_⟩
  rw [hm.fetchCount_eq]
  decide

end ContentCache

end MailFormula
