import MailFormula.Proofs.Evaluation.Confinement
import MailFormula.Proofs.Evaluation.Depth
import MailFormula.Proofs.Evaluation.Twin
/-!
# Content that is kept

A context keeps the content of its message once it was fetched. What is
kept is the content of that message and of no other (`Context.Genuine`):
it is kept by fetching alone, and a message in the catalog never changes.
So keeping it hides nothing. A message that can be fetched answers the
same from what is kept as it does afresh (`answer_of_available`), and one
that cannot be fetched does not get into what is kept.

Two sessions that differ in what is kept and in the fetches that were
counted, and give the same answers, are alike to a formula that only
reads (`Course.rerun`).
-/

namespace MailFormula

/-! ## Genuine content -/

/-- **What a context keeps is the content of its message.** -/
def Context.Genuine (c : Context) (catalog : Catalog) : Prop :=
  ∀ had handle, c.fetched = some (had, handle) →
    ∃ key m, c.holder = some key ∧ catalog.message? key = some m ∧
      handle = ⟨.message key, [], m.content⟩

/-- A context that keeps nothing keeps nothing wrong. -/
theorem Context.genuine_of_none {c : Context} (h : c.fetched = none) (catalog : Catalog) :
    c.Genuine catalog := by
  intro had handle hfetched
  rw [h] at hfetched
  cases hfetched

/-- Content that is fetched is that of the message in the catalog. -/
theorem Store.message?_of_fetch {s t : Store} {key : MessageKey} {wanted : Hint} {part : Part}
    (h : s.fetch key wanted = some (part, t)) :
    ∃ m, s.catalog.message? key = some m ∧ m.content = part := by
  rw [fetch] at h
  split at h
  · rename_i m status hm _
    split at h
    · exact ⟨m, hm, (Prod.mk.inj (Option.some.inj h)).1⟩
    · cases h
  · cases h

/-- Asking for content keeps it genuine. -/
theorem Context.genuine_content {c : Context} {store : Store}
    (h : c.Genuine store.catalog) (hint : Hint) :
    (c.content store hint).2.1.Genuine store.catalog := by
  have hhad := c.had_content store hint
  generalize c.content store hint = o at hhad ⊢
  cases hhad with
  | same answer => exact h
  | @fresh key part store' hkey hfetch =>
    obtain ⟨m, hm, rfl⟩ := Store.message?_of_fetch hfetch
    intro had handle hkept
    obtain ⟨-, rfl⟩ := Prod.mk.inj (Option.some.inj hkept)
    exact ⟨key, m, hkey, hm, rfl⟩

/-- The catalog is as it was, and what is kept is as genuine. -/
structure KeepsGenuine (s t : Session) : Prop where
  catalog : t.store.catalog = s.store.catalog
  genuine : s.context.Genuine s.store.catalog → t.context.Genuine t.store.catalog

namespace KeepsGenuine

variable {s t u : Session}

theorem refl (s : Session) : KeepsGenuine s s := ⟨rfl, fun h => h⟩

theorem trans (h : KeepsGenuine s t) (k : KeepsGenuine t u) : KeepsGenuine s u :=
  ⟨k.catalog.trans h.catalog, fun hs => k.genuine (h.genuine hs)⟩

theorem effect {r : Request} (hr : r.isPlain = true) (s : Session) :
    KeepsGenuine s (r.effect s).2 := by
  have hcatalog : (r.effect s).2.store.catalog = s.store.catalog :=
    (contained_effect hr s).confined.catalog
  refine ⟨hcatalog, fun hs => ?_⟩
  rw [hcatalog]
  by_cases hcontent : ∃ hint, r = .content hint
  · obtain ⟨hint, rfl⟩ := hcontent
    exact Context.genuine_content hs hint
  · rwa [context_effect_of_ne hr fun hint h => hcontent ⟨hint, h⟩]

/-- A visit comes back to the context that it began from. -/
theorem withContextOf {key : MessageKey} (h : KeepsGenuine (s.openChild key) t) :
    KeepsGenuine s (t.withContextOf s) := by
  have hcatalog : t.store.catalog = s.store.catalog := h.catalog
  exact ⟨hcatalog, fun hs => by rw [← hcatalog] at hs; exact hs⟩

end KeepsGenuine

/-- **The law of genuine content.** -/
def genuineContent : Law where
  keeps := KeepsGenuine
  stops := fun s _ t => KeepsGenuine s t
  refl := KeepsGenuine.refl
  trans := KeepsGenuine.trans
  stops_trans := KeepsGenuine.trans
  fails := fun s _ => KeepsGenuine.refl s
  tires := fun _ h => h
  caught := fun h => h
  effect := by
    intro r hr s
    have h := KeepsGenuine.effect hr s
    generalize r.effect s = o at h ⊢
    obtain ⟨e | a, t⟩ := o
    · exact h
    · exact h
  call := fun h => h.imp (fun k => ⟨k.catalog, k.genuine⟩) fun _ k => ⟨k.catalog, k.genuine⟩
  frame := fun h => h.imp (fun k => ⟨k.catalog, k.genuine⟩) fun _ k => ⟨k.catalog, k.genuine⟩
  child := fun h => h.imp KeepsGenuine.withContextOf fun _ => KeepsGenuine.withContextOf

theorem keepsGenuine_evaluate (patience : Nat) (f : Formula) (s : Session) :
    KeepsGenuine s (s.evaluate patience f).2 := by
  have h := genuineContent.holds_evaluate patience f s
  generalize s.evaluate patience f = o at h ⊢
  obtain ⟨e | v, t⟩ := o
  · exact h
  · exact h

/-- **Whatever evaluations reach keeps genuine content only.** -/
theorem Session.Reachable.genuine {s : Session} (h : s.Reachable) :
    s.context.Genuine s.store.catalog := by
  induction h with
  | fresh hs => exact Context.genuine_of_none hs.fetched _
  | @evaluate s patience f _ ih => exact (keepsGenuine_evaluate patience f s).genuine ih
  | @value s patience f _ ih =>
    have hkeeps := (keepsGenuine_evaluate patience f { s with signal := none }).genuine ih
    rw [Session.value]
    generalize Session.evaluate patience f { s with signal := none } = o at hkeeps ⊢
    obtain ⟨(e | g | -) | v, t⟩ := o
    · exact hkeeps
    · exact hkeeps
    · exact hkeeps
    · exact hkeeps

/-! ## Sessions with nothing fetched -/

def Context.unfetched (c : Context) : Context := { c with fetched := none }

def Status.unfetched (st : Status) : Status := { st with fetches := 0 }

def Store.unfetched (s : Store) : Store :=
  { s with statuses := s.statuses.map Status.unfetched }

/-- **The session with nothing fetched**: without the content that its
context keeps, and with no fetch counted. -/
def Session.unfetched (s : Session) : Session :=
  { s with context := s.context.unfetched, store := s.store.unfetched }

/-- The same with nothing kept in the contexts around either. -/
def Session.uncached (s : Session) : Session :=
  { s.unfetched with enclosing := s.enclosing.map Context.unfetched }

/-- A fetch leaves no trace but its count. -/
theorem Store.unfetched_of_fetch {s t : Store} {key : MessageKey} {wanted : Hint} {part : Part}
    (h : s.fetch key wanted = some (part, t)) : t.unfetched = s.unfetched := by
  obtain rfl := eq_of_fetch h
  have hcount : ∀ st : Status, Status.unfetched { st with fetches := st.fetches + 1 } =
      st.unfetched := fun _ => rfl
  exact congrArg (Store.mk s.catalog) (map_statuses_modifyStatus hcount s key)

/-- Asking for content leaves no trace but what is kept and counted. -/
theorem unfetched_content (hint : Hint) (s : Session) :
    ((Request.content hint).effect s).2.unfetched = s.unfetched := by
  have hhad := s.context.had_content s.store hint
  rw [Request.effect, perform]
  dsimp only
  generalize s.context.content s.store hint = o at hhad ⊢
  cases hhad with
  | same answer => rfl
  | @fresh key part store' _ hfetch =>
    rw [Session.unfetched, Session.unfetched]
    dsimp only
    rw [Store.unfetched_of_fetch hfetch]
    rfl

namespace Session

variable {s t : Session}

theorem uncached_eq_of_unfetched_eq (h : t.unfetched = s.unfetched) :
    t.uncached = s.uncached := by
  have henclosing : t.unfetched.enclosing = s.unfetched.enclosing := by rw [h]
  change t.enclosing = s.enclosing at henclosing
  rw [uncached, uncached, h, henclosing]

/-- Whether a message can still be read does not hang on what is kept. -/
theorem isLive_uncached (s : Session) : s.uncached.isLive = s.isLive := by
  funext key
  have hheld : (s.uncached.context :: s.uncached.enclosing).any (fun c => c.holder == some key) =
      (s.context :: s.enclosing).any (fun c => c.holder == some key) := by
    change ((s.context :: s.enclosing).map Context.unfetched).any _ = _
    rw [List.any_map]
    rfl
  rw [isLive, isLive, hheld]
  rfl

/-- **A session shows the same with nothing kept.** -/
theorem view_uncached (s : Session) : s.uncached.view = s.view := by
  have hflags : ((s.uncached.context.holder.bind s.uncached.store.status?).map Status.flags) =
      ((s.context.holder.bind s.store.status?).map Status.flags) := by
    change (s.context.holder.bind fun key => (s.store.statuses.map Status.unfetched)[key]?).map
      Status.flags = _
    cases s.context.holder with
    | none => rfl
    | some key =>
      rw [Option.bind_some, Option.bind_some, List.getElem?_map, Option.map_map]
      rfl
  rw [view, view, hflags, isLive_uncached]
  rfl

end Session

/-! ## Answers -/

/-- The content of a message, if it can be fetched. -/
def Store.content? (s : Store) (key : MessageKey) : Option Part := (s.fetch key .all).map Prod.fst

/-- **However much is wanted**, it is the same content that is handed out. -/
theorem Store.content?_eq (s : Store) (key : MessageKey) (wanted : Hint) :
    s.content? key = (s.fetch key wanted).map Prod.fst := rfl

theorem Store.content?_unfetched (s : Store) (key : MessageKey) :
    s.unfetched.content? key = s.content? key := by
  have hstatus : s.unfetched.status? key = (s.status? key).map Status.unfetched :=
    List.getElem?_map
  have hcatalog : s.unfetched.catalog = s.catalog := rfl
  rw [content?, content?, fetch, fetch, hstatus, hcatalog]
  cases s.catalog.message? key with
  | none => rfl
  | some m =>
    cases s.status? key with
    | none => rfl
    | some st =>
      dsimp only [Option.map_some, Status.unfetched]
      split
      · rfl
      · rfl

namespace Context

/-- What a context answers when it is asked for content. -/
def answer (c : Context) (s : Store) (hint : Hint) : Except ErrorCode PartHandle :=
  (c.content s hint).1

/-- The content that is kept, if it is as much as asked for. -/
def kept? (c : Context) (hint : Hint) : Option PartHandle :=
  match c.fetched with
  | some (had, handle) => if hint ≤ had then some handle else none
  | none => none

theorem fetched_of_kept? {c : Context} {hint : Hint} {handle : PartHandle}
    (h : c.kept? hint = some handle) : ∃ had, c.fetched = some (had, handle) := by
  rw [kept?] at h
  split at h
  · rename_i had handle' hfetched
    split at h
    · exact ⟨had, Option.some.inj h ▸ hfetched⟩
    · cases h
  · cases h

/-- **What a context answers**: what it keeps, if that is enough, and else
what can be fetched. -/
theorem answer_eq (c : Context) (s : Store) (hint : Hint) :
    c.answer s hint =
      match c.holder with
      | none => .error .noContextMessage
      | some key =>
        match c.kept? hint, s.content? key with
        | some handle, _ => .ok handle
        | none, some part => .ok ⟨.message key, [], part⟩
        | none, none => .error .getMessage := by
  rw [answer, content, kept?]
  cases c.holder with
  | none => rfl
  | some key =>
    dsimp only
    rw [Store.content?_eq s key (c.wanted hint)]
    cases c.fetched with
    | none =>
      cases s.fetch key (c.wanted hint) with
      | none => rfl
      | some fetched => rfl
    | some kept =>
      dsimp only
      split
      · rfl
      · cases s.fetch key (c.wanted hint) with
        | none => rfl
        | some fetched => rfl

/-- Fetches that were counted before do not show in an answer. -/
theorem answer_unfetched (c : Context) (s : Store) (hint : Hint) :
    c.answer s.unfetched hint = c.answer s hint := by
  rw [answer_eq, answer_eq]
  cases c.holder with
  | none => rfl
  | some key =>
    dsimp only
    rw [Store.content?_unfetched]

/-- **A message that can be fetched has one answer**, kept or not. -/
theorem answer_of_available {c : Context} {s : Store} {key : MessageKey} {part : Part}
    (hc : c.Genuine s.catalog) (hkey : c.holder = some key) (hpart : s.content? key = some part)
    (hint : Hint) : c.answer s hint = .ok ⟨.message key, [], part⟩ := by
  rw [answer_eq, hkey]
  dsimp only
  rw [hpart]
  cases hkept : c.kept? hint with
  | none => rfl
  | some handle =>
    obtain ⟨had, hfetched⟩ := fetched_of_kept? hkept
    obtain ⟨key', m, hkey', hm, rfl⟩ := hc had handle hfetched
    obtain rfl : key = key' := Option.some.inj (hkey.symm.trans hkey')
    obtain ⟨⟨part', t⟩, hfetch, rfl⟩ := Option.map_eq_some_iff.1 hpart
    obtain ⟨m', hm', rfl⟩ := Store.message?_of_fetch hfetch
    rw [Option.some.inj (hm.symm.trans hm')]

/-- **Asking for content changes no answer.** -/
theorem answer_content {c : Context} {s : Store} (hc : c.Genuine s.catalog) (hint asked : Hint) :
    (c.content s asked).2.1.answer s hint = c.answer s hint := by
  have hgenuine := genuine_content hc asked
  have hhad := c.had_content s asked
  generalize c.content s asked = o at hgenuine hhad ⊢
  cases hhad with
  | same answer => rfl
  | @fresh key part store' hkey hfetch =>
    have hpart : s.content? key = some part := by
      rw [Store.content?_eq s key (c.wanted asked), hfetch]
      rfl
    rw [answer_of_available hgenuine hkey hpart, answer_of_available hc hkey hpart]

end Context

/-! ## Sessions that answer the same -/

/-- **The two sessions differ in what was fetched, and answer the same.**
All their answers are told from one mailbox, as it is with no fetch
counted. -/
structure SameAnswers (base : Store) (s t : Session) : Prop where
  uncached : t.uncached = s.uncached
  store : s.store.unfetched = base
  genuine : s.context.Genuine base.catalog
  genuine' : t.context.Genuine base.catalog
  answers : ∀ hint, t.context.answer base hint = s.context.answer base hint

namespace SameAnswers

variable {base : Store} {s t u o p : Session}

theorem refl (hs : s.context.Genuine s.store.catalog) : SameAnswers s.store.unfetched s s :=
  ⟨rfl, rfl, hs, hs, fun _ => rfl⟩

/-- What does not look at what was fetched is the same in both. -/
theorem read_eq {β : Type} (h : SameAnswers base s t) (read : Session → β)
    (hread : ∀ s, read s.uncached = read s) : read t = read s := by
  rw [← hread t, h.uncached, hread]

theorem limits_eq (h : SameAnswers base s t) : t.limits = s.limits :=
  h.read_eq Session.limits fun _ => rfl

theorem symm (h : SameAnswers base s t) : SameAnswers base t s where
  uncached := h.uncached.symm
  store := by
    have hstore : t.uncached.store = s.uncached.store := by rw [h.uncached]
    exact hstore.trans h.store
  genuine := h.genuine'
  genuine' := h.genuine
  answers := fun hint => (h.answers hint).symm

theorem trans (h : SameAnswers base s t) (k : SameAnswers base t u) : SameAnswers base s u :=
  ⟨k.uncached.trans h.uncached, h.store, h.genuine, k.genuine',
    fun hint => (k.answers hint).trans (h.answers hint)⟩

/-- **Asking for content keeps the answers.** -/
theorem content (h : SameAnswers base s s) (hint : Hint) :
    SameAnswers base s ((Request.content hint).effect s).2 := by
  obtain ⟨-, rfl, hs, -, -⟩ := h
  have hgenuine : s.context.Genuine s.store.catalog := hs
  refine ⟨Session.uncached_eq_of_unfetched_eq (unfetched_content hint s), rfl, hgenuine,
    Context.genuine_content hgenuine hint, fun hint' => ?_⟩
  change (s.context.content s.store hint).2.1.answer s.store.unfetched hint' = _
  rw [Context.answer_unfetched, Context.answer_unfetched, Context.answer_content hgenuine]

/-- The answer is the same in both. -/
theorem effect_content (h : SameAnswers base s t) (hint : Hint) :
    ((Request.content hint).effect t).1 = ((Request.content hint).effect s).1 := by
  have hs : s.context.answer s.store hint = s.context.answer base hint := by
    rw [← h.store, Context.answer_unfetched]
  have ht : t.context.answer t.store hint = t.context.answer base hint := by
    rw [← h.symm.store, Context.answer_unfetched]
  change Except.ok (t.context.answer t.store hint) = Except.ok (s.context.answer s.store hint)
  rw [ht, h.answers, hs]

/-- A visit to a message begins with nothing kept, so it begins alike. -/
theorem openChild (h : SameAnswers base s t) (key : MessageKey) :
    SameAnswers base (s.openChild key) (t.openChild key) := by
  have huncached : (t.openChild key).uncached = (s.openChild key).uncached :=
    congrArg (fun u => u.openChild key) h.uncached
  have hcontext : (t.openChild key).uncached.context = (s.openChild key).uncached.context := by
    rw [huncached]
  change (t.openChild key).context = (s.openChild key).context at hcontext
  refine ⟨huncached, h.store, Context.genuine_of_none rfl _, Context.genuine_of_none rfl _,
    fun hint => ?_⟩
  rw [hcontext]

theorem withContextOf (h : SameAnswers base s t) (k : SameAnswers base o p) :
    SameAnswers base (s.withContextOf o) (t.withContextOf p) where
  uncached := congrArg₂ Session.withContextOf h.uncached k.uncached
  store := h.store
  genuine := k.genuine
  genuine' := k.genuine'
  answers := k.answers

end SameAnswers

/-- **What was fetched makes no difference to an evaluation that only
asks for content.** -/
def Course.rerun (base : Store) : Course.Twin where
  alike := SameAnswers base
  asks := fun r => ∃ hint, r = .content hint
  limits := fun h => h.limits_eq ▸ Limits.Below.refl _
  depth := fun h => h.read_eq Session.depth fun _ => rfl
  view := fun h => h.read_eq Session.view Session.view_uncached
  functions := fun h name _ => congrArg (fun functions => functions.get? name)
    (h.read_eq Session.functions fun _ => rfl)
  effect := by
    rintro s t r h ⟨hint, rfl⟩ -
    have hs := (h.trans h.symm).content hint
    have ht := (h.symm.trans h).content hint
    exact ⟨h.effect_content hint, (hs.symm.trans h).trans ht⟩
  field := ⟨.header, rfl⟩
  enter := fun h => { h with uncached := congrArg Session.enter h.uncached }
  leave := fun h => { h with uncached := congrArg Session.leave h.uncached }
  push := fun args h => { h with uncached := congrArg (fun u => u.pushFrame args) h.uncached }
  pop := fun h => { h with uncached := congrArg Session.popFrame h.uncached }
  openChild := fun key h => h.openChild key
  withContextOf := fun h k => h.withContextOf k

end MailFormula
