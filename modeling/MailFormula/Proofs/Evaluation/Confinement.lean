import MailFormula.Proofs.Evaluation.Moves
/-!
# What a formula cannot do

A formula that is evaluated in a context may do to the mailbox and to the
user what the context permits, and nothing else. It never changes what is
in the mailbox. It changes flags only where the context lets it, and then
only the bits that a flag names. It shows no prompt where prompts are not
permitted, or not from here, and so nobody can cancel it.

All of this is one relation between what the host has before and after
(`Confined`). Calls, frames and child contexts are no part of that: a
child has the permissions of its parent. So the relation is kept by every
move, and holds at every moment of an evaluation as well as at its end.
-/

namespace MailFormula

/-! ## Flags -/

/-- The bits that have a flag. -/
def Flag.named : UInt32 := (all.map bit).foldl (· ||| ·) 0

example : Flag.named = 0xF00FF := by decide

theorem Flag.bit_and_not_named (f : Flag) : f.bit &&& ~~~Flag.named = 0 := by
  cases f <;> decide

/-- Replacing bits that a mask selects changes none outside a larger mask. -/
theorem setBits_and_not {current bits mask larger : UInt32} (h : mask &&& ~~~larger = 0) :
    setBits current bits mask &&& ~~~larger = current &&& ~~~larger := by
  have hmask : mask.toBitVec &&& ~~~larger.toBitVec = 0#32 := UInt32.toBitVec_inj.2 h
  refine UInt32.toBitVec_inj.1 ?_
  ext i hi
  have hbit : (mask.toBitVec[i] && !larger.toBitVec[i]) = false := by
    rw [← BitVec.getElem_not, ← BitVec.getElem_and, hmask, BitVec.getElem_zero]
  simp only [setBits, UInt32.toBitVec_and, UInt32.toBitVec_or, UInt32.toBitVec_not,
    BitVec.getElem_and, BitVec.getElem_or, BitVec.getElem_not]
  -- Where the larger mask has no bit, neither has the smaller one.
  grind

namespace Store

variable {α : Type}

/-- What a change of statuses leaves alone. -/
theorem map_statuses_modifyStatus {read : Status → α} {change : Status → Status}
    (h : ∀ st, read (change st) = read st) (s : Store) (key : MessageKey) :
    (s.modifyStatus key change).statuses.map read = s.statuses.map read := by
  refine List.ext_getElem? fun i => ?_
  rw [modifyStatus, List.getElem?_map, List.getElem?_modify, List.getElem?_map]
  cases s.statuses[i]? with
  | none => rfl
  | some st =>
    dsimp only [Option.map_some, Option.map_eq_map]
    split
    · rw [h]
    · rfl

/-- Content that is fetched is counted. -/
theorem eq_of_fetch {s t : Store} {key : MessageKey} {wanted : Hint} {part : Part}
    (h : s.fetch key wanted = some (part, t)) :
    t = s.modifyStatus key (fun st => { st with fetches := st.fetches + 1 }) := by
  rw [fetch] at h
  split at h
  · split at h
    · exact (Prod.mk.inj (Option.some.inj h)).2.symm
    · cases h
  · cases h

/-- Flags that could be changed are changed under the mask. -/
theorem eq_of_setFlags {s t : Store} {key : MessageKey} {bits mask : UInt32}
    (h : s.setFlags key bits mask = (true, t)) :
    t = s.modifyStatus key (fun st => { st with flags := setBits st.flags bits mask }) := by
  rw [setFlags] at h
  split at h
  · cases h
  · split at h
    · cases h
    · exact (Prod.mk.inj h).2.symm

end Store

/-- **How content is had.** There is nothing to fetch, or no need to, or
the fetch fails, and then nothing changes; or it is fetched and kept, and
the store has counted it. -/
inductive Context.Had (c : Context) (store : Store) (hint : Hint) :
    Except ErrorCode PartHandle × Context × Store → Prop
  | same (answer : Except ErrorCode PartHandle) : Had c store hint (answer, c, store)
  | fresh {key : MessageKey} {part : Part} {store' : Store} :
      c.holder = some key → store.fetch key (c.wanted hint) = some (part, store') →
        Had c store hint (.ok ⟨.message key, [], part⟩,
          { c with fetched := some (c.wanted hint, ⟨.message key, [], part⟩) }, store')

theorem Context.had_content (c : Context) (store : Store) (hint : Hint) :
    c.Had store hint (c.content store hint) := by
  rw [content]
  split
  · exact .same _
  · rename_i key hkey
    dsimp only
    split
    · split
      · exact .same _
      · split
        · exact .same _
        · rename_i hfetch
          exact .fresh hkey hfetch
    · split
      · exact .same _
      · rename_i hfetch
        exact .fresh hkey hfetch

/-! ## Confinement -/

/-- Prompts may be shown, and from here. -/
def Permissions.mayPrompt (p : Permissions) : Bool := p.prompts && p.promptThread

/-- What belongs to the host of a session: what it permits, the mailbox,
and the way to the user. -/
structure Host where
  permissions : Permissions
  store : Store
  dialog : Option Dialog

/-- The host of a session. -/
def Session.host (s : Session) : Host := ⟨s.context.permissions, s.store, s.dialog⟩

/-- **What the permissions of a host let become of it.** The permissions
and the catalog of the mailbox stay the same, and so does every status,
up to the bits of flags and the count of fetches; without leave the flags
stay the same too. Every prompt that is shown is kept in the dialog, so a
dialog that stays the same is not used. -/
structure Confined (a b : Host) : Prop where
  permissions : b.permissions = a.permissions
  catalog : b.store.catalog = a.store.catalog
  available : b.store.statuses.map Status.available = a.store.statuses.map Status.available
  unnamed : b.store.statuses.map (fun st => st.flags &&& ~~~Flag.named) =
    a.store.statuses.map (fun st => st.flags &&& ~~~Flag.named)
  flags : a.permissions.modify = false →
    b.store.statuses.map Status.flags = a.store.statuses.map Status.flags
  dialog : a.permissions.mayPrompt = false → b.dialog = a.dialog

/-- And where an evaluation stops, it was not cancelled without leave. -/
structure StopsConfined (a : Host) (e : Stop) (b : Host) : Prop where
  confined : Confined a b
  signal : a.permissions.mayPrompt = false → e ≠ .signal .cancel

namespace Confined

variable {a b c : Host}

theorem refl (a : Host) : Confined a a := ⟨rfl, rfl, rfl, rfl, fun _ => rfl, fun _ => rfl⟩

theorem trans (h : Confined a b) (k : Confined b c) : Confined a c where
  permissions := k.permissions.trans h.permissions
  catalog := k.catalog.trans h.catalog
  available := k.available.trans h.available
  unnamed := k.unnamed.trans h.unnamed
  flags := fun ha => (k.flags (h.permissions ▸ ha)).trans (h.flags ha)
  dialog := fun ha => (k.dialog (h.permissions ▸ ha)).trans (h.dialog ha)

/-- The permissions are read where a context is taken up again. -/
theorem withPermissions {p : Permissions} (h : Confined a b) (hp : p = a.permissions) :
    Confined a { b with permissions := p } :=
  ⟨hp, h.catalog, h.available, h.unnamed, h.flags, h.dialog⟩

/-- The status of one message changes, in nothing but what may change. -/
theorem modifyStatus {change : Status → Status} {key : MessageKey}
    (havailable : ∀ st, (change st).available = st.available)
    (hunnamed : ∀ st, (change st).flags &&& ~~~Flag.named = st.flags &&& ~~~Flag.named)
    (hflags : a.permissions.modify = false → ∀ st, (change st).flags = st.flags) :
    Confined a { a with store := a.store.modifyStatus key change } where
  permissions := rfl
  catalog := rfl
  available := Store.map_statuses_modifyStatus havailable a.store key
  unnamed := Store.map_statuses_modifyStatus hunnamed a.store key
  flags := fun h => Store.map_statuses_modifyStatus (hflags h) a.store key
  dialog := fun _ => rfl

/-- A dialog may change where prompts are permitted. -/
theorem withDialog {d : Option Dialog} (h : a.permissions.mayPrompt = true) :
    Confined a { a with dialog := d } :=
  ⟨rfl, rfl, rfl, rfl, fun _ => rfl, fun hno => absurd hno (ne_false_of_eq_true h)⟩

end Confined

/-! ## Requests -/

/-- What an outcome leaves is confined by what was there before. -/
def Contained {α : Type} (s : Session) (o : Outcome α) : Prop :=
  Obeys (fun s t => Confined s.host t.host) (fun s e t => StopsConfined s.host e t.host) s o

theorem Contained.confined {α : Type} {s : Session} {o : Outcome α} (h : Contained s o) :
    Confined s.host o.2.host := by
  obtain ⟨e | a, t⟩ := o
  · exact StopsConfined.confined h
  · exact h

/-- Fetching the content counts that it was fetched, and nothing else. -/
theorem contained_content (hint : Hint) (s : Session) :
    Contained s ((Request.content hint).effect s) := by
  have hhad := s.context.had_content s.store hint
  rw [Request.effect, perform]
  dsimp only
  generalize s.context.content s.store hint = o at hhad ⊢
  cases hhad with
  | same answer => exact Confined.refl s.host
  | fresh _ hfetch =>
    obtain rfl := Store.eq_of_fetch hfetch
    exact Confined.modifyStatus (fun _ => rfl) (fun _ => rfl) fun _ _ => rfl

/-- A mark changes the one bit of its flag, and that only with leave. -/
theorem contained_mark (flag : Flag) (on : Bool) (s : Session) :
    Contained s (mark flag on s) := by
  rw [mark]
  split
  · exact Confined.refl s.host
  · rename_i hmodify
    split
    · exact Confined.refl s.host
    · split
      · rename_i store h
        obtain rfl := Store.eq_of_setFlags h
        refine Confined.modifyStatus (fun _ => rfl)
          (fun st => setBits_and_not flag.bit_and_not_named) fun hno => ?_
        rw [show s.context.permissions.modify = false from hno] at hmodify
        exact absurd rfl hmodify
      · exact Confined.refl s.host

/-- **A prompt that is not permitted is refused**, whatever it would show
and whoever would answer: the session stays as it is. -/
theorem prompt_refused {α : Type} {s : Session}
    (h : s.context.permissions.mayPrompt = false) (shown : Dialog → Option α × Dialog) :
    ∃ code, prompt shown s = (.ok (.error code), s) := by
  rw [prompt]
  split
  · exact ⟨_, rfl⟩
  · rename_i hprompts
    split
    · exact ⟨_, rfl⟩
    · rename_i hthread
      rw [Bool.not_eq_true', Bool.not_eq_false] at hprompts hthread
      rw [Permissions.mayPrompt, hprompts, hthread] at h
      cases h

/-- So it is not dismissed either. -/
theorem contained_prompt {α : Type} (shown : Dialog → Option α × Dialog) (s : Session) :
    Contained s (prompt shown s) := by
  cases hmay : s.context.permissions.mayPrompt with
  | false =>
    obtain ⟨code, hrefused⟩ := prompt_refused hmay shown
    rw [hrefused]
    exact Confined.refl s.host
  | true =>
    rw [prompt]
    split
    · exact Confined.refl s.host
    · split
      · exact Confined.refl s.host
      · split
        · exact Confined.refl s.host
        · split
          · exact Confined.withDialog hmay
          · exact ⟨Confined.withDialog hmay, fun hno => absurd hno (ne_false_of_eq_true hmay)⟩

/-- **A plain request is contained.** -/
theorem contained_effect {r : Request} (hr : r.isPlain = true) (s : Session) :
    Contained s (r.effect s) := by
  cases r with
  | content hint => exact contained_content hint s
  | mark flag on => exact contained_mark flag on s
  | askText message default multiline => exact contained_prompt _ s
  | askButton text kind => exact contained_prompt _ s
  | exit => exact ⟨Confined.refl s.host, fun _ => nofun⟩
  | write path text =>
    rw [Request.effect, perform]
    dsimp only
    split
    · exact Confined.refl s.host
    · exact Confined.refl s.host
  | evaluate _ | attempt _ | loop _ _ | visit _ _ _ => cases hr
  | _ => exact Confined.refl s.host

/-! ## Evaluation -/

/-- **The law of confinement.** Neither the counter nor a frame is the
host's, so only a child context asks for an argument. -/
def confinement : Law where
  keeps := fun s t => Confined s.host t.host
  stops := fun s e t => StopsConfined s.host e t.host
  refl := fun s => Confined.refl s.host
  trans := Confined.trans
  stops_trans := fun h k => ⟨h.trans k.confined, fun hs => k.signal (h.permissions ▸ hs)⟩
  fails := fun s _ => ⟨Confined.refl s.host, fun _ => nofun⟩
  tires := fun _ h => ⟨h, fun _ => nofun⟩
  caught := StopsConfined.confined
  effect := fun _ hr s => contained_effect hr s
  call := fun h => h.imp (fun k => k) fun _ k => k
  frame := fun h => h.imp (fun k => k) fun _ k => k
  child := fun h => h.imp (fun k => k.withPermissions rfl)
    fun _ k => ⟨k.confined.withPermissions rfl, k.signal⟩

/-- What the host permits holds at every moment. -/
def Course.confinedBy (base : Host) : Course.Invariant where
  holds := fun s => Confined base s.host
  effect := fun hr h => h.trans (contained_effect hr _).confined
  enter := fun h => h
  leave := fun h => h
  push := fun _ h => h
  pop := fun h => h
  openChild := fun _ h => h
  withContextOf := fun h k => h.withPermissions k.permissions

/-- **A formula does no more than its context permits.** The catalog of
the mailbox never changes, no bit of a status word but those of the
twelve flags, and none at all where flags may not be changed. Where
prompts may not be shown, or not from here, every prompt is refused at
every moment, so nobody is asked and the evaluation is not cancelled. -/
theorem permissions_confine_effects (f : Formula) (s : Session) :
    (∀ patience, Confined s.host (s.evaluate patience f).2.host) ∧
    (∀ c, Course.Leads (Course.beginning f s) c → Confined s.host c.session.host) ∧
    (s.context.permissions.mayPrompt = false →
      (∀ c, Course.Leads (Course.beginning f s) c →
        ∀ (α : Type) (shown : Dialog → Option α × Dialog),
          ∃ code, prompt shown c.session = (.ok (.error code), c.session)) ∧
      ∀ patience, (s.evaluate patience f).1 ≠ .error (.signal .cancel)) := by
  have hlaw : ∀ patience, Contained s (s.evaluate patience f) := fun patience =>
    confinement.holds_evaluate patience f s
  have hmoment : ∀ c, Course.Leads (Course.beginning f s) c → Confined s.host c.session.host :=
    fun c hc => (Course.confinedBy s.host).at_moment (Confined.refl s.host) hc
  refine ⟨fun patience => (hlaw patience).confined, hmoment,
    fun hno => ⟨fun c hc α shown => ?_, fun patience hcancel => ?_⟩⟩
  · have hpermissions : c.session.context.permissions = s.context.permissions :=
      (hmoment c hc).permissions
    exact prompt_refused (by rw [hpermissions, hno]) shown
  · have h := hlaw patience
    generalize s.evaluate patience f = o at h hcancel
    obtain ⟨e | v, t⟩ := o
    · exact StopsConfined.signal h hno (Except.error.inj hcancel)
    · cases hcancel

/-- A session at a message that has been seen, with a user who would
dismiss the first prompt. It may show prompts, but not from here, and it
may not change flags. -/
def guarded : Session :=
  { context := { holder := some 0, permissions := { prompts := true } }
    store :=
      { (Store.addDetached {} "Subject: x\n\ny" false) with
        statuses := [{ flags := Flag.seen.bit }] }
    dialog := some { texts := [none] } }

/-- Clears the mark of the message, and then asks the user. -/
def meddling : Formula :=
  .call "Progn" [.call "Catch" [.call "Seen" [.number 0], .number 0],
    .call "InputBox" [.text "?"]]

/-- The mark stays, and nobody is asked. -/
theorem guarded_confines_meddling :
    (guarded.context.permissions.modify = false ∧
      guarded.context.permissions.mayPrompt = false) ∧
    ∀ patience,
      (guarded.evaluate patience meddling).2.store.statuses.map Status.flags =
        [Flag.seen.bit] ∧
      (guarded.evaluate patience meddling).2.dialog = some { texts := [none] } ∧
      (guarded.evaluate patience meddling).1 ≠ .error (.signal .cancel) :=
  ⟨⟨rfl, rfl⟩, fun patience =>
    ⟨((permissions_confine_effects meddling guarded).1 patience).flags rfl,
      ((permissions_confine_effects meddling guarded).1 patience).dialog rfl,
      ((permissions_confine_effects meddling guarded).2.2 rfl).2 patience⟩⟩

end MailFormula
