import MailFormula.Mail.Store
import Mathlib.Algebra.Group.Nat.Defs
import Mathlib.Data.List.Induction
import Mathlib.Data.List.Range
/-!
# The numbers of messages

A folder numbers its messages as they arrive and goes on counting when
messages are taken out. So the numbers it gives are 1, 2, 3 and so on,
and the messages that are still there have some of them, in the same
order; a number finds one message at most.

That is one invariant, of the folder and of the numbers given so far
(`Numbered`). It is kept by every call on this folder or on another
(`Numbered.apply`), as long as there are numbers left.
-/

namespace MailFormula

/-! ## Changing a folder in its place -/

theorem modify_eq_self {α : Type} {xs : List α} {i : Nat} {change : α → α}
    (h : ∀ x ∈ xs[i]?, change x = x) : xs.modify i change = xs := by
  refine List.ext_getElem? fun j => ?_
  by_cases hij : i = j
  · subst hij
    rw [List.getElem?_modify_eq]
    rcases hx : xs[i]? with - | x
    · rfl
    · exact congrArg some (h x hx)
  · rw [List.getElem?_modify_ne _ _ hij]

namespace Catalog

variable {c : Catalog} {place place' : FolderPlace} {f : Folder} {change : Folder → Folder}

/-- **The folder is changed.** -/
theorem folder?_modifyFolder (hf : c.folder? place = some f) :
    (c.modifyFolder place change).folder? place = some (change f) := by
  obtain ⟨a, ha, haf⟩ := Option.bind_eq_some_iff.1 hf
  rw [account?] at ha
  rw [folder?, account?, modifyFolder, List.getElem?_modify_eq, ha]
  exact (List.getElem?_modify_eq ..).trans (congrArg (change <$> ·) haf)

/-- **No other folder is.** -/
theorem folder?_modifyFolder_ne (h : place ≠ place') (c : Catalog) (change : Folder → Folder) :
    (c.modifyFolder place change).folder? place' = c.folder? place' := by
  rw [folder?, folder?, account?, account?, modifyFolder]
  by_cases haccount : place.account = place'.account
  · have hfolder : place.folder ≠ place'.folder := fun hfolder =>
      h (congrArg₂ FolderPlace.mk haccount hfolder)
    rw [← haccount, List.getElem?_modify_eq]
    rcases c.accounts[place.account]? with - | a
    · rfl
    · exact List.getElem?_modify_ne _ _ hfolder
  · rw [List.getElem?_modify_ne _ _ haccount]

/-- A change that leaves the folder as it is changes nothing. -/
theorem modifyFolder_eq_self (hf : c.folder? place = some f) (h : change f = f) :
    c.modifyFolder place change = c := by
  have haccounts : c.accounts.modify place.account
      (fun a => { a with folders := a.folders.modify place.folder change }) = c.accounts := by
    refine modify_eq_self fun a ha => ?_
    have hfolders : a.folders.modify place.folder change = a.folders := by
      refine modify_eq_self fun g hg => ?_
      have hgf : c.folder? place = some g := by
        rw [folder?, account?, ha]
        exact hg
      obtain rfl : f = g := Option.some.inj (hf.symm.trans hgf)
      exact h
    rw [hfolders]
  rw [modifyFolder, haccounts]

end Catalog

/-! ## Taking a message out -/

namespace Folder

variable {f : Folder} {id : UInt32}

/-- **A number that no message has** takes none out. -/
theorem remove_of_not_mem (h : ∀ r ∈ f.messages, r.id ≠ id) : f.remove id = (none, f) := by
  have hno : ∀ r ∈ f.messages, ¬ (r.id == id) = true := fun r hr => by
    rw [beq_iff_eq]
    exact h r hr
  rw [remove, find?, List.find?_eq_none.2 hno, List.eraseP_of_forall_not hno]

/-- **The message with a number** is taken out, and the others stay in
order. -/
theorem remove_of_append {before after : List MessageRef} {r : MessageRef}
    (hf : f.messages = before ++ r :: after) (h : ∀ r' ∈ before, r'.id ≠ r.id) :
    f.remove r.id = (some r, { f with messages := before ++ after }) := by
  have hno : ∀ r' ∈ before, ¬ (r'.id == r.id) = true := fun r' hr' => by
    rw [beq_iff_eq]
    exact h r' hr'
  have hfind : (before ++ r :: after).find? (fun r' => r'.id == r.id) = some r := by
    rw [List.find?_append, List.find?_eq_none.2 hno, Option.none_or]
    exact List.find?_cons_of_pos (beq_self_eq_true r.id)
  have herase : (before ++ r :: after).eraseP (fun r' => r'.id == r.id) = before ++ after := by
    rw [List.eraseP_append_right _ hno]
    exact congrArg (before ++ ·) (List.eraseP_cons_of_pos (beq_self_eq_true r.id))
  rw [remove, find?, hf, hfind, herase]

end Folder

/-! ## Calls -/

/-- A call on a folder of the store. -/
inductive FolderCall where
  | add (place : FolderPlace) (text : String)
  | remove (place : FolderPlace) (id : UInt32)

namespace FolderCall

/-- What a call leaves of the store. -/
def apply (s : Store) : FolderCall → Store
  | add place text => ((s.deliver place text).map Prod.snd).getD s
  | remove place id => (s.remove place id).2

/-- What several calls leave, one after the other. -/
def run (s : Store) (calls : List FolderCall) : Store := calls.foldl apply s

/-- Whether a call adds a message to a folder. -/
def adds (place : FolderPlace) : FolderCall → Bool
  | add place' _ => place' == place
  | remove _ _ => false

/-- The number that a call answers for a message of a folder. -/
def number? (place : FolderPlace) (s : Store) : FolderCall → Option UInt32
  | add place' text => if place' = place then (s.deliver place' text).map Prod.fst else none
  | remove _ _ => none

/-- **The numbers that calls give** to the messages of a folder. -/
def given (place : FolderPlace) (s : Store) : List FolderCall → List UInt32
  | [] => []
  | call :: calls => (call.number? place s).toList ++ given place (call.apply s) calls

theorem run_concat (s : Store) (calls : List FolderCall) (call : FolderCall) :
    run s (calls ++ [call]) = call.apply (run s calls) := List.foldl_append

theorem given_concat (place : FolderPlace) (s : Store) (calls : List FolderCall)
    (call : FolderCall) :
    given place s (calls ++ [call]) =
      given place s calls ++ (call.number? place (run s calls)).toList := by
  induction calls generalizing s with
  | nil => exact List.append_nil _
  | cons first calls ih =>
    rw [List.cons_append, given, given, ih, List.append_assoc]
    rfl

end FolderCall

namespace Store

variable {s : Store} {place : FolderPlace} {f : Folder}

/-- **A message that is added** gets the next number, and a key that no
message had. -/
theorem deliver_eq (hf : s.catalog.folder? place = some f) (text : String) :
    ∃ t, s.deliver place text = some (f.nextId, t) ∧
      t.catalog.messages =
        s.catalog.messages ++ [Message.read f.nextId (some place) false text] ∧
      t.catalog.folder? place = some (f.add s.catalog.messages.length) ∧
      ∀ place', place ≠ place' → t.catalog.folder? place' = s.catalog.folder? place' := by
  rw [deliver, hf]
  refine ⟨_, rfl, rfl, ?_, fun place' hne => ?_⟩
  · exact Catalog.folder?_modifyFolder (c := (s.addMessage _).catalog) hf
  · exact Catalog.folder?_modifyFolder_ne hne (s.addMessage _).catalog _

theorem addMessage_message? {key : MessageKey} {m : Message} {more : List Message}
    (h : s.catalog.message? key = some m) {c : Catalog}
    (hc : c.messages = s.catalog.messages ++ more) : c.message? key = some m := by
  have hkey : s.catalog.messages[key]? = some m := h
  obtain ⟨hlt, -⟩ := List.getElem?_eq_some_iff.1 hkey
  rw [Catalog.message?, hc, List.getElem?_append_left hlt, hkey]

/-- **A call that takes a message out** changes the list of its folder. -/
theorem remove_eq (hf : s.catalog.folder? place = some f) (id : UInt32) :
    ∃ t, s.remove place id = ((f.find? id).isSome, t) ∧
      t.catalog.messages = s.catalog.messages ∧ t.statuses = s.statuses ∧
      t.catalog.folder? place = some (f.remove id).2 ∧
      ∀ place', place ≠ place' → t.catalog.folder? place' = s.catalog.folder? place' := by
  rw [remove, hf]
  refine ⟨_, rfl, rfl, rfl, ?_, fun place' hne => ?_⟩
  · exact Catalog.folder?_modifyFolder hf
  · exact Catalog.folder?_modifyFolder_ne hne s.catalog _

/-- Where no message is taken out, nothing changes. -/
theorem remove_of_remove_eq (hf : s.catalog.folder? place = some f) {id : UInt32}
    (h : f.remove id = (none, f)) : s.remove place id = (false, s) := by
  obtain ⟨hfind, hsame⟩ := Prod.mk.inj h
  rw [remove, hf]
  dsimp only
  rw [hfind, Catalog.modifyFolder_eq_self hf hsame]
  rfl

end Store

/-! ## Numbers -/

/-- **The folder has given these numbers**: they count from 1, the next
one follows, and each message in the folder has one of them, in their
order, which is its own as well. -/
structure Numbered (place : FolderPlace) (numbers : List UInt32) (s : Store) (f : Folder) :
    Prop where
  folder : s.catalog.folder? place = some f
  given : numbers.map UInt32.toNat = List.range' 1 numbers.length
  next : f.nextId.toNat = numbers.length + 1
  listed : (f.messages.map MessageRef.id).Sublist numbers
  own : ∀ r ∈ f.messages, ∃ m, s.catalog.message? r.key = some m ∧ m.id = r.id

namespace Numbered

variable {place place' : FolderPlace} {numbers : List UInt32} {s : Store} {f : Folder}

theorem of_empty {name : String} (h : s.catalog.folder? place = some { fullName := name }) :
    Numbered place [] s { fullName := name } :=
  ⟨h, rfl, rfl, List.Sublist.refl _, nofun⟩

theorem pairwise_numbers (h : Numbered place numbers s f) : numbers.Pairwise (· < ·) := by
  have hrange : (numbers.map UInt32.toNat).Pairwise (· < ·) := by
    rw [h.given]
    exact List.pairwise_lt_range'
  exact (List.pairwise_map.1 hrange).imp UInt32.lt_iff_toNat_lt.2

/-- **The numbers rise in the folder** from one message to the next. -/
theorem pairwise (h : Numbered place numbers s f) :
    (f.messages.map MessageRef.id).Pairwise (· < ·) := h.pairwise_numbers.sublist h.listed

/-- And the next one is larger than all of them. -/
theorem lt_nextId (h : Numbered place numbers s f) {r : MessageRef} (hr : r ∈ f.messages) :
    r.id < f.nextId := by
  have hmem := h.listed.subset (List.mem_map_of_mem hr)
  have hrange : r.id.toNat ∈ List.range' 1 numbers.length := h.given ▸ List.mem_map_of_mem hmem
  have hnext := h.next
  rw [List.mem_range'_1] at hrange
  rw [UInt32.lt_iff_toNat_lt]
  omega

/-- Elsewhere in the store things may happen. -/
theorem frame {t : Store} {more : List Message} (h : Numbered place numbers s f)
    (hfolder : t.catalog.folder? place = s.catalog.folder? place)
    (hmessages : t.catalog.messages = s.catalog.messages ++ more) :
    Numbered place numbers t f where
  folder := hfolder.trans h.folder
  given := h.given
  next := h.next
  listed := h.listed
  own := fun r hr => by
    obtain ⟨m, hm, hid⟩ := h.own r hr
    exact ⟨m, Store.addMessage_message? hm hmessages, hid⟩

/-- **A message that is added** has the next number. -/
theorem add (h : Numbered place numbers s f) (hfew : numbers.length + 1 < 2 ^ 32 - 1)
    (text : String) :
    ∃ t, s.deliver place text = some (f.nextId, t) ∧
      Numbered place (numbers ++ [f.nextId]) t (f.add s.catalog.messages.length) := by
  obtain ⟨t, ht, hmessages, hfolder, -⟩ := Store.deliver_eq h.folder text
  refine ⟨t, ht, hfolder, ?_, ?_, ?_, ?_⟩
  · rw [List.map_append, h.given, List.length_append, List.length_singleton, List.range'_concat,
      Nat.one_mul, Nat.add_comm 1, ← h.next]
    rfl
  · have hone : (1 : UInt32).toNat = 1 := rfl
    have hnext := h.next
    rw [Folder.add, UInt32.toNat_add, hone, List.length_append, List.length_singleton]
    omega
  · rw [Folder.add, List.map_append]
    exact h.listed.append (List.Sublist.refl _)
  · intro r hr
    rcases List.mem_append.1 hr with hr | hr
    · obtain ⟨m, hm, hid⟩ := h.own r hr
      exact ⟨m, Store.addMessage_message? hm hmessages, hid⟩
    · obtain rfl := List.mem_singleton.1 hr
      refine ⟨Message.read f.nextId (some place) false text, ?_, rfl⟩
      rw [Catalog.message?, hmessages, List.getElem?_concat_length]

/-- **A message that is taken out** leaves the others their numbers. -/
theorem remove (h : Numbered place numbers s f) (id : UInt32) :
    ∃ t, s.remove place id = ((f.find? id).isSome, t) ∧
      Numbered place numbers t (f.remove id).2 := by
  obtain ⟨t, ht, hmessages, -, hfolder, -⟩ := Store.remove_eq h.folder id
  refine ⟨t, ht, hfolder, h.given, h.next, ?_, ?_⟩
  · exact ((List.eraseP_sublist (l := f.messages)).map MessageRef.id).trans h.listed
  · intro r hr
    obtain ⟨m, hm, hid⟩ := h.own r (List.mem_of_mem_eraseP hr)
    exact ⟨m, Store.addMessage_message? hm (hmessages.trans (List.append_nil _).symm), hid⟩

/-- **Every call keeps the numbers in order**, on this folder or another. -/
theorem apply (h : Numbered place numbers s f) (call : FolderCall)
    (hfew : call.adds place = true → numbers.length + 1 < 2 ^ 32 - 1) :
    ∃ f', Numbered place (numbers ++ (call.number? place s).toList) (call.apply s) f' := by
  cases call with
  | add place' text =>
    rw [FolderCall.number?, FolderCall.apply]
    by_cases hplace : place' = place
    · subst hplace
      obtain ⟨t, ht, hnumbered⟩ := h.add (hfew (beq_self_eq_true _)) text
      rw [if_pos rfl, ht]
      exact ⟨_, hnumbered⟩
    · rw [if_neg hplace, Option.toList_none, List.append_nil]
      rcases hother : s.catalog.folder? place' with - | g
      · rw [Store.deliver, hother]
        exact ⟨f, h⟩
      · obtain ⟨t, ht, hmessages, -, hframe⟩ := Store.deliver_eq hother text
        rw [ht]
        exact ⟨f, h.frame (hframe place hplace) hmessages⟩
  | remove place' id =>
    rw [FolderCall.number?, FolderCall.apply, Option.toList_none, List.append_nil]
    by_cases hplace : place' = place
    · subst hplace
      obtain ⟨t, ht, hnumbered⟩ := h.remove id
      rw [ht]
      exact ⟨_, hnumbered⟩
    · rcases hother : s.catalog.folder? place' with - | g
      · rw [Store.remove, hother]
        exact ⟨f, h⟩
      · obtain ⟨t, ht, hmessages, -, -, hframe⟩ := Store.remove_eq hother id
        rw [ht]
        exact ⟨f, h.frame (hframe place hplace) (hmessages.trans (List.append_nil _).symm)⟩

/-- An addition to the folder is answered with a number, and no other call
gives one. -/
theorem length_number? (h : Numbered place numbers s f) (call : FolderCall) :
    (call.number? place s).toList.length = if call.adds place then 1 else 0 := by
  cases call with
  | add place' text =>
    rw [FolderCall.number?, FolderCall.adds]
    by_cases hplace : place' = place
    · subst hplace
      obtain ⟨t, ht, -⟩ := Store.deliver_eq h.folder text
      rw [if_pos rfl, ht, if_pos (beq_self_eq_true _)]
      rfl
    · rw [if_neg hplace, beq_false_of_ne hplace]
      rfl
  | remove place' id => rfl

/-- **And so do all of them**, as long as there are numbers left. -/
theorem run {name : String} (hnew : s.catalog.folder? place = some { fullName := name })
    (calls : List FolderCall) (hfew : calls.countP (FolderCall.adds place) < 2 ^ 32 - 1) :
    (FolderCall.given place s calls).length = calls.countP (FolderCall.adds place) ∧
      ∃ f, Numbered place (FolderCall.given place s calls) (FolderCall.run s calls) f := by
  induction calls using List.reverseRecOn with
  | nil => exact ⟨rfl, _, of_empty hnew⟩
  | append_singleton calls call ih =>
    rw [List.countP_append, List.countP_singleton] at hfew
    obtain ⟨hlength, f, hnumbered⟩ := ih (by omega)
    rw [FolderCall.given_concat, FolderCall.run_concat, List.length_append, List.countP_append,
      List.countP_singleton, hnumbered.length_number? call, hlength]
    refine ⟨rfl, hnumbered.apply call fun hadds => ?_⟩
    rw [if_pos hadds] at hfew
    omega

end Numbered

/-- **The numbers of a folder rise and are never used again.** After any
calls on folders of a store, let one of them have begun empty and had
fewer than 2 ^ 32 - 1 messages added. The numbers it gave are 1, 2, 3 and
so on, so no two messages got the same. The messages in it have rising
numbers, in the order of the folder, each the number of the message in
the store and smaller than the next one to be given. Taking out a number
answers the message that has it and leaves the others in order, the rest
of the store as it was; a number that no message has changes nothing. -/
theorem folder_numbers_rise {place : FolderPlace} {name : String} {s : Store}
    (hnew : s.catalog.folder? place = some { fullName := name }) (calls : List FolderCall)
    (hfew : calls.countP (FolderCall.adds place) < 2 ^ 32 - 1) :
    ((FolderCall.given place s calls).map UInt32.toNat =
        List.range' 1 (calls.countP (FolderCall.adds place)) ∧
      (FolderCall.given place s calls).Pairwise (· < ·)) ∧
    ∃ f, (FolderCall.run s calls).catalog.folder? place = some f ∧
      (f.messages.map MessageRef.id).Pairwise (· < ·) ∧
      (∀ r ∈ f.messages, r.id < f.nextId ∧ ∃ m,
        (FolderCall.run s calls).catalog.message? r.key = some m ∧ m.id = r.id) ∧
      (∀ before r after, f.messages = before ++ r :: after →
        f.remove r.id = (some r, { f with messages := before ++ after }) ∧
        ∃ t, (FolderCall.run s calls).remove place r.id = (true, t) ∧
          t.catalog.messages = (FolderCall.run s calls).catalog.messages ∧
          t.statuses = (FolderCall.run s calls).statuses ∧
          t.catalog.folder? place = some { f with messages := before ++ after } ∧
          ∀ place', place ≠ place' →
            t.catalog.folder? place' = (FolderCall.run s calls).catalog.folder? place') ∧
      ∀ id, (∀ r ∈ f.messages, r.id ≠ id) →
        f.remove id = (none, f) ∧
          (FolderCall.run s calls).remove place id = (false, FolderCall.run s calls) := by
  obtain ⟨hlength, f, h⟩ := Numbered.run hnew calls hfew
  refine ⟨⟨hlength ▸ h.given, h.pairwise_numbers⟩, f, h.folder, h.pairwise,
    fun r hr => ⟨h.lt_nextId hr, h.own r hr⟩, ?_, ?_⟩
  · intro before r after hf
    -- The messages before it have smaller numbers, so the first with its number is itself.
    have hsmaller : ∀ r' ∈ before, r'.id ≠ r.id := by
      have hrise := h.pairwise
      rw [hf, List.map_append, List.map_cons, List.pairwise_append] at hrise
      intro r' hr'
      exact UInt32.ne_of_lt (hrise.2.2 _ (List.mem_map_of_mem hr') _ List.mem_cons_self)
    have hremove := Folder.remove_of_append hf hsmaller
    obtain ⟨hfind, hothers⟩ := Prod.mk.inj hremove
    obtain ⟨t, ht, hmessages, hstatuses, hfolder, hframe⟩ := Store.remove_eq h.folder r.id
    rw [hfind] at ht
    rw [hremove] at hfolder
    exact ⟨hremove, t, ht, hmessages, hstatuses, hfolder, hframe⟩
  · intro id hid
    have hremove := Folder.remove_of_not_mem hid
    exact ⟨hremove, Store.remove_of_remove_eq h.folder hremove⟩

/-- An account with two folders. -/
def twoFolders : Store :=
  ((({} : Store).addAccount "Main").addFolder 0 "Inbox").addFolder 0 "Archive"

/-- The latest message is taken out before the next one comes. -/
def comingAndGoing : List FolderCall :=
  [.add ⟨0, 0⟩ "a", .add ⟨0, 0⟩ "b", .remove ⟨0, 0⟩ 2, .add ⟨0, 1⟩ "c", .add ⟨0, 0⟩ "d",
    .remove ⟨0, 0⟩ 7]

/-- The number that was taken out is not given again. -/
theorem twoFolders_skips_removed_number :
    twoFolders.catalog.folder? ⟨0, 0⟩ = some { fullName := "Inbox" } ∧
    comingAndGoing.countP (FolderCall.adds ⟨0, 0⟩) < 2 ^ 32 - 1 ∧
    (FolderCall.given ⟨0, 0⟩ twoFolders comingAndGoing).map UInt32.toNat = [1, 2, 3] ∧
    ∃ f, (FolderCall.run twoFolders comingAndGoing).catalog.folder? ⟨0, 0⟩ = some f ∧
      f.messages.map MessageRef.id = [1, 3] ∧
      (FolderCall.run twoFolders comingAndGoing).remove ⟨0, 0⟩ 2 =
        (false, FolderCall.run twoFolders comingAndGoing) := by
  have hnew : twoFolders.catalog.folder? ⟨0, 0⟩ = some { fullName := "Inbox" } := rfl
  have hfew : comingAndGoing.countP (FolderCall.adds ⟨0, 0⟩) < 2 ^ 32 - 1 := by decide
  obtain ⟨⟨hgiven, -⟩, f, hfolder, -, -, -, hmissing⟩ :=
    folder_numbers_rise hnew comingAndGoing hfew
  have hleft : ((FolderCall.run twoFolders comingAndGoing).catalog.folder? ⟨0, 0⟩).map
      (fun f => f.messages.map MessageRef.id) = some [1, 3] := by decide +kernel
  rw [hfolder] at hleft
  have hids : f.messages.map MessageRef.id = [1, 3] := Option.some.inj hleft
  refine ⟨hnew, hfew, hgiven, f, hfolder, hids, (hmissing 2 fun r hr h => ?_).2⟩
  have hmem : r.id ∈ [1, 3] := hids ▸ List.mem_map_of_mem hr
  rw [h] at hmem
  exact absurd hmem (by decide)

end MailFormula
