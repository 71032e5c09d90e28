import MailFormula.Proofs.Mail.Thread
import Mathlib.Data.Nat.Find
/-!
# Parents by hash and by id

A parent is looked for by the hash of the reference, and the ids themselves
are compared only where several messages have that hash. So what is found is
the only candidate, whatever its id, or the first candidate with the id that
is wanted (`parentOf_eq_some_iff`). With the hashes of the ids themselves,
every message with the wanted id is a candidate; a plain search by id can
only differ from the index at a single candidate with another id.
-/

namespace MailFormula.Thread

variable {messages : List ThreadEntry} {m : ThreadEntry} {wanted : String} {i j : Nat}

/-! ## What is found -/

/-- Message `j` has this normalized id. -/
def HasId (messages : List ThreadEntry) (wanted : String) (j : Nat) : Prop :=
  ∃ other, messages[j]? = some other ∧ MessageId.normalize other.messageId = wanted

theorem hasId_iff : hasId messages wanted j = true ↔ HasId messages wanted j := by
  rw [hasId, HasId]
  cases messages[j]? with
  | none => simp
  | some other => simp

/-- In a sorted list, what is found first is the least. -/
theorem find?_eq_some_iff_least {l : List Nat} {p : Nat → Bool} (hsorted : l.Pairwise (· < ·)) :
    l.find? p = some j ↔ j ∈ l ∧ p j = true ∧ ∀ k ∈ l, k < j → ¬ p k = true := by
  induction l with
  | nil => simp
  | cons a l ih =>
    obtain ⟨ha, hsorted⟩ := List.pairwise_cons.1 hsorted
    by_cases hp : p a = true
    · rw [List.find?_cons_of_pos hp, Option.some_inj]
      constructor
      · rintro rfl
        exact ⟨List.mem_cons_self, hp, List.forall_mem_cons.2
          ⟨fun h => absurd h (Nat.lt_irrefl _), fun k hk hlt => absurd (ha k hk) (by omega)⟩⟩
      · rintro ⟨hj, -, hfirst⟩
        rcases List.mem_cons.1 hj with rfl | hj
        · rfl
        · exact absurd hp (hfirst a List.mem_cons_self (ha j hj))
    · rw [List.find?_cons_of_neg hp, ih hsorted, List.mem_cons, List.forall_mem_cons]
      constructor
      · rintro ⟨hj, hpj, hfirst⟩
        exact ⟨.inr hj, hpj, fun _ => hp, hfirst⟩
      · rintro ⟨hj, hpj, -, hfirst⟩
        rcases hj with rfl | hj
        · exact absurd hpj hp
        · exact ⟨hj, hpj, hfirst⟩

theorem sorted_candidates (messages : List ThreadEntry) (i : Nat) (m : ThreadEntry) :
    (candidates (idIndex messages) i m).Pairwise (· < ·) :=
  (HashIndex.sorted_positions _ _).filter _

/-- **The parent** is the only candidate, or the first one with the id that
is wanted. -/
theorem parentOf_eq_some_iff : parentOf messages (idIndex messages) i m = some j ↔
    Candidate messages i m j ∧ ((∀ k, Candidate messages i m k → k = j) ∨
      HasId messages (MessageId.normalize m.reference) j ∧
        ∀ k < j, Candidate messages i m k →
          ¬ HasId messages (MessageId.normalize m.reference) k) := by
  have hsorted := sorted_candidates messages i m
  rw [parentOf]
  split
  · rename_i hzero
    rw [beq_iff_eq] at hzero
    refine ⟨fun h => ?_, fun h => absurd hzero h.1.1⟩
    cases h
  · simp only [← mem_candidates, ← hasId_iff]
    split
    · rename_i hnone
      simp [hnone]
    · rename_i only honly
      rw [honly, Option.some_inj]
      constructor
      · rintro rfl
        exact ⟨List.mem_singleton_self _, .inl fun k hk => List.mem_singleton.1 hk⟩
      · rintro ⟨hj, -⟩
        exact (List.mem_singleton.1 hj).symm
    · rename_i hnone hsingle
      rw [find?_eq_some_iff_least hsorted]
      constructor
      · rintro ⟨hj, hid, hfirst⟩
        exact ⟨hj, .inr ⟨hid, fun k hlt hk => hfirst k hk hlt⟩⟩
      · rintro ⟨hj, hunique | ⟨hid, hfirst⟩⟩
        · -- The only candidate would be the only one of a list of several.
          rcases hlist : candidates (idIndex messages) i m with _ | ⟨a, _ | ⟨b, rest⟩⟩
          · exact absurd hlist hnone
          · exact absurd hlist (hsingle a)
          · rw [hlist] at hsorted hunique
            have hlt := (List.pairwise_cons.1 hsorted).1 b List.mem_cons_self
            have ha := hunique a List.mem_cons_self
            have hb := hunique b (List.mem_cons_of_mem _ List.mem_cons_self)
            omega
        · exact ⟨hj, hid, fun k hk hlt => hfirst k hlt hk⟩

/-! ## Hashes of the ids -/

/-- Only an empty id has the hash 0. -/
theorem hash_eq_zero_iff (id : String) :
    MessageId.hash id = 0 ↔ MessageId.normalize id = "" := by
  rw [MessageId.hash, MessageId.hashNormalized, ← String.isEmpty_iff]
  split
  · rename_i hempty
    exact iff_of_true rfl hempty
  · rename_i hempty
    -- Whatever the bytes hash to, 0 is replaced by 1.
    generalize List.foldl _ _ _ = hash
    dsimp only
    split
    · exact iff_of_false (by decide) hempty
    · rename_i hzero
      exact iff_of_false (fun h => hzero (beq_iff_eq.2 h)) hempty

/-- **The hashes are those of the ids** and of the references. -/
def HashesOfIds (messages : List ThreadEntry) : Prop :=
  ∀ m ∈ messages,
    m.idHash = MessageId.hash m.messageId ∧ m.referenceHash = MessageId.hash m.reference

/-- **Message `j` is named** by the reference of message `i`: it is another
message, it has an id, and that is the one wanted. -/
def Named (messages : List ThreadEntry) (i : Nat) (m : ThreadEntry) (j : Nat) : Prop :=
  j ≠ i ∧ ∃ other, messages[j]? = some other ∧ MessageId.normalize other.messageId ≠ "" ∧
    MessageId.normalize other.messageId = MessageId.normalize m.reference

/-- **A message that is named is a candidate.** -/
theorem named_iff (hhashes : HashesOfIds messages) (hm : messages[i]? = some m) :
    Named messages i m j ↔
      Candidate messages i m j ∧ HasId messages (MessageId.normalize m.reference) j := by
  have hreference := (hhashes m (List.mem_of_getElem? hm)).2
  rw [Named, Candidate, HasId, hreference, (hash_eq_zero_iff m.reference).ne]
  constructor
  · rintro ⟨hne, other, hother, hid, hsame⟩
    have hhash := (hhashes other (List.mem_of_getElem? hother)).1
    refine ⟨⟨fun h => hid (hsame.trans h), hne, other, hother, ?_⟩, other, hother, hsame⟩
    rw [hhash, MessageId.hash, MessageId.hash, hsame]
  · rintro ⟨⟨hempty, hne, -⟩, other, hother, hsame⟩
    exact ⟨hne, other, hother, fun h => hempty (hsame.symm.trans h), hsame⟩

/-- **A lookup by hash is a lookup by id**, unless a single message has the
hash and another id. -/
theorem parentOf_eq_some_iff_named (hhashes : HashesOfIds messages) (hm : messages[i]? = some m)
    (hcandidates : (∀ j, Candidate messages i m j →
        HasId messages (MessageId.normalize m.reference) j) ∨
      ∃ j k, j ≠ k ∧ Candidate messages i m j ∧ Candidate messages i m k) :
    parentOf messages (idIndex messages) i m = some j ↔
      Named messages i m j ∧ ∀ k < j, ¬ Named messages i m k := by
  simp only [parentOf_eq_some_iff, named_iff hhashes hm, not_and]
  constructor
  · rintro ⟨hj, hunique | ⟨hid, hfirst⟩⟩
    · refine ⟨⟨hj, ?_⟩, fun k hlt hk => absurd (hunique k hk) (by omega)⟩
      rcases hcandidates with hall | ⟨k, l, hne, hk, hl⟩
      · exact hall j hj
      · exact absurd ((hunique k hk).trans (hunique l hl).symm) hne
    · exact ⟨⟨hj, hid⟩, hfirst⟩
  · rintro ⟨⟨hj, hid⟩, hfirst⟩
    exact ⟨hj, .inr ⟨hid, hfirst⟩⟩

end MailFormula.Thread

namespace MailFormula

open Thread

/-- **The index of hashes finds the parents that the ids name.** Where every
candidate has the id that is wanted, or where there are several candidates,
the parent of a message is the first other message whose normalized id is
the normalized reference, the empty id apart, and there is none exactly if
no message is named; in particular an empty reference names none. -/
theorem parents_by_hash_are_named (messages : List ThreadEntry)
    (hhashes : HashesOfIds messages) (i : Nat) (m : ThreadEntry) (hm : messages[i]? = some m)
    (hcandidates : (∀ j, Candidate messages i m j →
        HasId messages (MessageId.normalize m.reference) j) ∨
      ∃ j k, j ≠ k ∧ Candidate messages i m j ∧ Candidate messages i m k) :
    (∀ j, (parents messages)[i]? = some (some j) ↔
      Named messages i m j ∧ ∀ k < j, ¬ Named messages i m k) ∧
    ((parents messages)[i]? = some none ↔ ∀ j, ¬ Named messages i m j) ∧
    (MessageId.normalize m.reference = "" → (parents messages)[i]? = some none) := by
  have hparent : (parents messages)[i]? = some (parentOf messages (idIndex messages) i m) := by
    rw [getElem?_parents, hm]
    rfl
  have hfirst := fun j => parentOf_eq_some_iff_named (j := j) hhashes hm hcandidates
  have hnone : parentOf messages (idIndex messages) i m = none ↔ ∀ j, ¬ Named messages i m j := by
    constructor
    · intro hnone j hj
      classical
      have hleast := (hfirst (Nat.find ⟨j, hj⟩)).2
        ⟨Nat.find_spec ⟨j, hj⟩, fun k hk => Nat.find_min ⟨j, hj⟩ hk⟩
      rw [hnone] at hleast
      cases hleast
    · exact fun hnamed => Option.eq_none_iff_forall_ne_some.2 fun j hj =>
        hnamed j ((hfirst j).1 hj).1
  simp only [hparent, Option.some_inj]
  refine ⟨hfirst, hnone, fun hempty => hnone.2 fun j hj => ?_⟩
  obtain ⟨-, other, -, hid, hsame⟩ := hj
  exact hid (hsame.trans hempty)

/-- A single candidate is the parent, whatever its id is. -/
example : parents [.ofIds 1 "<liquid>" "", .ofIds 2 "<reply>" "costarring"] = [none, some 0] := by
  cbv

/-- Two ids with the same hash, the first of them twice, and an answer to
the other. -/
def colliding : List ThreadEntry :=
  [.ofIds 1 "<liquid>" "", .ofIds 2 "<liquid>" "", .ofIds 3 " <costarring> " "",
    .ofIds 4 "<reply>" "costarring"]

/-- The first message has the hash of the reference, but the third has its
id. -/
theorem colliding_parent_is_named :
    HashesOfIds colliding ∧ Candidate colliding 3 (.ofIds 4 "<reply>" "costarring") 0 ∧
      (parents colliding)[3]? = some (some 2) := by
  have hhashes : HashesOfIds colliding := by
    simp [HashesOfIds, colliding, ThreadEntry.ofIds]
  have hfirst : Candidate colliding 3 (.ofIds 4 "<reply>" "costarring") 0 :=
    ⟨by decide +kernel, by decide, _, rfl, by decide +kernel⟩
  have hsecond : Candidate colliding 3 (.ofIds 4 "<reply>" "costarring") 1 :=
    ⟨by decide +kernel, by decide, _, rfl, by decide +kernel⟩
  obtain ⟨hparent, -, -⟩ := parents_by_hash_are_named colliding hhashes 3 _ rfl
    (.inr ⟨0, 1, by decide, hfirst, hsecond⟩)
  have hnamed : Named colliding 3 (.ofIds 4 "<reply>" "costarring") 2 :=
    ⟨by decide, _, rfl, by decide +kernel, by decide +kernel⟩
  refine ⟨hhashes, hfirst, (hparent 2).2 ⟨hnamed, ?_⟩⟩
  rintro k hk ⟨-, other, hother, -, hsame⟩
  obtain rfl | rfl : k = 0 ∨ k = 1 := by omega
  · cases hother
    exact absurd hsame (by decide +kernel)
  · cases hother
    exact absurd hsame (by decide +kernel)

end MailFormula
