import MailFormula.Proofs.Mail.Parent
import MailFormula.Proofs.Mail.Place
import Mathlib.Logic.Equiv.Basic
/-!
# Threads do not depend on the order of messages

Everything that makes a thread is found by position: the index is sorted by
it, the first of several candidates wins, walks start from the first message
on, and messages of the same depth and number stay as they stand. Here the
same messages are listed in another order, and each step is followed from
one list to the other.

Order leaks in at two places. Among several candidates with the wanted id the
first is taken; with distinct ids there are no two (`parentOf_eq_some_iff_any`).
And a circle is cut where a walk happens to enter it again; where there is
none, the roots are the messages without a parent, and depths are distances
from them (`placeOf_reordered`).
-/

namespace MailFormula.Thread

variable {messages messages' : List ThreadEntry} {m : ThreadEntry} {σ : Equiv.Perm Nat}
variable {wanted : String} {parents : List (Option Nat)} {c : Cycle Nat} {i j k focal : Nat}

/-! ## The same messages in another order -/

/-- **The second list has the messages of the first in another order**:
message `i` of the first is message `σ i` of the second. -/
def Reordered (σ : Equiv.Perm Nat) (messages messages' : List ThreadEntry) : Prop :=
  ∀ i, messages'[σ i]? = messages[i]?

/-- The order of a list whose first element stays where it is. -/
def keepFirst (σ : Equiv.Perm Nat) : Equiv.Perm Nat where
  toFun
    | 0 => 0
    | i + 1 => σ i + 1
  invFun
    | 0 => 0
    | i + 1 => σ.symm i + 1
  left_inv i := by cases i <;> simp
  right_inv i := by cases i <;> simp

/-- **Every permutation of a list is a reordering of its positions.** -/
theorem exists_reordered (h : messages.Perm messages') : ∃ σ, Reordered σ messages messages' := by
  induction h with
  | nil => exact ⟨Equiv.refl Nat, fun i => rfl⟩
  | cons m _ ih =>
    obtain ⟨σ, hσ⟩ := ih
    refine ⟨keepFirst σ, fun i => ?_⟩
    cases i with
    | zero => rfl
    | succ i => exact hσ i
  | swap a b l =>
    refine ⟨Equiv.swap 0 1, fun i => ?_⟩
    match i with
    | 0 => rfl
    | 1 => rfl
    | i + 2 => rw [Equiv.swap_apply_of_ne_of_ne (by omega) (by omega)]; rfl
  | trans _ _ ih ih' =>
    obtain ⟨σ, hσ⟩ := ih
    obtain ⟨τ, hτ⟩ := ih'
    exact ⟨σ.trans τ, fun i => (hτ (σ i)).trans (hσ i)⟩

theorem Reordered.symm (h : Reordered σ messages messages') :
    Reordered σ.symm messages' messages := fun i => by
  rw [← h, Equiv.apply_symm_apply]

theorem Reordered.lt_length_iff (h : Reordered σ messages messages') :
    σ i < messages'.length ↔ i < messages.length := by
  rw [← not_iff_not, Nat.not_lt, Nat.not_lt, ← List.getElem?_eq_none_iff,
    ← List.getElem?_eq_none_iff, h]

/-! ## Parents -/

/-- **Messages with an id have different ids.** -/
def DistinctIds (messages : List ThreadEntry) : Prop :=
  ((messages.filter (·.idHash != 0)).map fun m => MessageId.normalize m.messageId).Nodup

theorem DistinctIds.perm (h : DistinctIds messages) (hperm : messages.Perm messages') :
    DistinctIds messages' :=
  ((hperm.filter _).map _).nodup_iff.1 h

/-- No two candidates have the same id. -/
theorem DistinctIds.eq_of_hasId (h : DistinctIds messages) (hj : Candidate messages i m j)
    (hk : Candidate messages i m k) (hidj : HasId messages wanted j)
    (hidk : HasId messages wanted k) : j = k := by
  obtain ⟨hzero, -, a, ha, hhasha⟩ := hj
  obtain ⟨-, -, b, hb, hhashb⟩ := hk
  obtain ⟨a', ha', hida⟩ := hidj
  obtain ⟨b', hb', hidb⟩ := hidk
  obtain rfl := Option.some.inj (ha.symm.trans ha')
  obtain rfl := Option.some.inj (hb.symm.trans hb')
  rw [DistinctIds, List.Nodup, List.pairwise_map, List.pairwise_filter] at h
  have hdistinct := List.pairwise_iff_getElem.1 h
  obtain ⟨hj, rfl⟩ := List.getElem?_eq_some_iff.1 ha
  obtain ⟨hk, rfl⟩ := List.getElem?_eq_some_iff.1 hb
  have hj' : (messages[j].idHash != 0) = true := bne_iff_ne.2 (hhasha ▸ hzero)
  have hk' : (messages[k].idHash != 0) = true := bne_iff_ne.2 (hhashb ▸ hzero)
  rcases Nat.lt_trichotomy j k with hlt | heq | hlt
  · exact absurd (hida.trans hidb.symm) (hdistinct j k hj hk hlt hj' hk')
  · exact heq
  · exact absurd (hidb.trans hida.symm) (hdistinct k j hk hj hlt hk' hj')

/-- **With distinct ids the parent is any candidate with the wanted id**, or
the only candidate. -/
theorem parentOf_eq_some_iff_any (h : DistinctIds messages) :
    parentOf messages (idIndex messages) i m = some j ↔ Candidate messages i m j ∧
      ((∀ k, Candidate messages i m k → k = j) ∨
        HasId messages (MessageId.normalize m.reference) j) := by
  rw [parentOf_eq_some_iff]
  refine and_congr_right fun hj => or_congr_right
    ⟨And.left, fun hid => ⟨hid, fun k hlt hk hidk => ?_⟩⟩
  exact absurd (h.eq_of_hasId hk hj hidk hid) (by omega)

theorem candidate_reordered (h : Reordered σ messages messages') :
    Candidate messages' (σ i) m (σ j) ↔ Candidate messages i m j := by
  rw [Candidate, Candidate, h, σ.injective.ne_iff]

theorem hasId_reordered (h : Reordered σ messages messages') :
    HasId messages' wanted (σ j) ↔ HasId messages wanted j := by
  rw [HasId, HasId, h]

theorem unique_reordered (h : Reordered σ messages messages') :
    (∀ k, Candidate messages' (σ i) m k → k = σ j) ↔ ∀ k, Candidate messages i m k → k = j := by
  rw [σ.surjective.forall]
  exact forall_congr' fun k => by rw [candidate_reordered h, σ.injective.eq_iff]

/-- **Messages answer the same messages** in either order. -/
theorem answers_reordered (h : Reordered σ messages messages') (hperm : messages.Perm messages')
    (hids : DistinctIds messages) :
    Answers (Thread.parents messages') (σ i) (σ j) ↔ Answers (Thread.parents messages) i j := by
  simp only [answers_parents, h i, parentOf_eq_some_iff_any hids,
    parentOf_eq_some_iff_any (hids.perm hperm), candidate_reordered h, hasId_reordered h,
    unique_reordered h]

/-! ## Members -/

/-- Links join the same messages. -/
theorem connected_reordered {parents' : List (Option Nat)}
    (hlinks : ∀ i j, Answers parents i j → Answers parents' (σ i) (σ j))
    (h : Connected parents i j) : Connected parents' (σ i) (σ j) := by
  induction h with
  | rel i j hij => exact .rel _ _ (hlinks i j hij)
  | refl i => exact .refl _
  | symm i j _ ih => exact ih.symm
  | trans i j k _ _ ih ih' => exact ih.trans _ _ _ ih'

/-- **The thread of a message has the same messages** in either order. -/
theorem mem_collect_reordered (h : Reordered σ messages messages')
    (hperm : messages.Perm messages') (hids : DistinctIds messages)
    (hfocal : focal < messages.length) :
    σ j ∈ collect messages' (σ focal) ↔ j ∈ collect messages focal := by
  rw [mem_collect_iff hfocal, mem_collect_iff (h.lt_length_iff.2 hfocal)]
  refine ⟨fun hconnected => ?_,
    connected_reordered fun i j => (answers_reordered h hperm hids).2⟩
  have hlinks : ∀ i j, Answers (Thread.parents messages') i j →
      Answers (Thread.parents messages) (σ.symm i) (σ.symm j) :=
    fun i j => (answers_reordered h.symm hperm.symm (hids.perm hperm)).2
  have hback := connected_reordered hlinks hconnected
  rwa [Equiv.symm_apply_apply, Equiv.symm_apply_apply] at hback

/-! ## Places -/

/-- There is a circle in both orders or in neither. -/
theorem circle_reordered (h : Reordered σ messages messages') (hperm : messages.Perm messages')
    (hids : DistinctIds messages) (hc : IsCircle (Thread.parents messages) c) :
    IsCircle (Thread.parents messages') (c.map σ) := by
  refine ⟨mt (Cycle.map_eq_nil σ c).1 hc.1, (Cycle.chain_map σ).2 ?_⟩
  exact hc.2.imp fun i j => (answers_reordered h hperm hids).2

/-- **Without circles, the roots are the same messages and depths are the
same.** -/
theorem placeOf_reordered (h : Reordered σ messages messages') (hperm : messages.Perm messages')
    (hids : DistinctIds messages) (hcircles : ∀ c, ¬ IsCircle (Thread.parents messages) c)
    (hi : i < messages.length) :
    placeOf (Thread.parents messages') (σ i) =
      ⟨σ (placeOf (Thread.parents messages) i).root,
        (placeOf (Thread.parents messages) i).depth⟩ := by
  have hin := inside_parents messages
  have hin' := inside_parents messages'
  have hlength := length_parents messages
  have hlength' := length_parents messages'
  have hcircles' : ∀ c, ¬ IsCircle (Thread.parents messages') c := fun c hc =>
    hcircles _ (circle_reordered h.symm hperm.symm (hids.perm hperm) hc)
  -- Up the links, which end at a message without a parent.
  induction hdepth : (placeOf (Thread.parents messages) i).depth using Nat.strongRecOn
    generalizing i with
  | ind depth ih =>
    rw [← hdepth]
    by_cases hparent : ∃ p, Answers (Thread.parents messages) i p
    · obtain ⟨p, hanswers⟩ := hparent
      have hplace := placeOf_of_answers hin hcircles hanswers
      have hp := ih _ (by rw [← hdepth, hplace]; exact Nat.lt_succ_self _)
        (hlength ▸ hin i p hanswers) rfl
      rw [placeOf_of_answers hin' hcircles' ((answers_reordered h hperm hids).2 hanswers), hp,
        hplace]
    · rw [not_exists] at hparent
      have hnone : ∀ p, ¬ Answers (Thread.parents messages') (σ i) p :=
        σ.surjective.forall.2 fun p hanswers =>
          hparent p ((answers_reordered h hperm hids).1 hanswers)
      rw [placeOf_of_no_parent hin (hlength ▸ hi) hparent,
        placeOf_of_no_parent hin' (hlength' ▸ h.lt_length_iff.2 hi) hnone]

/-! ## The order of a thread -/

theorem numberOf_reordered (h : Reordered σ messages messages') :
    numberOf messages' (σ i) = numberOf messages i := by
  rw [numberOf, numberOf, h]

/-- Distinct numbers tell messages apart. -/
theorem eq_of_numberOf_eq (hnumbers : (messages.map ThreadEntry.id).Nodup)
    (hi : i < messages.length) (hj : j < messages.length)
    (h : numberOf messages i = numberOf messages j) : i = j := by
  rw [numberOf, numberOf, List.getElem?_eq_getElem hi, List.getElem?_eq_getElem hj] at h
  refine (List.getElem?_inj (by rwa [List.length_map]) hnumbers).1 ?_
  rw [List.getElem?_map, List.getElem?_map, List.getElem?_eq_getElem hi,
    List.getElem?_eq_getElem hj]
  exact congrArg some h

/-- So no two messages of a thread tie. -/
theorem precedes_antisymm (hnumbers : (messages.map ThreadEntry.id).Nodup)
    (hi : i ∈ collect messages focal) (hj : j ∈ collect messages focal)
    (hij : precedes messages i j = true) (hji : precedes messages j i = true) : i = j := by
  rw [precedes_iff] at hij hji
  refine eq_of_numberOf_eq hnumbers (mem_collect_iff_root.1 hi).1 (mem_collect_iff_root.1 hj).1 ?_
  grind

/-- **The thread of a message is in the same order**, if there are no
circles and the numbers are distinct. -/
theorem collect_reordered (h : Reordered σ messages messages') (hperm : messages.Perm messages')
    (hids : DistinctIds messages) (hcircles : ∀ c, ¬ IsCircle (Thread.parents messages) c)
    (hnumbers : (messages.map ThreadEntry.id).Nodup) (hfocal : focal < messages.length) :
    collect messages' (σ focal) = (collect messages focal).map σ := by
  have hplace := fun i hi => placeOf_reordered (i := i) h hperm hids hcircles hi
  have hmem : ∀ i, i ∈ collect messages' (σ focal) ↔ i ∈ (collect messages focal).map σ := by
    refine σ.surjective.forall.2 fun i => ?_
    rw [mem_collect_reordered h hperm hids hfocal, List.mem_map_of_injective σ.injective]
  refine List.Perm.eq_of_pairwise
    (fun i j hi hj => precedes_antisymm ((hperm.map _).nodup_iff.1 hnumbers) hi ((hmem j).2 hj))
    (pairwise_collect messages' (σ focal)) (List.pairwise_map.2 ?_)
    ((List.perm_ext_iff_of_nodup (nodup_collect _ _)
      ((nodup_collect _ _).map σ.injective)).2 hmem)
  refine (pairwise_collect messages focal).imp_of_mem fun {i j} hi hj hij => ?_
  have hi' := (mem_collect_iff_root.1 hi).1
  have hj' := (mem_collect_iff_root.1 hj).1
  rw [precedes_iff] at hij ⊢
  rwa [hplace i hi', hplace j hj', numberOf_reordered h, numberOf_reordered h]

end MailFormula.Thread

namespace MailFormula

open Thread

/-- **Threads do not depend on the order of messages.** If messages with an
id have different ids, then in every order of the messages, which is some
reordering of their positions, the thread of a message has the same
messages; and if they do not answer each other in circles and their numbers
are distinct, it has them in the same order. -/
theorem thread_independent_of_order (messages messages' : List ThreadEntry)
    (hperm : messages.Perm messages') (hids : DistinctIds messages) :
    (∃ σ, Reordered σ messages messages') ∧
    ∀ σ, Reordered σ messages messages' → ∀ focal < messages.length,
      (∀ j, σ j ∈ collect messages' (σ focal) ↔ j ∈ collect messages focal) ∧
      ((∀ c, ¬ IsCircle (parents messages) c) → (messages.map ThreadEntry.id).Nodup →
        collect messages' (σ focal) = (collect messages focal).map σ) :=
  ⟨exists_reordered hperm, fun _ h _ hfocal =>
    ⟨fun _ => mem_collect_reordered h hperm hids hfocal,
      fun hcircles hnumbers => collect_reordered h hperm hids hcircles hnumbers hfocal⟩⟩

/-- Two answers to one message, and an answer without an id to one of them. -/
def answered : List ThreadEntry :=
  [⟨9, "<a>", "", 1, 0⟩, ⟨5, "<b>", "<a>", 2, 1⟩, ⟨3, "<c>", "<a>", 3, 1⟩, ⟨4, "", "<c>", 0, 3⟩]

/-- The same messages, an answer first. -/
def answeredFromEnd : List ThreadEntry :=
  [⟨3, "<c>", "<a>", 3, 1⟩, ⟨5, "<b>", "<a>", 2, 1⟩, ⟨9, "<a>", "", 1, 0⟩, ⟨4, "", "<c>", 0, 3⟩]

/-- These answer messages that stand before them only. -/
theorem no_circle_answered (c : Cycle Nat) : ¬ IsCircle (parents answered) c := by
  have hparents : parents answered = [none, some 0, some 0, some 2] := by cbv
  have hin := inside_parents answered
  rw [hparents] at hin ⊢
  have hback : ∀ i < 4, ∀ j < 4, Answers [none, some 0, some 0, some 2] i j → j < i := by decide
  rintro ⟨hne, hchain⟩
  have hfalls : c.Chain (· > ·) :=
    hchain.imp fun i j hij => hback i hij.lt_length j (hin i j hij) hij
  exact hne hfalls.eq_nil_of_irrefl

/-- Seen from the message that is answered, which comes third in the end. -/
theorem answered_in_either_order :
    answered.Perm answeredFromEnd ∧ DistinctIds answered ∧
      Reordered (Equiv.swap 0 2) answered answeredFromEnd ∧
      collect answeredFromEnd 2 = (collect answered 0).map (Equiv.swap 0 2) := by
  have hperm : answered.Perm answeredFromEnd := by decide
  have hids : DistinctIds answered := by
    rw [DistinctIds]
    decide +kernel
  have hreordered : Reordered (Equiv.swap 0 2) answered answeredFromEnd := fun i =>
    match i with
    | 0 | 1 | 2 | 3 => rfl
    | i + 4 => by
      rw [Equiv.swap_apply_of_ne_of_ne (by omega) (by omega)]
      rfl
  obtain ⟨-, hthreads⟩ := thread_independent_of_order answered answeredFromEnd hperm hids
  exact ⟨hperm, hids, hreordered,
    (hthreads _ hreordered 0 (by decide)).2 no_circle_answered (by decide)⟩

end MailFormula
