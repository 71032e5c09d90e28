import MailFormula.Mail.Thread
import MailFormula.Proofs.Mail.HashIndex
import Mathlib.Data.List.Perm.Subperm
import Mathlib.Data.List.Permutation
import Mathlib.Logic.Relation
/-!
# Threads are connected components

A message answers its parent, and a thread is everything that can be
reached over such links in either direction. The places that `places`
computes say nothing of that: a message has a root, and where the links
run in a circle the root is whatever message the walk came to last. What
makes the roots right is an invariant of the places found so far
(`Sound`): a message is connected to its root, and a parent has the root
of its answers. It is kept by settling a walk (`Sound.settle`), hence by
a walk (`settled_walk`) and by all of them (`settled_places`). Once every
message has a place, two of them share a root exactly when they are
connected (`rootAt_eq_iff`).
-/

namespace MailFormula.Thread

/-! ## Links -/

/-- Message `i` answers message `j`. -/
def Answers (parents : List (Option Nat)) (i j : Nat) : Prop := parents.getD i none = some j

instance (parents : List (Option Nat)) (i j : Nat) : Decidable (Answers parents i j) :=
  inferInstanceAs (Decidable (parents.getD i none = some j))

/-- Two messages are joined by links, each followed in either direction. -/
def Connected (parents : List (Option Nat)) : Nat → Nat → Prop :=
  Relation.EqvGen (Answers parents)

/-- Every parent is one of the messages. -/
def Inside (parents : List (Option Nat)) : Prop :=
  ∀ i j, Answers parents i j → j < parents.length

variable {parents : List (Option Nat)} {places : Array (Option Place)} {path : List Nat}
variable {i j r root current : Nat}

theorem Answers.lt_length (h : Answers parents i j) : i < parents.length := by
  by_contra hi
  rw [Answers, List.getD_eq_getElem?_getD, List.getElem?_eq_none (by omega)] at h
  cases h

/-- What links join lies inside together or outside together. -/
theorem Connected.lt_length_iff (hin : Inside parents) (h : Connected parents i j) :
    i < parents.length ↔ j < parents.length := by
  induction h with
  | rel i j hij => exact ⟨fun _ => hin i j hij, fun _ => hij.lt_length⟩
  | refl i => exact Iff.rfl
  | symm i j _ ih => exact ih.symm
  | trans i j k _ _ ih ih' => exact ih.trans ih'

/-! ## The places so far -/

/-- The place that a message has been given, if it has been. -/
def placeAt (places : Array (Option Place)) (i : Nat) : Option Place := places.getD i none

theorem placeAt_setIfInBounds {node : Nat} {place : Place} (hnode : node < places.size) :
    placeAt (places.setIfInBounds node (some place)) i =
      if node = i then some place else placeAt places i := by
  unfold placeAt
  rw [Array.getD_eq_getD_getElem?, Array.getElem?_setIfInBounds]
  split
  · rfl
  · rw [Array.getD_eq_getD_getElem?]

/-- The root that a message has been given, if it has been. -/
def rootAt (places : Array (Option Place)) (i : Nat) : Option Nat :=
  (places.getD i none).map Place.root

theorem size_settle (places : Array (Option Place)) (root depth : Nat) (path : List Nat) :
    (settle places root depth path).size = places.size := by
  induction path generalizing places depth with
  | nil => rfl
  | cons node path ih => rw [settle, ih, Array.size_setIfInBounds]

theorem rootAt_setIfInBounds {node depth : Nat} (hnode : node < places.size) :
    rootAt (places.setIfInBounds node (some ⟨root, depth⟩)) i =
      if node = i then some root else rootAt places i := by
  have hplace : placeAt (places.setIfInBounds node (some ⟨root, depth⟩)) i =
      if node = i then some ⟨root, depth⟩ else placeAt places i := placeAt_setIfInBounds hnode
  exact (congrArg (Option.map Place.root) hplace).trans (apply_ite _ _ _ _)

/-- **Settling a walk** gives its messages the root and no other message
anything. -/
theorem rootAt_settle {depth : Nat} (hpath : ∀ i ∈ path, i < places.size) :
    rootAt (settle places root depth path) i =
      if i ∈ path then some root else rootAt places i := by
  induction path generalizing places depth with
  | nil => rfl
  | cons node path ih =>
    have hnode : node < places.size := hpath node List.mem_cons_self
    rw [settle, ih (fun i hi => by
        rw [Array.size_setIfInBounds]
        exact hpath i (List.mem_cons_of_mem _ hi)), rootAt_setIfInBounds hnode]
    by_cases hi : i ∈ path
    · rw [if_pos hi, if_pos (List.mem_cons_of_mem _ hi)]
    · by_cases hnode' : node = i
      · rw [if_neg hi, if_pos hnode', if_pos (hnode' ▸ List.mem_cons_self)]
      · rw [if_neg hi, if_neg hnode', if_neg]
        exact fun hmem => (List.mem_cons.1 hmem).elim (fun h => hnode' h.symm) hi

/-- **The places so far are sound**: links join a message with its root,
and the parent of a message that has a place has the same root. -/
structure Sound (parents : List (Option Nat)) (places : Array (Option Place)) : Prop where
  size : places.size = parents.length
  connected : ∀ i r, rootAt places i = some r → Connected parents i r
  upward : ∀ i j r, Answers parents i j → rootAt places i = some r → rootAt places j = some r

theorem sound_none (parents : List (Option Nat)) :
    Sound parents (Array.replicate parents.length none) := by
  have hnone : ∀ i, rootAt (Array.replicate parents.length none) i = none := by
    intro i
    rw [rootAt, Array.getD_eq_getD_getElem?, Array.getElem?_replicate]
    split <;> rfl
  refine ⟨Array.size_replicate, fun i r h => ?_, fun i j r _ h => ?_⟩
  · rw [hnone] at h
    cases h
  · rw [hnone] at h
    cases h

/-- What a walk leaves behind: sound places, one for each message that
had one and one for each message of the walk. -/
structure Settled (parents : List (Option Nat)) (places places' : Array (Option Place))
    (path : List Nat) : Prop where
  sound : Sound parents places'
  kept : ∀ i, (rootAt places i).isSome = true → (rootAt places' i).isSome = true
  placed : ∀ i ∈ path, (rootAt places' i).isSome = true

theorem Settled.mono {places' : Array (Option Place)} {path' : List Nat}
    (h : Settled parents places places' path) (hsub : path' ⊆ path) :
    Settled parents places places' path' :=
  ⟨h.sound, h.kept, fun i hi => h.placed i (hsub hi)⟩

/-- **Settling keeps the places sound**, where the messages of the walk
are new, the root is connected to them, and each link out of the walk
goes to a message with that root. -/
theorem Sound.settle (root depth : Nat) (h : Sound parents places)
    (hinside : ∀ i ∈ path, i < parents.length) (hnew : ∀ i ∈ path, rootAt places i = none)
    (hroot : ∀ i ∈ path, Connected parents i root)
    (hout : ∀ i ∈ path, ∀ j, Answers parents i j → j ∈ path ∨ rootAt places j = some root) :
    Settled parents places (Thread.settle places root depth path) path := by
  have hat : ∀ i, rootAt (Thread.settle places root depth path) i =
      if i ∈ path then some root else rootAt places i := fun i =>
    rootAt_settle fun i hi => h.size ▸ hinside i hi
  refine ⟨⟨(size_settle places root depth path).trans h.size, fun i r hi => ?_,
    fun i j r hij hi => ?_⟩, fun i hi => ?_, fun i hi => ?_⟩
  · rw [hat] at hi
    split at hi
    · rename_i hmem
      exact Option.some.inj hi ▸ hroot i hmem
    · exact h.connected i r hi
  · rw [hat] at hi ⊢
    by_cases hmem : i ∈ path
    · rw [if_pos hmem] at hi
      obtain rfl := Option.some.inj hi
      rcases hout i hmem j hij with hj | hj
      · rw [if_pos hj]
      · rw [hj, ite_self]
    · rw [if_neg hmem] at hi
      have hj := h.upward i j r hij hi
      -- The parent had a place before, so it is not of the walk.
      rw [if_neg fun hmem' => by rw [hnew j hmem'] at hj; cases hj]
      exact hj
  · rw [hat]
    split
    · rfl
    · exact hi
  · rw [hat, if_pos hi]
    rfl

/-! ## Walks -/

/-- **The messages of a walk**, the last one first: each answers the one
that was walked after it, and the last answers the one that is next. -/
inductive Walked (parents : List (Option Nat)) : List Nat → Nat → Prop
  | start (i : Nat) : Walked parents [] i
  | step {path : List Nat} {i j : Nat} :
      Walked parents path i → Answers parents i j → Walked parents (i :: path) j

theorem Walked.connected (h : Walked parents path current) :
    ∀ i ∈ path, Connected parents i current := by
  induction h with
  | start i => exact nofun
  | @step path i j _ hij ih =>
    intro k hk
    have hlink : Connected parents i j := .rel i j hij
    rcases List.mem_cons.1 hk with rfl | hk
    · exact hlink
    · exact (ih k hk).trans _ _ _ hlink

/-- A link out of a walk goes to the message that is next. -/
theorem Walked.answers (h : Walked parents path current) :
    ∀ i ∈ path, ∀ j, Answers parents i j → j ∈ path ∨ j = current := by
  induction h with
  | start i => exact nofun
  | @step path i j _ hij ih =>
    intro k hk l hkl
    rcases List.mem_cons.1 hk with rfl | hk
    · exact .inr (Option.some.inj (hkl.symm.trans hij))
    · rcases ih k hk l hkl with hl | rfl
      · exact .inl (List.mem_cons_of_mem _ hl)
      · exact .inl List.mem_cons_self

/-- **A walk that is under way**: it has come to `current`, over messages
without a place and over none of them twice, and there are rounds for
all that it can still meet. -/
structure UnderWay (parents : List (Option Nat)) (places : Array (Option Place))
    (rounds : Nat) (path : List Nat) (current : Nat) : Prop where
  walked : Walked parents path current
  nodup : path.Nodup
  inside : ∀ i ∈ path, i < parents.length
  new : ∀ i ∈ path, rootAt places i = none
  current_lt : current < parents.length
  rounds : parents.length < path.length + rounds

/-- A walk without repetitions is no longer than there are messages. -/
theorem length_le_of_nodup (hnodup : path.Nodup) (hinside : ∀ i ∈ path, i < parents.length) :
    path.length ≤ parents.length := by
  have hsub : path ⊆ List.range parents.length := fun i hi => List.mem_range.2 (hinside i hi)
  have hlen := (hnodup.subperm hsub).length_le
  rwa [List.length_range] at hlen

/-- The next message of a walk, if it has no place and was not walked yet. -/
theorem UnderWay.next {rounds : Nat} (h : UnderWay parents places (rounds + 1) path current)
    (hin : Inside parents) (hnew : rootAt places current = none) (hfresh : current ∉ path)
    (hparent : Answers parents current j) :
    UnderWay parents places rounds (current :: path) j where
  walked := h.walked.step hparent
  nodup := List.nodup_cons.2 ⟨hfresh, h.nodup⟩
  inside := List.forall_mem_cons.2 ⟨h.current_lt, h.inside⟩
  new := List.forall_mem_cons.2 ⟨hnew, h.new⟩
  current_lt := hin current j hparent
  rounds := by
    have hrounds := h.rounds
    rw [List.length_cons]
    omega

/-- **A walk settles every message on its way**, the circle that it may
run into included. -/
theorem settled_walk (hin : Inside parents) (hsound : Sound parents places) {rounds : Nat}
    (h : UnderWay parents places rounds path current) :
    Settled parents places (walk parents places rounds path current) (current :: path) := by
  induction rounds generalizing path current with
  | zero =>
    -- More messages than there are would have been walked.
    have hlength := length_le_of_nodup h.nodup h.inside
    have hrounds := h.rounds
    omega
  | succ rounds ih =>
    rw [walk.eq_def]
    dsimp only
    split
    · rename_i place hplace
      have hcurrent : rootAt places current = some place.root := by rw [rootAt, hplace]; rfl
      have hset := hsound.settle place.root (place.depth + 1) h.inside h.new
        (fun i hi => (h.walked.connected i hi).trans _ _ _ (hsound.connected _ _ hcurrent))
        (fun i hi j hij => (h.walked.answers i hi j hij).imp_right fun hj => by rwa [hj])
      refine ⟨hset.sound, hset.kept, List.forall_mem_cons.2 ⟨hset.kept current ?_, hset.placed⟩⟩
      rw [hcurrent]
      rfl
    · rename_i hplace
      have hnew : rootAt places current = none := by rw [rootAt, hplace]; rfl
      split
      · rename_i hmem
        rw [List.contains_iff_mem] at hmem
        have hwalked := h.walked
        cases hwalked with
        | start => cases hmem
        | @step path last _ hbefore hlast =>
          -- The circle is cut at the message that was walked last.
          have hset := hsound.settle last 0 h.inside h.new
            (List.forall_mem_cons.2 ⟨.refl last, hbefore.connected⟩)
            (fun i hi j hij => .inl ((h.walked.answers i hi j hij).elim id fun hj => hj ▸ hmem))
          exact hset.mono (List.cons_subset.2 ⟨hmem, List.Subset.refl _⟩)
      · rename_i hmem
        rw [List.contains_iff_mem] at hmem
        split
        · rename_i parent hparent
          exact (ih (h.next hin hnew hmem hparent)).mono (List.subset_cons_self _ _)
        · rename_i hparent
          refine hsound.settle current _ (List.forall_mem_cons.2 ⟨h.current_lt, h.inside⟩)
            (List.forall_mem_cons.2 ⟨hnew, h.new⟩)
            (List.forall_mem_cons.2 ⟨.refl current, h.walked.connected⟩) ?_
          refine List.forall_mem_cons.2 ⟨fun j hj => ?_, fun i hi j hij => .inl ?_⟩
          · rw [Answers, hparent] at hj
            cases hj
          · exact List.mem_cons.2 (h.walked.answers i hi j hij).symm

/-- **Every message gets a sound place**: the walks from one message
after the other keep what was found. -/
theorem settled_foldl (hin : Inside parents) (starts : List Nat)
    (hstarts : ∀ i ∈ starts, i < parents.length) (hsound : Sound parents places) :
    Settled parents places
      (starts.foldl
        (fun places start =>
          if (places.getD start none).isSome then places
          else walk parents places (parents.length + 1) [] start)
        places) starts := by
  induction starts generalizing places with
  | nil => exact ⟨hsound, fun _ h => h, nofun⟩
  | cons start starts ih =>
    have hstart : Settled parents places
        (if (places.getD start none).isSome then places
          else walk parents places (parents.length + 1) [] start) [start] := by
      split
      · rename_i hplace
        refine ⟨hsound, fun _ h => h, List.forall_mem_singleton.2 ?_⟩
        rw [rootAt, Option.isSome_map]
        exact hplace
      · exact settled_walk hin hsound
          ⟨.start start, List.nodup_nil, nofun, nofun, hstarts start List.mem_cons_self, by omega⟩
    have hrest := ih (fun i hi => hstarts i (List.mem_cons_of_mem _ hi)) hstart.sound
    refine ⟨hrest.sound, fun i hi => hrest.kept i (hstart.kept i hi),
      List.forall_mem_cons.2 ⟨hrest.kept start ?_, hrest.placed⟩⟩
    exact hstart.placed start List.mem_cons_self

theorem settled_places (hin : Inside parents) :
    Settled parents (Array.replicate parents.length none) (Thread.places parents)
      (List.range parents.length) :=
  settled_foldl hin _ (fun _ => List.mem_range.1) (sound_none parents)

/-- Links keep the root, in either direction. -/
theorem rootAt_eq_of_connected (hin : Inside parents) (h : Connected parents i j) :
    rootAt (Thread.places parents) i = rootAt (Thread.places parents) j := by
  have hset := settled_places hin
  induction h with
  | rel i j hij =>
    obtain ⟨r, hr⟩ := Option.isSome_iff_exists.1
      (hset.placed i (List.mem_range.2 hij.lt_length))
    rw [hr, hset.sound.upward i j r hij hr]
  | refl i => rfl
  | symm i j _ ih => exact ih.symm
  | trans i j k _ _ ih ih' => exact ih.trans ih'

/-- **Two messages share a root exactly when links join them.** -/
theorem rootAt_eq_iff (hin : Inside parents) (hi : i < parents.length) :
    rootAt (Thread.places parents) i = rootAt (Thread.places parents) j ↔
      Connected parents i j := by
  refine ⟨fun h => ?_, rootAt_eq_of_connected hin⟩
  have hset := settled_places hin
  obtain ⟨r, hr⟩ := Option.isSome_iff_exists.1 (hset.placed i (List.mem_range.2 hi))
  have hj : Connected parents j r := hset.sound.connected j r (h ▸ hr)
  exact (hset.sound.connected i r hr).trans _ _ _ hj.symm

/-! ## The parents of messages -/

theorem length_parents (messages : List ThreadEntry) :
    (Thread.parents messages).length = messages.length := by
  rw [Thread.parents, List.length_map, List.length_zipIdx]

/-- **A candidate** for the parent of message `i`: another message whose id
has the hash of the reference, if there is one. -/
def Candidate (messages : List ThreadEntry) (i : Nat) (m : ThreadEntry) (j : Nat) : Prop :=
  m.referenceHash ≠ 0 ∧ j ≠ i ∧
    ∃ other, messages[j]? = some other ∧ other.idHash = m.referenceHash

theorem mem_candidates {messages : List ThreadEntry} {m : ThreadEntry} :
    j ∈ candidates (idIndex messages) i m ↔ Candidate messages i m j := by
  rw [Candidate, candidates, List.mem_filter, idIndex, HashIndex.mem_positions_ofHashes,
    bne_iff_ne, List.getElem?_map, Option.map_eq_some_iff]
  exact ⟨fun ⟨⟨hhash, hother⟩, hne⟩ => ⟨hhash, hne, hother⟩,
    fun ⟨hhash, hne, hother⟩ => ⟨⟨hhash, hother⟩, hne⟩⟩

theorem lt_length_of_mem_candidates {messages : List ThreadEntry} {m : ThreadEntry}
    (h : j ∈ candidates (idIndex messages) i m) : j < messages.length := by
  obtain ⟨-, -, other, hother, -⟩ := mem_candidates.1 h
  exact (List.getElem?_eq_some_iff.1 hother).1

theorem getElem?_parents (messages : List ThreadEntry) (i : Nat) :
    (Thread.parents messages)[i]? =
      messages[i]?.map fun m => parentOf messages (idIndex messages) i m := by
  rw [Thread.parents, List.getElem?_map, List.getElem?_zipIdx, Option.map_map, Nat.zero_add]
  rfl

theorem answers_parents {messages : List ThreadEntry} :
    Answers (Thread.parents messages) i j ↔
      ∃ m, messages[i]? = some m ∧ parentOf messages (idIndex messages) i m = some j := by
  rw [Answers, List.getD_eq_getElem?_getD, getElem?_parents]
  cases messages[i]? with
  | none => simp
  | some m => simp

/-- A parent is one of the candidates. -/
theorem mem_candidates_of_parentOf {messages : List ThreadEntry} {m : ThreadEntry}
    (h : parentOf messages (idIndex messages) i m = some j) :
    j ∈ candidates (idIndex messages) i m := by
  rw [parentOf] at h
  split at h
  · cases h
  · split at h
    · cases h
    · rename_i only honly
      obtain rfl := Option.some.inj h
      exact honly ▸ List.mem_singleton_self only
    · exact List.mem_of_find?_eq_some h

/-- So it is one of the messages. -/
theorem inside_parents (messages : List ThreadEntry) : Inside (Thread.parents messages) := by
  intro i j h
  obtain ⟨m, -, hparent⟩ := answers_parents.1 h
  rw [length_parents]
  exact lt_length_of_mem_candidates (mem_candidates_of_parentOf hparent)

/-! ## Threads -/

variable {messages : List ThreadEntry} {focal : Nat}

/-- The place that `collect` reads has the root that was found. -/
theorem rootAt_places_eq (hi : i < messages.length) :
    rootAt (Thread.places (Thread.parents messages)) i =
      some (((Thread.places (Thread.parents messages)).getD i none).getD ⟨i, 0⟩).root := by
  have hset := settled_places (inside_parents messages)
  have hplaced := hset.placed i (List.mem_range.2 (by rwa [length_parents]))
  rw [rootAt] at hplaced ⊢
  obtain ⟨place, hplace⟩ := Option.isSome_iff_exists.1 (Option.isSome_map ▸ hplaced)
  rw [hplace]
  rfl

/-- **A thread has the messages that links join with it.** -/
theorem mem_collect_iff (hfocal : focal < messages.length) :
    j ∈ collect messages focal ↔ Connected (Thread.parents messages) focal j := by
  have hin := inside_parents messages
  have hlength := length_parents messages
  rw [collect, List.mem_mergeSort, List.mem_filter, List.mem_range, beq_iff_eq,
    ← Option.some_inj, ← rootAt_places_eq hfocal]
  constructor
  · rintro ⟨hj, hroot⟩
    rw [← rootAt_places_eq hj] at hroot
    exact (rootAt_eq_iff hin (hlength ▸ hfocal)).1 hroot.symm
  · intro h
    have hj : j < messages.length := hlength ▸ (h.lt_length_iff hin).1 (hlength ▸ hfocal)
    rw [← rootAt_places_eq hj]
    exact ⟨hj, (rootAt_eq_of_connected hin h).symm⟩

/-- **A thread is the thread of each of its messages**, down to the order. -/
theorem collect_eq_of_connected (hfocal : focal < messages.length)
    (h : Connected (Thread.parents messages) focal j) :
    collect messages j = collect messages focal := by
  have hin := inside_parents messages
  have hlength := length_parents messages
  have hj : j < messages.length := hlength ▸ (h.lt_length_iff hin).1 (hlength ▸ hfocal)
  have hroot := rootAt_eq_of_connected hin h
  rw [rootAt_places_eq hfocal, rootAt_places_eq hj, Option.some_inj] at hroot
  -- The message at hand is read for its root only.
  simp only [collect, hroot]

theorem nodup_collect (messages : List ThreadEntry) (focal : Nat) :
    (collect messages focal).Nodup := by
  rw [collect, (List.mergeSort_perm _ _).nodup_iff]
  exact List.nodup_range.filter _

end MailFormula.Thread

namespace MailFormula

open Thread

/-- **A thread is a connected component.** Whatever the ids, references
and hashes are, the thread of a message has no message twice and has
exactly the messages that parent links join with it, in either
direction. The message is in its thread, every message of the thread has
the same one, and two threads are the same or have nothing in common. -/
theorem thread_is_component (messages : List ThreadEntry) (focal : Nat)
    (h : focal < messages.length) :
    (collect messages focal).Nodup ∧
      (∀ j, j ∈ collect messages focal ↔
        Relation.EqvGen (Answers (parents messages)) focal j) ∧
      focal ∈ collect messages focal ∧
      (∀ j ∈ collect messages focal, collect messages j = collect messages focal) ∧
      ∀ j < messages.length, collect messages j = collect messages focal ∨
        (collect messages j).Disjoint (collect messages focal) := by
  refine ⟨nodup_collect messages focal, fun j => mem_collect_iff h,
    (mem_collect_iff h).2 (.refl focal),
    fun j hj => collect_eq_of_connected h ((mem_collect_iff h).1 hj), fun j hj => ?_⟩
  by_cases hmeet : ∃ k, k ∈ collect messages j ∧ k ∈ collect messages focal
  · obtain ⟨k, hk, hk'⟩ := hmeet
    left
    rw [← collect_eq_of_connected hj ((mem_collect_iff hj).1 hk),
      collect_eq_of_connected h ((mem_collect_iff h).1 hk')]
  · exact .inr fun k hk hk' => hmeet ⟨k, hk, hk'⟩

/-- Three messages that answer each other in a circle, one that answers
into the circle, another with the same id, an answer to that id, and an
answer to nothing that is there. -/
def tangled : List ThreadEntry :=
  [⟨7, "<a>", "<b>", 1, 2⟩, ⟨3, "<b>", "<c>", 2, 3⟩, ⟨9, "<c>", "<a>", 3, 1⟩,
    ⟨4, "<d>", "<b>", 4, 2⟩, ⟨5, "<d>", "", 4, 0⟩, ⟨1, "<e>", "<d>", 5, 4⟩,
    ⟨2, "<f>", "<g>", 6, 7⟩]

theorem parents_tangled :
    parents tangled = [some 1, some 2, some 0, some 1, none, some 3, none] := by
  cbv

/-- The last answer is in the thread of the circle, seen from either. -/
theorem tangled_thread :
    5 < tangled.length ∧
      (∀ j, j ∈ collect tangled 5 ↔ Relation.EqvGen (Answers (parents tangled)) 5 j) ∧
      collect tangled 0 = collect tangled 5 := by
  obtain ⟨-, hmem, -, hsame, -⟩ := thread_is_component tangled 5 (by decide)
  have hlinks : Relation.EqvGen (Answers (parents tangled)) 5 0 := by
    rw [parents_tangled]
    exact .trans _ 3 _ (.rel _ _ (by decide)) <| .trans _ 1 _ (.rel _ _ (by decide)) <|
      .symm _ _ (.rel _ _ (by decide))
  exact ⟨by decide, hmem, hsame 0 ((hmem 0).2 hlinks)⟩

end MailFormula
