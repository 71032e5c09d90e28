import MailFormula.Proofs.Mail.Thread
import Mathlib.Data.List.Cycle
/-!
# Roots and depths

Every message is its own root at depth 0, or has the root of its parent and
is one deeper (`Fits`). A walk gives places from its last message back to its
first, so when a message gets one, its parent already has its own; and since
a place is never taken back, what fitted once goes on to fit (`Ranked`). The
message at which a walk is cut, or ends, is the only one that needs no
parent with a place.

Depths fall along a circle until a message is its own root, and the messages
of a circle share one root; so there is exactly one such message in it.
-/

namespace MailFormula.Thread

variable {parents : List (Option Nat)} {places : Array (Option Place)} {path : List Nat}
variable {place : Place} {i j root depth current focal : Nat} {messages : List ThreadEntry}

/-! ## Places that fit -/

theorem placeAt_eq_none_iff : placeAt places i = none ↔ rootAt places i = none :=
  Option.map_eq_none_iff.symm

theorem placeAt_setIfInBounds_self (hi : i < places.size) :
    placeAt (places.setIfInBounds i (some place)) i = some place := by
  rw [placeAt_setIfInBounds hi, if_pos rfl]

theorem placeAt_setIfInBounds_of_ne (hi : i < places.size) (hne : i ≠ j) :
    placeAt (places.setIfInBounds i (some place)) j = placeAt places j := by
  rw [placeAt_setIfInBounds hi, if_neg hne]

/-- **A place fits its message.** -/
inductive Fits (parents : List (Option Nat)) (places : Array (Option Place)) (i : Nat) :
    Place → Prop
  /-- The message is its own root. -/
  | root : Fits parents places i ⟨i, 0⟩
  /-- The message has another root, that of its parent, and is one deeper. -/
  | below {j root depth : Nat} :
      root ≠ i → Answers parents i j → placeAt places j = some ⟨root, depth⟩ →
      Fits parents places i ⟨root, depth + 1⟩

theorem Fits.mono {places' : Array (Option Place)} (h : Fits parents places i place)
    (hkept : ∀ j place, placeAt places j = some place → placeAt places' j = some place) :
    Fits parents places' i place := by
  cases h with
  | root => exact .root
  | below hne hanswers hplace => exact .below hne hanswers (hkept _ _ hplace)

/-- **All places given so far fit.** -/
structure Ranked (parents : List (Option Nat)) (places : Array (Option Place)) : Prop where
  size : places.size = parents.length
  fits : ∀ i place, placeAt places i = some place → Fits parents places i place

theorem ranked_none (parents : List (Option Nat)) :
    Ranked parents (Array.replicate parents.length none) := by
  refine ⟨Array.size_replicate, fun i place h => ?_⟩
  rw [placeAt, Array.getD_eq_getD_getElem?, Array.getElem?_replicate] at h
  split at h <;> cases h

/-- A root has a place, and it is its own root. -/
theorem Ranked.placeAt_root (h : Ranked parents places)
    (hplace : placeAt places i = some ⟨root, depth⟩) :
    placeAt places root = some ⟨root, 0⟩ := by
  induction depth generalizing i with
  | zero =>
    have hfits := h.fits i _ hplace
    cases hfits with
    | root => exact hplace
  | succ depth ih =>
    have hfits := h.fits i _ hplace
    cases hfits with
    | below _ _ hparent => exact ih hparent

/-- **One more place that fits.** -/
theorem Ranked.set (h : Ranked parents places) (hi : i < parents.length)
    (hnew : placeAt places i = none) (hfits : Fits parents places i place) :
    Ranked parents (places.setIfInBounds i (some place)) := by
  have hsize : i < places.size := h.size ▸ hi
  have hkept : ∀ j place', placeAt places j = some place' →
      placeAt (places.setIfInBounds i (some place)) j = some place' := by
    intro j place' hj
    rw [placeAt_setIfInBounds_of_ne hsize, hj]
    rintro rfl
    rw [hnew] at hj
    cases hj
  refine ⟨Array.size_setIfInBounds.trans h.size, fun j place' hj => ?_⟩
  by_cases heq : i = j
  · obtain rfl := heq
    rw [placeAt_setIfInBounds_self hsize] at hj
    cases hj
    exact hfits.mono hkept
  · rw [placeAt_setIfInBounds_of_ne hsize heq] at hj
    exact (h.fits j place' hj).mono hkept

/-! ## Walks -/

/-- When one message of a walk gets a place, the others still have none. -/
theorem placeAt_setIfInBounds_eq_none (hi : i < places.size) (hnotin : i ∉ path)
    (hnew : ∀ k ∈ path, placeAt places k = none) :
    ∀ k ∈ path, placeAt (places.setIfInBounds i (some place)) k = none := by
  intro k hk
  rw [placeAt_setIfInBounds_of_ne hi, hnew k hk]
  rintro rfl
  exact hnotin hk

/-- **Settling a walk below a message that has a place**: each of its
messages is one deeper than the one it answers. -/
theorem Ranked.settle_below (h : Ranked parents places) (hwalked : Walked parents path j)
    (hnodup : path.Nodup) (hinside : ∀ i ∈ path, i < parents.length)
    (hnew : ∀ i ∈ path, placeAt places i = none)
    (hplace : placeAt places j = some ⟨root, depth⟩) :
    Ranked parents (settle places root (depth + 1) path) := by
  induction path generalizing places j depth with
  | nil => exact h
  | cons i path ih =>
    obtain ⟨hnotin, hnodup⟩ := List.nodup_cons.1 hnodup
    obtain ⟨hi, hinside⟩ := List.forall_mem_cons.1 hinside
    obtain ⟨hinew, hnew⟩ := List.forall_mem_cons.1 hnew
    have hsize : i < places.size := h.size ▸ hi
    cases hwalked with
    | step hwalked hanswers =>
      -- The root has its place already.
      have hne : root ≠ i := by
        rintro rfl
        rw [h.placeAt_root hplace] at hinew
        cases hinew
      exact ih (h.set hi hinew (.below hne hanswers hplace)) hwalked hnodup hinside
        (placeAt_setIfInBounds_eq_none hsize hnotin hnew) (placeAt_setIfInBounds_self hsize)

/-- **Settling a walk whose last message is the root.** -/
theorem Ranked.settle_root (h : Ranked parents places) (hwalked : Walked parents path i)
    (hnodup : (i :: path).Nodup) (hinside : ∀ k ∈ i :: path, k < parents.length)
    (hnew : ∀ k ∈ i :: path, placeAt places k = none) :
    Ranked parents (settle places i 0 (i :: path)) := by
  obtain ⟨hnotin, hnodup⟩ := List.nodup_cons.1 hnodup
  obtain ⟨hi, hinside⟩ := List.forall_mem_cons.1 hinside
  obtain ⟨hinew, hnew⟩ := List.forall_mem_cons.1 hnew
  have hsize : i < places.size := h.size ▸ hi
  exact (h.set hi hinew .root).settle_below hwalked hnodup hinside
    (placeAt_setIfInBounds_eq_none hsize hnotin hnew) (placeAt_setIfInBounds_self hsize)

/-- **A walk gives places that fit**, wherever it ends. -/
theorem ranked_walk (hin : Inside parents) (hranked : Ranked parents places) {rounds : Nat}
    (h : UnderWay parents places rounds path current) :
    Ranked parents (walk parents places rounds path current) := by
  induction rounds generalizing path current with
  | zero => exact hranked
  | succ rounds ih =>
    have hnew : ∀ i ∈ path, placeAt places i = none :=
      fun i hi => placeAt_eq_none_iff.2 (h.new i hi)
    rw [walk.eq_def]
    dsimp only
    split
    · rename_i place hplace
      exact hranked.settle_below h.walked h.nodup h.inside hnew hplace
    · rename_i hplace
      split
      · -- Back at a message of the walk, which is cut at the one walked last.
        rename_i hmem
        rw [List.contains_iff_mem] at hmem
        have hwalked := h.walked
        cases hwalked with
        | start => cases hmem
        | step hbefore hlast =>
          exact hranked.settle_root hbefore h.nodup h.inside hnew
      · rename_i hmem
        rw [List.contains_iff_mem] at hmem
        split
        · rename_i parent hparent
          exact ih (h.next hin (placeAt_eq_none_iff.1 hplace) hmem hparent)
        · exact hranked.settle_root h.walked (List.nodup_cons.2 ⟨hmem, h.nodup⟩)
            (List.forall_mem_cons.2 ⟨h.current_lt, h.inside⟩)
            (List.forall_mem_cons.2 ⟨hplace, hnew⟩)

theorem ranked_foldl (hin : Inside parents) (starts : List Nat)
    (hstarts : ∀ i ∈ starts, i < parents.length) (hranked : Ranked parents places) :
    Ranked parents
      (starts.foldl
        (fun places start =>
          if (places.getD start none).isSome then places
          else walk parents places (parents.length + 1) [] start)
        places) := by
  induction starts generalizing places with
  | nil => exact hranked
  | cons start starts ih =>
    refine ih (fun i hi => hstarts i (List.mem_cons_of_mem _ hi)) ?_
    dsimp only
    split
    · exact hranked
    · exact ranked_walk hin hranked
        ⟨.start start, List.nodup_nil, nofun, nofun, hstarts start List.mem_cons_self, by omega⟩

theorem ranked_places (hin : Inside parents) : Ranked parents (Thread.places parents) :=
  ranked_foldl hin _ (fun _ => List.mem_range.1) (ranked_none parents)

/-! ## The place of every message -/

/-- The place that is read for a message. -/
def placeOf (parents : List (Option Nat)) (i : Nat) : Place :=
  ((Thread.places parents).getD i none).getD ⟨i, 0⟩

theorem placeAt_places (hin : Inside parents) (hi : i < parents.length) :
    placeAt (Thread.places parents) i = some (placeOf parents i) := by
  have hplaced := (settled_places hin).placed i (List.mem_range.2 hi)
  rw [rootAt, Option.isSome_map] at hplaced
  obtain ⟨place, hplace⟩ := Option.isSome_iff_exists.1 hplaced
  rw [placeOf, placeAt, hplace]
  rfl

theorem rootAt_places (hin : Inside parents) (hi : i < parents.length) :
    rootAt (Thread.places parents) i = some (placeOf parents i).root :=
  congrArg (Option.map Place.root) (placeAt_places hin hi)

theorem fits_placeOf (hin : Inside parents) (hi : i < parents.length) :
    Fits parents (Thread.places parents) i (placeOf parents i) :=
  (ranked_places hin).fits i _ (placeAt_places hin hi)

/-- **A root is a message**, like those it is the root of. -/
theorem root_lt_length (hin : Inside parents) (hi : i < parents.length) :
    (placeOf parents i).root < parents.length := by
  have hconnected := (settled_places hin).sound.connected i _ (rootAt_places hin hi)
  exact (hconnected.lt_length_iff hin).1 hi

/-- **Only roots are at depth 0.** -/
theorem depth_eq_zero_iff (hin : Inside parents) (hi : i < parents.length) :
    (placeOf parents i).depth = 0 ↔ (placeOf parents i).root = i := by
  have hfits := fits_placeOf hin hi
  generalize placeOf parents i = place at hfits
  cases hfits with
  | root => exact ⟨fun _ => rfl, fun _ => rfl⟩
  | below hne => exact ⟨nofun, fun h => absurd h hne⟩

/-- **Any other message is one deeper than its parent**, with the same
root. -/
theorem exists_parent_of_root_ne (hin : Inside parents) (hi : i < parents.length)
    (hroot : (placeOf parents i).root ≠ i) :
    ∃ p, Answers parents i p ∧ (placeOf parents p).root = (placeOf parents i).root ∧
      (placeOf parents i).depth = (placeOf parents p).depth + 1 := by
  have hfits := fits_placeOf hin hi
  generalize placeOf parents i = place at hfits hroot ⊢
  cases hfits with
  | root => exact absurd rfl hroot
  | below _ hanswers hparent =>
    have hp := placeAt_places hin (hin _ _ hanswers)
    rw [hparent, Option.some_inj] at hp
    exact ⟨_, hanswers, by rw [← hp], by rw [← hp]⟩

theorem root_eq_of_connected (hin : Inside parents) (hi : i < parents.length)
    (h : Connected parents i j) : (placeOf parents i).root = (placeOf parents j).root := by
  have hroots := rootAt_eq_of_connected hin h
  rwa [rootAt_places hin hi, rootAt_places hin ((h.lt_length_iff hin).1 hi), Option.some_inj]
    at hroots

/-! ## Circles -/

/-- **Messages that answer each other in a circle.** -/
def IsCircle (parents : List (Option Nat)) (c : Cycle Nat) : Prop :=
  c ≠ Cycle.nil ∧ c.Chain (Answers parents)

variable {c : Cycle Nat}

/-- A circle goes on with the parent of each of its messages. -/
theorem IsCircle.exists_parent_mem (h : IsCircle parents c) (hi : i ∈ c) :
    ∃ p ∈ c, Answers parents i p := by
  obtain ⟨l, rfl⟩ : ∃ l : List Nat, (l : Cycle Nat) = c := Quotient.exists_rep c
  obtain ⟨before, after, rfl⟩ := List.append_of_mem (Cycle.mem_coe_iff.1 hi)
  -- The circle, turned so that it starts with the message at hand.
  have hturn : ((before ++ i :: after : List Nat) : Cycle Nat) =
      (i :: (after ++ before) : List Nat) := Cycle.coe_eq_coe.2 List.isRotated_append
  have hchain := h.2
  rw [hturn] at hchain ⊢
  rw [Cycle.chain_coe_cons] at hchain
  cases hrest : after ++ before with
  | nil =>
    rw [hrest] at hchain
    exact ⟨i, Cycle.mem_coe_iff.2 List.mem_cons_self, (List.isChain_cons_cons.1 hchain).1⟩
  | cons p rest =>
    rw [hrest] at hchain
    exact ⟨p, Cycle.mem_coe_iff.2 (List.mem_cons_of_mem _ List.mem_cons_self),
      (List.isChain_cons_cons.1 hchain).1⟩

/-- Links join the messages of a circle. -/
theorem IsCircle.connected (h : IsCircle parents c) (hi : i ∈ c) (hj : j ∈ c) :
    Connected parents i j := by
  have : IsTrans Nat (Connected parents) := ⟨fun _ _ _ hij hjk => hij.trans _ _ _ hjk⟩
  exact Cycle.chain_iff_pairwise.1 (h.2.imp fun _ _ => Relation.EqvGen.rel _ _) i hi j hj

/-- Going round a circle, one comes to a message that is its own root. -/
theorem IsCircle.exists_root_mem (h : IsCircle parents c) (hin : Inside parents) (hi : i ∈ c) :
    ∃ r ∈ c, (placeOf parents r).root = r := by
  induction hdepth : (placeOf parents i).depth generalizing i with
  | zero =>
    obtain ⟨p, -, hanswers⟩ := h.exists_parent_mem hi
    exact ⟨i, hi, (depth_eq_zero_iff hin hanswers.lt_length).1 hdepth⟩
  | succ depth ih =>
    obtain ⟨p, hp, hanswers⟩ := h.exists_parent_mem hi
    have hne : (placeOf parents i).root ≠ i := by
      rw [Ne, ← depth_eq_zero_iff hin hanswers.lt_length]
      omega
    obtain ⟨p', hanswers', -, hdeeper⟩ :=
      exists_parent_of_root_ne hin hanswers.lt_length hne
    obtain rfl := Option.some.inj (hanswers.symm.trans hanswers')
    exact ih hp (by omega)

theorem IsCircle.exists_mem (h : IsCircle parents c) : ∃ i, i ∈ c := by
  obtain ⟨l, rfl⟩ : ∃ l : List Nat, (l : Cycle Nat) = c := Quotient.exists_rep c
  cases l with
  | nil => exact absurd rfl h.1
  | cons i l => exact ⟨i, Cycle.mem_coe_iff.2 List.mem_cons_self⟩

/-- **A circle is cut at one message.** -/
theorem IsCircle.existsUnique_root (h : IsCircle parents c) (hin : Inside parents) :
    ∃! r, r ∈ c ∧ (placeOf parents r).root = r := by
  obtain ⟨i, hi⟩ := h.exists_mem
  obtain ⟨r, hr, hroot⟩ := h.exists_root_mem hin hi
  refine ⟨r, ⟨hr, hroot⟩, fun r' ⟨hr', hroot'⟩ => ?_⟩
  obtain ⟨p, -, hanswers⟩ := h.exists_parent_mem hr'
  have hsame := root_eq_of_connected hin hanswers.lt_length (h.connected hr' hr)
  rw [← hroot', hsame, hroot]

/-- Following parents, every message comes to its root. -/
theorem reaches_root (hin : Inside parents) (hi : i < parents.length) :
    Relation.ReflTransGen (Answers parents) i (placeOf parents i).root := by
  induction hdepth : (placeOf parents i).depth generalizing i with
  | zero => rw [(depth_eq_zero_iff hin hi).1 hdepth]
  | succ depth ih =>
    have hne : (placeOf parents i).root ≠ i := by
      rw [Ne, ← depth_eq_zero_iff hin hi]
      omega
    obtain ⟨p, hanswers, hsame, hdeeper⟩ := exists_parent_of_root_ne hin hi hne
    exact hsame ▸ (ih (hin i p hanswers) (by omega)).head hanswers

/-- **A root with a parent stands in a circle**: its parent has the same
root, and comes to it. -/
theorem exists_circle_of_root (hin : Inside parents) (hanswers : Answers parents i j)
    (hroot : (placeOf parents i).root = i) : ∃ c, IsCircle parents c := by
  have hsame := root_eq_of_connected hin hanswers.lt_length (.rel i j hanswers)
  have hback := reaches_root hin (hin i j hanswers)
  rw [← hsame, hroot] at hback
  obtain ⟨path, hchain, hlast⟩ := List.exists_isChain_cons_of_relationReflTransGen hback
  refine ⟨(i :: (j :: path).dropLast : List Nat),
    mt (Cycle.coe_eq_nil _).1 (List.cons_ne_nil _ _), ?_⟩
  rw [Cycle.chain_coe_cons]
  have hround : (j :: path).dropLast ++ [i] = j :: path := by
    rw [← hlast]
    exact List.dropLast_append_getLast _
  rw [hround]
  exact List.isChain_cons_cons.2 ⟨hanswers, hchain⟩

/-- **Without a parent** a message is its own root. -/
theorem placeOf_of_no_parent (hin : Inside parents) (hi : i < parents.length)
    (hnone : ∀ p, ¬ Answers parents i p) : placeOf parents i = ⟨i, 0⟩ := by
  have hfits := fits_placeOf hin hi
  generalize placeOf parents i = place at hfits ⊢
  cases hfits with
  | root => rfl
  | below _ hanswers _ => exact absurd hanswers (hnone _)

/-- **With a parent**, and where there is no circle, it is never its own
root. -/
theorem placeOf_of_answers (hin : Inside parents) (hcircles : ∀ c, ¬ IsCircle parents c)
    (h : Answers parents i j) :
    placeOf parents i = ⟨(placeOf parents j).root, (placeOf parents j).depth + 1⟩ := by
  have hne : (placeOf parents i).root ≠ i := fun hroot =>
    (exists_circle_of_root hin h hroot).elim hcircles
  have hfits := fits_placeOf hin h.lt_length
  generalize placeOf parents i = place at hfits hne ⊢
  cases hfits with
  | root => exact absurd rfl hne
  | below _ hanswers hparent =>
    obtain rfl := Option.some.inj (hanswers.symm.trans h)
    rw [placeAt_places hin (hin _ _ h), Option.some_inj] at hparent
    rw [hparent]

/-! ## The order of a thread -/

/-- The number that a message is sorted by. -/
def numberOf (messages : List ThreadEntry) (i : Nat) : UInt32 :=
  (messages[i]?.map ThreadEntry.id).getD 0

/-- The order of the messages of a thread: by depth, then by number. -/
def precedes (messages : List ThreadEntry) (i j : Nat) : Bool :=
  (placeOf (Thread.parents messages) i).depth < (placeOf (Thread.parents messages) j).depth ||
    ((placeOf (Thread.parents messages) i).depth == (placeOf (Thread.parents messages) j).depth &&
      numberOf messages i ≤ numberOf messages j)

theorem collect_eq_mergeSort (messages : List ThreadEntry) (focal : Nat) :
    collect messages focal = ((List.range messages.length).filter fun i =>
      (placeOf (Thread.parents messages) i).root ==
        (placeOf (Thread.parents messages) focal).root).mergeSort (precedes messages) := rfl

theorem precedes_iff : precedes messages i j = true ↔
    (placeOf (Thread.parents messages) i).depth < (placeOf (Thread.parents messages) j).depth ∨
      (placeOf (Thread.parents messages) i).depth = (placeOf (Thread.parents messages) j).depth ∧
        numberOf messages i ≤ numberOf messages j := by
  simp [precedes]

/-- **A thread is sorted** by depth and number. -/
theorem pairwise_collect (messages : List ThreadEntry) (focal : Nat) :
    (collect messages focal).Pairwise fun i j => precedes messages i j = true := by
  rw [collect_eq_mergeSort]
  refine List.pairwise_mergeSort (fun i j k hij hjk => ?_) (fun i j => ?_) _
  · rw [precedes_iff] at *
    grind
  · rw [Bool.or_eq_true, precedes_iff, precedes_iff]
    grind

theorem mem_collect_iff_root : i ∈ collect messages focal ↔ i < messages.length ∧
    (placeOf (Thread.parents messages) i).root =
      (placeOf (Thread.parents messages) focal).root := by
  rw [collect_eq_mergeSort, List.mem_mergeSort, List.mem_filter, List.mem_range, beq_iff_eq]

/-- Of two messages of a thread the one less deep comes first. -/
theorem idxOf_lt_of_depth_lt (hi : i ∈ collect messages focal) (hj : j ∈ collect messages focal)
    (hdepth : (placeOf (Thread.parents messages) i).depth <
      (placeOf (Thread.parents messages) j).depth) :
    (collect messages focal).idxOf i < (collect messages focal).idxOf j := by
  by_contra hle
  rcases Nat.eq_or_lt_of_le (Nat.le_of_not_lt hle) with heq | hlt
  · obtain rfl := (List.idxOf_inj hj).1 heq
    exact Nat.lt_irrefl _ hdepth
  · have hprecedes := List.pairwise_iff_getElem.1 (pairwise_collect messages focal) _ _
      (List.idxOf_lt_length_of_mem hj) (List.idxOf_lt_length_of_mem hi) hlt
    rw [List.getElem_idxOf, List.getElem_idxOf, precedes_iff] at hprecedes
    omega

/-- The root of a thread is its own root. -/
theorem placeOf_root (hin : Inside parents) (hi : i < parents.length) :
    placeOf parents (placeOf parents i).root = ⟨(placeOf parents i).root, 0⟩ := by
  have hplace : placeAt (Thread.places parents) i =
      some ⟨(placeOf parents i).root, (placeOf parents i).depth⟩ := placeAt_places hin hi
  have hroot := (ranked_places hin).placeAt_root hplace
  rwa [placeAt_places hin (root_lt_length hin hi), Option.some_inj] at hroot

/-- **The root comes first.** -/
theorem exists_collect_eq_root_cons (hfocal : focal < messages.length) :
    ∃ rest, collect messages focal =
      (placeOf (Thread.parents messages) focal).root :: rest := by
  have hin := inside_parents messages
  have hlength := length_parents messages
  have hself := placeOf_root hin (hlength ▸ hfocal)
  have hmem : (placeOf (Thread.parents messages) focal).root ∈ collect messages focal :=
    mem_collect_iff_root.2 ⟨hlength ▸ root_lt_length hin (hlength ▸ hfocal), by rw [hself]⟩
  have hsorted := pairwise_collect messages focal
  cases hcollect : collect messages focal with
  | nil =>
    rw [hcollect] at hmem
    cases hmem
  | cons first rest =>
    have hfirst : first ∈ collect messages focal := hcollect ▸ List.mem_cons_self
    obtain ⟨hlt, hroot⟩ := mem_collect_iff_root.1 hfirst
    rw [hcollect] at hmem hsorted
    rcases List.mem_cons.1 hmem with heq | hrest
    · exact ⟨rest, by rw [heq]⟩
    · -- What comes before the root is no deeper, so it is its own root as well.
      have hprecedes := precedes_iff.1 ((List.pairwise_cons.1 hsorted).1 _ hrest)
      rw [hself] at hprecedes
      dsimp only at hprecedes
      have hown := (depth_eq_zero_iff hin (hlength ▸ hlt)).1 (by omega)
      exact ⟨rest, by rw [← hroot, hown]⟩

/-- **Every other message comes after its parent.** -/
theorem idxOf_parent_lt (hmem : i ∈ collect messages focal)
    (hne : i ≠ (placeOf (Thread.parents messages) focal).root) :
    ∃ p, Answers (Thread.parents messages) i p ∧
      (collect messages focal).idxOf p < (collect messages focal).idxOf i := by
  have hin := inside_parents messages
  have hlength := length_parents messages
  obtain ⟨hi, hroot⟩ := mem_collect_iff_root.1 hmem
  obtain ⟨p, hanswers, hsame, hdeeper⟩ :=
    exists_parent_of_root_ne hin (hlength ▸ hi) (hroot ▸ hne.symm)
  have hp : p ∈ collect messages focal :=
    mem_collect_iff_root.2 ⟨hlength ▸ hin i p hanswers, hsame.trans hroot⟩
  exact ⟨p, hanswers, idxOf_lt_of_depth_lt hp hmem (by omega)⟩

end MailFormula.Thread

namespace MailFormula

open Thread

/-- **Every message gets its root and its depth**, whatever the parents are,
circles and shared ancestors included. A message at depth 0 is its own root
and no other is; any other has the root of its parent and is one deeper; a
message without a parent is its own root; and in every circle exactly one
message is. So a thread begins with its root, and any other message of it
comes after its parent. -/
theorem roots_and_depths_resolve (parents : List (Option Nat)) (h : Inside parents) :
    (places parents).size = parents.length ∧
    ∃ root depth : Nat → Nat,
      (∀ i < parents.length, (places parents)[i]? = some (some ⟨root i, depth i⟩) ∧
        root i < parents.length) ∧
      (∀ i < parents.length, depth i = 0 ↔ root i = i) ∧
      (∀ i < parents.length, root i ≠ i →
        ∃ p, Answers parents i p ∧ root p = root i ∧ depth i = depth p + 1) ∧
      (∀ i < parents.length, (∀ p, ¬ Answers parents i p) → root i = i) ∧
      (∀ c, IsCircle parents c → ∃! r, r ∈ c ∧ root r = r) ∧
      ∀ messages, parents = Thread.parents messages → ∀ focal < messages.length,
        ∃ rest, collect messages focal = root focal :: rest ∧
          ∀ i ∈ rest, ∃ p, Answers parents i p ∧
            (collect messages focal).idxOf p < (collect messages focal).idxOf i := by
  have hsize := (ranked_places h).size
  refine ⟨hsize, fun i => (placeOf parents i).root, fun i => (placeOf parents i).depth,
    fun i hi => ⟨?_, root_lt_length h hi⟩, fun i hi => depth_eq_zero_iff h hi,
    fun i hi => exists_parent_of_root_ne h hi,
    fun i hi hnone => congrArg Place.root (placeOf_of_no_parent h hi hnone), fun c hc =>
      hc.existsUnique_root h, ?_⟩
  · have hplace := placeAt_places h hi
    rw [placeAt, Array.getD_eq_getD_getElem?, Array.getElem?_eq_getElem (hsize ▸ hi)] at hplace
    rw [Array.getElem?_eq_getElem (hsize ▸ hi)]
    exact congrArg some hplace
  · rintro messages rfl focal hfocal
    obtain ⟨rest, hcollect⟩ := exists_collect_eq_root_cons hfocal
    refine ⟨rest, hcollect, fun i hi => idxOf_parent_lt ?_ ?_⟩
    · exact hcollect ▸ List.mem_cons_of_mem _ hi
    · have hnodup := nodup_collect messages focal
      rw [hcollect] at hnodup
      rintro rfl
      exact (List.nodup_cons.1 hnodup).1 hi

/-- The circle of the tangled messages is cut once, and the thread of the
last answer begins with its root. -/
theorem tangled_roots :
    Inside (parents tangled) ∧ ∃ root depth : Nat → Nat,
      (∀ i < 7, (places (parents tangled))[i]? = some (some ⟨root i, depth i⟩)) ∧
      (∃! r, r ∈ (([0, 1, 2] : List Nat) : Cycle Nat) ∧ root r = r) ∧
      ∃ rest, collect tangled 5 = root 5 :: rest := by
  have hin : Inside (parents tangled) := inside_parents tangled
  obtain ⟨-, root, depth, hplaces, -, -, -, hcircles, hthreads⟩ :=
    roots_and_depths_resolve (parents tangled) hin
  have hcircle : IsCircle (parents tangled) (([0, 1, 2] : List Nat) : Cycle Nat) := by
    refine ⟨by decide, ?_⟩
    rw [parents_tangled, Cycle.chain_coe_cons]
    decide
  obtain ⟨rest, hcollect, -⟩ := hthreads tangled rfl 5 (by decide)
  exact ⟨hin, root, depth, fun i hi => (hplaces i (by rw [length_parents]; exact hi)).1,
    hcircles _ hcircle, rest, hcollect⟩

/-- A message that answers itself is cut from itself only. -/
example : places [some 1, some 0, some 2, some 2, none] =
    #[some ⟨1, 1⟩, some ⟨1, 0⟩, some ⟨2, 0⟩, some ⟨2, 1⟩, some ⟨4, 0⟩] := by
  decide +kernel

end MailFormula
