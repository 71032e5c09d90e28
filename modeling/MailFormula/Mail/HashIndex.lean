/-!
# The index of hashes

Messages are looked up by the hash of their id. The index lists the hashes with the positions they
were given at, sorted by hash and then by position, so the positions of one hash stand next to
each other, in order. They lie between two bounds, and each bound is found by halving.

The hash 0 means that there is no id; the index leaves it out.
-/

namespace MailFormula

/-- A hash and the position it was given at. -/
structure HashSlot where
  hash : UInt32
  position : Nat
deriving DecidableEq, Repr

namespace HashSlot

/-- The order of the index: by hash, then by position. -/
def le (a b : HashSlot) : Bool :=
  a.hash < b.hash || (a.hash == b.hash && a.position ≤ b.position)

/-- One slot stands before another. -/
def Before (a b : HashSlot) : Prop :=
  a.hash < b.hash ∨ a.hash = b.hash ∧ a.position < b.position

theorem le_iff {a b : HashSlot} :
    a.le b = true ↔ a.hash < b.hash ∨ a.hash = b.hash ∧ a.position ≤ b.position := by
  simp [le]

theorem le_trans (a b c : HashSlot) (hab : a.le b = true) (hbc : b.le c = true) :
    a.le c = true := by
  rw [le_iff] at *
  grind

theorem le_total (a b : HashSlot) : (a.le b || b.le a) = true := by
  rw [Bool.or_eq_true, le_iff, le_iff]
  grind

/-- Slots of different positions never tie. -/
theorem before_of_le {a b : HashSlot} (h : a.le b = true) (hne : a.position ≠ b.position) :
    a.Before b := by
  rw [le_iff] at h
  exact h.imp_right fun ⟨hhash, hle⟩ => ⟨hhash, Nat.lt_of_le_of_ne hle hne⟩

end HashSlot

/-- Hashes with their positions, sorted. -/
structure HashIndex where
  slots : Array HashSlot
  sorted : slots.toList.Pairwise HashSlot.Before

namespace HashIndex

/-- The hashes other than 0 with their positions, in the order of the positions. -/
def slotsOf (hashes : List UInt32) : List HashSlot :=
  (hashes.zipIdx.map fun (hash, i) => ⟨hash, i⟩).filter (·.hash != 0)

/-- No two of them have the same position. -/
theorem positions_slotsOf (hashes : List UInt32) :
    (slotsOf hashes).Pairwise fun a b => a.position ≠ b.position := by
  refine List.Pairwise.filter _ (List.pairwise_map.2 ?_)
  have hsnd : (hashes.zipIdx.map Prod.snd).Nodup := by
    rw [List.zipIdx_map_snd]
    exact List.nodup_range'
  exact List.pairwise_map.1 hsnd

theorem sorted_slotsOf (hashes : List UInt32) :
    ((slotsOf hashes).mergeSort HashSlot.le).Pairwise HashSlot.Before := by
  have hne := (List.mergeSort_perm (slotsOf hashes) HashSlot.le).symm.pairwise
    (positions_slotsOf hashes) (fun h => h.symm)
  have hle := List.pairwise_mergeSort HashSlot.le_trans HashSlot.le_total (slotsOf hashes)
  exact hle.imp₂ (fun _ _ => HashSlot.before_of_le) hne

/-- The index of a list of hashes. -/
def ofHashes (hashes : List UInt32) : HashIndex where
  slots := ((slotsOf hashes).mergeSort HashSlot.le).toArray
  sorted := sorted_slotsOf hashes

/-- The bound between the slots that come before and those that do not, among the slots from `lo`
up to, not including, `hi`. -/
def bound (slots : Array HashSlot) (before : HashSlot → Bool) (lo hi : Nat) : Nat :=
  if lo < hi then
    match slots[(lo + hi) / 2]? with
    | none => lo
    | some slot =>
      if before slot then bound slots before ((lo + hi) / 2 + 1) hi
      else bound slots before lo ((lo + hi) / 2)
  else lo
termination_by hi - lo

/-- The positions of a hash, in order. -/
def positions (index : HashIndex) (hash : UInt32) : List Nat :=
  let start := bound index.slots (·.hash < hash) 0 index.slots.size
  let stop := bound index.slots (·.hash ≤ hash) 0 index.slots.size
  (index.slots.extract start stop).toList.map HashSlot.position

end HashIndex

end MailFormula
