import MailFormula.Mail.HashIndex
/-!
# The index finds every position of a hash

`positions` halves its way to two bounds and reads what lies between them.
The slots are sorted, so each bound parts the slots that come before it from
the others (`before_iff_lt_bound`), and what lies between the two are the
slots of the hash (`mem_between`). So the positions of a hash are exactly
those it was given at, in order and none of them twice.
-/

namespace MailFormula.HashIndex

variable {slots : Array HashSlot} {before : HashSlot → Bool} {index : HashIndex}
variable {hashes : List UInt32} {hash : UInt32} {slot : HashSlot} {i j : Nat}

/-! ## Bounds -/

/-- With a slot that comes before, so do all the slots in front of it. -/
def Downward (slots : Array HashSlot) (before : HashSlot → Bool) : Prop :=
  ∀ i j (_hij : i ≤ j) (hj : j < slots.size), before slots[j] = true → before slots[i] = true

/-- **A bound parts the slots.** Halving keeps what is known of the slots on
either side. -/
theorem before_iff_lt_bound (hdown : Downward slots before) (lo hi : Nat) (hle : lo ≤ hi)
    (hsize : hi ≤ slots.size)
    (hbelow : ∀ i (hi : i < slots.size), i < lo → before slots[i] = true)
    (habove : ∀ i (hi' : i < slots.size), hi ≤ i → ¬ before slots[i] = true)
    (i : Nat) (hi' : i < slots.size) :
    before slots[i] = true ↔ i < bound slots before lo hi := by
  fun_induction bound slots before lo hi with
  | case1 lo hi hlt hnone =>
    rw [Array.getElem?_eq_none_iff] at hnone
    omega
  | case2 lo hi hlt slot hslot hbefore ih =>
    -- The middle comes before, and so do all slots in front of it.
    obtain ⟨hmid, rfl⟩ := Array.getElem?_eq_some_iff.1 hslot
    refine ih (by omega) hsize (fun i hi hik => ?_) habove
    exact hdown i _ (Nat.le_of_lt_succ hik) hmid hbefore
  | case3 lo hi hlt slot hslot hbefore ih =>
    -- It does not, and so does none behind it.
    obtain ⟨hmid, rfl⟩ := Array.getElem?_eq_some_iff.1 hslot
    refine ih (by omega) (by omega) hbelow fun i hi hik h => ?_
    exact hbefore (hdown _ i hik hi h)
  | case4 lo hi hlt =>
    exact ⟨fun h => Nat.lt_of_not_le fun hlo => habove i hi' (by omega) h, hbelow i hi'⟩

/-- The same of all slots. -/
theorem before_iff_lt (hdown : Downward slots before) (hi : i < slots.size) :
    before slots[i] = true ↔ i < bound slots before 0 slots.size :=
  before_iff_lt_bound hdown 0 slots.size (Nat.zero_le _) (Nat.le_refl _)
    (fun _ _ h => absurd h (Nat.not_lt_zero _)) (fun _ hi h => absurd hi (Nat.not_lt.2 h)) i hi

theorem hash_le (index : HashIndex) (hij : i ≤ j) (hj : j < index.slots.size) :
    index.slots[i].hash ≤ index.slots[j].hash := by
  rcases Nat.eq_or_lt_of_le hij with rfl | hlt
  · exact UInt32.le_refl _
  · have hbefore := List.pairwise_iff_getElem.1 index.sorted i j (by simpa using by omega)
      (by simpa using hj) hlt
    rcases hbefore with h | ⟨h, -⟩
    · exact UInt32.le_of_lt h
    · exact UInt32.le_of_eq h

theorem downward_lt (index : HashIndex) (hash : UInt32) :
    Downward index.slots (·.hash < hash) := by
  intro i j hij hj h
  simp only [decide_eq_true_eq] at h ⊢
  exact UInt32.lt_of_le_of_lt (index.hash_le hij hj) h

theorem downward_le (index : HashIndex) (hash : UInt32) :
    Downward index.slots (·.hash ≤ hash) := by
  intro i j hij hj h
  simp only [decide_eq_true_eq] at h ⊢
  exact UInt32.le_trans (index.hash_le hij hj) h

/-! ## Between the bounds -/

/-- The slots between the two bounds of a hash. -/
def between (index : HashIndex) (hash : UInt32) : Array HashSlot :=
  index.slots.extract (bound index.slots (·.hash < hash) 0 index.slots.size)
    (bound index.slots (·.hash ≤ hash) 0 index.slots.size)

theorem positions_eq_map_between :
    index.positions hash = (index.between hash).toList.map HashSlot.position := rfl

/-- A slot stands between the bounds of its own hash. -/
theorem hash_eq_iff (hi : i < index.slots.size) :
    index.slots[i].hash = hash ↔ bound index.slots (·.hash < hash) 0 index.slots.size ≤ i ∧
      i < bound index.slots (·.hash ≤ hash) 0 index.slots.size := by
  have hstart := before_iff_lt (index.downward_lt hash) hi
  have hstop := before_iff_lt (index.downward_le hash) hi
  rw [decide_eq_true_eq] at hstart hstop
  rw [← Nat.not_lt, ← hstart, ← hstop, UInt32.not_lt]
  exact ⟨fun h => ⟨UInt32.le_of_eq h.symm, UInt32.le_of_eq h⟩, fun h => UInt32.le_antisymm h.2 h.1⟩

/-- **What lies between the bounds** are the slots of the hash. -/
theorem mem_between :
    slot ∈ index.between hash ↔ slot ∈ index.slots ∧ slot.hash = hash := by
  rw [between, Array.mem_extract_iff_getElem, Array.mem_iff_getElem]
  constructor
  · rintro ⟨k, hk, rfl⟩
    exact ⟨⟨_, by omega, rfl⟩, (hash_eq_iff (by omega)).2 ⟨Nat.le_add_right _ k, by omega⟩⟩
  · rintro ⟨⟨i, hi, rfl⟩, hhash⟩
    obtain ⟨hstart, hstop⟩ := (hash_eq_iff hi).1 hhash
    obtain ⟨k, rfl⟩ := Nat.exists_eq_add_of_le hstart
    exact ⟨k, by omega, rfl⟩

/-! ## Positions -/

/-- **The positions of a hash are those of its slots.** -/
theorem mem_positions : i ∈ index.positions hash ↔ ⟨hash, i⟩ ∈ index.slots := by
  rw [positions_eq_map_between, List.mem_map]
  constructor
  · rintro ⟨slot, hslot, rfl⟩
    obtain ⟨hmem, rfl⟩ := mem_between.1 (Array.mem_toList_iff.1 hslot)
    exact hmem
  · intro hmem
    exact ⟨⟨hash, i⟩, Array.mem_toList_iff.2 (mem_between.2 ⟨hmem, rfl⟩), rfl⟩

/-- **They are in order**, none of them twice. -/
theorem sorted_positions (index : HashIndex) (hash : UInt32) :
    (index.positions hash).Pairwise (· < ·) := by
  have hsorted : (index.between hash).toList.Pairwise HashSlot.Before := by
    refine index.sorted.sublist ?_
    rw [between, Array.toList_extract, List.extract_eq_take_drop]
    exact (List.take_sublist _ _).trans (List.drop_sublist _ _)
  rw [positions_eq_map_between, List.pairwise_map]
  refine hsorted.imp_of_mem fun ha hb hab => ?_
  have hhash := (mem_between.1 (Array.mem_toList_iff.1 ha)).2.trans
    (mem_between.1 (Array.mem_toList_iff.1 hb)).2.symm
  rcases hab with hlt | ⟨-, hlt⟩
  · exact absurd hhash (UInt32.ne_of_lt hlt)
  · exact hlt

/-- **The index of a list of hashes** finds the positions that a hash was
given at; it knows none of the hash 0. -/
theorem mem_positions_ofHashes :
    i ∈ (ofHashes hashes).positions hash ↔ hash ≠ 0 ∧ hashes[i]? = some hash := by
  rw [mem_positions, ofHashes, List.mem_toArray, List.mem_mergeSort, slotsOf, List.mem_filter,
    bne_iff_ne, and_comm, and_congr_right_iff]
  intro _
  rw [List.mem_map]
  constructor
  · rintro ⟨⟨hash', k⟩, hmem, hslot⟩
    cases hslot
    exact List.mk_mem_zipIdx_iff_getElem?.1 hmem
  · intro h
    exact ⟨(hash, i), List.mk_mem_zipIdx_iff_getElem?.2 h, rfl⟩

end MailFormula.HashIndex
