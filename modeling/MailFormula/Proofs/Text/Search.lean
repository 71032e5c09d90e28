import MailFormula.Text.Search
import Mathlib.Data.List.Basic
/-!
# Search finds the first occurrence

The search moves a window along the text and leaves places out. Here it is
compared with what is searched for: `OccursAt` says that the needle stands
at a place, character by character, and `Finds` that a result is the first
such place from the start on, or none where there is none.

Only the leaving out needs an argument. The last character of a window
belongs to every occurrence that begins a little further on, and stands in
the needle as far from its end as the occurrence begins behind the window;
so there is none before the next window (`not_occursAt_of_lt_shift`).

A search with positions of 64 bits has the same result, if it has one. It
has none where the end of its first window is beyond 64 bits, and behind the
first window there is nothing to go wrong: every later one begins within the
text (`exists_scanWindows64`).
-/

namespace MailFormula.Text

variable {text needle earlier : List Char} {start start' pos i n : Nat} {r : Option Nat} {c : Char}

/-! ## Occurrences -/

/-- **The needle occurs at a place** of the text: its characters are those of
the text from there on. The empty needle occurs everywhere up to the end. -/
def OccursAt (text needle : List Char) (i : Nat) : Prop :=
  i + needle.length ≤ text.length ∧ ∀ k, k < needle.length → text[i + k]? = needle[k]?

theorem occursAt_nil : OccursAt text [] i ↔ i ≤ text.length := by
  simp [OccursAt]

theorem occursAt_singleton : OccursAt text [c] i ↔ text[i]? = some c := by
  constructor
  · rintro ⟨-, hchars⟩
    exact hchars 0 Nat.zero_lt_one
  · intro h
    obtain ⟨hi, -⟩ := List.getElem?_eq_some_iff.1 h
    refine ⟨hi, fun k hk => ?_⟩
    obtain rfl : k = 0 := Nat.lt_one_iff.1 hk
    exact h

/-- In other words, the text goes on with the needle there. -/
theorem occursAt_iff_prefix (hi : i ≤ text.length) :
    OccursAt text needle i ↔ needle <+: text.drop i := by
  rw [List.prefix_iff_getElem?]
  constructor
  · rintro ⟨-, hchars⟩ k hk
    rw [List.getElem?_drop, hchars k hk, List.getElem?_eq_getElem hk]
  · intro hchars
    refine ⟨?_, fun k hk => ?_⟩
    · have hlength := (List.prefix_iff_getElem?.2 hchars).length_le
      rw [List.length_drop] at hlength
      omega
    · rw [← List.getElem?_drop, hchars k hk, List.getElem?_eq_getElem hk]

/-- **The first place from the start on** at which the needle occurs, or none
where it does not occur there. -/
def Finds (text needle : List Char) (start : Nat) : Option Nat → Prop
  | some i => start ≤ i ∧ OccursAt text needle i ∧
      ∀ j, start ≤ j → j < i → ¬ OccursAt text needle j
  | none => ∀ i, start ≤ i → ¬ OccursAt text needle i

/-- There is one such result. -/
theorem Finds.eq {r' : Option Nat} (h : Finds text needle start r)
    (h' : Finds text needle start r') : r = r' := by
  cases r with
  | none =>
    cases r' with
    | none => rfl
    | some i' => exact absurd h'.2.1 (h i' h'.1)
  | some i =>
    cases r' with
    | none => exact absurd h.2.1 (h' i h.1)
    | some i' =>
      have hle : i ≤ i' := Nat.le_of_not_lt fun hlt => h.2.2 i' h'.1 hlt h'.2.1
      have hge : i' ≤ i := Nat.le_of_not_lt fun hlt => h'.2.2 i h.1 hlt h.2.1
      rw [Nat.le_antisymm hle hge]

/-- **Places without an occurrence can be left out.** -/
theorem Finds.of_skip (hstart : start ≤ start')
    (hskip : ∀ j, start ≤ j → j < start' → ¬ OccursAt text needle j)
    (h : Finds text needle start' r) : Finds text needle start r := by
  cases r with
  | none =>
    intro i hi
    rcases Nat.lt_or_ge i start' with hlt | hge
    · exact hskip i hi hlt
    · exact h i hge
  | some i =>
    obtain ⟨hi, hoccurs, hfirst⟩ := h
    refine ⟨by omega, hoccurs, fun j hj hji => ?_⟩
    rcases Nat.lt_or_ge j start' with hlt | hge
    · exact hskip j hj hlt
    · exact hfirst j hge hji

/-! ## What a window leaves out -/

/-- A window moves on by no more than one place past the characters it looks
at. -/
theorem shift_le (earlier : List Char) (c : Char) : shift earlier c ≤ earlier.length + 1 :=
  Nat.succ_le_succ List.idxOf_le_length

/-- And no further than the first of them that is its last character. -/
theorem shift_le_of_getElem? (h : earlier[n]? = some c) : shift earlier c ≤ n + 1 := by
  refine Nat.succ_le_succ (Nat.le_of_not_lt fun hlt => ?_)
  obtain ⟨hn, hc⟩ := List.getElem?_eq_some_iff.1 h
  have hnot : (earlier[n] == c) = false := List.not_of_lt_findIdx hlt
  rw [hc, beq_self_eq_true] at hnot
  cases hnot

/-- The characters of the needle before its last, from the right. -/
theorem getElem?_reverse_dropLast (h : n + 1 < needle.length) :
    needle.dropLast.reverse[n]? = needle[needle.length - 2 - n]? := by
  have hlength : needle.dropLast.length = needle.length - 1 := List.length_dropLast
  have hplace : needle.dropLast.length - 1 - n = needle.length - 2 - n := by omega
  rw [List.getElem?_reverse (by omega), hplace, List.getElem?_dropLast, if_pos (by omega)]

/-- **No occurrence begins within the shift.** -/
theorem not_occursAt_of_lt_shift {k : Nat} (hc : text[pos + (needle.length - 1)]? = some c)
    (hk : 0 < k) (hshift : k < shift needle.dropLast.reverse c) :
    ¬ OccursAt text needle (pos + k) := by
  rintro ⟨-, hchars⟩
  have hlength : needle.dropLast.reverse.length = needle.length - 1 := by simp
  have hbound := shift_le needle.dropLast.reverse c
  -- The last character of the window, seen from an occurrence `k` places on.
  have hlast : needle[needle.length - 1 - k]? = some c := by
    rw [← hchars (needle.length - 1 - k) (by omega), ← hc]
    congr 1
    omega
  have hthere : needle.dropLast.reverse[k - 1]? = some c := by
    rw [getElem?_reverse_dropLast (by omega), ← hlast]
    congr 1
    omega
  have hle := shift_le_of_getElem? hthere
  omega

/-! ## The routes of the search -/

/-- **The window finds the first occurrence.** -/
theorem finds_scanWindows (hneedle : needle ≠ []) (rest : List Char) (pos : Nat)
    (hrest : rest = text.drop pos) :
    Finds text needle pos (scanWindows needle needle.dropLast.reverse rest pos) := by
  have hlength : 0 < needle.length := List.length_pos_iff.2 hneedle
  fun_induction scanWindows needle needle.dropLast.reverse rest pos with
  | case1 rest pos hnone =>
    -- The window reaches over the end of the text.
    rintro i hi ⟨hend, -⟩
    rw [hrest, List.getElem?_drop, List.getElem?_eq_none_iff] at hnone
    omega
  | case2 rest pos c hc hprefix =>
    subst hrest
    rw [List.getElem?_drop] at hc
    obtain ⟨hpos, -⟩ := List.getElem?_eq_some_iff.1 hc
    rw [List.isPrefixOf_iff_prefix, ← occursAt_iff_prefix (by omega)] at hprefix
    exact ⟨Nat.le_refl pos, hprefix, fun j hj hjpos => absurd hjpos (Nat.not_lt.2 hj)⟩
  | case3 rest pos c hc hprefix step ih =>
    subst hrest
    rw [List.getElem?_drop] at hc
    obtain ⟨hpos, -⟩ := List.getElem?_eq_some_iff.1 hc
    rw [List.isPrefixOf_iff_prefix, ← occursAt_iff_prefix (by omega)] at hprefix
    refine Finds.of_skip (Nat.le_add_right pos step) (fun j hj hstep => ?_) (ih List.drop_drop)
    obtain ⟨k, rfl⟩ := Nat.exists_eq_add_of_le hj
    rcases Nat.eq_zero_or_pos k with rfl | hk
    · exact hprefix
    · exact not_occursAt_of_lt_shift hc hk (Nat.lt_of_add_lt_add_left hstep)

/-- **The search finds the first occurrence**, whichever of its three routes
it takes. -/
theorem finds_findChars (text needle : List Char) (start : Nat) :
    Finds text needle start (findChars text needle start) := by
  match needle with
  | [] =>
    rw [findChars]
    split
    · rename_i hstart
      exact ⟨Nat.le_refl start, occursAt_nil.2 hstart,
        fun j hj hjstart => absurd hjstart (Nat.not_lt.2 hj)⟩
    · rename_i hstart
      intro i hi hoccurs
      rw [occursAt_nil] at hoccurs
      omega
  | [c] =>
    rw [findChars]
    split
    · rename_i i hfound
      obtain ⟨hi, hhere, hbefore⟩ := List.findIdx?_eq_some_iff_getElem.1 hfound
      rw [beq_iff_eq] at hhere
      refine ⟨Nat.le_add_left start i, ?_, fun j hj hjbefore hoccurs => ?_⟩
      · rw [occursAt_singleton, Nat.add_comm, ← List.getElem?_drop, List.getElem?_eq_getElem hi,
          hhere]
      · obtain ⟨k, rfl⟩ := Nat.exists_eq_add_of_le hj
        rw [occursAt_singleton, ← List.getElem?_drop] at hoccurs
        obtain ⟨hk, hthere⟩ := List.getElem?_eq_some_iff.1 hoccurs
        exact hbefore k (by omega) (beq_iff_eq.2 hthere)
    · rename_i hnone
      intro i hi hoccurs
      obtain ⟨k, rfl⟩ := Nat.exists_eq_add_of_le hi
      rw [occursAt_singleton, ← List.getElem?_drop] at hoccurs
      have hnot := List.findIdx?_eq_none_iff.1 hnone c (List.mem_of_getElem? hoccurs)
      rw [beq_self_eq_true] at hnot
      cases hnot
  | c :: d :: ds =>
    exact finds_scanWindows (List.cons_ne_nil c (d :: ds)) _ _ rfl

theorem findChars_eq_some_iff : findChars text needle start = some i ↔
    start ≤ i ∧ OccursAt text needle i ∧ ∀ j, start ≤ j → j < i → ¬ OccursAt text needle j := by
  have hfinds := finds_findChars text needle start
  constructor
  · intro h
    rwa [h] at hfinds
  · exact fun h => hfinds.eq h

theorem findChars_eq_none_iff :
    findChars text needle start = none ↔ ∀ i, start ≤ i → ¬ OccursAt text needle i := by
  have hfinds := finds_findChars text needle start
  constructor
  · intro h
    rwa [h] at hfinds
  · exact fun h => hfinds.eq h

/-! ## The start of a text -/

theorem beginsWithChars_iff {fold : Char → Char} {cs ds : List Char} :
    beginsWithChars fold cs ds = true ↔ ds.map fold <+: cs.map fold := by
  fun_induction beginsWithChars fold cs ds with
  | case1 => simp
  | case2 => simp
  | case3 c cs d ds ih =>
    rw [Bool.and_eq_true, beq_iff_eq, ih, List.map_cons, List.map_cons, List.cons_prefix_cons]
    exact and_congr_left fun _ => eq_comm

/-- The first place is the start exactly if the needle occurs there. -/
theorem findChars_zero_iff : findChars text needle 0 = some 0 ↔ needle <+: text := by
  rw [findChars_eq_some_iff, occursAt_iff_prefix (Nat.zero_le _), List.drop_zero]
  exact ⟨fun h => h.2.1, fun h => ⟨Nat.le_refl 0, h, fun j _ hj => absurd hj (Nat.not_lt_zero j)⟩⟩

/-- **A text occurs in another**, both folded character by character. -/
def FoldedAt (text needle : String) (caseSensitive : Bool) (i : Nat) : Prop :=
  OccursAt (text.toList.map (foldFor caseSensitive)) (needle.toList.map (foldFor caseSensitive)) i

/-- **Search is exact.** What is found is the least place at or after the start
at which the characters of the needle, folded one by one, are those of the
text; nothing is found exactly if there is no such place. And a text begins
with another if that is found at its very start. -/
theorem find_eq_first_occurrence (text needle : String) (start : Nat) (caseSensitive : Bool) :
    (∀ i, find text needle start caseSensitive = some i ↔
      start ≤ i ∧ FoldedAt text needle caseSensitive i ∧
        ∀ j, start ≤ j → j < i → ¬ FoldedAt text needle caseSensitive j) ∧
    (find text needle start caseSensitive = none ↔
      ∀ i, start ≤ i → ¬ FoldedAt text needle caseSensitive i) ∧
    (beginsWith text needle caseSensitive = true ↔
      find text needle 0 caseSensitive = some 0) := by
  refine ⟨fun i => findChars_eq_some_iff, findChars_eq_none_iff, ?_⟩
  rw [beginsWith, beginsWithChars_iff, find, findChars_zero_iff]

/-! ## Positions of 64 bits -/

section Bounded

variable {here next : UInt64} {count : Nat} {rest : List Char} {found : Option UInt64}

theorem moveOn_eq_ok_iff : moveOn here count = .ok next ↔ next.toNat = here.toNat + count := by
  rw [moveOn]
  split
  case isTrue hlt =>
    rw [Except.ok.injEq, ← UInt64.toNat_inj, UInt64.toNat_ofNat_of_lt' hlt, eq_comm]
  case isFalse hge =>
    refine iff_of_false nofun fun heq => hge ?_
    rw [← heq]
    exact next.toNat_lt

theorem exists_moveOn_iff :
    (∃ next, moveOn here count = .ok next) ↔ here.toNat + count < UInt64.size := by
  constructor
  · rintro ⟨next, hnext⟩
    rw [← moveOn_eq_ok_iff.1 hnext]
    exact next.toNat_lt
  · exact fun hlt => ⟨_, if_pos hlt⟩

/-- **A result of the window** is the one without a bound. -/
theorem scanWindows_of_scanWindows64 (h : scanWindows64 needle earlier rest here = .ok found) :
    scanWindows needle earlier rest here.toNat = found.map UInt64.toNat := by
  fun_induction scanWindows64 needle earlier rest here with
  | case1 => cases h
  | case2 rest here _ _ hnone =>
    obtain rfl := Except.ok.inj h
    rw [scanWindows, hnone]
    rfl
  | case3 rest here _ _ c hc hprefix =>
    obtain rfl := Except.ok.inj h
    rw [scanWindows, hc]
    exact if_pos hprefix
  | case4 => cases h
  | case5 rest here _ _ c hc hprefix next hnext ih =>
    rw [scanWindows, hc]
    dsimp only
    rw [if_neg hprefix, ← moveOn_eq_ok_iff.1 hnext]
    exact ih h

/-- A window that stands within the rest of the text does not move past its
end. -/
theorem shift_le_length (hneedle : needle ≠ []) (hc : rest[needle.length - 1]? = some c) :
    shift needle.dropLast.reverse c ≤ rest.length := by
  have hlength : 0 < needle.length := List.length_pos_iff.2 hneedle
  have hbound := shift_le needle.dropLast.reverse c
  rw [List.length_reverse, List.length_dropLast] at hbound
  obtain ⟨hinside, -⟩ := List.getElem?_eq_some_iff.1 hc
  omega

/-- **The window comes to a result** if 64 bits hold its first end, and if
they would hold the length of the needle behind the end of the text. -/
theorem exists_scanWindows64 (hneedle : needle ≠ [])
    (hhere : here.toNat + needle.length < UInt64.size)
    (hrest : rest ≠ [] → here.toNat + rest.length + needle.length < UInt64.size) :
    ∃ found, scanWindows64 needle needle.dropLast.reverse rest here = .ok found := by
  fun_induction scanWindows64 needle needle.dropLast.reverse rest here with
  | case1 rest here fault hfault =>
    obtain ⟨next, hnext⟩ := exists_moveOn_iff.2 hhere
    rw [hfault] at hnext
    cases hnext
  | case2 => exact ⟨_, rfl⟩
  | case3 => exact ⟨_, rfl⟩
  | case4 rest here _ _ c hc hprefix fault hfault =>
    have hshift := shift_le_length hneedle hc
    have hbound := hrest (List.ne_nil_of_mem (List.mem_of_getElem? hc))
    have hmove : here.toNat + shift needle.dropLast.reverse c < UInt64.size := by omega
    obtain ⟨next, hnext⟩ := exists_moveOn_iff.2 hmove
    rw [hfault] at hnext
    cases hnext
  | case5 rest here _ _ c hc hprefix next hnext ih =>
    -- The window stays within the text, so both bounds are as before.
    have hshift := shift_le_length hneedle hc
    have hbound := hrest (List.ne_nil_of_mem (List.mem_of_getElem? hc))
    rw [moveOn_eq_ok_iff] at hnext
    refine ih (by omega) fun _ => ?_
    rw [List.length_drop]
    omega

/-- **There is a fault** at once if 64 bits do not hold the first end. -/
theorem scanWindows64_eq_error (earlier rest : List Char)
    (hhere : ¬ here.toNat + needle.length < UInt64.size) :
    scanWindows64 needle earlier rest here = .error ⟨here, needle.length⟩ := by
  rw [scanWindows64, moveOn, if_neg hhere]

/-- A needle of two characters or more is looked for with the window. -/
theorem findChars64_eq_scan (text : List Char) (here : UInt64) (hneedle : ¬ needle.length < 2) :
    findChars64 text needle here =
      if text.length < needle.length then .ok none
      else scanWindows64 needle needle.dropLast.reverse (text.drop here.toNat) here := by
  match needle with
  | [] => exact absurd Nat.zero_lt_two hneedle
  | [_] => exact absurd Nat.one_lt_two hneedle
  | c :: d :: ds => rfl

/-- **A result in 64 bits** is the one without a bound. -/
theorem findChars_of_findChars64 (h : findChars64 text needle here = .ok found) :
    findChars text needle here.toNat = found.map UInt64.toNat := by
  match needle with
  | [] =>
    obtain rfl := Except.ok.inj h
    rw [findChars]
    split
    · rfl
    · rfl
  | [c] =>
    rw [findChars64] at h
    rw [findChars]
    rcases hplace : (text.drop here.toNat).findIdx? (· == c) with _ | i
    · rw [hplace] at h
      obtain rfl := Except.ok.inj h
      rfl
    · rw [hplace] at h
      dsimp only at h ⊢
      rcases hnext : moveOn here i with _ | next
      · rw [hnext] at h
        cases h
      · rw [hnext] at h
        obtain rfl := Except.ok.inj h
        rw [Option.map_some, moveOn_eq_ok_iff.1 hnext, Nat.add_comm]
  | c :: d :: ds =>
    have hlong : ¬ (c :: d :: ds).length < 2 := Nat.not_lt.2 (Nat.le_add_left 2 ds.length)
    rw [findChars64_eq_scan text here hlong] at h
    split at h
    case isTrue hshort =>
      obtain rfl := Except.ok.inj h
      refine findChars_eq_none_iff.2 fun i _ hoccurs => ?_
      have hend := hoccurs.1
      omega
    case isFalse => exact scanWindows_of_scanWindows64 h

/-- A search for no more than one character has a result. -/
theorem exists_findChars64_of_short (hneedle : needle.length < 2)
    (hsize : text.length < UInt64.size) : ∃ found, findChars64 text needle here = .ok found := by
  match needle with
  | [] => exact ⟨_, rfl⟩
  | [c] =>
    rw [findChars64]
    split
    case h_1 i hi =>
      -- The character stands in the text, which is not that long.
      obtain ⟨hinside, -⟩ := List.findIdx?_eq_some_iff_getElem.1 hi
      rw [List.length_drop] at hinside
      have hplace : here.toNat + i < UInt64.size := by omega
      obtain ⟨next, hnext⟩ := exists_moveOn_iff.2 hplace
      rw [hnext]
      exact ⟨some next, rfl⟩
    case h_2 => exact ⟨none, rfl⟩
  | c :: d :: ds => exact absurd hneedle (Nat.not_lt.2 (Nat.le_add_left 2 ds.length))

/-- **There is a result** of a search for no more than one character, of one
in a text that is shorter than the needle, and of any other one exactly if
64 bits hold the end of its first window. -/
theorem exists_findChars64_iff (hsize : text.length + needle.length < UInt64.size) :
    (∃ found, findChars64 text needle here = .ok found) ↔
      needle.length < 2 ∨ text.length < needle.length ∨
        here.toNat + needle.length < UInt64.size := by
  by_cases hneedle : needle.length < 2
  · have hresult : ∃ found, findChars64 text needle here = .ok found :=
      exists_findChars64_of_short hneedle (Nat.lt_of_le_of_lt (Nat.le_add_right _ _) hsize)
    exact iff_of_true hresult (.inl hneedle)
  rw [or_iff_right hneedle, findChars64_eq_scan text here hneedle]
  split
  case isTrue hshort => exact iff_of_true ⟨none, rfl⟩ (.inl hshort)
  case isFalse hfits =>
    rw [or_iff_right hfits]
    by_cases hhere : here.toNat + needle.length < UInt64.size
    · have hnonempty : needle ≠ [] := fun hnil => hneedle (hnil ▸ Nat.zero_lt_two)
      refine iff_of_true (exists_scanWindows64 hnonempty hhere fun hrest => ?_) hhere
      have hinside := List.length_pos_iff.2 hrest
      rw [List.length_drop] at hinside ⊢
      omega
    · rw [scanWindows64_eq_error _ _ hhere]
      exact iff_of_false nofun hhere

end Bounded

/-- **A result of a search in 64 bits** is that of the search without a
bound. -/
theorem find_of_find64 {text needle : String} {start : UInt64} {caseSensitive : Bool}
    {found : Option UInt64} (h : find64 text needle start caseSensitive = .ok found) :
    find text needle start.toNat caseSensitive = found.map UInt64.toNat :=
  findChars_of_findChars64 h

/-- **There is a result** except where the end of the first window is out of
reach. -/
theorem exists_find64_iff {text needle : String} {start : UInt64} {caseSensitive : Bool}
    (hsize : text.length + needle.length < UInt64.size) :
    (∃ found, find64 text needle start caseSensitive = .ok found) ↔
      needle.length < 2 ∨ text.length < needle.length ∨
        start.toNat + needle.length < UInt64.size := by
  have hlength : ∀ s : String, (s.toList.map (foldFor caseSensitive)).length = s.length :=
    fun s => by rw [List.length_map, String.length_toList]
  rw [← hlength text, ← hlength needle] at hsize ⊢
  exact exists_findChars64_iff hsize

/-- **Search is exact as far as 64 bits reach.**

What a search finds is the least place at or after the start at which the
characters of the needle, folded one by one, are those of the text; it finds
nothing exactly if there is no such place. So it is what the search without
a bound finds.

Take a text and a needle that are not as long together as 64 bits count.
There is a result if the needle has one character or none, or is longer than
the text; otherwise there is one exactly if 64 bits hold the start and as
many characters more as the needle has. And a text begins with another
exactly if that is found at its very start. -/
theorem find64_eq_first_occurrence (text needle : String) (start : UInt64)
    (caseSensitive : Bool) :
    (∀ found, find64 text needle start caseSensitive = .ok found →
      find text needle start.toNat caseSensitive = found.map UInt64.toNat ∧
      (∀ i, found = some i ↔
        start.toNat ≤ i.toNat ∧ FoldedAt text needle caseSensitive i.toNat ∧
          ∀ j, start.toNat ≤ j → j < i.toNat → ¬ FoldedAt text needle caseSensitive j) ∧
      (found = none ↔ ∀ i, start.toNat ≤ i → ¬ FoldedAt text needle caseSensitive i)) ∧
    (text.length + needle.length < UInt64.size →
      ((∃ found, find64 text needle start caseSensitive = .ok found) ↔
        needle.length < 2 ∨ text.length < needle.length ∨
          start.toNat + needle.length < UInt64.size) ∧
      (beginsWith text needle caseSensitive = true ↔
        find64 text needle 0 caseSensitive = .ok (some 0))) := by
  obtain ⟨hsome, hnone, -⟩ := find_eq_first_occurrence text needle start.toNat caseSensitive
  have hinjective : Function.Injective UInt64.toNat := fun _ _ => UInt64.toNat_inj.1
  refine ⟨fun found hfound => ?_, fun hsize => ⟨exists_find64_iff hsize, ?_⟩⟩
  · rw [find_of_find64 hfound] at hsome hnone
    refine ⟨find_of_find64 hfound, fun i => ?_, ?_⟩
    · rw [← hsome, ← Option.map_some, (Option.map_injective hinjective).eq_iff]
    · rw [← hnone, Option.map_eq_none_iff]
  · have hreach : (0 : UInt64).toNat + needle.length < UInt64.size := by
      rw [UInt64.toNat_zero, Nat.zero_add]
      exact Nat.lt_of_le_of_lt (Nat.le_add_left _ _) hsize
    obtain ⟨found, hfound⟩ : ∃ found, find64 text needle 0 caseSensitive = .ok found :=
      (exists_find64_iff hsize).2 (.inr (.inr hreach))
    rw [(find_eq_first_occurrence text needle 0 caseSensitive).2.2, ← UInt64.toNat_zero,
      find_of_find64 hfound, hfound, Except.ok.injEq, ← Option.map_some,
      (Option.map_injective hinjective).eq_iff]

/-- A needle whose first two windows fail, and that begins again inside the
second of them, is found in other letters where it stands first; and a start
behind the text is no fault. -/
theorem overlapping_needle_found :
    "aababaabab".length + "ABAAB".length < UInt64.size ∧
      find64 "aababaabab" "ABAAB" 0 false = .ok (some 3) ∧
      (∀ j < 3, ¬ FoldedAt "aababaabab" "ABAAB" false j) ∧
      ∃ found, find64 "aababaabab" "ABAAB" 18446744073709551610 false = .ok found := by
  have hsize : "aababaabab".length + "ABAAB".length < UInt64.size := by decide
  have hfound : find64 "aababaabab" "ABAAB" 0 false = .ok (some 3) := by decide +kernel
  have hfirst := (find64_eq_first_occurrence "aababaabab" "ABAAB" 0 false).1 _ hfound
  have hresult := find64_eq_first_occurrence "aababaabab" "ABAAB" 18446744073709551610 false
  exact ⟨hsize, hfound, fun j hj => ((hfirst.2.1 3).1 rfl).2.2 j (Nat.zero_le j) hj,
    (hresult.2 hsize).1.2 (.inr (.inr (by decide)))⟩

/-- From the last position of 64 bits on there is nothing to find, but the
search ends with a fault. -/
theorem last_position_overflows :
    find64 "ba" "ab" 18446744073709551615 true = .error ⟨18446744073709551615, 2⟩ ∧
      ∀ i, (18446744073709551615 : UInt64).toNat ≤ i → ¬ FoldedAt "ba" "ab" true i := by
  refine ⟨by decide +kernel, fun i hi hoccurs => ?_⟩
  have hend : i + 2 ≤ 2 := hoccurs.1
  have hlast : (18446744073709551615 : UInt64).toNat = 18446744073709551615 := by decide
  omega

end MailFormula.Text
