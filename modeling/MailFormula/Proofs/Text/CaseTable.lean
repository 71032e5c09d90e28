import MailFormula.Text.Case
/-!
# What the lower case leaves alone

The lower-case mapping is a table of runs. What is proved about it here is
read off the runs one by one: a code point that no run covers is its own
lower case, and if no run leads to it either, it is the lower case of
nothing else (`lowerSimple_eq_iff`). U+0307, the dot of a dotted i, and the
final sigma are such, so full and simple lower case can be told apart by
what they make of two capitals.
-/

namespace MailFormula.Text

variable {table : Array MapRun} {r : MapRun} {c d : Char} {n k lo hi : Nat}

/-! ## The runs as characters -/

/-- Reads a table of runs that is given as lines of characters. -/
def readLines (lines : List (List Char)) : List MapRun :=
  lines.flatMap fun line => ((line.splitOn ' ').filter (!·.isEmpty)).map readRun

theorem readRuns_eq_readLines (lines : List String) :
    readRuns lines = readLines (lines.map String.toList) := by
  rw [readRuns, readLines, List.flatMap_map]

theorem map_toList_cons {line : String} {lines : List String} {cs : List Char}
    {css : List (List Char)} (hline : line = String.ofList cs)
    (hlines : lines.map String.toList = css) :
    (line :: lines).map String.toList = cs :: css := by
  rw [List.map_cons, hline, hlines, String.toList_ofList]

/-- **A run spares a code point**: it neither covers the code point nor leads
to it. -/
def MapRun.Spares (r : MapRun) (n : Nat) : Prop :=
  (n < r.lo ∨ r.hi < n) ∧ ((n : Int) - r.delta < r.lo ∨ r.hi < (n : Int) - r.delta)

instance (r : MapRun) (n : Nat) : Decidable (r.Spares n) := inferInstanceAs (Decidable (_ ∧ _))

theorem readLines_of_map_eq {P : List MapRun → Prop} {lines : List String}
    {css : List (List Char)} (hlines : lines.map String.toList = css) (h : P (readLines css)) :
    P (readRuns lines) := by
  rwa [readRuns_eq_readLines, hlines]

/-- What is read off the table: no run touches the dot or the final sigma, and
the capital sigma has the small one. -/
theorem runs_of_lowerRuns :
    (∀ r ∈ readRuns lowerRuns, r.Spares 0x307 ∧ r.Spares 0x3C2) ∧
      searchRuns (readRuns lowerRuns).toArray 0x3A3 0 (readRuns lowerRuns).toArray.size =
        some 0x3C3 := by
  apply readLines_of_map_eq
    (P := fun runs => (∀ r ∈ runs, r.Spares 0x307 ∧ r.Spares 0x3C2) ∧
      searchRuns runs.toArray 0x3A3 0 runs.toArray.size = some 0x3C3)
  · -- The lines as characters, which the kernel would take long to find.
    unfold lowerRuns
    repeat' apply map_toList_cons
    all_goals rfl
  · decide +kernel

/-! ## Searching the runs -/

/-- What is found is the image under a run of the table. -/
theorem exists_run_of_searchRuns (h : searchRuns table n lo hi = some k) :
    ∃ r ∈ table, r.image? n = some k := by
  fun_induction searchRuns table n lo hi with
  | case1 lo hi hlt hnone => cases h
  | case2 lo hi hlt r hr hlo ih => exact ih h
  | case3 lo hi hlt r hr hlo hhi ih => exact ih h
  | case4 lo hi hlt r hr hlo hhi => exact ⟨r, Array.mem_of_getElem? hr, h⟩
  | case5 lo hi hge => cases h

/-- A run that spares a code point is no run of it. -/
theorem MapRun.Spares.image?_eq_none (h : r.Spares n) : r.image? n = none := by
  rw [image?, if_neg]
  obtain ⟨hcovers, -⟩ := h
  simp only [Bool.and_eq_true, decide_eq_true_eq]
  omega

/-- And it leads there from nowhere. -/
theorem MapRun.Spares.image?_ne (h : r.Spares k) (hk : 0 < k) : r.image? n ≠ some k := by
  intro himage
  rw [image?] at himage
  split at himage
  · rename_i hcovers
    simp only [Bool.and_eq_true, decide_eq_true_eq] at hcovers
    have hk' := Option.some.inj himage
    obtain ⟨-, hleads⟩ := h
    omega
  · cases himage

theorem toNat_eq_of_ofNat_eq (h : Char.ofNat n = d) (hd : 0 < d.toNat) : n = d.toNat := by
  subst h
  by_cases hvalid : n.isValidChar
  · rw [Char.ofNat, dif_pos hvalid]
    rfl
  · rw [Char.ofNat, dif_neg hvalid] at hd
    cases hd

/-- ASCII stays ASCII. -/
theorem toNat_toLower_lt (hc : c.toNat < 128) : c.toLower.toNat < 128 := by
  have hall : ∀ n < 128, (Char.ofNat n).toLower.toNat < 128 := by decide
  have h := hall c.toNat hc
  rwa [Char.ofNat_toNat] at h

/-- **A code point beyond ASCII that every run spares** is the lower case of
itself, and of nothing else. -/
theorem lowerSimple_eq_iff (hd : 128 ≤ d.toNat)
    (hspared : ∀ r ∈ readRuns lowerRuns, r.Spares d.toNat) : lowerSimple c = d ↔ c = d := by
  rw [lowerSimple]
  split
  · rename_i hc
    have hlower := toNat_toLower_lt hc
    constructor
    · rintro rfl
      omega
    · rintro rfl
      omega
  · split
    · rename_i n hfound
      obtain ⟨r, hr, himage⟩ := exists_run_of_searchRuns hfound
      have hr' := hspared r (List.mem_toArray.1 hr)
      constructor
      · intro h
        rw [toNat_eq_of_ofNat_eq h (by omega)] at himage
        exact absurd himage (hr'.image?_ne (by omega))
      · rintro rfl
        rw [hr'.image?_eq_none] at himage
        cases himage
    · exact Iff.rfl

/-! ## The dot and the sigmas -/

/-- The dot above of a dotted i. -/
def dotAbove : Char := Char.ofNat 0x307

/-- The capital i with a dot, whose lower case is an i and the dot. -/
def dottedI : Char := Char.ofNat 0x130

/-- The capital sigma, whose lower case depends on its neighbours. -/
def capitalSigma : Char := Char.ofNat 0x3A3

/-- The lower case of a sigma at the end of a word. -/
def finalSigma : Char := Char.ofNat 0x3C2

theorem lowerSimple_eq_dotAbove : lowerSimple c = dotAbove ↔ c = dotAbove :=
  lowerSimple_eq_iff (by decide) fun r hr => (runs_of_lowerRuns.1 r hr).1

theorem lowerSimple_eq_finalSigma : lowerSimple c = finalSigma ↔ c = finalSigma :=
  lowerSimple_eq_iff (by decide) fun r hr => (runs_of_lowerRuns.1 r hr).2

theorem lowerSimple_capitalSigma : lowerSimple capitalSigma = Char.ofNat 0x3C3 := by
  have hfound : searchRuns lowerTable 0x3A3 0 lowerTable.size = some 0x3C3 := runs_of_lowerRuns.2
  have hcode : capitalSigma.toNat = 0x3A3 := rfl
  rw [lowerSimple, hcode, if_neg (by decide), hfound]

end MailFormula.Text
