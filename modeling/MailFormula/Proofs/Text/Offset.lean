import MailFormula.Formula.Parser
import MailFormula.Text.Search
/-!
# Byte offsets and character positions

A place in a text is counted in characters or in bytes. The offset of a
position is the number of bytes before it, so the two counts are inverse
to each other: on the positions of a text, the end included
(`charIndex_byteOffset`), and on the boundaries between its characters
(`byteOffset_charIndex`). A position behind the end has the offset of the
end.
-/

namespace MailFormula.Text

variable {text : String} {before after : List Char} {pos i o o' : Nat}

/-! ## The bytes of characters -/

theorem byteLength_append (cs ds : List Char) :
    byteLength (cs ++ ds) = byteLength cs + byteLength ds := by
  induction cs with
  | nil => exact (Nat.zero_add _).symm
  | cons c cs ih =>
    have hcons : ∀ cs, byteLength (c :: cs) = c.utf8Size + byteLength cs := fun _ => rfl
    rw [List.cons_append, hcons, hcons, ih, Nat.add_assoc]

theorem byteLength_pos {cs : List Char} (h : cs ≠ []) : 0 < byteLength cs := by
  obtain ⟨c, cs, rfl⟩ := List.exists_cons_of_ne_nil h
  exact Nat.lt_of_lt_of_le c.utf8Size_pos (Nat.le_add_right _ _)

theorem utf8ByteSize_ofList (cs : List Char) :
    (String.ofList cs).utf8ByteSize = byteLength cs := by
  induction cs with
  | nil => rfl
  | cons c cs ih =>
    rw [String.ofList_cons, String.utf8ByteSize_append, String.utf8ByteSize_singleton, ih]
    rfl

/-- The bytes of a text are those of its characters. -/
theorem byteLength_toList (s : String) : byteLength s.toList = s.utf8ByteSize := by
  rw [← utf8ByteSize_ofList, String.ofList_toList]

/-! ## From positions to offsets and back -/

/-- The offset of a position counts the bytes before it. -/
theorem byteOffsetFrom_append (before after : List Char) :
    byteOffsetFrom (before ++ after) before.length = byteLength before := by
  induction before with
  | nil => cases after with
    | nil => rfl
    | cons c cs => rfl
  | cons c cs ih =>
    rw [List.cons_append, List.length_cons, byteOffsetFrom, ih]
    rfl

theorem byteOffsetFrom_of_length_le {cs : List Char} (h : cs.length ≤ i) :
    byteOffsetFrom cs i = byteLength cs := by
  induction cs generalizing i with
  | nil => rfl
  | cons c cs ih =>
    rw [List.length_cons] at h
    obtain ⟨k, rfl⟩ : ∃ k, i = k + 1 := ⟨i - 1, by omega⟩
    rw [byteOffsetFrom, ih (Nat.le_of_succ_le_succ h)]
    rfl

/-- Before a boundary there are as many characters as start before it. -/
theorem charIndexFrom_append (before after : List Char) (pos : Nat) :
    charIndexFrom pos (before ++ after) (pos + byteLength before) = before.length := by
  induction before generalizing pos with
  | nil => cases after with
    | nil => rfl
    | cons c cs => exact if_neg (Nat.lt_irrefl pos)
  | cons c cs ih =>
    have hbytes : pos + byteLength (c :: cs) = pos + c.utf8Size + byteLength cs :=
      (Nat.add_assoc ..).symm
    have hlt : pos < pos + byteLength (c :: cs) :=
      Nat.lt_add_of_pos_right (byteLength_pos (List.cons_ne_nil c cs))
    rw [List.cons_append, charIndexFrom, if_pos hlt, hbytes, ih, List.length_cons]

theorem charIndexFrom_mono {cs : List Char} (h : o ≤ o') :
    charIndexFrom pos cs o ≤ charIndexFrom pos cs o' := by
  induction cs generalizing pos with
  | nil => exact Nat.le_refl 0
  | cons c cs ih =>
    rw [charIndexFrom, charIndexFrom]
    split
    · rename_i hlt
      rw [if_pos (Nat.lt_of_lt_of_le hlt h)]
      exact Nat.succ_le_succ ih
    · exact Nat.zero_le _

/-- A later offset has no earlier position. -/
theorem charIndex_mono (text : String) (h : o ≤ o') : charIndex text o ≤ charIndex text o' :=
  charIndexFrom_mono h

/-- **Of a text in two pieces**, the length of the first is the position
and the offset of the cut. -/
theorem byteOffset_append (before after : String) :
    byteOffset (before ++ after) before.length = before.utf8ByteSize := by
  rw [byteOffset, String.toList_append, ← String.length_toList, byteOffsetFrom_append,
    byteLength_toList]

theorem charIndex_append (before after : String) :
    charIndex (before ++ after) before.utf8ByteSize = before.length := by
  have h := charIndexFrom_append before.toList after.toList 0
  rwa [Nat.zero_add, byteLength_toList, String.length_toList, ← String.toList_append] at h

/-- A text can be cut at each of its positions. -/
theorem exists_append_of_le_length (h : i ≤ text.length) :
    ∃ before after : String, text = before ++ after ∧ before.length = i := by
  refine ⟨String.ofList (text.toList.take i), String.ofList (text.toList.drop i), ?_, ?_⟩
  · rw [← String.ofList_append, List.take_append_drop, String.ofList_toList]
  · rw [String.length_ofList, List.length_take, String.length_toList]
    exact Nat.min_eq_left h

/-- **The offset of a position leads back to it.** -/
theorem charIndex_byteOffset (h : i ≤ text.length) : charIndex text (byteOffset text i) = i := by
  obtain ⟨before, after, rfl, rfl⟩ := exists_append_of_le_length h
  rw [byteOffset_append, charIndex_append]

/-- **The position of a boundary leads back to it.** -/
theorem byteOffset_charIndex (h : String.Pos.Raw.IsValid text ⟨o⟩) :
    byteOffset text (charIndex text o) = o := by
  obtain ⟨before, after, rfl, hoffset⟩ := String.Pos.Raw.isValid_iff_exists_append.1 h
  obtain rfl : o = before.utf8ByteSize := congrArg String.Pos.Raw.byteIdx hoffset
  rw [charIndex_append, byteOffset_append]

theorem byteOffset_of_length_le (h : text.length ≤ i) :
    byteOffset text i = text.utf8ByteSize := by
  rw [byteOffset, byteOffsetFrom_of_length_le (by rwa [String.length_toList]), byteLength_toList]

/-- Behind the end there is only the end. -/
theorem byteOffset_min (text : String) (i : Nat) :
    byteOffset text (min i text.length) = byteOffset text i := by
  rcases Nat.le_total i text.length with h | h
  · rw [Nat.min_eq_left h]
  · rw [Nat.min_eq_right h, byteOffset_of_length_le h, byteOffset_of_length_le (Nat.le_refl _)]

/-- The offset of a position is the length of what lies before it. -/
theorem byteOffset_eq_byteLength (hi : i ≤ text.length) :
    byteOffset text i = byteLength (text.toList.take i) := by
  have hlength : (text.toList.take i).length = i := by
    rw [List.length_take, String.length_toList, Nat.min_eq_left hi]
  have happend := byteOffsetFrom_append (text.toList.take i) (text.toList.drop i)
  rwa [List.take_append_drop, hlength] at happend

theorem byteOffset_zero (text : String) : byteOffset text 0 = 0 :=
  byteOffset_eq_byteLength (Nat.zero_le _)

/-- One character further on is so many bytes further on as it has. -/
theorem byteOffset_succ {c : Char} (hc : text.toList[i]? = some c) :
    byteOffset text (i + 1) = byteOffset text i + c.utf8Size := by
  obtain ⟨hi, -⟩ := List.getElem?_eq_some_iff.1 hc
  rw [String.length_toList] at hi
  rw [byteOffset_eq_byteLength hi, byteOffset_eq_byteLength (Nat.le_of_lt hi), List.take_add_one,
    hc, byteLength_append]
  rfl

/-- No position is behind the end. -/
theorem byteOffset_le_utf8ByteSize (hi : i ≤ text.length) :
    byteOffset text i ≤ text.utf8ByteSize := by
  obtain ⟨before, after, rfl, rfl⟩ := exists_append_of_le_length hi
  rw [byteOffset_append, String.utf8ByteSize_append]
  exact Nat.le_add_right _ _

theorem charIndex_le_length (h : String.Pos.Raw.IsValid text ⟨o⟩) :
    charIndex text o ≤ text.length := by
  obtain ⟨before, after, rfl, hoffset⟩ := String.Pos.Raw.isValid_iff_exists_append.1 h
  obtain rfl : o = before.utf8ByteSize := congrArg String.Pos.Raw.byteIdx hoffset
  rw [charIndex_append, String.length_append]
  exact Nat.le_add_right _ _

end MailFormula.Text
