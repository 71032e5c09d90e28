import MailFormula.Proofs.Text.Offset
import MailFormula.Proofs.Text.Lines
/-!
# Cutting a text by bytes

A scanner that goes by byte offsets cuts pieces out of a text, and where
the offsets are wrong there is nothing to cut: the end may come before the
start or lie behind the text, and either may fall inside a character.
Here that is a fault (`slice`), and so is closing what is not open
(`closeOne`), since these are the two things that a scanner that counts
wrong runs into. An extent cuts exactly if it fits the text
(`Extent.Fits`), and it fits if it holds a piece of it (`Extent.Holds`).
`CutsOut` says the same of extents in a row: they are apart and in order,
and all of their pieces are cut out.
-/

namespace MailFormula.Text

/-- **What can go wrong** with offsets and counters. -/
inductive CutFault where
  /-- No piece of the text lies between two such offsets. -/
  | slice (start stop : Nat)
  /-- Something is closed while nothing is open. -/
  | underflow
deriving DecidableEq, Repr

/-- Where there is no fault, the next step takes the result. -/
theorem ok_bind {α β : Type} (a : α) (f : α → Except CutFault β) : (.ok a >>= f) = f a := rfl

/-- Closes one of those that are open. -/
def closeOne (depth : Nat) : Except CutFault Nat :=
  if depth = 0 then .error .underflow else .ok (depth - 1)

theorem closeOne_succ (depth : Nat) : closeOne (depth + 1) = .ok depth := rfl

/-- **An extent of bytes**, from one offset up to another. -/
structure Extent where
  start : Nat
  stop : Nat
deriving DecidableEq, Repr

namespace Extent

/-- **An extent fits a text**: it does not run backwards or past the end,
and begins and ends between two characters. -/
structure Fits (r : Extent) (text : String) : Prop where
  ordered : r.start ≤ r.stop
  within : r.stop ≤ text.utf8ByteSize
  start_valid : String.Pos.Raw.IsValid text ⟨r.start⟩
  stop_valid : String.Pos.Raw.IsValid text ⟨r.stop⟩

instance (r : Extent) (text : String) : Decidable (r.Fits text) :=
  decidable_of_iff (r.start ≤ r.stop ∧ r.stop ≤ text.utf8ByteSize ∧
      String.Pos.Raw.IsValid text ⟨r.start⟩ ∧ String.Pos.Raw.IsValid text ⟨r.stop⟩)
    ⟨fun h => ⟨h.1, h.2.1, h.2.2.1, h.2.2.2⟩, fun h => ⟨h.1, h.2, h.3, h.4⟩⟩

/-- **One extent is before another**, and there is something in between. -/
def Before (r s : Extent) : Prop := r.stop < s.start

/-- **An extent holds a piece of a text**: so many bytes are before the
piece, and so many up to its end. -/
def Holds (r : Extent) (cs piece : List Char) : Prop :=
  ∃ before after, cs = before ++ (piece ++ after) ∧
    r.start = byteLength before ∧ r.stop = byteLength before + byteLength piece

end Extent

/-- The piece of a text in an extent of bytes, if the extent fits. -/
def slice (text : String) (r : Extent) : Except CutFault String :=
  if h : r.Fits text then
    .ok (String.extract (text.pos ⟨r.start⟩ h.start_valid) (text.pos ⟨r.stop⟩ h.stop_valid))
  else .error (.slice r.start r.stop)

/-- An offset inside a character. -/
example : slice "é" ⟨0, 1⟩ = .error (.slice 0 1) := by decide +kernel

variable {text : String} {cs piece : List Char} {r : Extent} {rs : List Extent}
  {pieces : List (List Char)} {o o' : Nat}

/-! ## One extent -/

/-- What an extent says of the text before the piece that it holds. -/
theorem Extent.Holds.exists_append (h : r.Holds text.toList piece) :
    ∃ before after, text = before ++ String.ofList piece ++ after ∧
      r.start = before.utf8ByteSize ∧
      r.stop = before.utf8ByteSize + (String.ofList piece).utf8ByteSize := by
  obtain ⟨before, after, htext, hstart, hstop⟩ := h
  refine ⟨String.ofList before, String.ofList after, ?_, ?_, ?_⟩
  · rw [← String.ofList_append, ← String.ofList_append, List.append_assoc, ← htext,
      String.ofList_toList]
  · rw [hstart, utf8ByteSize_ofList]
  · rw [hstop, utf8ByteSize_ofList, utf8ByteSize_ofList]

/-- **An extent that holds a piece fits.** -/
theorem Extent.Holds.fits (h : r.Holds text.toList piece) : r.Fits text := by
  obtain ⟨before, after, htext, hstart, hstop⟩ := h.exists_append
  have hsize : text.utf8ByteSize = before.utf8ByteSize + (String.ofList piece).utf8ByteSize +
      after.utf8ByteSize := by
    rw [htext, String.utf8ByteSize_append, String.utf8ByteSize_append]
  refine ⟨by omega, by omega, ?_, ?_⟩
  · rw [hstart, String.Pos.Raw.isValid_iff_exists_append]
    exact ⟨before, String.ofList piece ++ after, by rw [htext, String.append_assoc], rfl⟩
  · rw [hstop, ← String.utf8ByteSize_append, String.Pos.Raw.isValid_iff_exists_append]
    exact ⟨before ++ String.ofList piece, after, htext, rfl⟩

/-- The bytes in the middle of a text. -/
theorem toByteArray_extract_append (before middle after : String) :
    (before ++ middle ++ after).toByteArray.extract before.utf8ByteSize
      (before.utf8ByteSize + middle.utf8ByteSize) = middle.toByteArray := by
  have hfirst : (middle ++ after).toByteArray.extract 0 middle.toByteArray.size =
      middle.toByteArray := by
    rw [String.toByteArray_append]
    exact ByteArray.extract_append_eq_left rfl
  have hbehind := ByteArray.extract_append_size_add (a := before.toByteArray)
    (b := (middle ++ after).toByteArray) (i := 0) (j := middle.toByteArray.size)
  rwa [hfirst, Nat.add_zero, ← String.toByteArray_append, ← String.append_assoc,
    String.size_toByteArray, String.size_toByteArray] at hbehind

/-- **And that piece is cut out.** -/
theorem Extent.Holds.slice_eq (h : r.Holds text.toList piece) :
    slice text r = .ok (String.ofList piece) := by
  obtain ⟨before, after, htext, hstart, hstop⟩ := h.exists_append
  rw [slice, dif_pos h.fits, Except.ok.injEq, ← String.toByteArray_inj,
    String.toByteArray_extract]
  change text.toByteArray.extract r.start r.stop = (String.ofList piece).toByteArray
  rw [hstart, hstop, htext]
  exact toByteArray_extract_append before (String.ofList piece) after

/-! ## Extents in a row -/

/-- **Extents that cut a text** from an offset on, one behind the other,
and the pieces that they hold. -/
inductive CutsOut (cs : List Char) : Nat → List Extent → List (List Char) → Prop
  /-- There is no extent any more. -/
  | done {o : Nat} : CutsOut cs o [] []
  /-- An extent, and further ones behind it with something in between. -/
  | next {o : Nat} {r : Extent} {piece : List Char} {rs : List Extent}
      {pieces : List (List Char)} :
      o ≤ r.start → r.Holds cs piece → CutsOut cs (r.stop + 1) rs pieces →
      CutsOut cs o (r :: rs) (piece :: pieces)

namespace CutsOut

theorem mono (h : CutsOut cs o rs pieces) (ho : o' ≤ o) : CutsOut cs o' rs pieces := by
  cases h with
  | done => exact done
  | next hstart hr hrs => exact next (Nat.le_trans ho hstart) hr hrs

theorem fits (h : CutsOut text.toList o rs pieces) : ∀ r ∈ rs, r.Fits text := by
  induction h with
  | done => exact nofun
  | next _ hr _ ih => exact List.forall_mem_cons.2 ⟨hr.fits, ih⟩

/-- No extent starts before the offset. -/
theorem le_start (h : CutsOut cs o rs pieces) : ∀ r ∈ rs, o ≤ r.start := by
  induction h with
  | done => exact nofun
  | @next o r piece rs pieces hstart hr _ ih =>
    obtain ⟨before, after, -, hrstart, hrstop⟩ := hr
    refine List.forall_mem_cons.2 ⟨hstart, fun s hs => ?_⟩
    have hbehind := ih s hs
    omega

/-- **The extents are apart and in order.** -/
theorem pairwise (h : CutsOut cs o rs pieces) : rs.Pairwise Extent.Before := by
  induction h with
  | done => exact .nil
  | next _ _ hrs ih => exact List.pairwise_cons.2 ⟨hrs.le_start, ih⟩

/-- **All the pieces are cut out**, without a fault. -/
theorem mapM_slice (h : CutsOut text.toList o rs pieces) :
    rs.mapM (slice text) = .ok (pieces.map String.ofList) := by
  induction h with
  | done => rfl
  | next _ hr _ ih =>
    rw [List.mapM_cons, hr.slice_eq, ok_bind, ih, ok_bind, List.map_cons]
    rfl

end CutsOut

end MailFormula.Text
