import MailFormula.Mail.Part
import MailFormula.Proofs.Text.Slice
/-!
# Where the parts of a multipart lie

The parts of a multipart can be told by bytes: a part starts behind a line
of the boundary and ends before the line feed that stands before the next
one. The offsets come from the lengths of the lines alone
(`partExtents`), so nothing in them says that one byte back from a line
is still within the part, or between two characters. Both hold because
every line but the last is ended: at a line of the boundary, what has
been gathered since the start of the part is nothing, or it ends with a
line feed (`EndsLine.of_append`). So the extents fit, are apart, and hold
the parts (`cutsOut_partExtents`).
-/

namespace MailFormula

open MailFormula.Text

namespace Part

/-! ## Extents -/

/-- The extent of the part that is finished where a boundary line comes. It
ends one byte before the line, but not before it has started. -/
def finishExtent (start : Option Nat) (offset : Nat) : List Extent :=
  match start with
  | none => []
  | some first => [⟨first, max (offset - 1) first⟩]

/-- The extents of the parts in the lines to come, the first of which
stands at `offset`; the part that is being gathered has begun at `start`.
A part that the text ends before its boundary counts if it is not empty. -/
def cutExtents (boundary : List Char) (size : Nat) :
    Option Nat → Nat → List (List Char) → List Extent
  | none, _, [] => []
  | some first, _, [] => if first < size then [⟨first, size⟩] else []
  | start, offset, line :: lines =>
    let next := offset + byteLength line
    match lineKind boundary line with
    | .closing => finishExtent start offset
    | .delimiter => finishExtent start offset ++ cutExtents boundary size (some next) next lines
    | .content => cutExtents boundary size start next lines

/-- **The extents of the parts in a body.** -/
def partExtents (body boundary : String) : List Extent :=
  cutExtents boundary.toList body.utf8ByteSize none 0 (inclusiveLines body.toList)

/-- **The texts of the parts in a body**, cut out by bytes. -/
def cutParts (body boundary : String) : Except CutFault (List String) :=
  (partExtents body boundary).mapM (slice body)

/-! ## What has been gathered -/

/-- **The part that is being gathered** is what has been read since the
offset at which it started. -/
inductive Gathers : List Char → Option Nat → Option (List Char) → Prop
  /-- No part has begun. -/
  | nothing (passed : List Char) : Gathers passed none none
  /-- A part has begun behind so much of what has been read. -/
  | since (before cs : List Char) :
      Gathers (before ++ cs) (some (byteLength before)) (some cs)

variable {boundary text passed line cs rest : List Char} {start : Option Nat}
  {gathered : Option (List Char)} {rs : List Extent} {pieces lines : List (List Char)} {o : Nat}

/-- A line is gathered. -/
theorem Gathers.append (h : Gathers passed start gathered) (line : List Char) :
    Gathers (passed ++ line) start (gathered.map (· ++ line)) := by
  cases h with
  | nothing => exact .nothing _
  | since before cs =>
    rw [List.append_assoc]
    exact .since before (cs ++ line)

/-- A part begins behind what has been read. -/
theorem gathers_start (passed : List Char) :
    Gathers passed (some (byteLength passed)) (some []) := by
  have h := Gathers.since passed []
  rwa [List.append_nil] at h

/-- **A part that ends its last line** lies between its start and the byte
before the line that follows. -/
theorem holds_finish (before rest : List Char) (h : EndsLine cs) :
    Extent.Holds ⟨byteLength before, max (byteLength (before ++ cs) - 1) (byteLength before)⟩
      (before ++ cs ++ rest) cs.dropLast := by
  rcases h with rfl | ⟨line, rfl⟩
  · refine ⟨before, rest, ?_, rfl, ?_⟩
    · rw [List.append_nil, List.dropLast_nil, List.nil_append]
    · rw [List.append_nil, List.dropLast_nil]
      exact Nat.max_eq_right (Nat.sub_le _ _)
  · have hfeed : byteLength ['\n'] = 1 := rfl
    refine ⟨before, '\n' :: rest, ?_, rfl, ?_⟩
    · rw [List.dropLast_concat, List.append_assoc, List.append_assoc, List.singleton_append]
    · rw [List.dropLast_concat, byteLength_append, byteLength_append, hfeed]
      dsimp only
      omega

/-- **Where a boundary line comes**, the part that it finishes is cut out,
and the further ones behind the line are. -/
theorem cutsOut_finish (h : Gathers passed start gathered) (hends : EndsLine passed)
    (htext : passed ++ rest = text) (ho : byteLength passed < o)
    (hfurther : CutsOut text o rs pieces) :
    CutsOut text (start.getD (byteLength passed)) (finishExtent start (byteLength passed) ++ rs)
      (finishSegment gathered ++ pieces) := by
  cases h with
  | nothing => exact hfurther.mono (Nat.le_of_lt ho)
  | since before cs =>
    have hstart : byteLength before ≤ byteLength (before ++ cs) := by
      rw [byteLength_append]
      exact Nat.le_add_right _ _
    have hstop : max (byteLength (before ++ cs) - 1) (byteLength before) < o := by omega
    have hpart := holds_finish before rest hends.of_append
    rw [htext] at hpart
    exact .next (Nat.le_refl _) hpart (hfurther.mono hstop)

/-- A part that the text ends is cut out if it is not empty. -/
theorem cutsOut_last (before cs : List Char) :
    CutsOut (before ++ cs) (byteLength before)
      (if byteLength before < byteLength (before ++ cs) then
        [⟨byteLength before, byteLength (before ++ cs)⟩] else [])
      (if cs.isEmpty then [] else [cs]) := by
  cases cs with
  | nil =>
    rw [List.append_nil, if_neg (Nat.lt_irrefl _)]
    exact .done
  | cons c cs =>
    have hpos := byteLength_pos (List.cons_ne_nil c cs)
    rw [if_pos (by rw [byteLength_append]; omega)]
    refine .next (Nat.le_refl _) ⟨before, [], ?_, rfl, byteLength_append ..⟩ .done
    rw [List.append_nil]

/-! ## Cutting -/

/-- A line with a meaning to the multipart is not empty. -/
theorem byteLength_pos_of_lineKind {kind : LineKind} (h : lineKind boundary line = kind)
    (hkind : kind ≠ .content) : 0 < byteLength line := by
  apply byteLength_pos
  rintro rfl
  exact hkind h.symm

/-- **The extents cut out the parts**, whatever has been read of the text
and has been gathered of it. -/
theorem cutsOut_cutExtents (boundary : List Char)
    (hlines : lines.IsChain fun line _ => ∃ line', line = line' ++ ['\n'])
    (h : Gathers passed start gathered) (hends : ∀ line ∈ lines.head?, EndsLine passed)
    (htext : passed ++ lines.flatten = text) :
    CutsOut text (start.getD (byteLength passed))
      (cutExtents boundary (byteLength text) start (byteLength passed) lines)
      (cutLines boundary gathered lines) := by
  induction lines generalizing passed start gathered with
  | nil =>
    rw [List.flatten_nil, List.append_nil] at htext
    subst htext
    cases h with
    | nothing => exact .done
    | since before cs => exact cutsOut_last before cs
  | cons line lines ih =>
    rw [List.isChain_cons] at hlines
    have hpassed : EndsLine passed := hends line rfl
    -- The line ends what has been read, unless it is the last.
    have hended : ∀ line' ∈ lines.head?, EndsLine (passed ++ line) := by
      intro line' hline'
      obtain ⟨cs, rfl⟩ := hlines.1 line' hline'
      exact .inr ⟨passed ++ cs, (List.append_assoc ..).symm⟩
    have hnext : byteLength (passed ++ line) = byteLength passed + byteLength line :=
      byteLength_append passed line
    have hfurther : passed ++ line ++ lines.flatten = text := by
      rw [← htext, List.flatten_cons, List.append_assoc]
    cases hkind : lineKind boundary line with
    | closing =>
      have hpos := byteLength_pos_of_lineKind hkind (by decide)
      have hfinished := cutsOut_finish h hpassed htext (Nat.lt_add_of_pos_right hpos) .done
      rw [cutExtents, cutLines, hkind]
      rwa [List.append_nil, List.append_nil] at hfinished
    | delimiter =>
      have hpos := byteLength_pos_of_lineKind hkind (by decide)
      have hbehind := ih hlines.2 (gathers_start (passed ++ line)) hended hfurther
      rw [hnext] at hbehind
      rw [cutExtents, cutLines, hkind]
      exact cutsOut_finish h hpassed htext (Nat.lt_add_of_pos_right hpos) hbehind
    | content =>
      have hbehind := ih hlines.2 (h.append line) hended hfurther
      rw [hnext] at hbehind
      rw [cutExtents, cutLines, hkind]
      refine hbehind.mono ?_
      cases start with
      | none => exact Nat.le_add_right _ _
      | some first => exact Nat.le_refl _

/-- **The extents of the parts in a body** cut out the parts. -/
theorem cutsOut_partExtents (body boundary : String) :
    CutsOut body.toList 0 (partExtents body boundary)
      (splitMultipart body.toList boundary.toList) := by
  have hcut := cutsOut_cutExtents boundary.toList (isChain_inclusiveLines body.toList)
    (.nothing []) (fun _ _ => .inl rfl) (flatten_inclusiveLines body.toList)
  rwa [byteLength_toList] at hcut

/-- A part between lines of the boundary, one that has no line, and one that
the text ends. -/
example : partExtents "é\n--ß\n日本\n--ß\n--ß\nend" "ß" = [⟨8, 14⟩, ⟨20, 20⟩, ⟨25, 28⟩] := by
  decide +kernel

end Part

end MailFormula
