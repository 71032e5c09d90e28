import MailFormula.Proofs.Mail.DisplayName
import MailFormula.Proofs.Mail.Extent
/-!
# Malformed mail is cut within bounds

Comments and angle brackets are found from their marks: a comment runs
from the first opening parenthesis to the one that closes it, an address
from the first opening bracket to the last closing one. A mark is one byte
long, and that is all that keeps the offset behind an opening mark between
two characters (`holds_between`). The nesting of a comment cannot be
closed once too often, since the scan begins at an opening parenthesis
and stops where none is open any more (`closingOffset_succ`). The brackets
may come in either order, and are compared before anything is cut
(`angleOffsets_cases`).

`malformed_mail_stays_in_bounds` puts together what this says of any text,
with the extents of the parts of a multipart.
-/

namespace MailFormula

open MailFormula.Text

namespace Address

variable {mark : Char} {cs before inside inner after : List Char} {text : String}

/-! ## Marks -/

/-- The offset of the first occurrence of a mark. -/
def firstOffset (mark : Char) : List Char → Option Nat
  | [] => none
  | c :: cs => if c == mark then some 0 else (firstOffset mark cs).map (c.utf8Size + ·)

/-- The offset of the last occurrence of a mark. -/
def lastOffset (mark : Char) : List Char → Option Nat
  | [] => none
  | c :: cs =>
    match lastOffset mark cs with
    | some offset => some (c.utf8Size + offset)
    | none => if c == mark then some 0 else none

theorem firstOffset_of_not_mem (h : mark ∉ cs) : firstOffset mark cs = none := by
  induction cs with
  | nil => rfl
  | cons c cs ih =>
    rw [List.mem_cons, not_or] at h
    rw [firstOffset, if_neg (by simpa using Ne.symm h.1), ih h.2, Option.map_none]

theorem lastOffset_of_not_mem (h : mark ∉ cs) : lastOffset mark cs = none := by
  induction cs with
  | nil => rfl
  | cons c cs ih =>
    rw [List.mem_cons, not_or] at h
    rw [lastOffset, ih h.2]
    exact if_neg (by simpa using Ne.symm h.1)

/-- **The first mark** has as many bytes before it as its offset says. -/
theorem firstOffset_append (h : mark ∉ before) :
    firstOffset mark (before ++ mark :: after) = some (byteLength before) := by
  induction before with
  | nil => exact if_pos (beq_self_eq_true mark)
  | cons c before ih =>
    rw [List.mem_cons, not_or] at h
    rw [List.cons_append, firstOffset, if_neg (by simpa using Ne.symm h.1), ih h.2]
    rfl

/-- **So has the last.** -/
theorem lastOffset_append (h : mark ∉ after) :
    lastOffset mark (before ++ mark :: after) = some (byteLength before) := by
  induction before with
  | nil =>
    rw [List.nil_append, lastOffset, lastOffset_of_not_mem h]
    exact if_pos (beq_self_eq_true mark)
  | cons c before ih =>
    rw [List.cons_append, lastOffset, ih]
    rfl

/-- **What stands behind a mark of one byte** is held from one byte behind
its offset on. -/
theorem holds_between (mark : Char) (hmark : mark.utf8Size = 1)
    (before inside after : List Char) :
    Extent.Holds ⟨byteLength before + 1, byteLength before + 1 + byteLength inside⟩
      (before ++ mark :: (inside ++ after)) inside := by
  have hbefore : byteLength (before ++ [mark]) = byteLength before + 1 := by
    rw [byteLength_append]
    exact congrArg (byteLength before + ·) hmark
  refine ⟨before ++ [mark], after, ?_, hbefore.symm, ?_⟩
  · rw [List.append_assoc, List.singleton_append]
  · rw [hbefore]

/-! ## Comments -/

/-- The offset of the parenthesis behind which none is open any more. The
characters to come start at `offset`, and `depth` parentheses are open. -/
def closingOffset (depth offset : Nat) : List Char → Except CutFault (Option Nat)
  | [] => .ok none
  | c :: cs =>
    let next := offset + c.utf8Size
    if c == '(' then closingOffset (depth + 1) next cs
    else if c == ')' then do
      let depth ← closeOne depth
      if depth = 0 then return some offset else closingOffset depth next cs
    else closingOffset depth next cs

/-- **The extent of the first comment** between its parentheses, if it is
closed. -/
def commentExtent (text : String) : Except CutFault (Option Extent) :=
  match firstOffset '(' text.toList with
  | none => .ok none
  | some first => do
    let comment ← slice text ⟨first, text.utf8ByteSize⟩
    let last ← closingOffset 0 0 comment.toList
    return last.map fun offset => ⟨first + 1, first + offset⟩

/-- **The text of the first comment**, cut out by bytes. -/
def cutComment (text : String) : Except CutFault (Option (List Char)) := do
  match ← commentExtent text with
  | none => return none
  | some extent => return some (trimChars (← slice text extent).toList)

/-- **With a parenthesis open** the scan never closes one that is not, and
it stops where the comment does. -/
theorem closingOffset_succ (depth offset : Nat) (cs : List Char) :
    closingOffset (depth + 1) offset cs =
      .ok ((closeComment depth cs).map fun inside => offset + byteLength inside) := by
  have hmap : ∀ (offset : Nat) (c : Char) (found : Option (List Char)),
      (found.map (c :: ·)).map (fun inside => offset + byteLength inside) =
        found.map fun inside => offset + c.utf8Size + byteLength inside := by
    intro offset c found
    rw [Option.map_map]
    exact Option.map_congr fun inside _ => (Nat.add_assoc ..).symm
  -- The scan has one parenthesis more open than the reader counts, so its
  -- counter is never zero where one is closed.
  fun_induction closeComment depth cs generalizing offset with
  | case1 => rfl
  | case2 depth cs ih =>
    rw [closingOffset, if_pos (by decide), ih, hmap]
  | case3 cs =>
    rw [closingOffset, if_neg (by decide), if_pos (by decide)]
    rfl
  | case4 depth cs ih =>
    rw [closingOffset, if_neg (by decide), if_pos (by decide), hmap, ← ih]
    rfl
  | case5 depth c cs hopen hzero hsucc ih =>
    have hclose : c ≠ ')' := by
      intro hc
      cases depth with
      | zero => exact hzero rfl hc
      | succ depth => exact hsucc depth rfl hc
    rw [closingOffset, if_neg (by simpa using hopen), if_neg (by simpa using hclose), ih, hmap]

/-- The text of a comment stands before a closing parenthesis. -/
theorem exists_of_closeComment {depth : Nat} (h : closeComment depth cs = some inside) :
    ∃ after, cs = inside ++ ')' :: after := by
  fun_induction closeComment depth cs generalizing inside with
  | case1 => cases h
  | case3 cs =>
    obtain rfl := Option.some.inj h
    exact ⟨cs, rfl⟩
  | case2 depth cs ih | case4 depth cs ih =>
    obtain ⟨inside, hinside, rfl⟩ := Option.map_eq_some_iff.1 h
    obtain ⟨after, rfl⟩ := ih hinside
    exact ⟨after, rfl⟩
  | case5 depth c cs _ _ _ ih =>
    obtain ⟨inside, hinside, rfl⟩ := Option.map_eq_some_iff.1 h
    obtain ⟨after, rfl⟩ := ih hinside
    exact ⟨after, rfl⟩

theorem firstComment_append (h : '(' ∉ before) (rest : List Char) :
    firstComment (before ++ '(' :: rest) = (closeComment 0 rest).map trimChars := by
  rw [firstComment, dropWhile_ne_append h]

/-- The extent begins behind the first parenthesis, and ends where the
scan does that begins there. -/
theorem commentExtent_append {rest : List Char} (h : '(' ∉ before)
    (htext : text.toList = before ++ '(' :: rest) :
    commentExtent text = .ok ((closeComment 0 rest).map fun inside =>
      ⟨byteLength before + 1, byteLength before + (1 + byteLength inside)⟩) := by
  have hwhole : Extent.Holds ⟨byteLength before, text.utf8ByteSize⟩ text.toList ('(' :: rest) := by
    refine ⟨before, [], ?_, rfl, ?_⟩
    · rw [htext, List.append_nil]
    · rw [← byteLength_toList, htext, byteLength_append]
  have hscan : closingOffset 0 0 ('(' :: rest) =
      .ok ((closeComment 0 rest).map fun inside => 1 + byteLength inside) :=
    closingOffset_succ 0 1 rest
  rw [commentExtent, htext, firstOffset_append h]
  dsimp only
  rw [hwhole.slice_eq, ok_bind, String.toList_ofList, hscan, ok_bind, Option.map_map]
  rfl

/-- **The extent of the first comment holds it**, and there is one if the
comment is closed. -/
theorem commentExtent_cases (text : String) :
    (commentExtent text = .ok none ∧ firstComment text.toList = none) ∨
      ∃ extent inside, commentExtent text = .ok (some extent) ∧
        extent.Holds text.toList inside ∧
        firstComment text.toList = some (trimChars inside) := by
  by_cases hopen : '(' ∈ text.toList
  · obtain ⟨before, rest, htext, hbefore⟩ := List.eq_append_cons_of_mem hopen
    have hextent := commentExtent_append hbefore htext
    have hcomment := firstComment_append hbefore rest
    rw [← htext] at hcomment
    cases hclose : closeComment 0 rest with
    | none =>
      rw [hclose] at hextent hcomment
      exact .inl ⟨hextent, hcomment⟩
    | some inside =>
      rw [hclose] at hextent hcomment
      obtain ⟨after, rfl⟩ := exists_of_closeComment hclose
      have hholds := holds_between '(' rfl before inside (')' :: after)
      rw [← htext, Nat.add_assoc] at hholds
      exact .inr ⟨_, inside, hextent, hholds, hcomment⟩
  · refine .inl ⟨?_, ?_⟩
    · rw [commentExtent, firstOffset_of_not_mem hopen]
    · rw [firstComment, List.dropWhile_eq_nil_iff.2 (all_ne_of_not_mem hopen)]

/-- **A comment is cut out without a fault**, and it is the first one. -/
theorem cutComment_eq (text : String) : cutComment text = .ok (firstComment text.toList) := by
  rcases commentExtent_cases text with ⟨hextent, hcomment⟩ |
    ⟨extent, inside, hextent, hholds, hcomment⟩
  · rw [cutComment, hextent, hcomment]
    rfl
  · rw [cutComment, hextent, hcomment, ok_bind]
    dsimp only
    rw [hholds.slice_eq, ok_bind, String.toList_ofList]
    rfl

/-- The text without its comments, with every parenthesis that is closed
taken off the count of the open ones. -/
def takeOutComments (depth : Nat) (quoted : Bool) : List Char → Except CutFault (List Char)
  | [] => .ok []
  | c :: cs =>
    if c == '"' && depth == 0 then do
      return c :: (← takeOutComments depth (!quoted) cs)
    else if c == '(' && !quoted then takeOutComments (depth + 1) quoted cs
    else if c == ')' && !quoted && 0 < depth then do
      takeOutComments (← closeOne depth) quoted cs
    else if depth == 0 then do
      return c :: (← takeOutComments depth quoted cs)
    else takeOutComments depth quoted cs

theorem takeOutComments_eq (depth : Nat) (quoted : Bool) (cs : List Char) :
    takeOutComments depth quoted cs = .ok (dropCommentsFrom depth quoted cs) := by
  fun_induction dropCommentsFrom depth quoted cs with
  | case1 => rfl
  | case2 depth quoted c cs hquote ih =>
    rw [takeOutComments, if_pos hquote, ih, ok_bind]
    rfl
  | case3 depth quoted c cs hquote hopen ih =>
    rw [takeOutComments, if_neg hquote, if_pos hopen, ih]
  | case4 depth quoted c cs hquote hopen hclose ih =>
    have hdepth : 0 < depth := of_decide_eq_true (Bool.and_eq_true_iff.1 hclose).2
    obtain ⟨outer, rfl⟩ := Nat.exists_eq_succ_of_ne_zero (Nat.ne_of_gt hdepth)
    rw [takeOutComments, if_neg hquote, if_neg hopen, if_pos hclose, closeOne_succ, ok_bind]
    exact ih
  | case5 depth quoted c cs hquote hopen hclose houtside ih =>
    rw [takeOutComments, if_neg hquote, if_neg hopen, if_neg hclose, if_pos houtside, ih, ok_bind]
    rfl
  | case6 depth quoted c cs hquote hopen hclose hinside ih =>
    rw [takeOutComments, if_neg hquote, if_neg hopen, if_neg hclose, if_neg hinside, ih]

/-! ## Angle brackets -/

/-- **The offsets of the first opening and the last closing bracket**, if
they come in this order. -/
def angleOffsets (cs : List Char) : Option (Nat × Nat) :=
  match firstOffset '<' cs, lastOffset '>' cs with
  | some first, some last => if first < last then some (first, last) else none
  | _, _ => none

theorem splitAngle_of_not_mem (h : '<' ∉ cs) : splitAngle cs = none := by
  rw [splitAngle, List.dropWhile_eq_nil_iff.2 (all_ne_of_not_mem h)]

/-- Without a closing bracket behind the opening one there is no address
between brackets. -/
theorem splitAngle_of_not_mem_after (hbefore : '<' ∉ before) (hafter : '>' ∉ after) :
    splitAngle (before ++ '<' :: after) = none := by
  have hback : ∀ c ∈ after.reverse, (c != '>') = true :=
    all_ne_of_not_mem (by rwa [List.mem_reverse])
  unfold splitAngle
  rw [dropWhile_ne_append hbefore]
  dsimp only
  rw [List.dropWhile_eq_nil_iff.2 hback]

/-- The last closing bracket stands before the opening one, if none stands
behind it. -/
theorem lastOffset_lt_of_not_mem_after {last : Nat} (hafter : '>' ∉ after)
    (h : lastOffset '>' (before ++ '<' :: after) = some last) : last < byteLength before := by
  have hbehind : '>' ∉ '<' :: after := by
    rw [List.mem_cons, not_or]
    exact ⟨by decide, hafter⟩
  by_cases hclose : '>' ∈ before
  · obtain ⟨start, rest, rfl, hrest⟩ := exists_last_of_mem hclose
    rw [List.append_assoc, List.cons_append, lastOffset_append
      (by rw [List.mem_append, not_or]; exact ⟨hrest, hbehind⟩), Option.some.injEq] at h
    have hpos := byteLength_pos (List.cons_ne_nil '>' rest)
    rw [byteLength_append]
    omega
  · rw [lastOffset_of_not_mem (by rw [List.mem_append, not_or]; exact ⟨hclose, hbehind⟩)] at h
    cases h

/-- **The offsets are those of the brackets** around the address, and there
are none if there is no address between brackets. -/
theorem angleOffsets_cases (cs : List Char) :
    (angleOffsets cs = none ∧ splitAngle cs = none) ∨
      ∃ before inner after, cs = before ++ '<' :: (inner ++ '>' :: after) ∧
        angleOffsets cs =
          some (byteLength before, byteLength before + 1 + byteLength inner) ∧
        splitAngle cs = some (before, inner) := by
  by_cases hopen : '<' ∈ cs
  · obtain ⟨before, rest, rfl, hbefore⟩ := List.eq_append_cons_of_mem hopen
    by_cases hclose : '>' ∈ rest
    · -- The last one behind the opening bracket is the last one of all.
      obtain ⟨inner, after, rfl, hafter⟩ := exists_last_of_mem hclose
      have hlast : lastOffset '>' (before ++ '<' :: (inner ++ '>' :: after)) =
          some (byteLength before + 1 + byteLength inner) := by
        have hwhole : before ++ '<' :: (inner ++ '>' :: after) =
            before ++ ['<'] ++ inner ++ '>' :: after := by
          rw [List.append_assoc, List.append_assoc, List.singleton_append]
        rw [hwhole, lastOffset_append hafter, byteLength_append, byteLength_append]
        rfl
      refine .inr ⟨before, inner, after, rfl, ?_, splitAngle_append hbefore hafter⟩
      rw [angleOffsets, firstOffset_append hbefore, hlast]
      exact if_pos (by omega)
    · refine .inl ⟨?_, splitAngle_of_not_mem_after hbefore hclose⟩
      rw [angleOffsets, firstOffset_append hbefore]
      cases hlast : lastOffset '>' (before ++ '<' :: rest) with
      | none => rfl
      | some last =>
        have hlt := lastOffset_lt_of_not_mem_after hclose hlast
        exact if_neg (Nat.lt_asymm hlt)
  · refine .inl ⟨?_, splitAngle_of_not_mem hopen⟩
    rw [angleOffsets, firstOffset_of_not_mem hopen]

/-! ## Mailboxes -/

/-- The name of the mailbox of a segment: that of the phrase before its
brackets, or else its first comment. -/
def cutName (segment : String) (phrase : List Char) : Except CutFault (Option (List Char)) := do
  let phrase ← takeOutComments 0 false phrase
  match phraseName (trimChars phrase) with
  | some name => return some name
  | none => cutComment segment

/-- **The mailbox of a segment**, cut out of it by bytes. -/
def cutMailbox (segment : String) : Except CutFault (Option Mailbox) :=
  let segment := trim segment
  if segment.toList.isEmpty then .ok none
  else
    match angleOffsets segment.toList with
    | some (first, last) => do
      let address := trimChars (← slice segment ⟨first + 1, last⟩).toList
      let name := nonEmptyName (← cutName segment (← slice segment ⟨0, first⟩).toList)
      if address.isEmpty && name.isNone then return none
      else return some ⟨name, String.ofList address⟩
    | none => do
      let address := trimChars (← takeOutComments 0 false segment.toList)
      if address.isEmpty then return none
      else return some ⟨nonEmptyName (← cutComment segment), String.ofList address⟩

theorem cutName_eq (segment : String) (phrase : List Char) :
    cutName segment phrase =
      .ok (phraseName (trimChars (dropComments phrase)) <|> firstComment segment.toList) := by
  rw [cutName, takeOutComments_eq, ← dropComments, ok_bind]
  cases phraseName (trimChars (dropComments phrase)) with
  | none => exact cutComment_eq segment
  | some name => rfl

/-- **The address is held between its brackets**, and the phrase before
the first of them. -/
theorem holds_angle (h : cs = before ++ '<' :: (inner ++ '>' :: after)) :
    Extent.Holds ⟨byteLength before + 1, byteLength before + 1 + byteLength inner⟩ cs inner ∧
      Extent.Holds ⟨0, byteLength before⟩ cs before := by
  subst h
  exact ⟨holds_between '<' rfl before inner ('>' :: after), [], _, rfl, rfl, (Nat.zero_add _).symm⟩

/-- **A mailbox is read without a fault**, and it is the one of the
segment. -/
theorem cutMailbox_eq (segment : String) :
    cutMailbox segment = .ok (readMailbox segment.toList) := by
  have htrim : trimChars segment.toList = (trim segment).toList := by
    rw [trim, String.toList_ofList]
  rw [cutMailbox, readMailbox, htrim]
  generalize trim segment = s
  dsimp only
  split
  · rfl
  · rcases angleOffsets_cases s.toList with ⟨hoffsets, hsplit⟩ |
      ⟨before, inner, after, hs, hoffsets, hsplit⟩
    · rw [hoffsets, hsplit]
      dsimp only
      rw [takeOutComments_eq, ← dropComments, ok_bind, cutComment_eq, ok_bind]
      split <;> rfl
    · obtain ⟨hinner, hbefore⟩ := holds_angle hs
      rw [hoffsets, hsplit]
      dsimp only
      rw [hinner.slice_eq, ok_bind, hbefore.slice_eq, ok_bind, String.toList_ofList,
        String.toList_ofList, cutName_eq, ok_bind]
      split <;> rfl

end Address

/-- **Malformed mail makes no reader fail** that goes by byte offsets. Of
any text and any boundary, the extents of the parts lie within the text,
between characters, and are apart and in order. The scan for a comment
closes no parenthesis that is not open, and the comment it finds lies
within the text, and so do the address between the brackets and the phrase
before them. What is cut out is what is read without offsets. -/
theorem malformed_mail_stays_in_bounds (text : String) :
    (∀ boundary : String,
      (∀ extent ∈ Part.partExtents text boundary, extent.Fits text) ∧
      (Part.partExtents text boundary).Pairwise Extent.Before ∧
      Part.cutParts text boundary =
        .ok ((Part.splitMultipart text.toList boundary.toList).map String.ofList)) ∧
    (∃ comment, Address.commentExtent text = .ok comment ∧
      ∀ extent ∈ comment, extent.Fits text) ∧
    Address.cutComment text = .ok (Address.firstComment text.toList) ∧
    (∀ first last, Address.angleOffsets text.toList = some (first, last) →
      Extent.Fits ⟨first + 1, last⟩ text ∧ Extent.Fits ⟨0, first⟩ text) ∧
    Address.cutMailbox text = .ok (Address.readMailbox text.toList) := by
  refine ⟨fun boundary => ?_, ?_, Address.cutComment_eq text, fun first last h => ?_,
    Address.cutMailbox_eq text⟩
  · have hcuts := Part.cutsOut_partExtents text boundary
    exact ⟨hcuts.fits, hcuts.pairwise, hcuts.mapM_slice⟩
  · rcases Address.commentExtent_cases text with ⟨hextent, -⟩ | ⟨extent, inside, hextent, hholds, -⟩
    · exact ⟨none, hextent, nofun⟩
    · refine ⟨some extent, hextent, fun e he => ?_⟩
      obtain rfl := Option.some.inj he
      exact hholds.fits
  · rcases Address.angleOffsets_cases text.toList with ⟨hnone, -⟩ |
      ⟨before, inner, after, htext, hoffsets, -⟩
    · rw [hnone] at h
      cases h
    · rw [hoffsets, Option.some.injEq, Prod.mk.injEq] at h
      obtain ⟨rfl, rfl⟩ := h
      obtain ⟨hinner, hbefore⟩ := Address.holds_angle htext
      exact ⟨hinner.fits, hbefore.fits⟩

/-- A body with characters of several bytes at its marks, and with marks
that are closed but not opened, or opened but not closed. -/
def brokenMail : String := "ü)>\n--ß\n(é)<日>\n--ß\n("

/-- Its comment and its brackets are those in the first part. -/
theorem brokenMail_stays_in_bounds :
    Address.angleOffsets brokenMail.toList = some (14, 18) ∧
      Extent.Fits ⟨15, 18⟩ brokenMail ∧
      Address.cutComment brokenMail = .ok (some ['é']) ∧
      Part.cutParts brokenMail "ß" = .ok ["(é)<日>", "("] := by
  obtain ⟨hparts, -, hcomment, hangle, -⟩ := malformed_mail_stays_in_bounds brokenMail
  have hoffsets : Address.angleOffsets brokenMail.toList = some (14, 18) := by decide +kernel
  have hfirst : Address.firstComment brokenMail.toList = some ['é'] := by decide +kernel
  have hsplit : Part.splitMultipart brokenMail.toList "ß".toList =
      ["(é)<日>".toList, "(".toList] := by decide +kernel
  refine ⟨hoffsets, (hangle 14 18 hoffsets).1, ?_, ?_⟩
  · rw [hcomment, hfirst]
  · rw [(hparts "ß").2.2, hsplit, List.map_cons, List.map_cons, String.ofList_toList,
      String.ofList_toList, List.map_nil]

end MailFormula
