import MailFormula.Proofs.Mail.ContentType
import MailFormula.Proofs.Mail.Field
import MailFormula.Proofs.Mail.Section
/-!
# A composed multipart

A multipart is written with a header that names a boundary, then a
preamble, each part behind a line of the boundary, the closing line and
an epilogue (`writeMultipart`). Reading it recovers the boundary through
the content type and cuts the body at its lines. A line of a part is
content as long as none is a boundary line (`BoundaryFree`); the line
feed that was put behind a part belongs to the boundary again, so that a
part that is empty or ends in line feeds comes back as it was.
-/

namespace MailFormula

open MailFormula.Text

namespace Part

/-! ## Boundaries -/

/-- **The boundaries that can be written**: within one line and between
quotes, with nothing at the end that would be trimmed. -/
structure IsBoundary (boundary : List Char) : Prop where
  noLineEnd : '\n' ∉ boundary
  noReturn : '\r' ∉ boundary
  noQuote : '"' ∉ boundary
  noBlankEnd : dropBlanksRight boundary = boundary

/-- The line of a boundary, blanks and line end left out. -/
def delimiterLine (boundary : List Char) : List Char := '-' :: '-' :: boundary

/-- The line that closes a multipart. -/
def closingLine (boundary : List Char) : List Char := delimiterLine boundary ++ ['-', '-']

/-- **No line of a text is a boundary line**, in its plain or in its
closing form, when the blanks at its end are left out. -/
def BoundaryFree (boundary cs : List Char) : Prop :=
  ∀ line ∈ inclusiveLines cs, dropBlanksRight line ≠ delimiterLine boundary ∧
    dropBlanksRight line ≠ closingLine boundary

instance (boundary cs : List Char) : Decidable (BoundaryFree boundary cs) :=
  inferInstanceAs (Decidable (∀ line ∈ inclusiveLines cs, _ ∧ _))

/-- A text that can be a part, or stand before the first of them. -/
structure IsContent (boundary cs : List Char) : Prop where
  noReturn : '\r' ∉ cs
  boundaryFree : BoundaryFree boundary cs

variable {boundary cs line preamble epilogue : List Char} {parts lines rest : List (List Char)}

/-! ## Kinds of lines -/

theorem lineKind_eq (boundary line : List Char) :
    lineKind boundary line =
      if dropBlanksRight line = delimiterLine boundary then .delimiter
      else if dropBlanksRight line = closingLine boundary then .closing
      else .content := rfl

theorem closingLine_ne (boundary : List Char) : closingLine boundary ≠ delimiterLine boundary := by
  rw [closingLine, Ne, List.append_right_eq_self]
  exact List.cons_ne_nil _ _

/-- **The line of a boundary** is recognised by what is left of it when its
end is dropped. -/
theorem IsBoundary.lineKind_delimiterLine (h : IsBoundary boundary) :
    lineKind boundary (delimiterLine boundary ++ ['\n']) = .delimiter := by
  have htrim : dropBlanksRight (delimiterLine boundary) = delimiterLine boundary :=
    dropBlanksRight_cons (by decide) (dropBlanksRight_cons (by decide) h.noBlankEnd)
  rw [lineKind_eq, dropBlanksRight_concat_blank (by decide), htrim, if_pos rfl]

/-- **So is the closing line**, whether its end or the text's comes behind
it. -/
theorem lineKind_closingLine (hline : line = closingLine boundary ∨
    line = closingLine boundary ++ ['\n']) : lineKind boundary line = .closing := by
  have hdash : dropBlanksRight (closingLine boundary) = closingLine boundary := by
    have hconcat : closingLine boundary = delimiterLine boundary ++ ['-'] ++ ['-'] := by
      rw [closingLine, List.append_assoc, List.singleton_append]
    rw [hconcat]
    exact dropBlanksRight_concat (by decide)
  have htrim : dropBlanksRight line = closingLine boundary := by
    rcases hline with rfl | rfl
    · exact hdash
    · rw [dropBlanksRight_concat_blank (by decide), hdash]
  rw [lineKind_eq, htrim, if_neg (closingLine_ne boundary), if_pos rfl]

theorem BoundaryFree.lineKind_eq_content (h : BoundaryFree boundary cs) :
    ∀ line ∈ inclusiveLines cs, lineKind boundary line = .content := by
  intro line hline
  rw [lineKind_eq, if_neg (h line hline).1, if_neg (h line hline).2]

/-- **A line end put behind a text** makes no boundary line of it. -/
theorem BoundaryFree.concat (h : BoundaryFree boundary cs) :
    BoundaryFree boundary (cs ++ ['\n']) := by
  intro line hline
  rcases mem_inclusiveLines_concat hline with hnil | ⟨line', hline', heq⟩
  · rw [hnil]
    exact ⟨nofun, nofun⟩
  · rw [heq]
    exact h line' hline'

/-! ## Cutting -/

/-- **Lines of content are gathered.** -/
theorem cutLines_content {gathered : Option (List Char)}
    (h : ∀ line ∈ lines, lineKind boundary line = .content) :
    cutLines boundary gathered (lines ++ rest) =
      cutLines boundary (gathered.map (· ++ lines.flatten)) rest := by
  induction lines generalizing gathered with
  | nil => cases gathered <;> simp
  | cons line lines ih =>
    rw [List.forall_mem_cons] at h
    rw [List.cons_append, cutLines, h.1]
    dsimp only
    rw [ih h.2, Option.map_map]
    simp [Function.comp_def]

/-- The parts, each behind a line of the boundary, and what closes them. -/
def writeParts (boundary : List Char) (parts : List (List Char)) (epilogue : List Char) :
    List Char :=
  (parts.flatMap fun part => delimiterLine boundary ++ '\n' :: (part ++ ['\n'])) ++
    (closingLine boundary ++ epilogue)

theorem inclusiveLines_writeParts_cons (h : '\n' ∉ boundary) (part : List Char) :
    inclusiveLines (writeParts boundary (part :: parts) epilogue) =
      (delimiterLine boundary ++ ['\n']) ::
        (inclusiveLines (part ++ ['\n']) ++
          inclusiveLines (writeParts boundary parts epilogue)) := by
  have hline : '\n' ∉ delimiterLine boundary := by simp [delimiterLine, h]
  rw [writeParts, List.flatMap_cons, List.append_assoc, List.append_assoc, List.cons_append,
    inclusiveLines_line hline, inclusiveLines_append (.inr ⟨part, rfl⟩)]
  rfl

theorem inclusiveLines_writeParts_nil (h : '\n' ∉ boundary)
    (hepilogue : epilogue = [] ∨ ∃ rest, epilogue = '\n' :: rest) :
    ∃ line lines, inclusiveLines (writeParts boundary [] epilogue) = line :: lines ∧
      (line = closingLine boundary ∨ line = closingLine boundary ++ ['\n']) := by
  have hline : '\n' ∉ closingLine boundary := by simp [closingLine, delimiterLine, h]
  rcases hepilogue with rfl | ⟨rest, rfl⟩
  · refine ⟨closingLine boundary, [], ?_, .inl rfl⟩
    rw [writeParts, List.flatMap_nil, List.append_nil]
    exact inclusiveLines_last hline (List.cons_ne_nil _ _)
  · exact ⟨_, _, inclusiveLines_line hline, .inr rfl⟩

/-- **The written parts are cut out again**, behind whatever part was
being gathered. -/
theorem cutLines_writeParts (h : IsBoundary boundary)
    (hparts : ∀ part ∈ parts, BoundaryFree boundary part)
    (hepilogue : epilogue = [] ∨ ∃ rest, epilogue = '\n' :: rest) (gathered : Option (List Char)) :
    cutLines boundary gathered (inclusiveLines (writeParts boundary parts epilogue)) =
      finishSegment gathered ++ parts := by
  induction parts generalizing gathered with
  | nil =>
    obtain ⟨line, lines, hlines, hline⟩ := inclusiveLines_writeParts_nil h.noLineEnd hepilogue
    rw [hlines, cutLines, lineKind_closingLine hline, List.append_nil]
  | cons part parts ih =>
    rw [List.forall_mem_cons] at hparts
    rw [inclusiveLines_writeParts_cons h.noLineEnd, cutLines, h.lineKind_delimiterLine]
    dsimp only
    -- The line feed behind the part is gathered with it, and dropped when the next line ends it.
    rw [cutLines_content hparts.1.concat.lineKind_eq_content, flatten_inclusiveLines,
      Option.map_some, ih hparts.2, finishSegment, List.nil_append, List.dropLast_concat]
    rfl

/-- **The parts of a written body** are those it was put together from. -/
theorem splitMultipart_writeParts (h : IsBoundary boundary)
    (hpreamble : BoundaryFree boundary preamble)
    (hended : preamble = [] ∨ ∃ lines, preamble = lines ++ ['\n'])
    (hparts : ∀ part ∈ parts, BoundaryFree boundary part)
    (hepilogue : epilogue = [] ∨ ∃ rest, epilogue = '\n' :: rest) :
    splitMultipart (preamble ++ writeParts boundary parts epilogue) boundary = parts := by
  rw [splitMultipart, inclusiveLines_append hended,
    cutLines_content hpreamble.lineKind_eq_content]
  exact cutLines_writeParts h hparts hepilogue none

/-! ## The header of a multipart -/

/-- The content type that names a boundary. -/
def typeValue (boundary : List Char) : List Char :=
  ContentType.write "multipart/mixed".toList [("boundary".toList, boundary)]

/-- The one line of the header that a multipart is written with. -/
def typeLine (boundary : List Char) : List Char :=
  "Content-Type".toList ++ ':' :: ' ' :: typeValue boundary

theorem typeValue_eq (boundary : List Char) :
    typeValue boundary = 'm' :: ("ultipart/mixed; boundary=\"".toList ++ boundary ++ ['"']) := by
  simp [typeValue, ContentType.write, ContentType.writeParam]

theorem typeLine_eq (boundary : List Char) :
    typeLine boundary =
      "Content-Type: multipart/mixed; boundary=\"".toList ++ (boundary ++ ['"']) := by
  have hown : "Content-Type: multipart/mixed; boundary=\"".toList =
      "Content-Type".toList ++ ':' :: ' ' :: 'm' :: "ultipart/mixed; boundary=\"".toList := by
    decide
  unfold typeLine
  rw [typeValue_eq, hown, List.append_assoc, List.append_assoc, List.cons_append,
    List.cons_append, List.cons_append]

/-- What stands neither in the boundary nor in what is written around it. -/
theorem not_mem_typeLine {c : Char}
    (hown : c ∉ "Content-Type: multipart/mixed; boundary=\"".toList) (h : c ∉ boundary) :
    c ∉ typeLine boundary := by
  rw [typeLine_eq, List.mem_append, List.mem_append, List.mem_singleton]
  rintro (hc | hc | rfl)
  · exact hown hc
  · exact h hc
  · exact hown (by decide)

/-- **The header has one field**, and its value is what was written. -/
theorem readFields_typeLine (h : IsBoundary boundary) :
    readFields (typeLine boundary ++ ['\n']) =
      [("Content-Type", String.ofList (typeValue boundary))] := by
  have hlines : linesOf (typeLine boundary ++ ['\n']) = [typeLine boundary] :=
    linesOf_line (not_mem_typeLine (by decide) h.noLineEnd)
      (not_mem_typeLine (by decide) h.noReturn)
  have hname : trimChars "Content-Type".toList = "Content-Type".toList := by decide
  have hvalue : trimChars (' ' :: typeValue boundary) = typeValue boundary := by
    rw [trimChars_blank_cons (by decide), typeValue_eq]
    exact trimChars_between (by decide) (by decide)
  have hline : addLine [] (typeLine boundary) =
      [("Content-Type".toList, typeValue boundary)] := by
    unfold typeLine
    rw [addLine_field [] (isContinuation_eq_false hname _) (by decide), hname, hvalue]
  rw [readFields, hlines, List.foldl_cons, hline, List.foldl_nil, List.reverse_singleton,
    List.map_singleton]
  dsimp only
  rw [String.ofList_toList]

/-- And it is a header block. -/
theorem isHeaderBlock_typeLine (h : IsBoundary boundary) :
    IsHeaderBlock (typeLine boundary ++ ['\n']) where
  noReturn := by
    rw [List.mem_append, not_or]
    exact ⟨not_mem_typeLine (by decide) h.noReturn, by decide⟩
  ended := .inr ⟨_, rfl⟩
  noBlankLine := not_hasBlankLine_concat (not_mem_typeLine (by decide) h.noLineEnd)

/-- **The content type is read** with the boundary as it was written. -/
theorem readChars_typeValue (h : '"' ∉ boundary) :
    ContentType.readChars (typeValue boundary) =
      ⟨"multipart", "mixed", [("boundary", String.ofList boundary)]⟩ := by
  have hkey : ContentType.IsKey "boundary".toList := by decide
  have hparam : ∀ p ∈ [("boundary".toList, boundary)], ContentType.IsParam p := by
    rw [List.forall_mem_singleton]
    exact ⟨hkey, h⟩
  have hnames : "multipart/mixed".toList = "multipart".toList ++ '/' :: "mixed".toList := by
    decide
  have hmain : asciiLower (String.ofList (trimChars "multipart".toList)) = "multipart" := by
    decide
  have hsub : asciiLower (String.ofList (trimChars "mixed".toList)) = "mixed" := by decide
  rw [typeValue, hnames, ContentType.readChars_write (by decide) (by decide) (by decide) hparam,
    hmain, hsub, List.map_singleton]
  dsimp only
  rw [String.ofList_toList]

/-- **The boundary is recovered** from the header, and the body cut at it. -/
theorem childTexts_typeLine (h : IsBoundary boundary) (body : List Char) :
    childTexts (contentTypeOf (readFields (typeLine boundary ++ ['\n']))) body =
      splitMultipart body boundary := by
  have hname : ∀ t : String, sameName t t = true := fun t => beq_self_eq_true _
  have htype : contentTypeOf (readFields (typeLine boundary ++ ['\n'])) =
      ⟨"multipart", "mixed", [("boundary", String.ofList boundary)]⟩ := by
    simp only [readFields_typeLine h, contentTypeOf, List.find?_cons, hname, ContentType.read,
      String.toList_ofList, readChars_typeValue h.noQuote]
  simp only [htype, childTexts, ContentType.is, ContentType.param, ContentType.findParam, hname,
    beq_self_eq_true, Bool.true_or, Bool.and_self, if_true, List.find?_cons, Option.map_some,
    String.toList_ofList]

/-! ## Whole multiparts -/

/-- **A multipart as it is written**: the header with its boundary and the
blank line, the preamble, each part behind a line of the boundary and
with a line end behind it, the closing line and the epilogue. -/
def writeMultipart (boundary preamble : String) (parts : List String) (epilogue : String) :
    String :=
  "Content-Type: multipart/mixed; boundary=\"" ++ boundary ++ "\"\n\n" ++ preamble ++
    String.join (parts.map fun part => "--" ++ boundary ++ "\n" ++ part ++ "\n") ++
    "--" ++ boundary ++ "--" ++ epilogue

theorem toList_writeMultipart (boundary preamble : String) (parts : List String)
    (epilogue : String) :
    (writeMultipart boundary preamble parts epilogue).toList =
      typeLine boundary.toList ++ ['\n'] ++ '\n' :: (preamble.toList ++
        writeParts boundary.toList (parts.map String.toList) epilogue.toList) := by
  have hdashes : "--".toList = ['-', '-'] := rfl
  have hline : "\n".toList = ['\n'] := rfl
  have hquote : "\"\n\n".toList = ['"', '\n', '\n'] := rfl
  unfold writeMultipart
  simp only [typeLine_eq, writeParts, closingLine, delimiterLine,
    String.toList_append, String.toList_join, List.flatMap_map, hdashes, hline, hquote,
    List.append_assoc, List.cons_append, List.nil_append]

theorem noReturn_writeParts (h : IsBoundary boundary) (hparts : ∀ part ∈ parts, '\r' ∉ part)
    (hepilogue : '\r' ∉ epilogue) : '\r' ∉ writeParts boundary parts epilogue := by
  have hboundary := h.noReturn
  simp only [writeParts, closingLine, delimiterLine, List.mem_append, List.mem_flatMap,
    List.mem_cons, List.not_mem_nil, or_false, not_or, not_exists, not_and]
  refine ⟨fun part hpart => ?_, ⟨⟨by decide, by decide, hboundary⟩, by decide, by decide⟩,
    hepilogue⟩
  exact ⟨⟨by decide, by decide, hboundary⟩, by decide, hparts part hpart, by decide⟩

/-- **The children of a part** are read from the texts that its body is cut
into. -/
theorem children_read {content header body : List Char} (h : '\r' ∉ content)
    (hcontent : headerAndBody content = (header, body)) :
    (readChars content).children =
      (childTexts (contentTypeOf (readFields header)) body).map readChars := by
  rw [readChars_eq, childrenOf, sections_eq h, hcontent]
  dsimp only [children]

end Part

/-- **A composed multipart reads back into its parts.** Whatever boundary,
preamble, parts and epilogue it is written with, as long as no line of
the preamble or of a part is a boundary line, its children are its parts,
each read on its own, in order. -/
theorem composed_multipart_reads_back {boundary preamble epilogue : String} {parts : List String}
    (hboundary : Part.IsBoundary boundary.toList)
    (hpreamble : Part.IsContent boundary.toList preamble.toList)
    (hended : preamble = "" ∨ ∃ lines, preamble = lines ++ "\n")
    (hparts : ∀ part ∈ parts, Part.IsContent boundary.toList part.toList)
    (hreturn : '\r' ∉ epilogue.toList)
    (hepilogue : epilogue = "" ∨ ∃ rest, epilogue = "\n" ++ rest) :
    (Part.read (Part.writeMultipart boundary preamble parts epilogue)).children =
      parts.map Part.read := by
  have hended' : preamble.toList = [] ∨ ∃ lines, preamble.toList = lines ++ ['\n'] := by
    rcases hended with rfl | ⟨lines, rfl⟩
    · exact .inl rfl
    · exact .inr ⟨lines.toList, String.toList_append⟩
  have hepilogue' : epilogue.toList = [] ∨ ∃ rest, epilogue.toList = '\n' :: rest := by
    rcases hepilogue with rfl | ⟨rest, rfl⟩
    · exact .inl rfl
    · exact .inr ⟨rest.toList, String.toList_append⟩
  have hpart : ∀ part ∈ parts.map String.toList, Part.IsContent boundary.toList part := by
    rwa [List.forall_mem_map]
  have hheader := Part.isHeaderBlock_typeLine hboundary
  have hwritten : '\r' ∉
      Part.writeParts boundary.toList (parts.map String.toList) epilogue.toList :=
    Part.noReturn_writeParts hboundary (fun part hmem => (hpart part hmem).noReturn) hreturn
  have hcontent : '\r' ∉ (Part.writeMultipart boundary preamble parts epilogue).toList := by
    rw [Part.toList_writeMultipart, List.mem_append, not_or, List.mem_cons, not_or,
      List.mem_append (s := preamble.toList), not_or]
    exact ⟨hheader.noReturn, by decide, hpreamble.noReturn, hwritten⟩
  have hsections :
      Part.headerAndBody (Part.writeMultipart boundary preamble parts epilogue).toList =
        (Part.typeLine boundary.toList ++ ['\n'], preamble.toList ++
          Part.writeParts boundary.toList (parts.map String.toList) epilogue.toList) := by
    rw [Part.toList_writeMultipart]
    exact Part.headerAndBody_append hheader (List.concat_ne_nil _ _)
  rw [Part.read, Part.children_read hcontent hsections, Part.childTexts_typeLine hboundary,
    Part.splitMultipart_writeParts hboundary hpreamble.boundaryFree hended'
      (fun part hmem => (hpart part hmem).boundaryFree) hepilogue', List.map_map]
  rfl

/-- A boundary with a semicolon in it that ends in dashes. Of the parts one
is empty, one ends in a line feed behind what is nearly the boundary, and
one is the text of a multipart itself; the epilogue repeats the boundary. -/
theorem dashed_multipart_reads_back :
    Part.IsBoundary "b; c--".toList ∧
      Part.IsContent "b; c--".toList "--b; c\n".toList ∧
      (∀ part ∈ ["", "--b; c\n", "Content-Type: multipart/mixed; boundary=d\n\n--d\nx\n--d--"],
        Part.IsContent "b; c--".toList part.toList) ∧
      (Part.read (Part.writeMultipart "b; c--" "--b; c\n"
        ["", "--b; c\n", "Content-Type: multipart/mixed; boundary=d\n\n--d\nx\n--d--"]
        "\n--b; c--")).children =
        [Part.read "", Part.read "--b; c\n",
          Part.read "Content-Type: multipart/mixed; boundary=d\n\n--d\nx\n--d--"] := by
  have hboundary : Part.IsBoundary "b; c--".toList :=
    ⟨by decide, by decide, by decide, by decide⟩
  have hpreamble : Part.IsContent "b; c--".toList "--b; c\n".toList := ⟨by decide, by decide⟩
  have hparts : ∀ part ∈
      ["", "--b; c\n", "Content-Type: multipart/mixed; boundary=d\n\n--d\nx\n--d--"],
      Part.IsContent "b; c--".toList part.toList := by
    simp only [List.forall_mem_cons]
    exact ⟨⟨by decide, by decide⟩, hpreamble, ⟨by decide, by decide⟩, nofun⟩
  exact ⟨hboundary, hpreamble, hparts,
    composed_multipart_reads_back hboundary hpreamble (.inr ⟨"--b; c", by decide⟩) hparts
      (by decide) (.inr ⟨"--b; c--", by decide⟩)⟩

end MailFormula
