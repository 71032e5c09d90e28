import MailFormula.Mail.Part
import MailFormula.Proofs.Text.Lines
/-!
# Header and body

A text is cut into header and body at its first blank line, and what
that is depends on where one looks from. The cut is made between two
line feeds in a row (`splitHeader_eq_some_iff`), so the first of them has
to end a line of the header. A part that has no header begins with the
blank line itself, with one line feed, and is recognised by that only
where no two line feeds follow in a row further on: otherwise the header
runs up to those. `first_blank_line_divides` is the exact condition under
which what was put together comes apart again.
-/

namespace MailFormula

open MailFormula.Text

namespace Part

variable {cs header body : List Char}

/-- **Reading a part**, as an equation: the sections, the fields of the
header, and the children, each read in the same way. -/
theorem readChars_eq (content : List Char) :
    readChars content =
      mk (String.ofList (sections content).1) (String.ofList (sections content).2)
        (readFields (sections content).1) ((childrenOf content).map readChars) := by
  rw [readChars, List.attach_map_val]

theorem sections_eq (h : '\r' ∉ cs) : sections cs = headerAndBody cs := by
  rw [sections, dropCarriageReturns_eq_self h]

/-! ## Blank lines -/

/-- **Two line feeds in a row** stand somewhere in a text. -/
def HasBlankLine (cs : List Char) : Prop := ['\n', '\n'] <:+: cs

instance (cs : List Char) : Decidable (HasBlankLine cs) :=
  inferInstanceAs (Decidable (['\n', '\n'] <:+: cs))

theorem hasBlankLine_cons {c d : Char} :
    HasBlankLine (c :: d :: cs) ↔ (c = '\n' ∧ d = '\n') ∨ HasBlankLine (d :: cs) := by
  rw [HasBlankLine, List.infix_cons_iff, List.cons_prefix_cons, List.cons_prefix_cons]
  simp only [List.nil_prefix, and_true, eq_comm (a := '\n'), HasBlankLine]

/-- A text has no blank line at its first two characters, and none
behind the first. -/
theorem not_hasBlankLine_cons {c d : Char} (h : ¬ HasBlankLine (c :: d :: cs)) :
    (c == '\n' && d == '\n') = false ∧ ¬ HasBlankLine (d :: cs) := by
  rw [hasBlankLine_cons, not_or] at h
  refine ⟨?_, h.2⟩
  rw [Bool.and_eq_false_imp]
  intro hc
  exact beq_false_of_ne fun hd => h.1 ⟨beq_iff_eq.1 hc, hd⟩

/-- One line that is ended has no blank line in it. -/
theorem not_hasBlankLine_concat (h : '\n' ∉ cs) : ¬ HasBlankLine (cs ++ ['\n']) := by
  intro hblank
  have hcount := hblank.sublist.count_le '\n'
  rw [List.count_append, List.count_eq_zero_of_not_mem h] at hcount
  exact absurd hcount (by decide)

/-- **Without a blank line there is no cut.** -/
theorem splitHeader_eq_none_iff : splitHeader cs = none ↔ ¬ HasBlankLine cs := by
  fun_induction splitHeader cs with
  | case1 => exact iff_of_true rfl (by decide)
  | case2 c =>
    refine iff_of_true rfl fun h => ?_
    have hlength := h.length_le
    rw [List.length_cons, List.length_cons, List.length_cons] at hlength
    omega
  | case3 c d cs hcd =>
    rw [Bool.and_eq_true, beq_iff_eq, beq_iff_eq] at hcd
    exact iff_of_false (Option.some_ne_none _) (not_not.2 (hasBlankLine_cons.2 (.inl hcd)))
  | case4 c d cs hcd ih =>
    rw [Option.map_eq_none_iff, ih, hasBlankLine_cons, not_or]
    simp only [Bool.and_eq_true, beq_iff_eq] at hcd
    exact (and_iff_right hcd).symm

/-- The cut at the first blank line, where the header ends a line. -/
theorem splitHeader_append {lines : List Char} (h : ¬ HasBlankLine (lines ++ ['\n'])) :
    splitHeader (lines ++ '\n' :: '\n' :: body) = some (lines ++ ['\n'], body) := by
  induction lines with
  | nil => rfl
  | cons c lines ih =>
    -- The character behind decides whether the cut is here.
    obtain ⟨d, tail, hlines⟩ : ∃ d tail, lines ++ ['\n'] = d :: tail :=
      List.exists_cons_of_ne_nil (List.concat_ne_nil _ _)
    have hwhole : lines ++ '\n' :: '\n' :: body = d :: (tail ++ '\n' :: body) := by
      rw [← List.cons_append, ← hlines, List.append_assoc, List.singleton_append]
    rw [List.cons_append, hlines] at h
    obtain ⟨hcd, htail⟩ := not_hasBlankLine_cons h
    rw [← hlines] at htail
    rw [List.cons_append, hwhole, splitHeader, hcd, if_neg Bool.false_ne_true, ← hwhole, ih htail]
    rfl

/-- **The cut is at the first blank line**: what stands before it ends a
line and has no blank line in it. -/
theorem splitHeader_eq_some_iff :
    splitHeader cs = some (header, body) ↔
      (∃ lines, header = lines ++ ['\n']) ∧ ¬ HasBlankLine header ∧
        cs = header ++ '\n' :: body := by
  constructor
  · intro h
    fun_induction splitHeader cs generalizing header with
    | case1 => cases h
    | case2 => cases h
    | case3 c d cs hcd =>
      rw [Bool.and_eq_true, beq_iff_eq, beq_iff_eq] at hcd
      obtain ⟨rfl, rfl⟩ := Prod.mk.inj (Option.some.inj h)
      exact ⟨⟨[], rfl⟩, by decide, by rw [hcd.1, hcd.2]; rfl⟩
    | case4 c d cs hcd ih =>
      obtain ⟨⟨header', body'⟩, hsplit, heq⟩ := Option.map_eq_some_iff.1 h
      obtain ⟨rfl, rfl⟩ := Prod.mk.inj heq
      obtain ⟨⟨lines, rfl⟩, hblank, hcs⟩ := ih hsplit
      refine ⟨⟨c :: lines, rfl⟩, ?_, congrArg (c :: ·) hcs⟩
      obtain ⟨e, tail, hlines⟩ : ∃ e tail, lines ++ ['\n'] = e :: tail :=
        List.exists_cons_of_ne_nil (List.concat_ne_nil _ _)
      rw [hlines] at hcs hblank ⊢
      obtain ⟨rfl, -⟩ := List.cons.inj hcs
      rw [hasBlankLine_cons, not_or]
      rw [Bool.and_eq_true, beq_iff_eq, beq_iff_eq] at hcd
      exact ⟨hcd, hblank⟩
  · rintro ⟨⟨lines, rfl⟩, hblank, rfl⟩
    rw [List.append_assoc]
    exact splitHeader_append hblank

/-! ## Sections -/

/-- **A header block**: nothing, or lines that are all ended, with no two
line feeds in a row. -/
structure IsHeaderBlock (header : List Char) : Prop where
  noReturn : '\r' ∉ header
  ended : header = [] ∨ ∃ lines, header = lines ++ ['\n']
  noBlankLine : ¬ HasBlankLine header

/-- A header that has a line ends at the blank line, whatever the body. -/
theorem headerAndBody_append (h : IsHeaderBlock header) (hne : header ≠ []) :
    headerAndBody (header ++ '\n' :: body) = (header, body) := by
  have hsplit : splitHeader (header ++ '\n' :: body) = some (header, body) :=
    splitHeader_eq_some_iff.2 ⟨h.ended.resolve_left hne, h.noBlankLine, rfl⟩
  rw [headerAndBody.eq_def, hsplit]

/-- **Without a header** the body has to have no blank line in it, and
not to begin with one. -/
theorem headerAndBody_newline_iff :
    headerAndBody ('\n' :: body) = ([], body) ↔ ¬ HasBlankLine ('\n' :: body) := by
  rw [← splitHeader_eq_none_iff, headerAndBody]
  constructor
  · intro h
    rcases hsplit : splitHeader ('\n' :: body) with _ | ⟨header, body'⟩
    · rfl
    · obtain ⟨⟨lines, hlines⟩, -⟩ := splitHeader_eq_some_iff.1 hsplit
      rw [hsplit] at h
      obtain ⟨rfl, -⟩ := Prod.mk.inj h
      exact absurd hlines.symm (List.concat_ne_nil _ _)
  · intro h
    rw [h]

/-- **A text without carriage returns is read as a header and a body**
exactly when it is cut into them. -/
theorem read_sections_iff {content : String} (header body : String)
    (h : '\r' ∉ content.toList) :
    (read content).header = header ∧ (read content).body = body ↔
      headerAndBody content.toList = (header.toList, body.toList) := by
  have hofList : ∀ {cs : List Char} {s : String}, String.ofList cs = s ↔ cs = s.toList := by
    intro cs s
    rw [← String.toList_inj, String.toList_ofList]
  rw [read, readChars_eq, sections_eq h, Prod.ext_iff, ← hofList, ← hofList]
  rfl

theorem fieldList_read (content : String) :
    (read content).fieldList = readFields (read content).header.toList := by
  rw [read, readChars_eq]
  exact congrArg readFields String.toList_ofList.symm

end Part

/-- **Header and body come apart where they were joined**: a header
block, a line feed and a body are read as that header and that body, and
the size of the part is the number of bytes of the text. So it is for
every body when the header has a line. An empty header, and with it a
part without fields, comes back exactly when no two line feeds stand in a
row from the blank line on. -/
theorem first_blank_line_divides {header body : String}
    (hheader : Part.IsHeaderBlock header.toList) (hbody : '\r' ∉ body.toList) :
    ((Part.read (header ++ "\n" ++ body)).header = header ∧
      (Part.read (header ++ "\n" ++ body)).body = body ∧
      (Part.read (header ++ "\n" ++ body)).size = (header ++ "\n" ++ body).utf8ByteSize ∧
      (header = "" → (Part.read (header ++ "\n" ++ body)).fieldList = [])) ↔
    (header = "" → ¬ Part.HasBlankLine ("\n" ++ body).toList) := by
  have hchars : (header ++ "\n" ++ body).toList = header.toList ++ '\n' :: body.toList := by
    rw [String.toList_append, String.toList_append, List.append_assoc]
    rfl
  have hreturn : '\r' ∉ (header ++ "\n" ++ body).toList := by
    rw [hchars, List.mem_append, List.mem_cons, not_or, not_or]
    exact ⟨hheader.noReturn, by decide, hbody⟩
  have hsections := Part.read_sections_iff header body hreturn
  rw [hchars] at hsections
  constructor
  · rintro ⟨hh, hb, -, -⟩ rfl
    have hcut := hsections.1 ⟨hh, hb⟩
    rw [String.toList_append]
    exact Part.headerAndBody_newline_iff.1 hcut
  · intro hblank
    have hcut : Part.headerAndBody (header.toList ++ '\n' :: body.toList) =
        (header.toList, body.toList) := by
      by_cases hne : header = ""
      · subst hne
        have hblank' := hblank rfl
        rw [String.toList_append] at hblank'
        exact Part.headerAndBody_newline_iff.2 hblank'
      · exact Part.headerAndBody_append hheader (by rwa [Ne, String.toList_eq_nil_iff])
    obtain ⟨hh, hb⟩ := hsections.2 hcut
    refine ⟨hh, hb, ?_, ?_⟩
    · rw [Part.size, hh, hb, String.utf8ByteSize_append, String.utf8ByteSize_append]
      rfl
    · rintro rfl
      rw [Part.fieldList_read, hh]
      rfl

/-- A header with a line keeps a body of blank lines and colons. -/
theorem header_line_keeps_blank_body :
    Part.IsHeaderBlock "A: b\n".toList ∧ '\r' ∉ "\nC: d\n\n".toList ∧
      (Part.read ("A: b\n" ++ "\n" ++ "\nC: d\n\n")).header = "A: b\n" ∧
      (Part.read ("A: b\n" ++ "\n" ++ "\nC: d\n\n")).body = "\nC: d\n\n" := by
  have hblock : Part.IsHeaderBlock "A: b\n".toList :=
    ⟨by decide, .inr ⟨"A: b".toList, by decide⟩, by decide⟩
  have hbody : '\r' ∉ "\nC: d\n\n".toList := by decide
  obtain ⟨hh, hb, -, -⟩ := (first_blank_line_divides hblock hbody).2 (by decide)
  exact ⟨hblock, hbody, hh, hb⟩

/-- Behind an empty header a body with a blank line is cut there: its
first lines become a header, and one of them a field. -/
theorem blank_line_in_body_ends_header :
    Part.IsHeaderBlock "".toList ∧ '\r' ∉ "A: b\n\nc".toList ∧
      (Part.read ("" ++ "\n" ++ "A: b\n\nc")).header = "\nA: b\n" ∧
      (Part.read ("" ++ "\n" ++ "A: b\n\nc")).body = "c" ∧
      (Part.read ("" ++ "\n" ++ "A: b\n\nc")).fieldList = [("A", "b")] := by
  have hreturn : '\r' ∉ ("" ++ "\n" ++ "A: b\n\nc").toList := by decide
  obtain ⟨hh, hb⟩ := (Part.read_sections_iff "\nA: b\n" "c" hreturn).2
    (by decide)
  refine ⟨⟨by decide, .inl rfl, by decide⟩, by decide, hh, hb, ?_⟩
  rw [Part.fieldList_read, hh]
  decide

end MailFormula
