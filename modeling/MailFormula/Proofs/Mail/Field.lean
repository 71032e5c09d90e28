import MailFormula.Mail.Part
import MailFormula.Proofs.Text.Lines
/-!
# Header fields as they are folded

A field is written as its name, a colon, a blank and the first line of
its value; every further line begins with a space or a tab instead of a
name. The reader goes through the lines once and has no look ahead: it
enters a field with its first line, and a line that begins with a blank
changes the value of the field that was entered last. So the invariant is
about one field at a time, whatever fields stand before it
(`foldl_addLine_writtenLines`).
-/

namespace MailFormula

open MailFormula.Text

namespace Part

/-! ## One line -/

section

variable {name value line : List Char}

/-- A line that begins with a name continues nothing. -/
theorem isContinuation_eq_false (h : trimChars name = name) (value : List Char) :
    isContinuation (name ++ ':' :: value) = false := by
  cases name with
  | nil => rfl
  | cons c cs =>
    have hne : ∀ d, isBlank d = true → some c ≠ some d := by
      rintro d hd heq
      rw [← Option.some.inj heq, isBlank_eq_false_of_trimChars h] at hd
      cases hd
    rw [isContinuation, List.cons_append, List.head?_cons, Bool.or_eq_false_iff]
    exact ⟨beq_false_of_ne (hne ' ' (by decide)), beq_false_of_ne (hne '\t' (by decide))⟩

/-- A line with a colon adds a field, unless it continues another. -/
theorem addLine_field (fields : List (List Char × List Char))
    (hstart : isContinuation (name ++ ':' :: value) = false) (hcolon : ':' ∉ name) :
    addLine fields (name ++ ':' :: value) = (trimChars name, trimChars value) :: fields := by
  rw [addLine, hstart, if_neg Bool.false_ne_true, splitOnce_append hcolon]

/-- A line that begins with a space or a tab continues the last field. -/
theorem addLine_continuation {mark : Char} (fields : List (List Char × List Char))
    (hmark : mark = ' ' ∨ mark = '\t') (hline : trimChars line = line) :
    addLine ((name, value) :: fields) (mark :: line) = (name, value ++ ' ' :: line) :: fields := by
  have hblank : isBlank mark = true ∧ isContinuation (mark :: line) = true := by
    rcases hmark with rfl | rfl
    · exact ⟨by decide, rfl⟩
    · exact ⟨by decide, rfl⟩
  rw [addLine, hblank.2, if_pos rfl, continueField, trimChars_blank_cons hblank.1, hline]

end

/-! ## Folded fields -/

/-- A text within one line that has no blanks around it. -/
def IsLine (text : String) : Prop :=
  trimChars text.toList = text.toList ∧ '\n' ∉ text.toList ∧ '\r' ∉ text.toList

instance (text : String) : Decidable (IsLine text) :=
  inferInstanceAs (Decidable (_ ∧ _ ∧ _))

/-- **A folded field**: its name, the first line of its value, and the
further lines, each with the blank that it begins with. -/
structure Folded where
  name : String
  first : String
  further : List (Char × String)

namespace Folded

/-- The lines of the value. -/
def lines (f : Folded) : List String := f.first :: f.further.map Prod.snd

/-- The value that the lines fold: they are joined by single spaces. -/
def value (f : Folded) : String := " ".intercalate f.lines

/-- The field as it is written, every line ended. -/
def write (f : Folded) : String :=
  f.name ++ ": " ++ f.first ++ "\n" ++
    String.join (f.further.map fun l => String.singleton l.1 ++ l.2 ++ "\n")

/-- **The fields that can be folded**: a name without a colon, and lines
that begin with a space or a tab. -/
structure WellFormed (f : Folded) : Prop where
  name : IsLine f.name
  noColon : ':' ∉ f.name.toList
  lines : ∀ line ∈ f.lines, IsLine line
  blanks : ∀ l ∈ f.further, l.1 = ' ' ∨ l.1 = '\t'

/-- The lines that are written, without their ends. -/
def writtenLines (f : Folded) : List (List Char) :=
  (f.name.toList ++ ':' :: ' ' :: f.first.toList) ::
    f.further.map fun l => l.1 :: l.2.toList

variable {f : Folded}

theorem toList_write (f : Folded) : f.write.toList = f.writtenLines.flatMap (· ++ ['\n']) := by
  have hcolon : ": ".toList = [':', ' '] := rfl
  have hline : "\n".toList = ['\n'] := rfl
  simp only [write, writtenLines, String.toList_append, String.toList_join, List.flatMap_map,
    String.toList_singleton, List.flatMap_cons, hcolon, hline, List.append_assoc,
    List.cons_append, List.nil_append]

theorem toList_value (f : Folded) :
    f.value.toList = f.first.toList ++ f.further.flatMap fun l => ' ' :: l.2.toList := by
  have hspace : " ".toList = [' '] := rfl
  rw [value, String.toList_intercalate, hspace, lines, List.map_cons, List.map_map]
  generalize f.first.toList = first
  induction f.further generalizing first with
  | nil => rw [List.map_nil, List.intercalate_singleton, List.flatMap_nil, List.append_nil]
  | cons l further ih =>
    rw [List.map_cons, List.intercalate_cons_cons, ih, List.append_assoc, List.singleton_append,
      List.flatMap_cons, List.cons_append]
    rfl

/-- Every written line is one. -/
theorem WellFormed.writtenLines (h : f.WellFormed) :
    ∀ line ∈ f.writtenLines, '\n' ∉ line ∧ '\r' ∉ line := by
  obtain ⟨hfirst, hfurther⟩ := List.forall_mem_cons.1 h.lines
  rw [List.forall_mem_map] at hfurther
  rw [Folded.writtenLines, List.forall_mem_cons, List.forall_mem_map]
  refine ⟨?_, fun l hl => ?_⟩
  · simp only [List.mem_append, List.mem_cons, not_or]
    exact ⟨⟨h.name.2.1, by decide, by decide, hfirst.2.1⟩,
      ⟨h.name.2.2, by decide, by decide, hfirst.2.2⟩⟩
  · obtain ⟨-, hend, hreturn⟩ := hfurther l hl
    rw [List.mem_cons, List.mem_cons, not_or, not_or]
    rcases h.blanks l hl with hmark | hmark
    · rw [hmark]
      exact ⟨⟨by decide, hend⟩, ⟨by decide, hreturn⟩⟩
    · rw [hmark]
      exact ⟨⟨by decide, hend⟩, ⟨by decide, hreturn⟩⟩

end Folded

/-! ## Reading them -/

/-- **Further lines are joined to the value of the last field**, by single
spaces. -/
theorem foldl_addLine_further {further : List (Char × String)}
    (hblanks : ∀ l ∈ further, l.1 = ' ' ∨ l.1 = '\t') (hlines : ∀ l ∈ further, IsLine l.2)
    (fields : List (List Char × List Char)) (name value : List Char) :
    (further.map fun l => l.1 :: l.2.toList).foldl addLine ((name, value) :: fields) =
      (name, value ++ further.flatMap fun l => ' ' :: l.2.toList) :: fields := by
  -- The value grows line by line, so the claim is about any value that is there already.
  induction further generalizing value with
  | nil => rw [List.map_nil, List.foldl_nil, List.flatMap_nil, List.append_nil]
  | cons l further ih =>
    rw [List.forall_mem_cons] at hblanks hlines
    rw [List.map_cons, List.foldl_cons, addLine_continuation fields hblanks.1 hlines.1.1,
      ih hblanks.2 hlines.2, List.append_assoc, List.flatMap_cons]

/-- **A folded field is entered with its whole value**, behind the fields
that were there. -/
theorem foldl_addLine_writtenLines {f : Folded} (h : f.WellFormed)
    (fields : List (List Char × List Char)) :
    f.writtenLines.foldl addLine fields = (f.name.toList, f.value.toList) :: fields := by
  obtain ⟨hfirst, hfurther⟩ := List.forall_mem_cons.1 h.lines
  rw [List.forall_mem_map] at hfurther
  rw [Folded.writtenLines, List.foldl_cons,
    addLine_field fields (isContinuation_eq_false h.name.1 _) h.noColon, h.name.1,
    trimChars_blank_cons (by decide), hfirst.1, foldl_addLine_further h.blanks hfurther,
    Folded.toList_value]

/-- A header block of such fields. -/
def writeFields (fs : List Folded) : String := String.join (fs.map Folded.write)

theorem linesOf_writeFields {fs : List Folded} (h : ∀ f ∈ fs, f.WellFormed) :
    linesOf (writeFields fs).toList = fs.flatMap Folded.writtenLines := by
  have hlines : ∀ line ∈ fs.flatMap Folded.writtenLines, '\n' ∉ line ∧ '\r' ∉ line := by
    intro line hline
    obtain ⟨f, hf, hmem⟩ := List.mem_flatMap.1 hline
    exact (h f hf).writtenLines line hmem
  have hwrite : (writeFields fs).toList =
      (fs.flatMap Folded.writtenLines).flatMap (· ++ ['\n']) := by
    rw [writeFields, String.toList_join, List.flatMap_map, List.flatMap_assoc]
    exact congrArg (fs.flatMap ·) (funext Folded.toList_write)
  rw [hwrite, linesOf_flatMap hlines]

/-- **A block of folded fields is entered field by field.** -/
theorem foldl_addLine_writeFields {fs : List Folded} (h : ∀ f ∈ fs, f.WellFormed)
    (fields : List (List Char × List Char)) :
    (fs.flatMap Folded.writtenLines).foldl addLine fields =
      (fs.map fun f => (f.name.toList, f.value.toList)).reverse ++ fields := by
  induction fs generalizing fields with
  | nil => rfl
  | cons f fs ih =>
    rw [List.forall_mem_cons] at h
    rw [List.flatMap_cons, List.foldl_append, foldl_addLine_writtenLines h.1, ih h.2,
      List.map_cons, List.reverse_cons, List.append_assoc, List.singleton_append]

end Part

/-- A name in another case is the same name. -/
theorem Text.sameName_congr {n m : String} (h : sameName n m = true) (name : String) :
    sameName name n = sameName name m := by
  rw [sameName, beq_iff_eq] at h
  rw [sameName, sameName, h]

/-- **Header fields unfold losslessly.** A block of folded fields is read
into the fields it was written from, in order, each with its lines joined
by single spaces; colons, empty lines and repeated names are no exception.
And in any part a name, in whatever ASCII case, lists the values of all
fields with that name in header order, and finds the first of them. -/
theorem header_fields_unfold :
    (∀ fs : List Part.Folded, (∀ f ∈ fs, f.WellFormed) →
      Part.readFields (Part.writeFields fs).toList = fs.map fun f => (f.name, f.value)) ∧
    ∀ (p : Part) (n m : String), sameName n m = true →
      p.fields n = (p.fieldList.filter fun f => sameName f.1 m).map Prod.snd ∧
        p.field m = (p.fields n).head? := by
  refine ⟨fun fs h => ?_, fun p n m hname => ?_⟩
  · rw [Part.readFields, Part.linesOf_writeFields h, Part.foldl_addLine_writeFields h,
      List.append_nil, List.reverse_reverse, List.map_map]
    refine List.map_congr_left fun f _ => ?_
    rw [Function.comp_apply]
    dsimp only
    rw [String.ofList_toList, String.ofList_toList]
  · have hfields : p.fields n = (p.fieldList.filter fun f => sameName f.1 m).map Prod.snd := by
      rw [Part.fields]
      simp only [sameName_congr hname]
    refine ⟨hfields, ?_⟩
    rw [hfields, List.head?_map, List.head?_filter, Part.field]

/-- Three fields: one with an empty first line and an empty line behind it,
one with colons, and the first again in another case. -/
def notice : List Part.Folded :=
  [⟨"Subject", "", [('\t', "a: b"), (' ', "")]⟩, ⟨"Date", "10:00", []⟩, ⟨"SUBJECT", "c", []⟩]

/-- They come back, and a name in a third case finds the first of the two. -/
theorem notice_unfolds :
    (∀ f ∈ notice, f.WellFormed) ∧ sameName "SuBJECT" "subject" = true ∧
      Part.readFields (Part.writeFields notice).toList =
        [("Subject", " a: b "), ("Date", "10:00"), ("SUBJECT", "c")] ∧
      (Part.mk "" "" [("Subject", " a: b "), ("Date", "10:00"), ("SUBJECT", "c")] []).field
        "subject" = some " a: b " := by
  have hnotice : ∀ f ∈ notice, f.WellFormed := by
    simp only [notice, List.forall_mem_cons]
    exact ⟨⟨by decide, by decide, by decide, by decide⟩,
      ⟨by decide, by decide, by decide, by decide⟩,
      ⟨by decide, by decide, by decide, by decide⟩, nofun⟩
  have hname : sameName "SuBJECT" "subject" = true := by decide
  refine ⟨hnotice, hname, ?_, ?_⟩
  · rw [header_fields_unfold.1 notice hnotice]
    decide
  · rw [(header_fields_unfold.2 _ "SuBJECT" "subject" hname).2]
    decide

end MailFormula
