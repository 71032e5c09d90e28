import MailFormula.Text.Lines
import MailFormula.Text.Ascii
import Mathlib.Data.List.Chain
import Mathlib.Data.List.DropRight
/-!
# Texts put together from lines

What the readers of lines find in a text that was put together: a piece
that ends its last line contributes its own lines and leaves the others
as they are (`inclusiveLines_append`), a line that goes on is the old
line with more behind it (`mem_inclusiveLines_concat`), and every line
but the last is ended (`isChain_inclusiveLines`). Beside it stand the
trims, which see the two ends of a text only, and the cut at the first
occurrence of a mark.
-/

namespace MailFormula.Text

variable {cs before line rest : List Char} {c d mark : Char}

/-! ## Trims -/

theorem dropBlanks_cons (hc : isBlank c = false) : dropBlanks (c :: cs) = c :: cs :=
  List.dropWhile_cons_of_neg (by rw [hc]; exact Bool.false_ne_true)

theorem dropBlanksRight_concat (hc : isBlank c = false) :
    dropBlanksRight (cs ++ [c]) = cs ++ [c] :=
  List.rdropWhile_concat_neg _ _ _ (by rw [hc]; exact Bool.false_ne_true)

theorem dropBlanksRight_concat_blank (hc : isBlank c = true) :
    dropBlanksRight (cs ++ [c]) = dropBlanksRight cs :=
  List.rdropWhile_concat_pos _ _ _ hc

/-- In front of a text whose end is not trimmed, a character is not either
unless it is a blank. -/
theorem dropBlanksRight_cons (hc : isBlank c = false) (h : dropBlanksRight cs = cs) :
    dropBlanksRight (c :: cs) = c :: cs := by
  refine List.rdropWhile_eq_self_iff.2 fun hne => ?_
  cases cs with
  | nil =>
    rw [List.getLast_singleton, hc]
    exact Bool.false_ne_true
  | cons d ds =>
    rw [List.getLast_cons (List.cons_ne_nil d ds)]
    exact List.rdropWhile_eq_self_iff.1 h _

/-- A blank in front is trimmed. -/
theorem trimChars_blank_cons (hc : isBlank c = true) : trimChars (c :: cs) = trimChars cs := by
  rw [trimChars, dropBlanks, List.dropWhile_cons_of_pos hc]
  rfl

/-- Behind a character that is no blank, only the end is trimmed. -/
theorem trimChars_cons (hc : isBlank c = false) :
    trimChars (c :: cs) = dropBlanksRight (c :: cs) := by
  rw [trimChars, dropBlanks_cons hc]

/-- **Nothing is trimmed** between two characters that are no blanks. -/
theorem trimChars_between (hc : isBlank c = false) (hd : isBlank d = false) :
    trimChars (c :: (cs ++ [d])) = c :: (cs ++ [d]) := by
  rw [trimChars_cons hc, ← List.cons_append, dropBlanksRight_concat hd]

/-- A text that the trims leave as it is begins with no blank. -/
theorem isBlank_eq_false_of_trimChars (h : trimChars (c :: cs) = c :: cs) :
    isBlank c = false := by
  by_contra hblank
  rw [Bool.not_eq_false] at hblank
  rw [trimChars_blank_cons hblank] at h
  have hright := length_dropBlanksRight_le (dropBlanks cs)
  have hleft := length_dropBlanks_le cs
  have hlength := congrArg List.length h
  rw [trimChars, List.length_cons] at hlength
  omega

theorem trimChars_eq_self (h : ∀ c ∈ cs, isBlank c = false) : trimChars cs = cs := by
  cases cs with
  | nil => rfl
  | cons c cs =>
    rw [trimChars_cons (h c List.mem_cons_self)]
    refine List.rdropWhile_eq_self_iff.2 fun hne => ?_
    rw [h _ (List.getLast_mem hne)]
    exact Bool.false_ne_true

/-- **The blanks around a text without any are all that is trimmed.** -/
theorem trimChars_append {left right : List Char} (hleft : ∀ c ∈ left, isBlank c = true)
    (hright : ∀ c ∈ right, isBlank c = true) (h : ∀ c ∈ cs, isBlank c = false) :
    trimChars (left ++ (cs ++ right)) = cs := by
  have hstart : dropBlanks (left ++ (cs ++ right)) = dropBlanks (cs ++ right) :=
    List.dropWhile_append_of_pos hleft
  have hend : dropBlanksRight (cs ++ right) = dropBlanksRight cs := by
    rw [dropBlanksRight, List.reverse_append,
      List.dropWhile_append_of_pos fun c hc => hright c (List.mem_reverse.1 hc)]
    rfl
  rw [trimChars, hstart]
  cases cs with
  | nil =>
    rw [List.nil_append, dropBlanks, List.dropWhile_eq_nil_iff.2 hright]
    rfl
  | cons c ds =>
    have hc := h c List.mem_cons_self
    rw [List.cons_append, dropBlanks_cons hc, ← List.cons_append, hend, ← trimChars_cons hc,
      trimChars_eq_self h]

/-- What is no blank is never trimmed. -/
theorem mem_trimChars (hc : isBlank c = false) (h : c ∈ cs) : c ∈ trimChars cs := by
  have hkeep : ∀ {cs : List Char}, c ∈ cs → c ∈ cs.dropWhile isBlank := by
    intro cs h
    rw [← List.takeWhile_append_dropWhile (p := isBlank) (l := cs), List.mem_append] at h
    rcases h with h | h
    · rw [List.mem_takeWhile_imp h] at hc
      cases hc
    · exact h
  rw [trimChars, dropBlanksRight, dropBlanks, List.mem_reverse]
  exact hkeep (List.mem_reverse.2 (hkeep h))

/-- **Only blanks are trimmed**, at the two ends. -/
theorem exists_trimChars (cs : List Char) :
    ∃ left right, cs = left ++ (trimChars cs ++ right) ∧
      (∀ c ∈ left, isBlank c = true) ∧ ∀ c ∈ right, isBlank c = true := by
  refine ⟨cs.takeWhile isBlank, (dropBlanks cs).rtakeWhile isBlank, ?_, ?_, ?_⟩
  · have hright : trimChars cs ++ (dropBlanks cs).rtakeWhile isBlank = dropBlanks cs :=
      List.rdropWhile_append_rtakeWhile
    rw [hright]
    exact List.takeWhile_append_dropWhile.symm
  · exact fun c hc => List.mem_takeWhile_imp hc
  · exact fun c hc => List.mem_rtakeWhile_imp hc

theorem trimChars_eq_nil_iff : trimChars cs = [] ↔ ∀ c ∈ cs, isBlank c = true := by
  constructor
  · intro h
    obtain ⟨left, right, hcs, hleft, hright⟩ := exists_trimChars cs
    rw [h, List.nil_append] at hcs
    intro c hc
    rw [hcs, List.mem_append] at hc
    exact hc.elim (hleft c) (hright c)
  · intro h
    rw [trimChars, dropBlanks, List.dropWhile_eq_nil_iff.2 h]
    rfl

/-- A digit is no blank. -/
theorem isBlank_of_isAsciiDigit {c : Char} (h : isAsciiDigit c = true) : isBlank c = false := by
  have hrange : 48 ≤ c.toNat ∧ c.toNat ≤ 57 := by
    simpa [isAsciiDigit, Char.le_def, UInt32.le_iff_toNat_le] using h
  simp only [isBlank, Bool.or_eq_false_iff, Bool.and_eq_false_iff, decide_eq_false_iff_not,
    beq_eq_false_iff_ne]
  omega

/-! ## Marks -/

theorem all_ne_of_not_mem (h : mark ∉ before) : ∀ c ∈ before, (c != mark) = true :=
  fun _ hc => bne_iff_ne.2 fun heq => h (heq ▸ hc)

theorem takeWhile_ne_append (h : mark ∉ before) :
    (before ++ mark :: rest).takeWhile (· != mark) = before := by
  rw [List.takeWhile_append_of_pos (all_ne_of_not_mem h), List.takeWhile_cons_of_neg (by simp),
    List.append_nil]

theorem dropWhile_ne_append (h : mark ∉ before) :
    (before ++ mark :: rest).dropWhile (· != mark) = mark :: rest := by
  rw [List.dropWhile_append_of_pos (all_ne_of_not_mem h), List.dropWhile_cons_of_neg (by simp)]

/-- A text with a mark in it, cut at the last one. -/
theorem exists_last_of_mem (h : mark ∈ cs) :
    ∃ before after, cs = before ++ mark :: after ∧ mark ∉ after := by
  obtain ⟨after, before, hcs, hafter⟩ := List.eq_append_cons_of_mem (List.mem_reverse.2 h)
  refine ⟨before.reverse, after.reverse, ?_, by rwa [List.mem_reverse]⟩
  rw [← List.reverse_reverse cs, hcs, List.reverse_append, List.reverse_cons, List.append_assoc,
    List.singleton_append]

/-- **The cut is at the first mark.** -/
theorem splitOnce_append (h : mark ∉ before) :
    splitOnce mark (before ++ mark :: rest) = some (before, rest) := by
  rw [splitOnce, dropWhile_ne_append h, takeWhile_ne_append h]

/-! ## Lines -/

theorem dropCarriageReturns_eq_self (h : '\r' ∉ cs) : dropCarriageReturns cs = cs := by
  fun_induction dropCarriageReturns cs with
  | case1 => rfl
  | case2 => rfl
  | case3 c d cs hcd _ =>
    rw [Bool.and_eq_true, beq_iff_eq] at hcd
    exact absurd (hcd.1 ▸ List.mem_cons_self) h
  | case4 c d cs _ ih => rw [ih fun hmem => h (List.mem_cons_of_mem c hmem)]

/-- **A text that ends its last line**, or has none. -/
def EndsLine (cs : List Char) : Prop := cs = [] ∨ ∃ line, cs = line ++ ['\n']

/-- What stands at the end of such a text ends its last line too. -/
theorem EndsLine.of_append (h : EndsLine (before ++ cs)) : EndsLine cs := by
  rcases List.eq_nil_or_concat' cs with rfl | ⟨line, c, rfl⟩
  · exact .inl rfl
  · rcases h with hnil | ⟨line', heq⟩
    · exact absurd hnil (List.append_ne_nil_of_right_ne_nil _ (List.concat_ne_nil _ _))
    · rw [← List.append_assoc] at heq
      obtain ⟨-, hc⟩ := List.append_inj' heq rfl
      exact .inr ⟨line, congrArg (line ++ ·) hc⟩

theorem inclusiveLinesFrom_append (current cs rest : List Char) :
    inclusiveLinesFrom current (cs ++ '\n' :: rest) =
      inclusiveLinesFrom current (cs ++ ['\n']) ++ inclusiveLines rest := by
  induction cs generalizing current with
  | nil => rfl
  | cons c cs ih =>
    rw [List.cons_append, List.cons_append, inclusiveLinesFrom, inclusiveLinesFrom, ih, ih]
    split <;> rfl

/-- **A text that ends its last line** contributes its own lines. -/
theorem inclusiveLines_append (h : EndsLine cs) :
    inclusiveLines (cs ++ rest) = inclusiveLines cs ++ inclusiveLines rest := by
  rcases h with rfl | ⟨line, rfl⟩
  · rfl
  · rw [List.append_assoc]
    exact inclusiveLinesFrom_append [] line rest

theorem inclusiveLinesFrom_line (current : List Char) (h : '\n' ∉ line) :
    inclusiveLinesFrom current (line ++ ['\n']) = [current.reverse ++ (line ++ ['\n'])] := by
  induction line generalizing current with
  | nil => exact congrArg (· :: []) List.reverse_cons
  | cons c line ih =>
    rw [List.mem_cons, not_or] at h
    have hc : (c == '\n') = false := beq_false_of_ne (Ne.symm h.1)
    rw [List.cons_append, inclusiveLinesFrom, hc, if_neg Bool.false_ne_true, ih _ h.2,
      List.reverse_cons, List.append_assoc, List.singleton_append]

/-- **The first line** ends at the first line feed. -/
theorem inclusiveLines_line (h : '\n' ∉ line) :
    inclusiveLines (line ++ '\n' :: rest) = (line ++ ['\n']) :: inclusiveLines rest := by
  rw [inclusiveLines, inclusiveLinesFrom_append, inclusiveLinesFrom_line [] h]
  rfl

theorem inclusiveLinesFrom_last {current : List Char} (h : '\n' ∉ line)
    (hne : current.reverse ++ line ≠ []) :
    inclusiveLinesFrom current line = [current.reverse ++ line] := by
  induction line generalizing current with
  | nil =>
    rw [List.append_nil, List.reverse_ne_nil_iff] at hne
    rw [inclusiveLinesFrom, if_neg (by rwa [List.isEmpty_iff]), List.append_nil]
  | cons c line ih =>
    rw [List.mem_cons, not_or] at h
    have hc : (c == '\n') = false := beq_false_of_ne (Ne.symm h.1)
    have hcons : (c :: current).reverse ++ line = current.reverse ++ c :: line := by
      rw [List.reverse_cons, List.append_assoc, List.singleton_append]
    rw [inclusiveLinesFrom, hc, if_neg Bool.false_ne_true, ih h.2 (by rwa [hcons]), hcons]

/-- One line that the text ends. -/
theorem inclusiveLines_last (h : '\n' ∉ line) (hne : line ≠ []) : inclusiveLines line = [line] :=
  inclusiveLinesFrom_last h hne

theorem mem_inclusiveLinesFrom_concat (current : List Char)
    (h : line ∈ inclusiveLinesFrom current (cs ++ ['\n'])) :
    line = ['\n'] ∨ ∃ line' ∈ inclusiveLinesFrom current cs,
      line = line' ∨ line = line' ++ ['\n'] := by
  induction cs generalizing current with
  | nil =>
    rw [inclusiveLinesFrom_line current List.not_mem_nil, List.mem_singleton, List.nil_append] at h
    subst h
    cases current with
    | nil => exact .inl rfl
    | cons c current => exact .inr ⟨_, List.mem_singleton_self _, .inr rfl⟩
  | cons c cs ih =>
    rw [List.cons_append, inclusiveLinesFrom] at h
    rw [inclusiveLinesFrom]
    split at h
    · rename_i hc
      rw [if_pos hc]
      -- Only what stands behind the last line feed can get longer.
      rcases List.mem_cons.1 h with rfl | h
      · exact .inr ⟨_, List.mem_cons_self, .inl rfl⟩
      · exact (ih _ h).imp_right fun ⟨line', hline', heq⟩ =>
          ⟨line', List.mem_cons_of_mem _ hline', heq⟩
    · rename_i hc
      rw [if_neg hc]
      exact ih _ h

/-- **With a line end behind it**, a text has the lines it had, up to the
blanks that end them, and perhaps an empty one. -/
theorem mem_inclusiveLines_concat (h : line ∈ inclusiveLines (cs ++ ['\n'])) :
    dropBlanksRight line = [] ∨
      ∃ line' ∈ inclusiveLines cs, dropBlanksRight line = dropBlanksRight line' := by
  rcases mem_inclusiveLinesFrom_concat [] h with rfl | ⟨line', hline', rfl | rfl⟩
  · exact .inl rfl
  · exact .inr ⟨line, hline', rfl⟩
  · exact .inr ⟨line', hline', dropBlanksRight_concat_blank rfl⟩

theorem isChain_inclusiveLinesFrom (current cs : List Char) :
    (inclusiveLinesFrom current cs).IsChain fun line _ => ∃ line', line = line' ++ ['\n'] := by
  induction cs generalizing current with
  | nil =>
    rw [inclusiveLinesFrom]
    split
    · exact List.isChain_nil
    · exact List.isChain_singleton _
  | cons c cs ih =>
    rw [inclusiveLinesFrom]
    split
    · rename_i hc
      rw [List.isChain_cons]
      refine ⟨fun _ _ => ⟨current.reverse, ?_⟩, ih []⟩
      rw [List.reverse_cons, beq_iff_eq.1 hc]
    · exact ih (c :: current)

/-- **Every line but the last is ended.** -/
theorem isChain_inclusiveLines (cs : List Char) :
    (inclusiveLines cs).IsChain fun line _ => ∃ line', line = line' ++ ['\n'] :=
  isChain_inclusiveLinesFrom [] cs

/-- A line end is dropped. -/
theorem dropLineEnd_concat (h : '\r' ∉ line) : dropLineEnd (line ++ ['\n']) = line := by
  rw [dropLineEnd, List.reverse_append, List.reverse_singleton, List.singleton_append]
  split
  · rename_i heq
    rw [List.cons.injEq] at heq
    rw [← List.mem_reverse, heq.2] at h
    exact absurd List.mem_cons_self h
  · rename_i heq
    rw [List.cons.injEq] at heq
    rw [← heq.2, List.reverse_reverse]
  · rename_i hne
    exact absurd rfl (hne line.reverse)

/-- **The first line**, without its end. -/
theorem linesOf_line (h : '\n' ∉ line) (hreturn : '\r' ∉ line) :
    linesOf (line ++ '\n' :: rest) = line :: linesOf rest := by
  rw [linesOf, inclusiveLines_line h, List.map_cons, dropLineEnd_concat hreturn, linesOf]

/-- **A text of lines that are all ended** has these lines. -/
theorem linesOf_flatMap {lines : List (List Char)}
    (h : ∀ line ∈ lines, '\n' ∉ line ∧ '\r' ∉ line) :
    linesOf (lines.flatMap (· ++ ['\n'])) = lines := by
  induction lines with
  | nil => rfl
  | cons line lines ih =>
    rw [List.forall_mem_cons] at h
    rw [List.flatMap_cons, List.append_assoc, List.singleton_append,
      linesOf_line h.1.1 h.1.2, ih h.2]

end MailFormula.Text
