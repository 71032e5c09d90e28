import MailFormula.Proofs.Formula.Grammar
/-!
# Texts that can be completed

A text that breaks off may still be the beginning of a formula.
`Viable` says that it is: something can be put behind it that makes it
grammatical. What is needed for it is known wherever an expression may
stand: the calls that are open have to be closed, and nothing else.
`Awaits` is that knowledge. It holds at the start (`awaits_gap`), and an
argument of a call is another such place (`Awaits.opening`); whatever
expression comes there first, the call can be closed behind it.
-/

namespace MailFormula

open MailFormula.Lexeme MailFormula.Text

namespace Lexeme

theorem Gap.append {gap gap' : List Char} (h : Gap gap) (h' : Gap gap') : Gap (gap ++ gap') := by
  induction h with
  | nil => exact h'
  | blank hc _ ih => exact .blank hc ih
  | comment hbody _ ih =>
    rw [List.cons_append, List.append_assoc, List.cons_append]
    exact .comment hbody ih

/-- The end of a line makes a gap of what may end a text. -/
theorem Trailer.gap_newline {cs : List Char} (h : Trailer cs) : Gap (cs ++ ['\n']) := by
  have hline : Gap ['\n'] := .blank rfl .nil
  cases h with
  | gap h => exact h.append hline
  | comment h hbody =>
    rw [List.append_assoc]
    exact h.append (.comment hbody .nil)

end Lexeme

namespace Draft

/-- **A text of the grammar**: a draft, with a gap before it and nothing
but blanks and comments after it. -/
def Grammatical (text : List Char) : Prop :=
  ∃ gap cs draft rest, text = gap ++ cs ∧ Gap gap ∧ Spelled cs draft rest ∧ Trailer rest

/-- The texts of the grammar are those that are read. -/
theorem grammatical_iff {text : List Char} : Grammatical text ↔ ∃ draft, read text = .ok draft := by
  constructor
  · rintro ⟨gap, cs, draft, rest, h⟩
    exact ⟨draft, read_eq_ok_iff.2 ⟨gap, cs, rest, h⟩⟩
  · rintro ⟨draft, h⟩
    obtain ⟨gap, cs, rest, h⟩ := read_eq_ok_iff.1 h
    exact ⟨gap, cs, draft, rest, h⟩

/-! ## Expressions, whatever follows -/

/-- **The text of an expression**: it is spelled, whatever stands behind. -/
def IsExpression (e : List Char) : Prop := ∀ rest, ∃ draft, Spelled (e ++ rest) draft rest

/-- The text of the arguments of a call, with the closing parenthesis. -/
def IsArgs (a : List Char) : Prop := ∀ rest, ∃ args, SpelledArgs (a ++ rest) args rest

/-- The same of those after the first. -/
def IsMore (m : List Char) : Prop := ∀ rest, ∃ args, SpelledMore (m ++ rest) args rest

variable {name gap gap' body e m b q pre cs rest : List Char}

theorem isExpression_call {a : List Char} (hname : IsName name) (hgap : Gap gap) (ha : IsArgs a) :
    IsExpression ('@' :: (name ++ (gap ++ '(' :: a))) := by
  intro rest
  obtain ⟨args, hargs⟩ := ha rest
  exact ⟨.call name args, by simpa using Spelled.call hname hgap hargs⟩

theorem isMore_close (hgap : Gap gap) : IsMore (gap ++ [')']) := by
  intro rest
  exact ⟨[], by simpa using SpelledMore.close hgap⟩

theorem isMore_comma (hgap : Gap gap) (hgap' : Gap gap') (he : IsExpression e) (hm : IsMore m) :
    IsMore (gap ++ ',' :: (gap' ++ (e ++ m))) := by
  intro rest
  obtain ⟨arg, harg⟩ := he (m ++ rest)
  obtain ⟨args, hargs⟩ := hm rest
  exact ⟨arg :: args, by simpa using SpelledMore.comma hgap hgap' harg hargs⟩

theorem isArgs_none (hgap : Gap gap) : IsArgs (gap ++ [')']) := by
  intro rest
  exact ⟨[], by simpa using SpelledArgs.none hgap⟩

theorem isArgs_some (hgap : Gap gap) (he : IsExpression e) (hm : IsMore m) :
    IsArgs (gap ++ (e ++ m)) := by
  intro rest
  obtain ⟨arg, harg⟩ := he (m ++ rest)
  obtain ⟨args, hargs⟩ := hm rest
  exact ⟨arg :: args, by simpa using SpelledArgs.some hgap harg hargs⟩

mutual
/-- **What is spelled does not depend on what stands behind it.** -/
theorem Spelled.exists_expression : ∀ {cs draft rest}, Spelled cs draft rest →
    ∃ e, cs = e ++ rest ∧ IsExpression e
  | _, _, _, @Spelled.text quote body _ hquote hbody =>
    ⟨quote :: (body ++ [quote]), by simp, fun _ => ⟨_, by simpa using .text hquote hbody⟩⟩
  | _, _, _, .number hdigits => ⟨_, rfl, fun _ => ⟨_, .number hdigits⟩⟩
  | _, _, _, @Spelled.regex body flags _ hbody hflags =>
    ⟨'/' :: (body ++ '/' :: flags), by simp, fun _ => ⟨_, by simpa using .regex hbody hflags⟩⟩
  | _, _, _, .field hname => ⟨_, (List.cons_append ..).symm, fun _ => ⟨_, .field hname⟩⟩
  | _, _, _, .var hname => ⟨_, (List.cons_append ..).symm, fun _ => ⟨_, .var hname⟩⟩
  | _, _, _, .call hname hgap hargs => by
    obtain ⟨a, rfl, ha⟩ := hargs.exists_args
    exact ⟨_, by simp, isExpression_call hname hgap ha⟩

theorem SpelledArgs.exists_args : ∀ {cs args rest}, SpelledArgs cs args rest →
    ∃ a, cs = a ++ rest ∧ IsArgs a
  | _, _, _, .none hgap => ⟨_, by simp, isArgs_none hgap⟩
  | _, _, _, .some hgap harg hmore => by
    obtain ⟨e, rfl, he⟩ := harg.exists_expression
    obtain ⟨m, rfl, hm⟩ := hmore.exists_more
    exact ⟨_, by simp, isArgs_some hgap he hm⟩

theorem SpelledMore.exists_more : ∀ {cs args rest}, SpelledMore cs args rest →
    ∃ m, cs = m ++ rest ∧ IsMore m
  | _, _, _, .close hgap => ⟨_, by simp, isMore_close hgap⟩
  | _, _, _, .comma hgap hgap' harg hmore => by
    obtain ⟨e, rfl, he⟩ := harg.exists_expression
    obtain ⟨m, rfl, hm⟩ := hmore.exists_more
    exact ⟨_, by simp, isMore_comma hgap hgap' he hm⟩
end

/-! ## Places where an expression may stand -/

/-- **A text can be completed** to one of the grammar. -/
def Viable (pre : List Char) : Prop := ∃ suffix, Grammatical (pre ++ suffix)

/-- What comes before a place that can be completed can be completed. -/
theorem Viable.of_append (h : Viable (pre ++ rest)) : Viable pre := by
  obtain ⟨suffix, h⟩ := h
  exact ⟨rest ++ suffix, by rwa [← List.append_assoc]⟩

/-- **An expression is awaited**: whatever expression comes, the same text
completes it. -/
def Awaits (pre : List Char) : Prop :=
  ∃ post, ∀ e, IsExpression e → Grammatical (pre ++ (e ++ post))

/-- The beginning of a call up to behind an argument: arguments may follow,
or the end of the call. -/
def IsOpen (q : List Char) : Prop := ∀ m, IsMore m → IsExpression (q ++ m)

/-- The beginning of a call up to before an argument. -/
def IsOpening (b : List Char) : Prop := ∀ e, IsExpression e → IsOpen (b ++ e)

/-- At the start an expression is awaited. -/
theorem awaits_gap (hgap : Gap gap) : Awaits gap := by
  refine ⟨[], fun e he => ?_⟩
  obtain ⟨draft, hdraft⟩ := he []
  exact ⟨gap, e ++ [], draft, [], rfl, hgap, hdraft, .gap .nil⟩

/-- A call opens with its name and its parenthesis. -/
theorem isOpening_call (hname : IsName name) (hgap : Gap gap) (hgap' : Gap gap') :
    IsOpening ('@' :: (name ++ (gap ++ '(' :: gap'))) := by
  intro e he m hm
  have hcall := isExpression_call hname hgap (isArgs_some hgap' he hm)
  simpa using hcall

/-- And opens again with a comma. -/
theorem IsOpen.comma (hq : IsOpen q) (hgap : Gap gap) (hgap' : Gap gap') :
    IsOpening (q ++ (gap ++ ',' :: gap')) := by
  intro e he m hm
  have hmore := hq _ (isMore_comma hgap hgap' he hm)
  simpa using hmore

/-- **An expression is awaited as an argument**, where the call itself is. -/
theorem Awaits.opening (h : Awaits pre) (hb : IsOpening b) : Awaits (pre ++ b) := by
  obtain ⟨post, hpost⟩ := h
  refine ⟨')' :: post, fun e he => ?_⟩
  have hcall := hpost _ (hb e he [')'] (isMore_close .nil))
  simpa using hcall

/-- Where an expression is awaited, the beginning of one is viable. -/
theorem Awaits.viable_append (h : Awaits pre) (he : IsExpression (b ++ e)) :
    Viable (pre ++ b) := by
  obtain ⟨post, hpost⟩ := h
  exact ⟨e ++ post, by simpa using hpost _ he⟩

theorem Awaits.viable (h : Awaits pre) : Viable pre := by
  have hnumber : IsRun isAsciiDigit ['1'] := ⟨by decide, List.all_eq_true.1 (by decide)⟩
  have hviable : Viable (pre ++ []) := h.viable_append fun _ => ⟨_, .number hnumber⟩
  rwa [List.append_nil] at hviable

/-- The marks after which a name is expected. -/
theorem Awaits.viable_mark (h : Awaits pre) {c : Char} (hc : c ∈ ['@', '%', '$']) :
    Viable (pre ++ [c]) := by
  have hstart : isNameStart 'a' = true := by decide
  have hall : ∀ {isChar : Char → Bool}, isChar 'a' = true → IsRun isChar ['a'] := fun ha =>
    ⟨List.cons_ne_nil _ _, List.forall_mem_singleton.2 ha⟩
  simp only [List.mem_cons, List.not_mem_nil, or_false] at hc
  rcases hc with rfl | rfl | rfl
  · have hname : IsName ['a'] := ⟨hall (by decide), 'a', [], rfl, hstart⟩
    have hcall : IsExpression (['@'] ++ ['a', '(', ')']) :=
      isExpression_call hname .nil (isArgs_none .nil)
    exact h.viable_append hcall
  · have hname : IsRun isNameChar ['a'] := hall (by decide)
    exact h.viable_append fun _ => ⟨_, .field hname⟩
  · have hname : IsRun isVarChar ['a'] := hall (by decide)
    exact h.viable_append fun _ => ⟨_, .var hname⟩

/-- **Where an expression is awaited after any gap**, the place behind
blanks and comments is viable, also when the text ends in a comment. -/
theorem viable_of_skip_eq_nil (hpre : ∀ gap, Gap gap → Awaits (pre ++ gap)) (h : skip cs = []) :
    Viable (pre ++ cs) := by
  have hline := (hpre _ (skip_eq_nil_iff.1 h).gap_newline).viable
  rw [← List.append_assoc] at hline
  exact hline.of_append

end Draft

end MailFormula
