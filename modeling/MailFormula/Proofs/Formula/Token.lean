import MailFormula.Formula.Lexeme
/-!
# Tokens, and what stands between them

The pieces of a formula's text, as sets of character lists: the gaps
between two tokens, the bodies of quoted literals, the patterns that a
regular expression literal can hold. Each reader of `Lexeme` is shown to
accept exactly its set, and the two ways of escaping to be undone by the
two ways of reading escapes.
-/

namespace MailFormula.Lexeme

open MailFormula.Text

/-! ## Runs of characters -/

/-- What follows does not go on with a run: it begins with another
character, or the text is at its end. -/
def Ends (isChar : Char → Bool) (rest : List Char) : Prop :=
  ∀ c cs, rest = c :: cs → isChar c = false

/-- **A run is read to where it ends.** -/
theorem takeWhile_run {isChar : Char → Bool} {run rest : List Char}
    (hrun : ∀ c ∈ run, isChar c = true) (hrest : Ends isChar rest) :
    (run ++ rest).takeWhile isChar = run := by
  rw [List.takeWhile_append_of_pos hrun]
  cases rest with
  | nil => exact List.append_nil run
  | cons c cs =>
    rw [List.takeWhile_cons_of_neg (by rw [hrest c cs rfl]; exact Bool.false_ne_true),
      List.append_nil]

/-- And what follows is left. -/
theorem dropWhile_run {isChar : Char → Bool} {run rest : List Char}
    (hrun : ∀ c ∈ run, isChar c = true) (hrest : Ends isChar rest) :
    (run ++ rest).dropWhile isChar = rest := by
  rw [List.dropWhile_append_of_pos hrun]
  cases rest with
  | nil => rfl
  | cons c cs =>
    rw [List.dropWhile_cons_of_neg (by rw [hrest c cs rfl]; exact Bool.false_ne_true)]

theorem mem_takeWhile {isChar : Char → Bool} {cs : List Char} {c : Char}
    (h : c ∈ cs.takeWhile isChar) : isChar c = true := by
  induction cs with
  | nil => cases h
  | cons d ds ih =>
    rw [List.takeWhile_cons] at h
    split at h
    · rename_i hd
      rcases List.mem_cons.1 h with rfl | h'
      · exact hd
      · exact ih h'
    · cases h

/-- A character of a kind is none of the marks that are not. -/
theorem not_mem_of_isChar {isChar : Char → Bool} {marks : List Char} {c : Char}
    (hmarks : marks.all (!isChar ·) = true) (h : isChar c = true) : c ∉ marks := by
  intro hc
  have hnot := List.all_eq_true.1 hmarks c hc
  rw [h] at hnot
  cases hnot

/-- **A run**: one character of a kind, or several. -/
structure IsRun (isChar : Char → Bool) (run : List Char) : Prop where
  ne_nil : run ≠ []
  all : ∀ c ∈ run, isChar c = true

/-- The name of a function: a run of name characters, of which the
first is no digit and no hyphen. -/
structure IsName (name : List Char) : Prop extends IsRun isNameChar name where
  start : ∃ c cs, name = c :: cs ∧ isNameStart c = true

theorem isNameChar_of_isNameStart {c : Char} (h : isNameStart c = true) : isNameChar c = true := by
  rw [isNameStart, Bool.or_eq_true] at h
  rw [isNameChar, isAsciiAlphanumeric]
  rcases h with h | h
  · rw [h, Bool.true_or, Bool.true_or, Bool.true_or]
  · rw [h, Bool.or_true, Bool.true_or]

theorem isRun_takeWhile {isChar : Char → Bool} {c : Char} {cs : List Char}
    (h : isChar c = true) : IsRun isChar ((c :: cs).takeWhile isChar) where
  ne_nil := by rw [List.takeWhile_cons_of_pos h]; exact List.cons_ne_nil _ _
  all := fun _ => mem_takeWhile

theorem isName_takeWhile {c : Char} (cs : List Char) (h : isNameStart c = true) :
    IsName ((c :: cs).takeWhile isNameChar) where
  toIsRun := isRun_takeWhile (isNameChar_of_isNameStart h)
  start := ⟨c, _, List.takeWhile_cons_of_pos (isNameChar_of_isNameStart h), h⟩

/-! ## Gaps -/

/-- **A gap**: blanks, and comments that their line ends. -/
inductive Gap : List Char → Prop
  | nil : Gap []
  | blank {c : Char} {cs : List Char} : isSpace c = true → Gap cs → Gap (c :: cs)
  | comment {body cs : List Char} : '\n' ∉ body → Gap cs → Gap ('#' :: (body ++ '\n' :: cs))

/-- What may stand after a whole formula: a gap, or one with a comment
that the text ends. -/
inductive Trailer : List Char → Prop
  | gap {cs : List Char} : Gap cs → Trailer cs
  | comment {cs body : List Char} : Gap cs → '\n' ∉ body → Trailer (cs ++ '#' :: body)

theorem skipFrom_comment {body cs : List Char} (hbody : '\n' ∉ body) :
    skipFrom true (body ++ '\n' :: cs) = skipFrom false cs := by
  induction body with
  | nil => rfl
  | cons c body ih =>
    rw [List.mem_cons, not_or] at hbody
    rw [List.cons_append, skipFrom, if_pos rfl, bne_iff_ne.2 (Ne.symm hbody.1)]
    exact ih hbody.2

/-- A comment that the text ends leaves nothing. -/
theorem skipFrom_last_comment {body : List Char} (hbody : '\n' ∉ body) :
    skipFrom true body = [] := by
  induction body with
  | nil => rfl
  | cons c body ih =>
    rw [List.mem_cons, not_or] at hbody
    rw [skipFrom, if_pos rfl, bne_iff_ne.2 (Ne.symm hbody.1)]
    exact ih hbody.2

theorem skip_blank {c : Char} {cs : List Char} (hc : isSpace c = true) :
    skip (c :: cs) = skip cs := by
  rw [skip, skipFrom, if_neg Bool.false_ne_true, if_pos hc, skip]

theorem skip_sign (cs : List Char) : skip ('#' :: cs) = skipFrom true cs := rfl

/-- Nothing is skipped before a token. -/
theorem skip_cons {c : Char} {cs : List Char} (hc : isSpace c = false) (hc' : c ≠ '#') :
    skip (c :: cs) = c :: cs := by
  rw [skip, skipFrom, if_neg Bool.false_ne_true, if_neg (by rw [hc]; exact Bool.false_ne_true),
    if_neg (by rw [beq_iff_eq]; exact hc')]

/-- **A gap is skipped.** -/
theorem skip_gap {gap cs : List Char} (h : Gap gap) : skip (gap ++ cs) = skip cs := by
  induction h with
  | nil => rfl
  | blank hc _ ih => rw [List.cons_append, skip_blank hc, ih]
  | comment hbody _ ih =>
    rw [List.cons_append, List.append_assoc, List.cons_append, skip_sign, skipFrom_comment hbody]
    exact ih

/-- **What is skipped is a gap**, and where that is not all, a comment
has taken the rest of the text. -/
theorem skip_cases (cs : List Char) :
    ∃ gap, Gap gap ∧ (cs = gap ++ skip cs ∨
      skip cs = [] ∧ ∃ body, '\n' ∉ body ∧ cs = gap ++ '#' :: body) := by
  -- On the length: a comment is left behind in one step, with its line.
  induction hn : cs.length using Nat.strongRecOn generalizing cs with
  | ind n ih =>
    match cs with
    | [] => exact ⟨[], .nil, .inl rfl⟩
    | c :: cs =>
      rw [List.length_cons] at hn
      by_cases hc : isSpace c = true
      · obtain ⟨gap, hgap, hcs⟩ := ih cs.length (by omega) cs rfl
        rw [skip_blank hc]
        refine ⟨c :: gap, .blank hc hgap, ?_⟩
        rcases hcs with hcs | ⟨hnil, body, hbody, hcs⟩
        · exact .inl (congrArg (c :: ·) hcs)
        · exact .inr ⟨hnil, body, hbody, congrArg (c :: ·) hcs⟩
      by_cases hsign : c = '#'
      · subst hsign
        rw [skip_sign]
        by_cases hline : '\n' ∈ cs
        · obtain ⟨comment, next, rfl, hcomment⟩ := List.eq_append_cons_of_mem hline
          rw [skipFrom_comment hcomment]
          rw [List.length_append, List.length_cons] at hn
          obtain ⟨gap, hgap, hcs⟩ := ih next.length (by omega) next rfl
          refine ⟨_, .comment hcomment hgap, ?_⟩
          rcases hcs with hcs | ⟨hnil, body, hbody, hcs⟩
          · left
            rw [List.cons_append, List.append_assoc, List.cons_append]
            exact congrArg (fun cs => '#' :: (comment ++ '\n' :: cs)) hcs
          · refine .inr ⟨hnil, body, hbody, ?_⟩
            rw [List.cons_append, List.append_assoc, List.cons_append, ← hcs]
        · exact ⟨[], .nil, .inr ⟨skipFrom_last_comment hline, cs, hline, rfl⟩⟩
      · rw [skip_cons (Bool.not_eq_true _ ▸ hc) hsign]
        exact ⟨[], .nil, .inl rfl⟩

/-- **Before a token that is left stands a gap.** -/
theorem exists_gap {cs : List Char} (h : skip cs ≠ []) : ∃ gap, Gap gap ∧ cs = gap ++ skip cs := by
  obtain ⟨gap, hgap, hcs | ⟨hnil, -⟩⟩ := skip_cases cs
  · exact ⟨gap, hgap, hcs⟩
  · exact absurd hnil h

theorem exists_gap_cons {c : Char} {cs rest : List Char} (h : skip cs = c :: rest) :
    ∃ gap, Gap gap ∧ cs = gap ++ c :: rest := by
  obtain ⟨gap, hgap, hcs⟩ := exists_gap (by rw [h]; exact List.cons_ne_nil c rest)
  exact ⟨gap, hgap, by rwa [h] at hcs⟩

/-- **Nothing is left exactly of what may end a text.** -/
theorem skip_eq_nil_iff {cs : List Char} : skip cs = [] ↔ Trailer cs := by
  constructor
  · intro h
    obtain ⟨gap, hgap, hcs | ⟨-, body, hbody, rfl⟩⟩ := skip_cases cs
    · rw [h, List.append_nil] at hcs
      exact hcs ▸ .gap hgap
    · exact .comment hgap hbody
  · intro h
    cases h with
    | gap h =>
      have hskip : skip (cs ++ []) = skip [] := skip_gap h
      rwa [List.append_nil] at hskip
    | comment h hbody => rw [skip_gap h, skip_sign, skipFrom_last_comment hbody]

/-! ## Boundaries

A token that has no closing mark of its own ends where a blank, a
comment or a punctuation mark begins, or with the text. -/

/-- The characters before which a name, a number or the flags of a
regular expression may end. -/
def boundaries : List Char := [' ', '\t', '\r', '\n', '#', '(', ',', ')']

/-- A token may end before this text. -/
def Delimited (rest : List Char) : Prop :=
  ∀ c cs, rest = c :: cs → c ∈ boundaries

theorem delimited_cons {c : Char} {cs : List Char} (h : c ∈ boundaries) :
    Delimited (c :: cs) := by
  intro d ds hd
  obtain ⟨rfl, -⟩ := List.cons.inj hd
  exact h

/-- A run of a kind that has no boundary in it ends there. -/
theorem Delimited.ends {isChar : Char → Bool} {rest : List Char} (h : Delimited rest)
    (hchar : boundaries.all (!isChar ·) = true) : Ends isChar rest := by
  intro c cs hcs
  cases hc : isChar c with
  | false => rfl
  | true => exact absurd (h c cs hcs) (not_mem_of_isChar hchar hc)

theorem mem_boundaries_of_isSpace {c : Char} (h : isSpace c = true) : c ∈ boundaries := by
  simp only [isSpace, Bool.or_eq_true, beq_iff_eq] at h
  rcases h with ((rfl | rfl) | rfl) | rfl <;> decide

theorem delimited_of_gap {gap rest : List Char} (hgap : Gap gap) (hrest : Delimited rest) :
    Delimited (gap ++ rest) := by
  cases hgap with
  | nil => exact hrest
  | blank hc _ => exact delimited_cons (mem_boundaries_of_isSpace hc)
  | comment _ _ => exact delimited_cons (by decide)

theorem delimited_of_trailer {rest : List Char} (h : Trailer rest) : Delimited rest := by
  cases h with
  | gap h =>
    have hend : Delimited (rest ++ []) := delimited_of_gap h nofun
    rwa [List.append_nil] at hend
  | comment h _ => exact delimited_of_gap h (delimited_cons (by decide))

/-! ## Quoted bodies -/

/-- **The body of a quoted literal**: ordinary characters, and pairs of
a backslash with any character. -/
inductive QuotedBody (close : Char) (stops : Char → Bool) : List Char → Prop
  | nil : QuotedBody close stops []
  | plain {c : Char} {cs : List Char} :
      c ≠ close → c ≠ '\\' → stops c = false → QuotedBody close stops cs →
      QuotedBody close stops (c :: cs)
  | escape {c : Char} {cs : List Char} :
      QuotedBody close stops cs → QuotedBody close stops ('\\' :: c :: cs)

/-- **A quoted body is read up to its closing mark.** -/
theorem readQuoted_append {close : Char} {stops : Char → Bool} {body rest : List Char}
    (hclose : close ≠ '\\') (h : QuotedBody close stops body) :
    readQuoted close stops (body ++ close :: rest) = some (body, rest) := by
  induction h with
  | nil => rw [List.nil_append, readQuoted.eq_def]; exact if_pos (beq_self_eq_true close)
  | @plain c body hc hslash hstop _ ih =>
    have hc' : (c == close) = false := beq_false_of_ne hc
    have hslash' : (c == '\\') = false := beq_false_of_ne hslash
    rw [List.cons_append, readQuoted.eq_def]
    simp only [hc', hslash', hstop, Bool.false_eq_true, if_false, ih, Option.map_some]
  | escape _ ih =>
    have hclose' : ('\\' == close) = false := beq_false_of_ne hclose.symm
    rw [List.cons_append, List.cons_append, readQuoted.eq_def]
    simp only [hclose', beq_self_eq_true, Bool.false_eq_true, if_false, if_true, ih,
      Option.map_some]

/-- **Only a quoted body is read.** -/
theorem quotedBody_of_readQuoted {close : Char} {stops : Char → Bool} {cs body rest : List Char}
    (h : readQuoted close stops cs = some (body, rest)) :
    QuotedBody close stops body ∧ cs = body ++ close :: rest := by
  fun_induction readQuoted close stops cs generalizing body with
  | case1 => cases h
  | case2 c cs hc =>
    obtain ⟨rfl, rfl⟩ := Prod.mk.inj (Option.some.inj h)
    exact ⟨.nil, by rw [beq_iff_eq.1 hc, List.nil_append]⟩
  | case3 => cases h
  | case4 c hc hslash d ds ih =>
    obtain ⟨⟨body', rest'⟩, hread, heq⟩ := Option.map_eq_some_iff.1 h
    obtain ⟨rfl, rfl⟩ := Prod.mk.inj heq
    obtain ⟨hbody, rfl⟩ := ih hread
    obtain rfl := beq_iff_eq.1 hslash
    exact ⟨.escape hbody, rfl⟩
  | case5 => cases h
  | case6 c cs hc hslash hstop ih =>
    obtain ⟨⟨body', rest'⟩, hread, heq⟩ := Option.map_eq_some_iff.1 h
    obtain ⟨rfl, rfl⟩ := Prod.mk.inj heq
    obtain ⟨hbody, rfl⟩ := ih hread
    rw [beq_iff_eq] at hc hslash
    rw [Bool.not_eq_true] at hstop
    exact ⟨.plain hc hslash hstop hbody, rfl⟩

/-! ## Escapes -/

/-- What stands for any text between single quotes is a quoted body. -/
theorem quotedBody_escapeString (s : List Char) :
    QuotedBody '\'' (fun _ => false) (escapeString s) := by
  fun_induction escapeString s with
  | case1 => exact .nil
  | case2 _ _ _ ih => exact .escape ih
  | case3 _ _ _ _ ih => exact .escape ih
  | case4 _ _ _ _ _ ih => exact .escape ih
  | case5 _ _ _ _ _ _ ih => exact .escape ih
  | case6 _ _ _ _ _ _ _ ih => exact .escape ih
  | case7 c cs hslash hquote _ _ _ ih =>
    rw [beq_iff_eq] at hslash hquote
    exact .plain hquote hslash rfl ih

/-- **A string's escapes are undone by reading them.** -/
theorem unescapeString_escapeString (s : List Char) : unescapeString (escapeString s) = s := by
  fun_induction escapeString s with
  | case1 => rfl
  | case2 c cs hc ih => rw [beq_iff_eq.1 hc]; exact congrArg _ ih
  | case3 c cs _ hc ih => rw [beq_iff_eq.1 hc]; exact congrArg _ ih
  | case4 c cs _ _ hc ih => rw [beq_iff_eq.1 hc]; exact congrArg _ ih
  | case5 c cs _ _ _ hc ih => rw [beq_iff_eq.1 hc]; exact congrArg _ ih
  | case6 c cs _ _ _ _ hc ih => rw [beq_iff_eq.1 hc]; exact congrArg _ ih
  | case7 c cs hc _ _ _ _ ih =>
    rw [unescapeString.eq_def]
    simp only [hc, Bool.false_eq_true, if_false, ih]

/-- **The patterns that a literal can hold**: characters other than a
backslash and the end of a line, and pairs of a backslash with any
character but a slash. -/
inductive PatternText : List Char → Prop
  | nil : PatternText []
  | plain {c : Char} {cs : List Char} :
      c ≠ '\\' → c ≠ '\n' → PatternText cs → PatternText (c :: cs)
  | escape {c : Char} {cs : List Char} :
      c ≠ '/' → PatternText cs → PatternText ('\\' :: c :: cs)

theorem escapePattern_escape (c : Char) (cs : List Char) :
    escapePattern ('\\' :: c :: cs) = '\\' :: c :: escapePattern cs := by
  rw [escapePattern.eq_def]; rfl

theorem escapePattern_slash (cs : List Char) :
    escapePattern ('/' :: cs) = '\\' :: '/' :: escapePattern cs := by
  rw [escapePattern.eq_def]; rfl

theorem escapePattern_plain {c : Char} (cs : List Char) (hslash : c ≠ '\\') (hc : c ≠ '/') :
    escapePattern (c :: cs) = c :: escapePattern cs := by
  rw [escapePattern.eq_def]
  simp only [beq_false_of_ne hslash, beq_false_of_ne hc, Bool.false_eq_true, if_false]

theorem unescapePattern_slash (cs : List Char) :
    unescapePattern ('\\' :: '/' :: cs) = '/' :: unescapePattern cs := by
  rw [unescapePattern.eq_def]; rfl

theorem unescapePattern_escape {c : Char} (cs : List Char) (hc : c ≠ '/') :
    unescapePattern ('\\' :: c :: cs) = '\\' :: c :: unescapePattern cs := by
  rw [unescapePattern.eq_def]
  simp only [beq_self_eq_true, if_true, beq_false_of_ne hc, Bool.false_eq_true, if_false]

theorem unescapePattern_plain {c : Char} (cs : List Char) (hslash : c ≠ '\\') :
    unescapePattern (c :: cs) = c :: unescapePattern cs := by
  rw [unescapePattern.eq_def]
  simp only [beq_false_of_ne hslash, Bool.false_eq_true, if_false]

/-- A pattern's escaped form is the body of a literal. -/
theorem PatternText.quotedBody {p : List Char} (h : PatternText p) :
    QuotedBody '/' (· == '\n') (escapePattern p) := by
  induction h with
  | nil => exact .nil
  | @plain c p hslash hline _ ih =>
    by_cases hc : c = '/'
    · rw [hc, escapePattern_slash]
      exact .escape ih
    · rw [escapePattern_plain p hslash hc]
      exact .plain hc hslash (beq_false_of_ne hline) ih
  | @escape c p _ _ ih =>
    rw [escapePattern_escape]
    exact .escape ih

/-- **A pattern's escapes are undone by reading them.** -/
theorem PatternText.unescapePattern_escapePattern {p : List Char} (h : PatternText p) :
    unescapePattern (escapePattern p) = p := by
  induction h with
  | nil => rfl
  | @plain c p hslash _ _ ih =>
    by_cases hc : c = '/'
    · rw [hc, escapePattern_slash, unescapePattern_slash, ih]
    · rw [escapePattern_plain p hslash hc, unescapePattern_plain _ hslash, ih]
  | @escape c p hc _ ih => rw [escapePattern_escape, unescapePattern_escape _ hc, ih]

/-- **What the body of a literal stands for is such a pattern.** An
escaped slash becomes a bare one, so no pair keeps a slash. -/
theorem QuotedBody.patternText {body : List Char} (h : QuotedBody '/' (· == '\n') body) :
    PatternText (unescapePattern body) := by
  induction h with
  | nil => exact .nil
  | @plain c body _ hslash hline _ ih =>
    rw [unescapePattern_plain _ hslash]
    exact .plain hslash (ne_of_beq_false hline) ih
  | @escape c body _ ih =>
    by_cases hc : c = '/'
    · rw [hc, unescapePattern_slash]
      exact .plain (by decide) (by decide) ih
    · rw [unescapePattern_escape _ hc]
      exact .escape hc ih

/-! ## Numbers -/

/-- The decimal digits of a number are a run of digits. -/
theorem isRun_toDigits (n : Nat) : IsRun isAsciiDigit (Nat.toDigits 10 n) where
  ne_nil := Nat.toDigits_ne_nil
  all := by
    intro c hc
    have hdigit : c.isDigit = true := Nat.isDigit_of_mem_toDigits (by decide) (by decide) hc
    simpa [Char.isDigit, isAsciiDigit, Char.le_def] using hdigit

/-- **Decimal digits are read back as their number.** -/
theorem decimalValue_toDigits (n : Nat) : decimalValue (Nat.toDigits 10 n) = n := by
  have hcore : Nat.ofDigitChars 10 (Nat.toDigits 10 n) 0 = n := Nat.ofDigitChars_ten_toDigits
  have hstep : (fun sofar c => sofar * 10 + digitValue c) =
      fun (sofar : Nat) (c : Char) => 10 * sofar + (c.toNat - '0'.toNat) := by
    funext sofar c
    rw [digitValue, Nat.mul_comm]
    rfl
  rw [Nat.ofDigitChars_eq_foldl] at hcore
  rw [decimalValue, hstep]
  exact hcore

end MailFormula.Lexeme
