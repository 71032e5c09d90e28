import MailFormula.Formula.Balance
import MailFormula.Proofs.Formula.OpenString
import MailFormula.Proofs.Text.Lines
/-!
# Calls that a text breaks off in

What is typed line by line is taken for a formula once it is complete. The
count of parentheses that decides it knows nothing of formulas, like the
search for open strings beside it. Here both are compared with the grammar:
a text of the grammar is complete, and the beginning of a call is not
before the parenthesis that closes its arguments.

A piece of a formula is `Level` if the count leaves it as it came and never
falls below that on the way. Names, gaps and literals count nothing, and a
pair of parentheses goes up by one and comes back (`Level.parenthesized`);
the rest follows the constructors of the grammar (`Spelled.level`). That
the text is trimmed before makes no difference (`isComplete_iff`).
-/

namespace MailFormula

open MailFormula.Lexeme MailFormula.Text

namespace Lexeme

variable {e e' body before gap rest cs : List Char} {stops : Char → Bool} {close c : Char}
  {state : ScanState} {depth : Int}

/-! ## Pieces and the count -/

/-- **A level piece**: the count leaves it as it came, outside literals and
comments, and does not fall below that within it. -/
structure Level (e : List Char) : Prop where
  passes : ∀ depth rest, balance .plain depth (e ++ rest) = balance .plain depth rest
  floor : ∀ before, before <+: e → ∀ depth, depth ≤ (balance .plain depth before).2

theorem Level.append (h : Level e) (h' : Level e') : Level (e ++ e') where
  passes := by
    intro depth rest
    rw [List.append_assoc, h.passes, h'.passes]
  floor := by
    intro before hbefore depth
    rcases List.prefix_or_prefix_of_prefix hbefore (List.prefix_append e e') with hin | ⟨more, rfl⟩
    · exact h.floor before hin depth
    · rw [h.passes]
      exact h'.floor more ((List.prefix_append_right_inj e).1 hbefore) depth

/-- The marks that the count looks for: those of the search, and the two
parentheses. -/
def countMarks : List Char := '(' :: ')' :: scanMarks

theorem balance_cons (hc : c ∉ countMarks) (depth : Int) (rest : List Char) :
    balance .plain depth (c :: rest) = balance .plain depth rest := by
  simp only [countMarks, scanMarks, List.mem_cons, List.not_mem_nil, or_false, not_or] at hc
  rw [balance.eq_def]
  simp only [beq_iff_eq, hc, Bool.or_eq_true, or_self, if_false]

theorem level_nil : Level [] where
  passes := fun _ _ => rfl
  floor := by
    intro before hbefore depth
    obtain rfl := List.prefix_nil.1 hbefore
    exact Int.le_refl depth

/-- **A character that is no mark is level.** -/
theorem level_char (hc : c ∉ countMarks) : Level [c] where
  passes := balance_cons hc
  floor := by
    intro before hbefore depth
    rcases List.prefix_cons_iff.1 hbefore with rfl | ⟨more, rfl, hmore⟩
    · exact Int.le_refl depth
    · obtain rfl := List.prefix_nil.1 hmore
      rw [balance_cons hc]
      exact Int.le_refl depth

/-- A run of characters of a kind that has no mark. -/
theorem level_run (isChar : Char → Bool) (hmarks : countMarks.all (!isChar ·) = true)
    (h : ∀ c ∈ e, isChar c = true) : Level e := by
  induction e with
  | nil => exact level_nil
  | cons c cs ih =>
    rw [List.forall_mem_cons] at h
    exact (level_char (not_mem_of_isChar hmarks h.1)).append (ih h.2)

/-- Within a line a comment counts nothing. -/
theorem balance_comment (h : '\n' ∉ body) (depth : Int) :
    balance .comment depth body = (.comment, depth) := by
  induction body with
  | nil => rfl
  | cons c cs ih =>
    rw [List.mem_cons, not_or] at h
    rw [balance, if_neg (by rw [beq_iff_eq]; exact Ne.symm h.1), ih h.2]

theorem balance_comment_newline (h : '\n' ∉ body) (depth : Int) (rest : List Char) :
    balance .comment depth (body ++ '\n' :: rest) = balance .plain depth rest := by
  induction body with
  | nil => rfl
  | cons c cs ih =>
    rw [List.mem_cons, not_or] at h
    rw [List.cons_append, balance, if_neg (by rw [beq_iff_eq]; exact Ne.symm h.1), ih h.2]

theorem level_comment (h : '\n' ∉ body) : Level ('#' :: (body ++ ['\n'])) where
  passes := by
    intro depth rest
    have hstart : ∀ cs, balance .plain depth ('#' :: cs) = balance .comment depth cs :=
      fun _ => rfl
    rw [List.cons_append, List.append_assoc, List.singleton_append, hstart,
      balance_comment_newline h]
  floor := by
    intro before hbefore depth
    have hstart : ∀ cs, balance .plain depth ('#' :: cs) = balance .comment depth cs :=
      fun _ => rfl
    rcases List.prefix_cons_iff.1 hbefore with rfl | ⟨more, rfl, hmore⟩
    · exact Int.le_refl depth
    rcases List.prefix_concat_iff.1 hmore with rfl | hmore
    · refine Int.le_of_eq (Eq.symm ?_)
      rw [hstart, balance_comment_newline h]
      rfl
    · refine Int.le_of_eq (Eq.symm ?_)
      rw [hstart, balance_comment fun hmem => h (hmore.subset hmem)]

/-- **Gaps are level.** -/
theorem Gap.level (h : Gap gap) : Level gap := by
  induction h with
  | nil => exact level_nil
  | @blank c cs hc _ ih =>
    have hchar : Level [c] := level_char (not_mem_of_isChar (by decide) hc)
    exact hchar.append ih
  | @comment body cs hbody _ ih =>
    have hsplit : '#' :: (body ++ '\n' :: cs) = '#' :: (body ++ ['\n']) ++ cs := by simp
    rw [hsplit]
    exact (level_comment hbody).append ih

/-! ## Literals -/

/-- **The count goes through a quoted body** to its closing mark. -/
theorem balance_quotedBody (hclose : close ≠ '\\') (h : QuotedBody close stops body)
    (depth : Int) (rest : List Char) :
    balance (.quoted close) depth (body ++ close :: rest) = balance .plain depth rest := by
  induction h with
  | nil =>
    rw [List.nil_append, balance.eq_def]
    simp only [beq_iff_eq, hclose, if_false, if_true]
  | plain hc hslash _ _ ih =>
    rw [List.cons_append, balance.eq_def]
    simp only [beq_iff_eq, hc, hslash, if_false, ih]
  | escape _ ih => exact ih

/-- Nothing is counted within it, wherever it breaks off. -/
theorem balance_prefix_quotedBody (h : QuotedBody close stops body) {read : List Char}
    (hread : read <+: body) (depth : Int) : (balance (.quoted close) depth read).2 = depth := by
  induction h generalizing read with
  | nil =>
    obtain rfl := List.prefix_nil.1 hread
    rfl
  | plain hc hslash _ _ ih =>
    rcases List.prefix_cons_iff.1 hread with rfl | ⟨more, rfl, hmore⟩
    · rfl
    · rw [balance.eq_def]
      simp only [beq_iff_eq, hc, hslash, if_false, ih hmore]
  | @escape c _ _ ih =>
    rcases List.prefix_cons_iff.1 hread with rfl | ⟨pair, rfl, hpair⟩
    · rfl
    rcases List.prefix_cons_iff.1 hpair with rfl | ⟨more, rfl, hmore⟩
    · rfl
    · have hpair : balance (.quoted close) depth ('\\' :: c :: more) =
          balance (.quoted close) depth more := rfl
      rw [hpair, ih hmore]

theorem balance_open (hclose : close ∈ ['\'', '"', '/']) (depth : Int) (cs : List Char) :
    balance .plain depth (close :: cs) = balance (.quoted close) depth cs := by
  simp only [List.mem_cons, List.not_mem_nil, or_false] at hclose
  rcases hclose with rfl | rfl | rfl <;> rfl

/-- **Literals are level**, whatever parentheses stand in them. -/
theorem level_literal (hclose : close ∈ ['\'', '"', '/']) (h : QuotedBody close stops body) :
    Level (close :: (body ++ [close])) where
  passes := by
    intro depth rest
    rw [List.cons_append, List.append_assoc, List.singleton_append, balance_open hclose,
      balance_quotedBody (ne_backslash hclose) h]
  floor := by
    intro before hbefore depth
    rcases List.prefix_cons_iff.1 hbefore with rfl | ⟨read, rfl, hread⟩
    · exact Int.le_refl depth
    rcases List.prefix_concat_iff.1 hread with rfl | hread
    · refine Int.le_of_eq (Eq.symm ?_)
      rw [balance_open hclose, balance_quotedBody (ne_backslash hclose) h]
      rfl
    · refine Int.le_of_eq (Eq.symm ?_)
      rw [balance_open hclose, balance_prefix_quotedBody h hread]

/-! ## Parentheses -/

theorem balance_parenthesis (depth : Int) (rest : List Char) :
    balance .plain depth ('(' :: rest) = balance .plain (depth + 1) rest := rfl

theorem balance_closing (depth : Int) (rest : List Char) :
    balance .plain depth (')' :: rest) = balance .plain (depth - 1) rest := rfl

/-- **A level piece between parentheses is level.** -/
theorem Level.parenthesized (h : Level e) : Level ('(' :: (e ++ [')'])) where
  passes := by
    intro depth rest
    rw [List.cons_append, balance_parenthesis, List.append_assoc, h.passes, List.singleton_append,
      balance_closing, Int.add_sub_cancel]
  floor := by
    intro before hbefore depth
    rcases List.prefix_cons_iff.1 hbefore with rfl | ⟨read, rfl, hread⟩
    · exact Int.le_refl depth
    rcases List.prefix_concat_iff.1 hread with rfl | hread
    · rw [balance_parenthesis, h.passes, balance_closing, Int.add_sub_cancel]
      exact Int.le_refl depth
    · have hwithin := h.floor read hread (depth + 1)
      rw [balance_parenthesis]
      omega

/-! ## Blanks at the ends -/

/-- **The count goes on where it stood.** Only a backslash at the end of the
first piece takes a character of the second with it. -/
theorem exists_balance_append (state : ScanState) (depth : Int) (cs rest : List Char) :
    ∃ more, more <:+ rest ∧ balance state depth (cs ++ rest) =
      balance (balance state depth cs).1 (balance state depth cs).2 more := by
  fun_induction balance state depth cs with
  | case1 => exact ⟨rest, List.suffix_refl rest, rfl⟩
  | case9 close depth c hc =>
    obtain rfl := beq_iff_eq.1 hc
    cases rest with
    | nil => exact ⟨[], List.suffix_refl [], rfl⟩
    | cons d ds => exact ⟨ds, List.suffix_cons d ds, rfl⟩
  | case10 close depth c hc d ds ih =>
    obtain rfl := beq_iff_eq.1 hc
    exact ih
  | _ =>
    -- Every other character is read alike, whatever stands behind it.
    rw [List.cons_append, balance.eq_def]
    simp_all only [Bool.false_eq_true, if_false, if_true]

theorem not_mem_countMarks (hc : isBlank c = true) : c ∉ countMarks :=
  not_mem_of_isChar (by decide) hc

/-- A literal that a scan comes into is closed by the mark that opened it. -/
theorem mem_of_scan_eq_quoted (state : ScanState)
    (hstate : ∀ close, state = .quoted close → close ∈ ['\'', '"', '/'])
    (h : scan state cs = .quoted close) : close ∈ ['\'', '"', '/'] := by
  fun_induction scan state cs with
  | case1 state => exact hstate close h
  | case2 c cs hc ih =>
    refine ih (fun close' hclose => ?_) h
    obtain rfl := ScanState.quoted.inj hclose
    simpa [or_assoc] using hc
  | case3 _ _ _ _ ih => exact ih nofun h
  | case4 _ _ _ _ ih => exact ih nofun h
  | case5 _ _ _ ih => exact ih nofun h
  | case6 _ _ _ ih => exact ih nofun h
  | case7 => exact hstate close h
  | case8 _ _ _ _ _ ih => exact ih hstate h
  | case9 _ _ _ _ _ ih => exact ih nofun h
  | case10 _ _ _ _ _ ih => exact ih hstate h

/-- **Blanks change nothing**: they open no literal and close none, and are
not counted. -/
theorem balance_blanks (h : ∀ c ∈ cs, isBlank c = true)
    (hstate : ∀ close, state = .quoted close → isBlank close = false) (depth : Int) :
    (balance state depth cs).2 = depth ∧
      ∀ close, (balance state depth cs).1 = .quoted close ↔ state = .quoted close := by
  induction cs generalizing state with
  | nil =>
    rw [balance.eq_def]
    exact ⟨rfl, fun _ => Iff.rfl⟩
  | cons c cs ih =>
    rw [List.forall_mem_cons] at h
    cases state with
    | plain =>
      rw [balance_cons (not_mem_countMarks h.1)]
      exact ih h.2 (by simp)
    | comment =>
      rw [balance]
      split
      · obtain ⟨hcount, hopen⟩ := @ih .plain h.2 (by simp)
        exact ⟨hcount, fun close => (hopen close).trans (by simp)⟩
      · exact ih h.2 (by simp)
    | quoted mark =>
      have hslash : c ≠ '\\' := by
        rintro rfl
        exact absurd h.1 (by decide)
      have hmark : c ≠ mark := by
        rintro rfl
        rw [hstate c rfl] at h
        cases h.1
      rw [balance.eq_def]
      simp only [beq_iff_eq, hslash, hmark, if_false]
      exact ih h.2 hstate

/-- The blanks that are trimmed make no difference. -/
theorem balance_trimChars (cs : List Char) :
    (balance .plain 0 cs).2 = (balance .plain 0 (trimChars cs)).2 ∧
      ∀ close, scan .plain cs = .quoted close ↔ scan .plain (trimChars cs) = .quoted close := by
  obtain ⟨left, right, hcs, hleft, hright⟩ := exists_trimChars cs
  have hpass : Level left := level_run isBlank (by decide) hleft
  obtain ⟨more, hmore, hbalance⟩ := exists_balance_append .plain 0 (trimChars cs) right
  have hwhole : balance .plain 0 cs = balance (balance .plain 0 (trimChars cs)).1
      (balance .plain 0 (trimChars cs)).2 more := by
    rw [← hbalance, ← hpass.passes 0 (trimChars cs ++ right), ← hcs]
  have hstate : ∀ close, (balance .plain 0 (trimChars cs)).1 = .quoted close →
      isBlank close = false := by
    intro close hclose
    rw [balance_fst] at hclose
    have hmem : close ∈ ['\'', '"', '/'] :=
      mem_of_scan_eq_quoted .plain (fun _ => nofun) hclose
    simp only [List.mem_cons, List.not_mem_nil, or_false] at hmem
    rcases hmem with rfl | rfl | rfl <;> decide
  obtain ⟨hcount, hopen⟩ := balance_blanks (fun c hc => hright c (hmore.subset hc)) hstate
    (balance .plain 0 (trimChars cs)).2
  refine ⟨by rw [hwhole, hcount], fun close => ?_⟩
  rw [← balance_fst .plain 0 cs, ← balance_fst .plain 0 (trimChars cs), hwhole]
  exact hopen close

/-- **A text is complete** exactly if something is written in it, no literal
is open at its end, and no more parentheses open than close. -/
theorem isComplete_iff : isComplete cs = true ↔
    (∃ c ∈ cs, isBlank c = false) ∧ (∀ close, scan .plain cs ≠ .quoted close) ∧
      (balance .plain 0 cs).2 ≤ 0 := by
  have hwritten : (∃ c ∈ cs, isBlank c = false) ↔ trimChars cs ≠ [] := by
    rw [ne_eq, trimChars_eq_nil_iff]
    simp
  obtain ⟨hcount, hopen⟩ := balance_trimChars cs
  rw [hwritten, hcount, forall_congr' fun close => not_congr (hopen close),
    ← balance_fst .plain 0 (trimChars cs), isComplete]
  cases htrim : trimChars cs with
  | nil => exact iff_of_false Bool.false_ne_true fun h => h.1 rfl
  | cons c rest =>
    dsimp only
    split
    · rename_i close depth hbalance
      refine iff_of_false Bool.false_ne_true fun h => h.2.1 close ?_
      rw [hbalance]
    · rename_i state depth hstate hbalance
      rw [hbalance, decide_eq_true_iff]
      exact ⟨fun h => ⟨List.cons_ne_nil c rest, hstate, h⟩, fun h => h.2.2⟩

/-- **The count stays within the length of the text.** -/
theorem natAbs_balance_le (state : ScanState) (depth : Int) (cs : List Char) :
    ((balance state depth cs).2 - depth).natAbs ≤ cs.length := by
  fun_induction balance state depth cs with
  | case1 => simp
  | _ => simp only [List.length_cons] at *; omega

/-- What may end a text counts nothing and leaves no literal open. -/
theorem Trailer.balance_eq (h : Trailer rest) (depth : Int) :
    (balance .plain depth rest).2 = depth ∧
      ∀ close, (balance .plain depth rest).1 ≠ .quoted close := by
  cases h with
  | gap h =>
    have hend := h.level.passes depth []
    rw [List.append_nil] at hend
    rw [hend]
    exact ⟨rfl, fun _ => nofun⟩
  | comment h hbody =>
    have hsign : ∀ cs, balance .plain depth ('#' :: cs) = balance .comment depth cs :=
      fun _ => rfl
    rw [h.level.passes, hsign, balance_comment hbody]
    exact ⟨rfl, fun _ => nofun⟩

end Lexeme

namespace Draft

variable {gap name cs e m rest opening inside closing read : List Char} {draft : Draft}
  {args : List Draft}

/-! ## Pieces of a formula -/

theorem level_name (hname : IsName name) : Level ('@' :: name) := by
  have hat : Level ['@'] := level_char (by decide)
  exact hat.append (level_run isNameChar (by decide) hname.all)

theorem level_comma : Level [','] := level_char (by decide)

/-- Something is written in an expression. -/
theorem Spelled.exists_not_blank (h : Spelled cs draft rest) : ∃ c ∈ cs, isBlank c = false := by
  cases h with
  | @text quote body rest hquote _ =>
    refine ⟨quote, List.mem_cons_self, ?_⟩
    rcases hquote with rfl | rfl <;> decide
  | @number digits rest hdigits =>
    obtain ⟨c, ds, rfl⟩ := List.exists_cons_of_ne_nil hdigits.ne_nil
    have hdigit : isAsciiDigit c = true := hdigits.all c List.mem_cons_self
    exact ⟨c, List.mem_cons_self, isBlank_of_isAsciiDigit hdigit⟩
  | regex _ _ => exact ⟨_, List.mem_cons_self, by decide⟩
  | field _ => exact ⟨_, List.mem_cons_self, by decide⟩
  | var _ => exact ⟨_, List.mem_cons_self, by decide⟩
  | call _ _ _ => exact ⟨_, List.mem_cons_self, by decide⟩

mutual
/-- **An expression is level.** -/
theorem Spelled.level : ∀ {cs draft rest}, Spelled cs draft rest →
    ∃ e, cs = e ++ rest ∧ Level e
  | _, _, _, @Spelled.text quote body _ hquote hbody =>
    ⟨quote :: (body ++ [quote]), by simp, level_literal (IsQuote.mem hquote) hbody⟩
  | _, _, _, .number hdigits => ⟨_, rfl, level_run isAsciiDigit (by decide) hdigits.all⟩
  | _, _, _, @Spelled.regex body flags _ hbody hflags =>
    ⟨'/' :: (body ++ ['/']) ++ flags, by simp,
      (level_literal (by decide) hbody).append (level_run isFlagChar (by decide) hflags)⟩
  | _, _, _, @Spelled.field name _ hname => by
    have hmark : Level ['%'] := level_char (by decide)
    exact ⟨['%'] ++ name, rfl, hmark.append (level_run isNameChar (by decide) hname.all)⟩
  | _, _, _, @Spelled.var name _ hname => by
    have hmark : Level ['$'] := level_char (by decide)
    exact ⟨['$'] ++ name, rfl, hmark.append (level_run isVarChar (by decide) hname.all)⟩
  | _, _, _, @Spelled.call name gap _ _ _ hname hgap hargs => by
    obtain ⟨inside, rfl, hinside⟩ := hargs.level
    have hhead : Level ('@' :: name ++ gap) := (level_name hname).append hgap.level
    exact ⟨'@' :: name ++ gap ++ '(' :: (inside ++ [')']), by simp,
      hhead.append hinside.parenthesized⟩

/-- What stands between the parentheses of a call is level. -/
theorem SpelledArgs.level : ∀ {cs args rest}, SpelledArgs cs args rest →
    ∃ inside, cs = inside ++ ')' :: rest ∧ Level inside
  | _, _, _, .none hgap => ⟨_, rfl, hgap.level⟩
  | _, _, _, .some hgap harg hmore => by
    obtain ⟨e, rfl, he⟩ := harg.level
    obtain ⟨m, rfl, hm⟩ := hmore.level
    exact ⟨_, by simp, hgap.level.append (he.append hm)⟩

theorem SpelledMore.level : ∀ {cs args rest}, SpelledMore cs args rest →
    ∃ inside, cs = inside ++ ')' :: rest ∧ Level inside
  | _, _, _, .close hgap => ⟨_, rfl, hgap.level⟩
  | _, _, _, @SpelledMore.comma gap gap' _ _ _ _ _ hgap hgap' harg hmore => by
    obtain ⟨e, rfl, he⟩ := harg.level
    obtain ⟨m, rfl, hm⟩ := hmore.level
    exact ⟨gap ++ ([','] ++ (gap' ++ (e ++ m))), by simp,
      hgap.level.append (level_comma.append (hgap'.level.append (he.append hm)))⟩
end

/-- **A call in three pieces**: the text up to the parenthesis that opens its
arguments, what stands between that parenthesis and the one that closes
them, and the text from there on. -/
inductive CallText : List Char → List Char → List Char → Prop
  | call {gap name gap' inside rest : List Char} {args : List Draft} :
      Gap gap → IsName name → Gap gap' → SpelledArgs (inside ++ ')' :: rest) args rest →
      Trailer rest → CallText (gap ++ ('@' :: name ++ (gap' ++ ['(']))) inside (')' :: rest)

/-- **The texts that are read as calls** are those with such pieces. -/
theorem read_eq_call_iff {text : List Char} :
    (∃ name args, Draft.read text = .ok (.call name args)) ↔
      ∃ opening inside closing, text = opening ++ (inside ++ closing) ∧
        CallText opening inside closing := by
  constructor
  · rintro ⟨name, args, hread⟩
    obtain ⟨gap, cs, rest, rfl, hgap, hspelled, htrailer⟩ := read_eq_ok_iff.1 hread
    cases hspelled with
    | call hname hgap' hargs =>
      obtain ⟨inside, rfl, -⟩ := hargs.level
      exact ⟨_, _, _, by simp, .call hgap hname hgap' hargs htrailer⟩
  · rintro ⟨opening, inside, closing, rfl, hcall⟩
    cases hcall with
    | call hgap hname hgap' hargs htrailer =>
      exact ⟨_, _, read_eq_ok_iff.2 ⟨_, _, _, by simp, hgap, .call hname hgap' hargs, htrailer⟩⟩

/-- Behind the opening parenthesis of a call the count is at least one. -/
theorem CallText.balance_pos (h : CallText opening inside closing) (hread : read <+: inside) :
    0 < (balance .plain 0 (opening ++ read)).2 := by
  cases h with
  | @call gap name gap' _ rest args hgap hname hgap' hargs htrailer =>
    obtain ⟨inside', heq, hlevel⟩ := hargs.level
    obtain rfl := List.append_cancel_right heq
    have hhead : Level (gap ++ ('@' :: name ++ gap')) :=
      hgap.level.append ((level_name hname).append hgap'.level)
    have hsplit : gap ++ ('@' :: name ++ (gap' ++ ['('])) ++ read =
        gap ++ ('@' :: name ++ gap') ++ '(' :: read := by simp
    have hwithin := hlevel.floor read hread (0 + 1)
    rw [hsplit, hhead.passes, balance_parenthesis]
    omega

/-- **A text of the grammar is complete.** -/
theorem Grammatical.isComplete_eq_true {text : List Char} (h : Grammatical text) :
    isComplete text = true := by
  obtain ⟨gap, cs, draft, rest, rfl, hgap, hspelled, htrailer⟩ := h
  obtain ⟨c, hc, hblank⟩ := hspelled.exists_not_blank
  obtain ⟨e, rfl, he⟩ := hspelled.level
  obtain ⟨hcount, hclosed⟩ := htrailer.balance_eq 0
  have hwhole : balance .plain 0 (gap ++ (e ++ rest)) = balance .plain 0 rest := by
    rw [hgap.level.passes, he.passes]
  refine isComplete_iff.2 ⟨⟨c, List.mem_append_right gap hc, hblank⟩, ?_, ?_⟩
  · rw [← balance_fst .plain 0, hwhole]
    exact hclosed
  · refine Int.le_of_eq (Eq.symm ?_)
    rw [hwhole, hcount]

/-- **A text that ends behind the opening parenthesis of a call** and before
the closing one is not complete. -/
theorem CallText.isComplete_eq_false (h : CallText opening inside closing)
    (hread : read <+: inside) : isComplete (opening ++ read) = false := by
  rw [Bool.eq_false_iff, ne_eq, isComplete_iff]
  rintro ⟨-, -, hcount⟩
  have hpos := h.balance_pos hread
  omega

/-- **A text with an open string** is not complete. -/
theorem isComplete_of_hasOpenString {text : List Char} (h : hasOpenString text = true) :
    isComplete text = false := by
  rw [Bool.eq_false_iff, ne_eq, isComplete_iff]
  rintro ⟨-, hclosed, -⟩
  rw [hasOpenString] at h
  split at h
  · rename_i close hscan
    exact hclosed close hscan
  · cases h

end Draft

/-- **A cut inside a call**: the text is one of a call, and the cut falls
behind the parenthesis that opens its arguments and before the one that
closes them. -/
def Formula.CutsCall (before after : String) : Prop :=
  ∃ opening read more closing, before.toList = opening ++ read ∧ after.toList = more ++ closing ∧
    Draft.CallText opening (read ++ more) closing

/-- What is cut is a text of the grammar. -/
theorem Formula.CutsCall.grammatical {before after : String} (h : Formula.CutsCall before after) :
    Formula.Grammatical (before ++ after) := by
  obtain ⟨opening, read, more, closing, hbefore, hafter, hcall⟩ := h
  have htext : (before ++ after).toList = opening ++ (read ++ more ++ closing) := by
    rw [String.toList_append, hbefore, hafter]
    simp
  obtain ⟨name, args, hread⟩ := Draft.read_eq_call_iff.2 ⟨_, _, _, htext, hcall⟩
  exact Draft.grammatical_iff.2 ⟨_, hread⟩

/-- **What is typed is taken when it is finished, and not before.** Every text
of the grammar is complete. A text of a call that is cut anywhere between its
outermost parentheses is not, and neither is any text with an open string.
Nowhere on the way is the count of parentheses larger than the number of
characters that were read, so 32 bits hold it in every text of fewer than
`2 ^ 31` characters. -/
theorem completeness_follows_grammar :
    (∀ text, Formula.Grammatical text → isComplete text.toList = true) ∧
    (∀ before after, Formula.CutsCall before after → isComplete before.toList = false) ∧
    (∀ text : String, hasOpenString text.toList = true → isComplete text.toList = false) ∧
    ∀ read : List Char, (Lexeme.balance .plain 0 read).2.natAbs ≤ read.length := by
  refine ⟨fun text h => h.isComplete_eq_true, fun before after h => ?_,
    fun text => Draft.isComplete_of_hasOpenString, fun read => ?_⟩
  · obtain ⟨opening, read, more, closing, hbefore, -, hcall⟩ := h
    rw [hbefore]
    exact hcall.isComplete_eq_false (List.prefix_append read more)
  · rw [← Int.sub_zero (Lexeme.balance .plain 0 read).2]
    exact Lexeme.natAbs_balance_le .plain 0 read

/-- A call with parentheses in a string, in a pattern and in a comment, cut
inside the comment; and the same text cut inside the string. -/
theorem guarded_parentheses_wait :
    Formula.Grammatical "@F(')', /\\(/ # )\n, 1)" ∧
    isComplete "@F(')', /\\(/ # )\n, 1)".toList = true ∧
    Formula.CutsCall "@F(')', /\\(/ # )" "\n, 1)" ∧
    isComplete "@F(')', /\\(/ # )".toList = false ∧
    hasOpenString "@F(')".toList = true ∧ isComplete "@F(')".toList = false := by
  have hname : IsName ['F'] :=
    ⟨⟨by decide, List.all_eq_true.1 (by decide)⟩, 'F', _, rfl, by decide⟩
  have hstring : QuotedBody '\'' (fun _ => false) [')'] :=
    .plain (by decide) (by decide) rfl .nil
  have hpattern : QuotedBody '/' (· == '\n') ['\\', '('] := .escape .nil
  have hflags : ∀ c ∈ ([] : List Char), isFlagChar c = true := nofun
  have hdigits : IsRun isAsciiDigit ['1'] := ⟨by decide, List.all_eq_true.1 (by decide)⟩
  have hspace : Gap [' '] := .blank (by decide) .nil
  have hbody : '\n' ∉ [' ', ')'] := by decide
  have hremark : Gap [' ', '#', ' ', ')', '\n'] := .blank (by decide) (.comment hbody .nil)
  have hargs : Draft.SpelledArgs
      ['\'', ')', '\'', ',', ' ', '/', '\\', '(', '/', ' ', '#', ' ', ')', '\n', ',', ' ', '1', ')']
      [.text [')'], .regex ['\\', '('] [] [' ', '#', ' ', ')', '\n', ',', ' ', '1', ')'],
        .number ['1'] [')']] [] :=
    .some .nil (.text (.inl rfl) hstring) <|
      .comma .nil hspace (.regex hpattern hflags) <|
      .comma hremark hspace (.number hdigits) <| .close .nil
  have hcut : Formula.CutsCall "@F(')', /\\(/ # )" "\n, 1)" :=
    ⟨['@', 'F', '('], ['\'', ')', '\'', ',', ' ', '/', '\\', '(', '/', ' ', '#', ' ', ')'],
      ['\n', ',', ' ', '1'], [')'], by decide, by decide,
      .call .nil hname .nil hargs (.gap .nil)⟩
  have htext : "@F(')', /\\(/ # )" ++ "\n, 1)" = "@F(')', /\\(/ # )\n, 1)" := by decide
  have hgrammatical : Formula.Grammatical "@F(')', /\\(/ # )\n, 1)" := htext ▸ hcut.grammatical
  have hopen : hasOpenString "@F(')".toList = true := by decide +kernel
  exact ⟨hgrammatical, completeness_follows_grammar.1 _ hgrammatical, hcut,
    completeness_follows_grammar.2.1 _ _ hcut, hopen, completeness_follows_grammar.2.2.1 _ hopen⟩

end MailFormula
