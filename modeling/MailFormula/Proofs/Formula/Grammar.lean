import MailFormula.Formula.Draft
import MailFormula.Proofs.Formula.Token
/-!
# The grammar of drafts

Which texts are drafts, said without a reader. `Spelled cs draft rest`
derives the draft at the start of `cs` and leaves `rest`; gaps stand
before and after the punctuation of a call and nowhere else inside it.
The two halves of the agreement with `readOne` are proved separately:
what is read is derived (`spelled_of_readOne`), and what is derived in
front of a boundary is read (`Spelled.readOne_eq`). A whole text is then
read exactly when the grammar derives it (`read_eq_ok_iff`).
-/

namespace MailFormula.Draft

open MailFormula.Lexeme MailFormula.Text

mutual
/-- **The grammar.** The first text begins with the draft and goes on
with the second. -/
inductive Spelled : List Char → Draft → List Char → Prop
  | text {quote : Char} {body rest : List Char} :
      quote = '\'' ∨ quote = '"' → QuotedBody quote (fun _ => false) body →
      Spelled (quote :: (body ++ quote :: rest)) (.text body) rest
  | number {digits rest : List Char} :
      IsRun isAsciiDigit digits → Spelled (digits ++ rest) (.number digits rest) rest
  | regex {body flags rest : List Char} :
      QuotedBody '/' (· == '\n') body → (∀ c ∈ flags, isFlagChar c = true) →
      Spelled ('/' :: (body ++ '/' :: (flags ++ rest))) (.regex body flags rest) rest
  | field {name rest : List Char} :
      IsRun isNameChar name → Spelled ('%' :: (name ++ rest)) (.field name) rest
  | var {name rest : List Char} :
      IsRun isVarChar name → Spelled ('$' :: (name ++ rest)) (.var name) rest
  | call {name gap cs rest : List Char} {args : List Draft} :
      IsName name → Gap gap → SpelledArgs cs args rest →
      Spelled ('@' :: (name ++ (gap ++ '(' :: cs))) (.call name args) rest

/-- The arguments of a call, from after its opening parenthesis to after
its closing one. -/
inductive SpelledArgs : List Char → List Draft → List Char → Prop
  | none {gap rest : List Char} : Gap gap → SpelledArgs (gap ++ ')' :: rest) [] rest
  | some {gap cs after rest : List Char} {arg : Draft} {args : List Draft} :
      Gap gap → Spelled cs arg after → SpelledMore after args rest →
      SpelledArgs (gap ++ cs) (arg :: args) rest

/-- The arguments after the first. -/
inductive SpelledMore : List Char → List Draft → List Char → Prop
  | close {gap rest : List Char} : Gap gap → SpelledMore (gap ++ ')' :: rest) [] rest
  | comma {gap gap' cs after rest : List Char} {arg : Draft} {args : List Draft} :
      Gap gap → Gap gap' → Spelled cs arg after → SpelledMore after args rest →
      SpelledMore (gap ++ ',' :: (gap' ++ cs)) (arg :: args) rest
end

mutual
/-- **A draft takes at least one character.** -/
theorem Spelled.length_lt : ∀ {cs draft rest}, Spelled cs draft rest → rest.length < cs.length
  | _, _, _, .text _ _ => by
    rw [List.length_cons, List.length_append, List.length_cons]
    omega
  | _, _, _, .number h => by
    have hdigits := List.length_pos_iff.2 h.ne_nil
    rw [List.length_append]
    omega
  | _, _, _, .regex _ _ => by
    rw [List.length_cons, List.length_append, List.length_cons, List.length_append]
    omega
  | _, _, _, .field _ => by
    rw [List.length_cons, List.length_append]
    omega
  | _, _, _, .var _ => by
    rw [List.length_cons, List.length_append]
    omega
  | _, _, _, .call _ _ hargs => by
    have hrest := hargs.length_lt
    rw [List.length_cons, List.length_append, List.length_append, List.length_cons]
    omega

theorem SpelledArgs.length_lt :
    ∀ {cs args rest}, SpelledArgs cs args rest → rest.length < cs.length
  | _, _, _, .none _ => by
    rw [List.length_append, List.length_cons]
    omega
  | _, _, _, .some _ harg hmore => by
    have hafter := harg.length_lt
    have hrest := hmore.length_lt
    rw [List.length_append]
    omega

theorem SpelledMore.length_lt :
    ∀ {cs args rest}, SpelledMore cs args rest → rest.length < cs.length
  | _, _, _, .close _ => by
    rw [List.length_append, List.length_cons]
    omega
  | _, _, _, .comma _ _ harg hmore => by
    have hafter := harg.length_lt
    have hrest := hmore.length_lt
    rw [List.length_append, List.length_cons, List.length_append]
    omega
end

theorem Spelled.ne_nil {cs rest : List Char} {draft : Draft} (h : Spelled cs draft rest) :
    cs ≠ [] := List.ne_nil_of_length_pos (Nat.zero_lt_of_lt h.length_lt)

/-! ## What is read is derived -/

theorem isRun_of_readName {isChar : Char → Bool} {cs name rest : List Char}
    (h : readName isChar cs = some (name, rest)) : IsRun isChar name ∧ cs = name ++ rest := by
  rw [readName] at h
  split at h
  · cases h
  · rename_i hne
    obtain ⟨rfl, rfl⟩ := Prod.mk.inj (Option.some.inj h)
    exact ⟨⟨hne, fun c => mem_takeWhile⟩, List.takeWhile_append_dropWhile.symm⟩

section

variable {one : List Char → Reading Draft}

/-- **The arguments that are read are derived**, where each single one
is. The ones read before are carried in front, in reverse. -/
theorem spelledMore_of_readMore
    (hone : ∀ {cs draft rest}, (one cs).result = some (draft, rest) → Spelled cs draft rest)
    {rounds : Nat} {done args : List Draft} {notes : Notes} {cs rest : List Char}
    (h : (readMore one rounds done notes cs).result = some (args, rest)) :
    ∃ more, args = done.reverse ++ more ∧ SpelledMore cs more rest := by
  induction rounds generalizing done notes cs with
  | zero => cases h
  | succ rounds ih =>
    rw [readMore] at h
    split at h
    · rename_i after hskip
      obtain ⟨gap, hgap, hcs⟩ := exists_gap_cons hskip
      dsimp only at h
      split at h
      · rename_i arg after' harg
        have hspelled := hone harg
        obtain ⟨gap', hgap', hafter⟩ := exists_gap hspelled.ne_nil
        obtain ⟨more, rfl, hmore⟩ := ih h
        refine ⟨arg :: more, ?_, ?_⟩
        -- The argument moves from the end of what is done to the front of what follows.
        · rw [List.reverse_cons, List.append_assoc]
          rfl
        · rw [hcs, hafter]
          exact .comma hgap hgap' hspelled hmore
      · cases h
    · rename_i after hskip
      obtain ⟨gap, hgap, hcs⟩ := exists_gap_cons hskip
      obtain ⟨rfl, rfl⟩ := Prod.mk.inj (Option.some.inj h)
      exact ⟨[], (List.append_nil _).symm, hcs ▸ .close hgap⟩
    · cases h

theorem spelledArgs_of_readArgs
    (hone : ∀ {cs draft rest}, (one cs).result = some (draft, rest) → Spelled cs draft rest)
    {rounds : Nat} {args : List Draft} {cs rest : List Char}
    (h : (readArgs one rounds cs).result = some (args, rest)) : SpelledArgs cs args rest := by
  rw [readArgs] at h
  split at h
  · rename_i arg after harg
    have hspelled := hone harg
    obtain ⟨gap, hgap, hcs⟩ := exists_gap hspelled.ne_nil
    obtain ⟨more, rfl, hmore⟩ := spelledMore_of_readMore hone h
    rw [hcs]
    exact .some hgap hspelled hmore
  · split at h
    · rename_i after hskip
      obtain ⟨gap, hgap, hcs⟩ := exists_gap_cons hskip
      obtain ⟨rfl, rfl⟩ := Prod.mk.inj (Option.some.inj h)
      rw [hcs]
      exact .none hgap
    · cases h

end

/-- **What is read is derived.** -/
theorem spelled_of_readOne {rounds levels : Nat} {cs rest : List Char} {draft : Draft}
    (h : (readOne rounds levels cs).result = some (draft, rest)) : Spelled cs draft rest := by
  induction levels using Nat.strongRecOn generalizing cs draft rest with
  | ind levels ih =>
    -- Only a call reads on with other levels, and it has one fewer.
    revert h
    fun_cases readOne rounds levels cs with
    | case3 c hc d tail hd levels inner args args' after hargs hskip =>
      intro h
      have hread : (readArgs (readOne rounds levels) rounds inner).result = some (args', after) :=
        hargs
      simp only [hskip, hread] at h
      obtain ⟨rfl, rfl⟩ := Prod.mk.inj (Option.some.inj h)
      have hspelled := spelledArgs_of_readArgs (ih levels (Nat.lt_succ_self levels)) hargs
      obtain ⟨gap, hgap, hrest⟩ := exists_gap_cons hskip
      have hcall := Spelled.call (isName_takeWhile tail hd) hgap hspelled
      rw [← hrest, List.takeWhile_append_dropWhile] at hcall
      exact beq_iff_eq.1 hc ▸ hcall
    | case4 c hc d tail hd levels inner args hargs hskip =>
      intro h
      have hread : (readArgs (readOne rounds levels) rounds inner).result = none := hargs
      simp only [hskip, hread] at h
      cases h
    | case5 c hc d tail hd levels hskip =>
      intro h
      dsimp only at h
      -- No parenthesis follows the name.
      split at h
      · rename_i inner hinner
        exact absurd hinner (hskip inner)
      · cases h
    | case8 levels c tail _ hc name after hread =>
      intro h
      obtain ⟨rfl, rfl⟩ := Prod.mk.inj (Option.some.inj h)
      obtain ⟨hname, rfl⟩ := isRun_of_readName hread
      exact beq_iff_eq.1 hc ▸ .field hname
    | case10 levels c tail _ _ hc name after hread =>
      intro h
      obtain ⟨rfl, rfl⟩ := Prod.mk.inj (Option.some.inj h)
      obtain ⟨hname, rfl⟩ := isRun_of_readName hread
      exact beq_iff_eq.1 hc ▸ .var hname
    | case12 levels c tail _ _ _ hc body after hread =>
      intro h
      obtain ⟨rfl, rfl⟩ := Prod.mk.inj (Option.some.inj h)
      obtain ⟨hbody, rfl⟩ := quotedBody_of_readQuoted hread
      rw [Bool.or_eq_true, beq_iff_eq, beq_iff_eq] at hc
      exact .text hc hbody
    | case14 levels c tail _ _ _ _ hc body after hread =>
      intro h
      obtain ⟨rfl, rfl⟩ := Prod.mk.inj (Option.some.inj h)
      obtain ⟨hbody, rfl⟩ := quotedBody_of_readQuoted hread
      have hregex : Spelled ('/' :: (body ++ '/' ::
            (after.takeWhile isFlagChar ++ after.dropWhile isFlagChar))) _ _ :=
        .regex hbody fun _ => mem_takeWhile
      rw [List.takeWhile_append_dropWhile] at hregex
      exact beq_iff_eq.1 hc ▸ hregex
    | case16 levels c tail _ _ _ _ _ hc =>
      intro h
      obtain ⟨rfl, rfl⟩ := Prod.mk.inj (Option.some.inj h)
      have hdigits : IsRun isAsciiDigit ((c :: tail).takeWhile isAsciiDigit) :=
        isRun_takeWhile hc
      have hnumber : Spelled
          ((c :: tail).takeWhile isAsciiDigit ++ (c :: tail).dropWhile isAsciiDigit) _ _ :=
        .number hdigits
      rwa [List.takeWhile_append_dropWhile] at hnumber
    | _ => exact nofun

/-! ## What is derived is read -/

theorem readName_append {isChar : Char → Bool} {name rest : List Char} (h : IsRun isChar name)
    (hrest : Ends isChar rest) : readName isChar (name ++ rest) = some (name, rest) := by
  rw [readName, takeWhile_run h.all hrest, dropWhile_run h.all hrest]
  obtain ⟨c, cs, rfl⟩ := List.exists_cons_of_ne_nil h.ne_nil
  rfl

/-- Nothing stands to be skipped before a draft. -/
theorem Spelled.skip_eq {cs rest : List Char} {draft : Draft} (h : Spelled cs draft rest) :
    skip cs = cs := by
  cases h with
  | text hquote _ => rcases hquote with rfl | rfl <;> rfl
  | @number digits _ h =>
    obtain ⟨c, ds, rfl⟩ := List.exists_cons_of_ne_nil h.ne_nil
    have hdigit : isAsciiDigit c = true := h.all c List.mem_cons_self
    have hc : c ∉ boundaries := not_mem_of_isChar (by decide) hdigit
    rw [List.cons_append, skip_cons]
    · exact Bool.not_eq_true _ ▸ fun hspace => hc (mem_boundaries_of_isSpace hspace)
    · exact fun hsign => hc (hsign ▸ by decide)
  | regex _ _ => rfl
  | field _ => rfl
  | var _ => rfl
  | call _ _ _ => rfl

theorem SpelledMore.delimited {cs rest : List Char} {args : List Draft}
    (h : SpelledMore cs args rest) : Delimited cs := by
  cases h with
  | close hgap => exact delimited_of_gap hgap (delimited_cons (by decide))
  | comma hgap _ _ _ => exact delimited_of_gap hgap (delimited_cons (by decide))

section

variable {rounds levels : Nat}

theorem readOne_text {quote : Char} {cs body rest : List Char} (hquote : quote = '\'' ∨ quote = '"')
    (h : readString quote cs = some (body, rest)) :
    (readOne rounds levels (quote :: cs)).result = some (.text body, rest) := by
  rcases hquote with rfl | rfl <;> (rw [readOne.eq_def]; simp [h])

theorem readOne_field {cs name rest : List Char} (h : readName isNameChar cs = some (name, rest)) :
    (readOne rounds levels ('%' :: cs)).result = some (.field name, rest) := by
  rw [readOne.eq_def]; simp [h]

theorem readOne_var {cs name rest : List Char} (h : readName isVarChar cs = some (name, rest)) :
    (readOne rounds levels ('$' :: cs)).result = some (.var name, rest) := by
  rw [readOne.eq_def]; simp [h]

theorem readOne_regex {cs body flags rest : List Char}
    (h : readPattern cs = some (body, flags ++ rest)) (hflags : ∀ c ∈ flags, isFlagChar c = true)
    (hrest : Ends isFlagChar rest) :
    (readOne rounds levels ('/' :: cs)).result = some (.regex body flags rest, rest) := by
  rw [readOne.eq_def]
  simp [h, takeWhile_run hflags hrest, dropWhile_run hflags hrest]

theorem readOne_number {digits rest : List Char} (h : IsRun isAsciiDigit digits)
    (hrest : Ends isAsciiDigit rest) :
    (readOne rounds levels (digits ++ rest)).result = some (.number digits rest, rest) := by
  have htake := takeWhile_run h.all hrest
  have hdrop := dropWhile_run h.all hrest
  obtain ⟨c, cs, rfl⟩ := List.exists_cons_of_ne_nil h.ne_nil
  have hdigit : isAsciiDigit c = true := h.all c List.mem_cons_self
  -- A digit is none of the marks that are looked for first.
  have hc : c ∉ ['@', '%', '$', '\'', '"', '/'] := not_mem_of_isChar (by decide) hdigit
  simp only [List.mem_cons, List.not_mem_nil, or_false, not_or] at hc
  rw [List.cons_append] at htake hdrop ⊢
  rw [readOne.eq_def]
  simp only [hc, beq_iff_eq, hdigit, htake, hdrop, Bool.or_eq_true, or_self, if_false, if_true]

theorem readOne_call {name gap inner rest : List Char} {args : List Draft} (hname : IsName name)
    (hgap : Gap gap)
    (hargs : (readArgs (readOne rounds levels) rounds inner).result = some (args, rest)) :
    (readOne rounds (levels + 1) ('@' :: (name ++ (gap ++ '(' :: inner)))).result =
      some (.call name args, rest) := by
  have hends : Ends isNameChar (gap ++ '(' :: inner) :=
    (delimited_of_gap hgap (delimited_cons (by decide))).ends (by decide)
  have htake := takeWhile_run hname.all hends
  have hdrop := dropWhile_run hname.all hends
  have hskip : skip (gap ++ '(' :: inner) = '(' :: inner := skip_gap hgap
  obtain ⟨c, cs, rfl, hc⟩ := hname.start
  rw [List.cons_append] at htake hdrop ⊢
  rw [readOne.eq_def]
  simp [hc, htake, hdrop, hskip, hargs]

theorem readOne_close (rounds levels : Nat) (cs : List Char) :
    (readOne rounds levels (')' :: cs)).result = none := by
  rw [readOne.eq_def]
  rfl

end

section

variable {one : List Char → Reading Draft} {rounds : Nat} {done : List Draft} {notes : Notes}
variable {cs inner after rest : List Char} {arg : Draft}

theorem readArgs_close (h : skip cs = ')' :: rest) (hone : (one (')' :: rest)).result = none) :
    (readArgs one rounds cs).result = some ([], rest) := by
  simp only [readArgs, h, hone]

theorem readArgs_first (h : (one (skip cs)).result = some (arg, after)) :
    readArgs one rounds cs = readMore one rounds [arg] (one (skip cs)).notes after := by
  simp only [readArgs, h]

theorem readMore_close (h : skip cs = ')' :: rest) :
    (readMore one (rounds + 1) done notes cs).result = some (done.reverse, rest) := by
  simp only [readMore, h]

theorem readMore_comma (h : skip cs = ',' :: inner)
    (hone : (one (skip inner)).result = some (arg, after)) :
    readMore one (rounds + 1) done notes cs =
      readMore one rounds (arg :: done) (one (skip inner)).notes after := by
  simp only [readMore, h, hone]

end

mutual
/-- **What is derived in front of a boundary is read**, where the levels
and the rounds are as many as the characters. -/
theorem Spelled.readOne_eq : ∀ {cs draft rest}, Spelled cs draft rest → Delimited rest →
    ∀ rounds levels, cs.length ≤ levels → cs.length ≤ rounds →
    (readOne rounds levels cs).result = some (draft, rest)
  | _, _, _, .text hquote hbody, _, _, _, _, _ => by
    refine readOne_text hquote (readQuoted_append ?_ hbody)
    rcases hquote with rfl | rfl <;> decide
  | _, _, _, .number h, hrest, _, _, _, _ => readOne_number h (hrest.ends (by decide))
  | _, _, _, .regex hbody hflags, hrest, _, _, _, _ =>
    readOne_regex (readQuoted_append (by decide) hbody) hflags (hrest.ends (by decide))
  | _, _, _, .field h, hrest, _, _, _, _ =>
    readOne_field (readName_append h (hrest.ends (by decide)))
  | _, _, _, .var h, hrest, _, _, _, _ =>
    readOne_var (readName_append h (hrest.ends (by decide)))
  | _, _, _, .call hname hgap hargs, _, rounds, levels, hlevels, hrounds => by
    rw [List.length_cons, List.length_append, List.length_append, List.length_cons]
      at hlevels hrounds
    -- The text has a character, so there is a level for the call.
    obtain ⟨levels, rfl⟩ : ∃ below, levels = below + 1 := ⟨levels - 1, by omega⟩
    exact readOne_call hname hgap (hargs.readArgs_eq _ _ (by omega) (by omega))

theorem SpelledArgs.readArgs_eq : ∀ {cs args rest}, SpelledArgs cs args rest →
    ∀ rounds levels, cs.length ≤ levels → cs.length ≤ rounds →
    (readArgs (readOne rounds levels) rounds cs).result = some (args, rest)
  | _, _, rest, .none hgap, rounds, levels, _, _ => by
    exact readArgs_close (skip_gap hgap) (readOne_close rounds levels rest)
  | _, _, _, .some hgap harg hmore, rounds, levels, hlevels, hrounds => by
    have hlength := harg.length_lt
    rw [List.length_append] at hlevels hrounds
    have hread := harg.readOne_eq hmore.delimited rounds levels (by omega) (by omega)
    rw [← harg.skip_eq, ← skip_gap hgap] at hread
    rw [readArgs_first hread]
    exact hmore.readMore_eq _ _ (by omega) (by omega) (by omega)

theorem SpelledMore.readMore_eq : ∀ {cs args rest}, SpelledMore cs args rest →
    ∀ rounds levels {more done notes}, cs.length ≤ levels → cs.length ≤ rounds →
    cs.length ≤ more →
    (readMore (readOne rounds levels) more done notes cs).result = some (done.reverse ++ args, rest)
  | _, _, _, .close hgap, rounds, levels, more, done, notes, _, _, hlength => by
    rw [List.length_append, List.length_cons] at hlength
    obtain ⟨more, rfl⟩ : ∃ below, more = below + 1 := ⟨more - 1, by omega⟩
    rw [List.append_nil]
    exact readMore_close (skip_gap hgap)
  | _, _, _, @SpelledMore.comma gap gap' inner _ _ _ _ hgap hgap' harg hmore, rounds, levels, more,
      done, notes, hlevels, hrounds, hlength => by
    have harg_length := harg.length_lt
    rw [List.length_append, List.length_cons, List.length_append] at hlevels hrounds hlength
    obtain ⟨more, rfl⟩ : ∃ below, more = below + 1 := ⟨more - 1, by omega⟩
    have hskip : skip (gap ++ ',' :: (gap' ++ inner)) = ',' :: (gap' ++ inner) := skip_gap hgap
    have hread := harg.readOne_eq hmore.delimited rounds levels (by omega) (by omega)
    rw [← harg.skip_eq, ← skip_gap hgap'] at hread
    rw [readMore_comma hskip hread, hmore.readMore_eq _ _ (by omega) (by omega) (by omega),
      List.reverse_cons, List.append_assoc]
    rfl
end

/-! ## Whole texts -/

/-- **A text is read exactly when the grammar derives it**, with a gap
before the draft and nothing but blanks and comments after it. -/
theorem read_eq_ok_iff {text : List Char} {draft : Draft} :
    read text = .ok draft ↔ ∃ gap cs rest,
      text = gap ++ cs ∧ Gap gap ∧ Spelled cs draft rest ∧ Trailer rest := by
  constructor
  · intro h
    rw [read] at h
    split at h
    · rename_i draft' rest hread
      split at h
      · rename_i hskip
        obtain rfl := Except.ok.inj h
        have hspelled := spelled_of_readOne hread
        obtain ⟨gap, hgap, htext⟩ := exists_gap hspelled.ne_nil
        exact ⟨gap, skip text, rest, htext, hgap, hspelled, skip_eq_nil_iff.1 hskip⟩
      · cases h
    · cases h
  · rintro ⟨gap, cs, rest, rfl, hgap, hspelled, htrailer⟩
    have hlength : cs.length ≤ (gap ++ cs).length := by rw [List.length_append]; omega
    have hread := hspelled.readOne_eq (delimited_of_trailer htrailer) (gap ++ cs).length
      (gap ++ cs).length hlength hlength
    simp only [read, skip_gap hgap, hspelled.skip_eq, hread, skip_eq_nil_iff.2 htrailer]

end MailFormula.Draft
