import MailFormula.Proofs.Formula.Position
import MailFormula.Proofs.Formula.RoundTrip
/-!
# Strings that a text breaks off in

A text that is no formula is searched for an open string before a syntax
error is reported. The search knows nothing of formulas: it looks for
quotes, slashes and number signs from the start of the text on. Here it is
compared with the grammar. `StringOf` lists the string literals of a text,
read along the grammar; `Cuts` says that a text breaks off inside one.

A piece of a formula is `Scanned` if the search leaves it as it came and
finds a string open within it only where the piece was cut inside one of
its literals. Gaps, names and numbers have no literal (`Quiet`), and the
rest follows the constructors of the grammar (`Spelled.scanned`).
-/

namespace MailFormula

open MailFormula.Lexeme MailFormula.Text

namespace Lexeme

variable {cut cut' : List Char → Prop} {e e' body before gap rest : List Char}
variable {stops : Char → Bool} {close : Char}

/-! ## Pieces and the search -/

/-- **The search leaves a piece as it came**, outside literals and
comments. -/
def Passes (e : List Char) : Prop := ∀ rest, scan .plain (e ++ rest) = scan .plain rest

theorem Passes.append (h : Passes e) (h' : Passes e') : Passes (e ++ e') := by
  intro rest
  rw [List.append_assoc, h, h']

theorem Passes.hasOpenString_append (h : Passes e) (cs : List Char) :
    hasOpenString (e ++ cs) = hasOpenString cs := by
  rw [hasOpenString, h, hasOpenString]

/-- **A beginning has an open string** only if it is one of the cuts. -/
def OpensAt (cut : List Char → Prop) (e : List Char) : Prop :=
  ∀ before, before <+: e → hasOpenString before = true → cut before

/-- The cuts of two pieces in a row are those of the first, and those of
the second behind the first. -/
theorem OpensAt.append (hpasses : Passes e) (h : OpensAt cut e)
    (h' : OpensAt (fun before => cut (e ++ before)) e') : OpensAt cut (e ++ e') := by
  intro before hbefore hopen
  rcases List.prefix_or_prefix_of_prefix hbefore (List.prefix_append e e') with hin | ⟨more, rfl⟩
  · exact h before hin hopen
  · rw [hpasses.hasOpenString_append] at hopen
    exact h' more ((List.prefix_append_right_inj e).1 hbefore) hopen

/-- **A piece with these cuts.** -/
structure Scanned (cut : List Char → Prop) (e : List Char) : Prop where
  passes : Passes e
  opens : OpensAt cut e

/-- A piece without cuts. -/
abbrev Quiet (e : List Char) : Prop := Scanned (fun _ => False) e

theorem Scanned.mono (h : Scanned cut e) (hcut : ∀ before, cut before → cut' before) :
    Scanned cut' e where
  passes := h.passes
  opens := fun before hbefore hopen => hcut before (h.opens before hbefore hopen)

theorem Scanned.append (h : Scanned cut e) (h' : Scanned (fun before => cut (e ++ before)) e') :
    Scanned cut (e ++ e') where
  passes := h.passes.append h'.passes
  opens := h.opens.append h.passes h'.opens

theorem Quiet.scanned (h : Quiet e) : Scanned cut e := h.mono fun _ => False.elim

/-- Behind a quiet piece the cuts are those of what follows. -/
theorem Quiet.append (h : Quiet e) (h' : Scanned (fun before => cut (e ++ before)) e') :
    Scanned cut (e ++ e') := h.scanned.append h'

/-! ## Quiet pieces -/

/-- The marks that begin a literal or a comment. -/
def scanMarks : List Char := ['\'', '"', '/', '#']

theorem quiet_nil : Quiet [] where
  passes := fun _ => rfl
  opens := by
    intro before hbefore hopen
    obtain rfl := List.prefix_nil.1 hbefore
    cases hopen

theorem passes_char {c : Char} (hc : c ∉ scanMarks) : Passes [c] := by
  intro rest
  simp only [scanMarks, List.mem_cons, List.not_mem_nil, or_false, not_or] at hc
  rw [List.singleton_append, scan.eq_def]
  simp only [beq_iff_eq, hc, Bool.or_eq_true, or_self, if_false]

/-- **A character that is no mark is quiet.** -/
theorem quiet_char {c : Char} (hc : c ∉ scanMarks) : Quiet [c] where
  passes := passes_char hc
  opens := by
    intro before hbefore hopen
    rcases List.prefix_cons_iff.1 hbefore with rfl | ⟨more, rfl, hmore⟩
    · cases hopen
    · obtain rfl := List.prefix_nil.1 hmore
      rw [← List.append_nil [c], (passes_char hc).hasOpenString_append] at hopen
      cases hopen

/-- A run of characters of a kind that has no mark. -/
theorem quiet_run (isChar : Char → Bool) (hmarks : scanMarks.all (!isChar ·) = true)
    (h : ∀ c ∈ e, isChar c = true) : Quiet e := by
  induction e with
  | nil => exact quiet_nil
  | cons c cs ih =>
    rw [List.forall_mem_cons] at h
    exact Quiet.append (quiet_char (not_mem_of_isChar hmarks h.1)) (ih h.2)

/-- Within a line the search stays in a comment. -/
theorem scan_comment (h : '\n' ∉ body) : scan .comment body = .comment := by
  induction body with
  | nil => rfl
  | cons c cs ih =>
    rw [List.mem_cons, not_or] at h
    rw [scan, if_neg (by rw [beq_iff_eq]; exact Ne.symm h.1), ih h.2]

theorem scan_comment_newline (h : '\n' ∉ body) :
    scan .comment (body ++ '\n' :: rest) = scan .plain rest := by
  induction body with
  | nil => rfl
  | cons c cs ih =>
    rw [List.mem_cons, not_or] at h
    rw [List.cons_append, scan, if_neg (by rw [beq_iff_eq]; exact Ne.symm h.1), ih h.2]

/-- A comment opens no string up to the end of its line. -/
theorem opensAt_comment (h : '\n' ∉ body) : OpensAt (fun _ => False) ('#' :: body) := by
  intro before hbefore hopen
  rcases List.prefix_cons_iff.1 hbefore with rfl | ⟨more, rfl, hmore⟩
  · cases hopen
  · have hscan : scan .plain ('#' :: more) = scan .comment more := rfl
    rw [hasOpenString, hscan, scan_comment fun hmem => h (hmore.subset hmem)] at hopen
    cases hopen

theorem quiet_comment (h : '\n' ∉ body) : Quiet ('#' :: (body ++ ['\n'])) where
  passes := by
    intro rest
    have hscan : ∀ cs, scan .plain ('#' :: cs) = scan .comment cs := fun _ => rfl
    rw [List.cons_append, List.append_assoc, List.singleton_append, hscan, scan_comment_newline h]
  opens := by
    intro before hbefore hopen
    rw [← List.cons_append] at hbefore
    rcases List.prefix_concat_iff.1 hbefore with rfl | hbefore
    · have hscan : scan .plain ('#' :: body ++ ['\n']) = .plain := scan_comment_newline h
      rw [hasOpenString, hscan] at hopen
      cases hopen
    · exact opensAt_comment h before hbefore hopen

/-- **Gaps are quiet.** -/
theorem Gap.quiet (h : Gap gap) : Quiet gap := by
  induction h with
  | nil => exact quiet_nil
  | @blank c cs hc _ ih =>
    have hchar : Quiet [c] := quiet_char (not_mem_of_isChar (by decide) hc)
    exact Quiet.append hchar ih
  | @comment body cs hbody _ ih =>
    have hsplit : '#' :: (body ++ '\n' :: cs) = '#' :: (body ++ ['\n']) ++ cs := by simp
    rw [hsplit]
    exact Quiet.append (quiet_comment hbody) ih

/-- What may end a text opens no string. -/
theorem Trailer.opensAt (h : Trailer rest) : OpensAt (fun _ => False) rest := by
  cases h with
  | gap h => exact h.quiet.opens
  | comment h hbody => exact h.quiet.opens.append h.quiet.passes (opensAt_comment hbody)

/-! ## Literals -/

/-- **The search goes through a quoted body** to its closing mark. -/
theorem scan_quotedBody (hclose : close ≠ '\\') (h : QuotedBody close stops body) :
    scan (.quoted close) (body ++ close :: rest) = scan .plain rest := by
  induction h with
  | nil =>
    rw [List.nil_append, scan.eq_def]
    simp only [beq_iff_eq, hclose, if_false, if_true]
  | plain hc hslash _ _ ih =>
    rw [List.cons_append, scan.eq_def]
    simp only [beq_iff_eq, hc, hslash, if_false, ih]
  | escape _ ih => exact ih

/-- **Wherever a quoted body breaks off**, the literal is open, also
between a backslash and its character. -/
theorem scan_prefix_quotedBody (h : QuotedBody close stops body) {read : List Char}
    (hread : read <+: body) : scan (.quoted close) read = .quoted close := by
  induction h generalizing read with
  | nil =>
    obtain rfl := List.prefix_nil.1 hread
    rfl
  | plain hc hslash _ _ ih =>
    rcases List.prefix_cons_iff.1 hread with rfl | ⟨more, rfl, hmore⟩
    · rfl
    · rw [scan.eq_def]
      simp only [beq_iff_eq, hc, hslash, if_false, ih hmore]
  | @escape c _ _ ih =>
    rcases List.prefix_cons_iff.1 hread with rfl | ⟨pair, rfl, hpair⟩
    · rfl
    -- A backslash at the end has nothing to escape, and the literal stays open.
    rcases List.prefix_cons_iff.1 hpair with rfl | ⟨more, rfl, hmore⟩
    · rfl
    · have hscan : scan (.quoted close) ('\\' :: c :: more) = scan (.quoted close) more := rfl
      rw [hscan, ih hmore]

theorem ne_backslash (hclose : close ∈ ['\'', '"', '/']) : close ≠ '\\' :=
  fun heq => absurd (heq ▸ hclose) (by decide)

theorem scan_open (hclose : close ∈ ['\'', '"', '/']) (cs : List Char) :
    scan .plain (close :: cs) = scan (.quoted close) cs := by
  simp only [List.mem_cons, List.not_mem_nil, or_false] at hclose
  rcases hclose with rfl | rfl | rfl <;> rfl

/-- The quote of a string. -/
def IsQuote (c : Char) : Prop := c = '\'' ∨ c = '"'

theorem IsQuote.mem {c : Char} (h : IsQuote c) : c ∈ ['\'', '"', '/'] := by
  rcases h with rfl | rfl <;> decide

theorem hasOpenString_quoted {c : Char} (hscan : scan .plain before = .quoted c) :
    hasOpenString before = true ↔ IsQuote c := by
  rw [hasOpenString, hscan]
  simp only [Bool.or_eq_true, beq_iff_eq, IsQuote]

/-- **A literal is passed**, and its cuts are those behind its opening
mark and before its closing one, if the mark is a quote. -/
theorem scanned_literal (hclose : close ∈ ['\'', '"', '/']) (h : QuotedBody close stops body) :
    Scanned (fun before => IsQuote close ∧ ∃ read, read <+: body ∧ before = close :: read)
      (close :: (body ++ [close])) where
  passes := by
    intro rest
    rw [List.cons_append, List.append_assoc, List.singleton_append, scan_open hclose,
      scan_quotedBody (ne_backslash hclose) h]
  opens := by
    intro before hbefore hopen
    rcases List.prefix_cons_iff.1 hbefore with rfl | ⟨read, rfl, hread⟩
    · cases hopen
    rcases List.prefix_concat_iff.1 hread with rfl | hread
    · rw [hasOpenString, scan_open hclose, scan_quotedBody (ne_backslash hclose) h] at hopen
      cases hopen
    · have hscan : scan .plain (close :: read) = .quoted close := by
        rw [scan_open hclose, scan_prefix_quotedBody h hread]
      exact ⟨(hasOpenString_quoted hscan).1 hopen, read, hread, rfl⟩

end Lexeme

namespace Draft

variable {cs start body before after rest gap e m name : List Char} {quote : Char} {arg : Draft}
  {args : List Draft}

/-! ## The string literals of a text -/

mutual
/-- **A string literal in an expression**: the text begins with the
expression, and the literal stands behind `start`, with this quote around
this body. -/
inductive StringIn : List Char → List Char → Char → List Char → Prop
  | here {quote : Char} {body rest : List Char} :
      IsQuote quote → QuotedBody quote (fun _ => false) body →
      StringIn (quote :: (body ++ quote :: rest)) [] quote body
  | call {name gap cs start body : List Char} {quote : Char} :
      IsName name → Gap gap → StringInArgs cs start quote body →
      StringIn ('@' :: (name ++ (gap ++ '(' :: cs))) ('@' :: (name ++ (gap ++ '(' :: start)))
        quote body

/-- The same for a text that begins with arguments of a call. -/
inductive StringInArgs : List Char → List Char → Char → List Char → Prop
  | first {gap cs start body : List Char} {quote : Char} :
      Gap gap → StringIn cs start quote body → StringInArgs (gap ++ cs) (gap ++ start) quote body
  | later {gap e after start body : List Char} {quote : Char} {arg : Draft} :
      Gap gap → Spelled (e ++ after) arg after → StringInMore after start quote body →
      StringInArgs (gap ++ (e ++ after)) (gap ++ (e ++ start)) quote body

/-- The same for a text that begins behind an argument. -/
inductive StringInMore : List Char → List Char → Char → List Char → Prop
  | comma {gap cs start body : List Char} {quote : Char} :
      Gap gap → StringInArgs cs start quote body →
      StringInMore (gap ++ ',' :: cs) (gap ++ ',' :: start) quote body
end

/-- **A string literal of a whole text.** -/
inductive StringOf : List Char → List Char → Char → List Char → Prop
  | behind {gap cs start body : List Char} {quote : Char} :
      Gap gap → StringIn cs start quote body → StringOf (gap ++ cs) (gap ++ start) quote body

/-- **A text breaks off inside one of these literals**: behind its opening
quote and before its closing one. -/
def Cuts (literal : List Char → Char → List Char → Prop) (before : List Char) : Prop :=
  ∃ start quote body, literal start quote body ∧
    ∃ read, read <+: body ∧ before = start ++ quote :: read

/-- A cut stays one behind a piece that comes before the literals. -/
theorem Cuts.behind {literal literal' : List Char → Char → List Char → Prop}
    (h : Cuts literal before) {q : List Char}
    (hliteral : ∀ start quote body, literal start quote body → literal' (q ++ start) quote body) :
    Cuts literal' (q ++ before) := by
  obtain ⟨start, quote, body, hin, read, hread, rfl⟩ := h
  exact ⟨q ++ start, quote, body, hliteral _ _ _ hin, read, hread, (List.append_assoc ..).symm⟩

/-! ## Pieces of a formula -/

theorem quiet_opening (hname : IsName name) (hgap : Gap gap) :
    Quiet ('@' :: (name ++ (gap ++ ['(']))) := by
  have hat : Quiet ['@'] := quiet_char (by decide)
  have hparen : Quiet ['('] := quiet_char (by decide)
  have hrun : Quiet name := quiet_run isNameChar (by decide) hname.all
  exact hat.append (hrun.append (hgap.quiet.append hparen))

theorem quiet_separator (hgap : Gap gap) : Quiet (gap ++ [',']) :=
  hgap.quiet.append (quiet_char (by decide))

theorem quiet_close (hgap : Gap gap) : Quiet (gap ++ [')']) :=
  hgap.quiet.append (quiet_char (by decide))

theorem scanned_call (hname : IsName name) (hgap : Gap gap)
    (h : Scanned (Cuts (StringInArgs cs)) e) :
    Scanned (Cuts (StringIn ('@' :: (name ++ (gap ++ '(' :: cs)))))
      ('@' :: (name ++ (gap ++ ['('])) ++ e) := by
  refine (quiet_opening hname hgap).append (h.mono fun before hcut => hcut.behind ?_)
  intro start quote body hin
  simpa using StringIn.call hname hgap hin

/-- Arguments with a first one. -/
theorem scanned_args (hgap : Gap gap) (harg : Spelled (e ++ after) arg after)
    (he : Scanned (Cuts (StringIn (e ++ after))) e) (hm : Scanned (Cuts (StringInMore after)) m) :
    Scanned (Cuts (StringInArgs (gap ++ (e ++ after)))) (gap ++ (e ++ m)) := by
  refine hgap.quiet.append (Scanned.append ?_ ?_)
  · exact he.mono fun before hcut => hcut.behind fun _ _ _ hin => .first hgap hin
  · refine hm.mono fun before hcut => ?_
    -- The literals behind the argument are found behind all of its text.
    have hbehind : Cuts (StringInArgs (gap ++ (e ++ after))) (gap ++ e ++ before) :=
      hcut.behind fun start quote body hin => by simpa using StringInArgs.later hgap harg hin
    rwa [List.append_assoc] at hbehind

theorem scanned_comma (hgap : Gap gap) (h : Scanned (Cuts (StringInArgs cs)) e) :
    Scanned (Cuts (StringInMore (gap ++ ',' :: cs))) (gap ++ [','] ++ e) := by
  refine (quiet_separator hgap).append (h.mono fun before hcut => hcut.behind ?_)
  intro start quote body hin
  simpa using StringInMore.comma hgap hin

mutual
/-- **An expression is passed**, and a string is open within it only where
it is cut inside one of its literals. -/
theorem Spelled.scanned : ∀ {cs draft rest}, Spelled cs draft rest →
    ∃ e, cs = e ++ rest ∧ Scanned (Cuts (StringIn cs)) e
  | _, _, rest, @Spelled.text quote body _ hquote hbody => by
    have hin : StringIn (quote :: (body ++ quote :: rest)) [] quote body := .here hquote hbody
    refine ⟨quote :: (body ++ [quote]), by simp, ?_⟩
    refine (scanned_literal (IsQuote.mem hquote) hbody).mono ?_
    rintro before ⟨-, read, hread, rfl⟩
    exact ⟨[], quote, body, hin, read, hread, rfl⟩
  | _, _, _, .number hdigits =>
    ⟨_, rfl, (quiet_run isAsciiDigit (by decide) hdigits.all).scanned⟩
  | _, _, rest, @Spelled.regex body flags _ hbody hflags => by
    -- The search takes a pattern for a literal like a string, but a slash is no quote.
    have hquiet : Quiet ('/' :: (body ++ ['/'])) := by
      refine (scanned_literal (by decide) hbody).mono ?_
      rintro before ⟨hquote | hquote, -⟩ <;> cases hquote
    have hrun : Quiet flags := quiet_run isFlagChar (by decide) hflags
    exact ⟨'/' :: (body ++ ['/']) ++ flags, by simp, hquiet.append hrun.scanned⟩
  | _, _, _, @Spelled.field name _ hname => by
    have hmark : Quiet ['%'] := quiet_char (by decide)
    have hrun : Quiet name := quiet_run isNameChar (by decide) hname.all
    exact ⟨['%'] ++ name, rfl, hmark.append hrun.scanned⟩
  | _, _, _, @Spelled.var name _ hname => by
    have hmark : Quiet ['$'] := quiet_char (by decide)
    have hrun : Quiet name := quiet_run isVarChar (by decide) hname.all
    exact ⟨['$'] ++ name, rfl, hmark.append hrun.scanned⟩
  | _, _, _, .call hname hgap hargs => by
    obtain ⟨a, rfl, ha⟩ := hargs.scanned
    exact ⟨_, by simp, scanned_call hname hgap ha⟩

theorem SpelledArgs.scanned : ∀ {cs args rest}, SpelledArgs cs args rest →
    ∃ a, cs = a ++ rest ∧ Scanned (Cuts (StringInArgs cs)) a
  | _, _, _, .none hgap => ⟨_, by simp, (quiet_close hgap).scanned⟩
  | _, _, _, .some hgap harg hmore => by
    obtain ⟨e, rfl, he⟩ := harg.scanned
    obtain ⟨m, heq, hm⟩ := hmore.scanned
    exact ⟨_, by rw [heq]; simp, scanned_args hgap harg he hm⟩

theorem SpelledMore.scanned : ∀ {cs args rest}, SpelledMore cs args rest →
    ∃ m, cs = m ++ rest ∧ Scanned (Cuts (StringInMore cs)) m
  | _, _, _, .close hgap => ⟨_, by simp, (quiet_close hgap).scanned⟩
  | _, _, _, .comma hgap hgap' harg hmore => by
    obtain ⟨e, rfl, he⟩ := harg.scanned
    obtain ⟨m, heq, hm⟩ := hmore.scanned
    exact ⟨_, by rw [heq]; simp, scanned_comma hgap (scanned_args hgap' harg he hm)⟩
end

/-- What is spelled is passed, whatever follows. -/
theorem Spelled.passes (h : Spelled (e ++ rest) arg rest) : Passes e := by
  obtain ⟨e', heq, he⟩ := h.scanned
  exact List.append_cancel_right heq ▸ he.passes

/-- **A string literal that the search comes to**: what stands before it is
passed, and it is a body between quotes. -/
structure Found (start : List Char) (quote : Char) (body : List Char) : Prop where
  passes : Passes start
  isQuote : IsQuote quote
  quotedBody : QuotedBody quote (fun _ => false) body

theorem Found.behind {q : List Char} (h : Found start quote body) (hq : Passes q) :
    Found (q ++ start) quote body where
  passes := hq.append h.passes
  isQuote := h.isQuote
  quotedBody := h.quotedBody

mutual
/-- **The search comes to every string literal.** -/
theorem StringIn.found : ∀ {cs start quote body}, StringIn cs start quote body →
    Found start quote body
  | _, _, _, _, .here hquote hbody => ⟨quiet_nil.passes, hquote, hbody⟩
  | _, _, _, _, .call hname hgap hin => by
    simpa using hin.found.behind (quiet_opening hname hgap).passes

theorem StringInArgs.found : ∀ {cs start quote body}, StringInArgs cs start quote body →
    Found start quote body
  | _, _, _, _, .first hgap hin => hin.found.behind hgap.quiet.passes
  | _, _, _, _, .later hgap harg hin => (hin.found.behind harg.passes).behind hgap.quiet.passes

theorem StringInMore.found : ∀ {cs start quote body}, StringInMore cs start quote body →
    Found start quote body
  | _, _, _, _, .comma hgap hin => by
    simpa using hin.found.behind (quiet_separator hgap).passes
end

/-! ## Whole texts -/

/-- **A text of the grammar that is cut inside a string literal has an
open string.** -/
theorem hasOpenString_of_cuts {text : List Char} (h : Cuts (StringOf text) before) :
    hasOpenString before = true := by
  obtain ⟨_, quote, body, ⟨hgap, hin⟩, read, hread, rfl⟩ := h
  have hfound := hin.found.behind hgap.quiet.passes
  have hscan : scan .plain (quote :: read) = .quoted quote := by
    rw [scan_open hfound.isQuote.mem, scan_prefix_quotedBody hfound.quotedBody hread]
  rw [hfound.passes.hasOpenString_append]
  exact (hasOpenString_quoted hscan).2 hfound.isQuote

/-- The pieces of a text of the grammar: what is passed, and what may end
a text. -/
theorem Grammatical.exists_scanned {text : List Char} (h : Grammatical text) :
    ∃ e rest, text = e ++ rest ∧ Scanned (Cuts (StringOf text)) e ∧ Trailer rest := by
  obtain ⟨gap, cs, draft, rest, rfl, hgap, hspelled, htrailer⟩ := h
  obtain ⟨e, rfl, he⟩ := hspelled.scanned
  refine ⟨gap ++ e, rest, (List.append_assoc ..).symm, hgap.quiet.append ?_, htrailer⟩
  exact he.mono fun before hcut => hcut.behind fun _ _ _ hin => .behind hgap hin

/-- **Nowhere else** has a beginning of it one. -/
theorem Grammatical.opensAt {text : List Char} (h : Grammatical text) :
    OpensAt (Cuts (StringOf text)) text := by
  obtain ⟨e, rest, htext, he, hrest⟩ := h.exists_scanned
  have hends : OpensAt (fun before => Cuts (StringOf text) (e ++ before)) rest :=
    fun before hbefore hopen => (hrest.opensAt before hbefore hopen).elim
  intro before hbefore
  rw [htext] at hbefore
  exact he.opens.append he.passes hends before hbefore

/-- **A text of the grammar has no open string itself.** -/
theorem Grammatical.hasOpenString_eq_false {text : List Char} (h : Grammatical text) :
    hasOpenString text = false := by
  obtain ⟨e, rest, rfl, he, hrest⟩ := h.exists_scanned
  rw [he.passes.hasOpenString_append, Bool.eq_false_iff]
  exact hrest.opensAt rest (List.prefix_refl rest)

/-! ## The report -/

/-- Blanks open no string. -/
theorem not_all_isBlank_of_hasOpenString {cs : List Char} (h : hasOpenString cs = true) :
    cs.all isBlank = false := by
  rw [Bool.eq_false_iff]
  intro hblank
  have hquiet : Quiet cs := quiet_run isBlank (by decide) (List.all_eq_true.1 hblank)
  exact hquiet.opens cs (List.prefix_refl cs) h

theorem ofNotes_fault_eq_openString_iff {cs : List Char} {notes : Notes} :
    (ParseError.ofNotes cs notes).fault = .openString ↔ hasOpenString cs = true := by
  unfold ParseError.ofNotes
  dsimp only
  split
  · rename_i hblank
    refine iff_of_false nofun fun hopen => ?_
    rw [not_all_isBlank_of_hasOpenString hopen] at hblank
    cases hblank
  · split
    · rename_i hopen
      exact iff_of_true rfl hopen
    · rename_i hopen
      exact iff_of_false nofun hopen

/-- **An open string is what is reported of a text** exactly if the text is
not of the grammar and has one. -/
theorem parseChars_openString_iff {cs : List Char} :
    (∃ e, Formula.parseChars cs = .error e ∧ e.fault = .openString) ↔
      ¬ Grammatical cs ∧ hasOpenString cs = true := by
  rw [grammatical_iff, Formula.parseChars]
  cases hread : read cs with
  | error notes =>
    have hnot : ¬ ∃ draft, (Except.error notes : Except Notes Draft) = .ok draft := by
      rintro ⟨draft, hdraft⟩
      cases hdraft
    rw [and_iff_right hnot, ← ofNotes_fault_eq_openString_iff]
    constructor
    · rintro ⟨e, herror, hfault⟩
      exact Except.error.inj herror ▸ hfault
    · exact fun hfault => ⟨_, rfl, hfault⟩
  | ok draft =>
    refine iff_of_false ?_ fun h => h.1 ⟨draft, rfl⟩
    rintro ⟨e, herror, hfault⟩
    dsimp only at herror
    split at herror
    · rename_i bad hbuild
      obtain rfl := Except.error.inj herror
      exact build_fault_ne_openString hbuild hfault
    · cases herror

end Draft

/-- **Only an open string is reported in these words.** -/
theorem ParseFault.message_eq_iff {fault : ParseFault} :
    fault.message = "unterminated string" ↔ fault = .openString := by
  cases fault with
  | openString => exact iff_of_true rfl rfl
  | blank => exact iff_of_false (by decide) nofun
  | largeNumber => exact iff_of_false (by decide) nofun
  | badRegex => exact iff_of_false (by decide) nofun
  | expected what =>
    refine iff_of_false (fun heq => ?_) nofun
    have hsyntax : "syntax error: expected ".toList = 's' :: "yntax error: expected ".toList := by
      decide
    have hstring : "unterminated string".toList = 'u' :: "nterminated string".toList := by decide
    obtain ⟨tail, htail⟩ : ∃ tail, (expected what).message = "syntax error: expected " ++ tail :=
      ⟨_, rfl⟩
    have hchars := congrArg String.toList (htail.symm.trans heq)
    rw [String.toList_append, hsyntax, hstring, List.cons_append] at hchars
    exact absurd (List.cons.inj hchars).1 (by decide)

/-- **A cut inside a string literal**: the text before it ends behind the
opening quote of a literal of the whole text and before the closing one. -/
def Formula.CutsString (before after : String) : Prop :=
  Draft.Cuts (Draft.StringOf (before ++ after).toList) before.toList

/-- A text of the grammar has an open string where it is cut exactly if it
is cut inside a string literal. -/
theorem Formula.cutsString_iff {before after : String}
    (h : Formula.Grammatical (before ++ after)) :
    Formula.CutsString before after ↔ hasOpenString before.toList = true := by
  refine ⟨Draft.hasOpenString_of_cuts, Draft.Grammatical.opensAt h _ ?_⟩
  rw [String.toList_append]
  exact List.prefix_append _ _

/-- **Unterminated strings are diagnosed exactly.** A text of the grammar is
cut in two. If the cut falls inside a string literal, the first piece is
refused as an unterminated string; if it falls anywhere else, the first
piece is not refused in these words. -/
theorem unterminated_string_diagnosed_exactly {before after : String}
    (h : Formula.Grammatical (before ++ after)) :
    (Formula.CutsString before after →
      ∃ e, Formula.parse before = .error e ∧ e.message = "unterminated string") ∧
    (¬ Formula.CutsString before after →
      ∀ e, Formula.parse before = .error e → e.message ≠ "unterminated string") := by
  rw [Formula.cutsString_iff h]
  constructor
  · intro hopen
    have hnot : ¬ Draft.Grammatical before.toList := by
      intro hgrammatical
      rw [hgrammatical.hasOpenString_eq_false] at hopen
      cases hopen
    obtain ⟨e, hparse, hfault⟩ := Draft.parseChars_openString_iff.2 ⟨hnot, hopen⟩
    exact ⟨e, hparse, ParseFault.message_eq_iff.2 hfault⟩
  · intro hclosed e hparse hmessage
    have hfault := ParseFault.message_eq_iff.1 hmessage
    exact hclosed (Draft.parseChars_openString_iff.1 ⟨e, hparse, hfault⟩).2

/-- A string with a slash, a number sign and the other quote in it, cut
behind a backslash; and a pattern with a quote in it, cut there. -/
theorem cut_string_and_cut_pattern :
    Formula.Grammatical "@F('/#\"\\'', /'/)" ∧
    (∃ e, Formula.parse "@F('/#\"\\" = .error e ∧ e.message = "unterminated string") ∧
    ∀ e, Formula.parse "@F('/#\"\\'', /'" = .error e → e.message ≠ "unterminated string" := by
  have hgrammatical : Formula.Grammatical "@F('/#\"\\'', /'/)" := by
    have hread : (Draft.read "@F('/#\"\\'', /'/)".toList).isOk = true := by decide +kernel
    refine Draft.grammatical_iff.2 ?_
    cases hdraft : Draft.read "@F('/#\"\\'', /'/)".toList with
    | ok draft => exact ⟨draft, rfl⟩
    | error notes =>
      rw [hdraft] at hread
      cases hread
  have hinString : "@F('/#\"\\'', /'/)" = "@F('/#\"\\" ++ "'', /'/)" := by decide
  have hinPattern : "@F('/#\"\\'', /'/)" = "@F('/#\"\\'', /'" ++ "/)" := by decide
  have hstring : Formula.Grammatical ("@F('/#\"\\" ++ "'', /'/)") := by
    rwa [← hinString]
  have hpattern : Formula.Grammatical ("@F('/#\"\\'', /'" ++ "/)") := by
    rwa [← hinPattern]
  have hcut : Formula.CutsString "@F('/#\"\\" "'', /'/)" := by
    rw [Formula.cutsString_iff hstring]
    decide +kernel
  have huncut : ¬ Formula.CutsString "@F('/#\"\\'', /'" "/)" := by
    rw [Formula.cutsString_iff hpattern, Bool.not_eq_true]
    decide +kernel
  exact ⟨hgrammatical, (unterminated_string_diagnosed_exactly hstring).1 hcut,
    (unterminated_string_diagnosed_exactly hpattern).2 huncut⟩

end MailFormula
