import MailFormula.Proofs.Formula.Position
/-!
# Bad literals are reported leftmost

A text that matches the grammar may still hold a number that is too large or
a regular expression that does not compile. Building the formula of a draft
stops at the first such literal that it comes to. The draft keeps its
literals in the order in which they stand in the text (`Spelled.laid`), so
the first in the draft is the leftmost in the text, and the report covers
its characters and no others.
-/

namespace MailFormula

open MailFormula.Lexeme MailFormula.Text

/-- A literal that has to be read when a formula is built, as it is written. -/
inductive Literal where
  | number (digits : List Char)
  | regex (body flags : List Char)
deriving DecidableEq

namespace Literal

/-- Its characters; a regular expression from the opening slash through the
flags. -/
def written : Literal → List Char
  | number digits => digits
  | regex body flags => '/' :: body ++ '/' :: flags

/-- **A bad literal**: a number of more than 32 bits, or a regular expression
that does not compile. -/
def IsBad : Literal → Prop
  | number digits => UInt32.size ≤ decimalValue digits
  | regex body flags => ¬ Regex.IsValid (String.ofList (unescapePattern body)) (String.ofList flags)

instance : DecidablePred IsBad := fun l =>
  match l with
  | number digits => inferInstanceAs (Decidable (UInt32.size ≤ decimalValue digits))
  | regex _ _ => inferInstanceAs (Decidable (¬ _))

/-- What is wrong with it, if it is bad. -/
def fault : Literal → ParseFault
  | number _ => .largeNumber
  | regex _ _ => .badRegex

/-- And how that is said. -/
def complaint : Literal → String
  | number _ => "number does not fit in 32 bits"
  | regex _ _ => "invalid regular expression: " ++ Regex.faultText

theorem message_fault : ∀ l : Literal, l.fault.message = l.complaint
  | number _ => rfl
  | regex _ _ => rfl

end Literal

/-- A literal and the text behind it. -/
structure Site where
  literal : Literal
  after : List Char

/-- The text from the literal on. -/
def Site.here (site : Site) : List Char := site.literal.written ++ site.after

/-- What is told of it when it is bad. -/
def Site.bad (site : Site) : BadLiteral :=
  ⟨site.literal.fault, site.literal.written, site.after⟩

mutual
/-- The literals of a draft, in order. -/
def Draft.sites : Draft → List Site
  | .number digits after => [⟨.number digits, after⟩]
  | .regex body flags after => [⟨.regex body flags, after⟩]
  | .call _ args => Draft.sitesAll args
  | .text _ | .field _ | .var _ => []

/-- The literals of several drafts, in order. -/
def Draft.sitesAll : List Draft → List Site
  | [] => []
  | d :: ds => d.sites ++ Draft.sitesAll ds
end

/-- The first bad one of some literals. -/
def firstBad (sites : List Site) : Option Site := sites.find? fun site => site.literal.IsBad

theorem firstBad_append (before behind : List Site) :
    firstBad (before ++ behind) = (firstBad before).or (firstBad behind) :=
  List.find?_append

theorem firstBad_singleton (site : Site) :
    firstBad [site] = if site.literal.IsBad then some site else none := by
  rw [firstBad, List.find?_singleton]
  split <;> simp_all

/-- What does not compile is not valid. -/
theorem Regex.compile?_eq_none_iff {pattern flags : String} :
    Regex.compile? pattern flags = none ↔ ¬ Regex.IsValid pattern flags := by
  rw [Regex.compile?, Regex.IsValid]
  split
  · rename_i program h
    simp [h]
  · rename_i h
    simp [h]

namespace Draft

/-! ## Building stops at the first bad literal -/

/-- The literal that building stops at. -/
def stop {α : Type} : Except BadLiteral α → Option BadLiteral
  | .error bad => some bad
  | .ok _ => none

mutual
/-- **Building a formula stops at the first bad literal** of its draft. -/
theorem stop_build : ∀ d : Draft, stop d.build = (firstBad d.sites).map Site.bad
  | .text _ => rfl
  | .field _ => rfl
  | .var _ => rfl
  | .number digits after => by
    rw [build, sites, firstBad_singleton]
    by_cases hsmall : decimalValue digits < UInt32.size
    · have hgood : ¬ (Literal.number digits).IsBad := Nat.not_le_of_gt hsmall
      rw [if_pos hsmall, if_neg hgood]
      rfl
    · have hbad : (Literal.number digits).IsBad := Nat.le_of_not_gt hsmall
      rw [if_neg hsmall, if_pos hbad]
      rfl
  | .regex body flags after => by
    rw [build, sites, firstBad_singleton]
    rcases hcompile : Regex.compile? (String.ofList (unescapePattern body))
      (String.ofList flags) with _ | r
    · have hbad : (Literal.regex body flags).IsBad := Regex.compile?_eq_none_iff.1 hcompile
      rw [if_pos hbad]
      rfl
    · have hgood : ¬ (Literal.regex body flags).IsBad := by
        intro hbad
        rw [Regex.compile?_eq_none_iff.2 hbad] at hcompile
        cases hcompile
      rw [if_neg hgood]
      rfl
  | .call name args => by
    have hargs := stop_buildAll args
    rw [build, sites, ← hargs]
    cases buildAll args with
    | error bad => rfl
    | ok fs => rfl

theorem stop_buildAll :
    ∀ ds : List Draft, stop (buildAll ds) = (firstBad (sitesAll ds)).map Site.bad
  | [] => rfl
  | d :: ds => by
    have hd := stop_build d
    have hds := stop_buildAll ds
    rw [buildAll, sitesAll, firstBad_append]
    cases hbuild : d.build with
    | error bad =>
      rw [hbuild] at hd
      obtain ⟨site, hsite, hbad⟩ := Option.map_eq_some_iff.1 hd.symm
      rw [hsite, ← hbad]
      rfl
    | ok f =>
      rw [hbuild] at hd
      rw [Option.map_eq_none_iff.1 hd.symm, Option.none_or, ← hds]
      cases buildAll ds with
      | error bad => rfl
      | ok fs => rfl
end

/-! ## Where literals stand -/

end Draft

/-- **Literals laid out** in order in the first text, each behind the one
before it, with the second text behind them all. -/
inductive Laid : List Char → List Site → List Char → Prop
  | done {cs rest : List Char} : rest <:+ cs → Laid cs [] rest
  | next {cs rest : List Char} {site : Site} {sites : List Site} :
      site.here <:+ cs → Laid site.after sites rest → Laid cs (site :: sites) rest

namespace Laid

variable {cs cs' mid rest : List Char} {sites sites' : List Site}

theorem suffix (h : Laid cs sites rest) : rest <:+ cs := by
  induction h with
  | done hrest => exact hrest
  | next hhere _ ih => exact ih.trans ((List.suffix_append _ _).trans hhere)

/-- More text may stand in front. -/
theorem mono (h : Laid cs sites rest) (hcs : cs <:+ cs') : Laid cs' sites rest := by
  cases h with
  | done hrest => exact .done (hrest.trans hcs)
  | next hhere hsites => exact .next (hhere.trans hcs) hsites

theorem append (h : Laid cs sites mid) (h' : Laid mid sites' rest) :
    Laid cs (sites ++ sites') rest := by
  induction h with
  | done hmid => exact h'.mono hmid
  | next hhere _ ih => exact .next hhere (ih h')

/-- Each literal stands in the text. -/
theorem here_suffix (h : Laid cs sites rest) : ∀ site ∈ sites, site.here <:+ cs := by
  induction h with
  | done => exact nofun
  | next hhere _ ih =>
    refine List.forall_mem_cons.2 ⟨hhere, fun site hsite => ?_⟩
    exact (ih site hsite).trans ((List.suffix_append _ _).trans hhere)

/-- And each behind the ones before it. -/
theorem pairwise (h : Laid cs sites rest) :
    sites.Pairwise fun site site' => site'.here <:+ site.after := by
  induction h with
  | done => exact .nil
  | next _ hsites ih => exact List.pairwise_cons.2 ⟨hsites.here_suffix, ih⟩

end Laid

namespace Draft

/-- What stands behind a character is left there. -/
theorem suffix_behind (before : List Char) (c : Char) (rest : List Char) :
    rest <:+ before ++ c :: rest :=
  (List.suffix_cons c rest).trans (List.suffix_append before _)

mutual
/-- **The literals of a draft are laid out** in what spells it. -/
theorem Spelled.laid : ∀ {cs draft rest}, Spelled cs draft rest → Laid cs draft.sites rest
  | _, _, _, .text _ _ => .done ((suffix_behind _ _ _).trans (List.suffix_cons _ _))
  | _, _, _, .number _ => .next (List.suffix_refl _) (.done (List.suffix_refl _))
  | _, _, _, .regex _ _ => .next (by simp [Site.here, Literal.written]) (.done (List.suffix_refl _))
  | _, _, _, .field _ => .done ((List.suffix_append _ _).trans (List.suffix_cons _ _))
  | _, _, _, .var _ => .done ((List.suffix_append _ _).trans (List.suffix_cons _ _))
  | _, _, _, .call _ _ hargs =>
    hargs.laid.mono ((suffix_behind _ _ _).trans
      ((List.suffix_append _ _).trans (List.suffix_cons _ _)))

theorem SpelledArgs.laid :
    ∀ {cs args rest}, SpelledArgs cs args rest → Laid cs (sitesAll args) rest
  | _, _, _, .none _ => .done (suffix_behind _ _ _)
  | _, _, _, .some _ harg hmore => (harg.laid.append hmore.laid).mono (List.suffix_append _ _)

theorem SpelledMore.laid :
    ∀ {cs args rest}, SpelledMore cs args rest → Laid cs (sitesAll args) rest
  | _, _, _, .close _ => .done (suffix_behind _ _ _)
  | _, _, _, .comma _ _ harg hmore =>
    (harg.laid.append hmore.laid).mono ((List.suffix_append _ _).trans (suffix_behind _ _ _))
end

end Draft

/-! ## The report -/

/-- **A literal of a text** that matches the grammar, behind so much of the
text. -/
def Formula.HasLiteral (text start : String) (l : Literal) : Prop :=
  ∃ gap cs draft rest after, text.toList = gap ++ cs ∧ Gap gap ∧ Draft.Spelled cs draft rest ∧
    Trailer rest ∧ ⟨l, after⟩ ∈ draft.sites ∧ text.toList = start.toList ++ (l.written ++ after)

namespace Draft

variable {text start start' : String} {l l' : Literal} {draft : Draft} {site site' : Site}

/-- The literals of a text are those of the draft that is read. -/
theorem hasLiteral_iff (hread : read text.toList = .ok draft) :
    Formula.HasLiteral text start l ↔
      ∃ after, ⟨l, after⟩ ∈ draft.sites ∧ text.toList = start.toList ++ (l.written ++ after) := by
  constructor
  · rintro ⟨gap, cs, draft', rest, after, htext, hgap, hspelled, htrailer, hmem, hstart⟩
    have hread' := read_eq_ok_iff.2 ⟨gap, cs, rest, htext, hgap, hspelled, htrailer⟩
    obtain rfl := Except.ok.inj (hread.symm.trans hread')
    exact ⟨after, hmem, hstart⟩
  · rintro ⟨after, hmem, hstart⟩
    obtain ⟨gap, cs, rest, htext, hgap, hspelled, htrailer⟩ := read_eq_ok_iff.1 hread
    exact ⟨gap, cs, draft, rest, after, htext, hgap, hspelled, htrailer, hmem, hstart⟩

/-- They are laid out in the text. -/
theorem exists_laid (hread : read text.toList = .ok draft) :
    ∃ rest, Laid text.toList draft.sites rest := by
  obtain ⟨gap, cs, rest, htext, -, hspelled, -⟩ := read_eq_ok_iff.1 hread
  rw [htext]
  exact ⟨rest, hspelled.laid.mono (List.suffix_append gap cs)⟩

/-- So each of them stands behind some of the text. -/
theorem exists_start (hread : read text.toList = .ok draft) (hsite : site ∈ draft.sites) :
    ∃ start : String, text.toList = start.toList ++ site.here ∧
      Formula.HasLiteral text start site.literal := by
  obtain ⟨rest, hlaid⟩ := exists_laid hread
  obtain ⟨start, hstart⟩ := hlaid.here_suffix site hsite
  have htext : text.toList = (String.ofList start).toList ++ site.here := by
    rw [String.toList_ofList, hstart]
  exact ⟨String.ofList start, htext, (hasLiteral_iff hread).2 ⟨site.after, hsite, htext⟩⟩

/-- **The first bad literal of the draft is the leftmost of the text**: every
other one stands behind all its characters. -/
theorem leftmost_of_firstBad (hread : read text.toList = .ok draft)
    (hfirst : firstBad draft.sites = some site)
    (hstart : text.toList = start.toList ++ site.here)
    (h : Formula.HasLiteral text start' l') (hbad : l'.IsBad) :
    start' = start ∧ l' = site.literal ∨
      ∃ between, start'.toList = start.toList ++ (site.literal.written ++ between) := by
  obtain ⟨after', hmem, hstart'⟩ := (hasLiteral_iff hread).1 h
  obtain ⟨-, before, behind, hsites, hgood⟩ := List.find?_eq_some_iff_append.1 hfirst
  obtain ⟨rest, hlaid⟩ := exists_laid hread
  have hpairwise := hlaid.pairwise
  rw [hsites] at hmem hpairwise
  rcases List.mem_append.1 hmem with hmem | hmem
  · have hnot := hgood _ hmem
    simp [hbad] at hnot
  · rcases List.mem_cons.1 hmem with rfl | hmem
    · have hsame := List.append_cancel_right (hstart'.symm.trans hstart)
      exact .inl ⟨String.toList_inj.1 hsame, rfl⟩
    · obtain ⟨between, hbetween⟩ :=
        (List.pairwise_cons.1 (List.pairwise_append.1 hpairwise).2.1).1 _ hmem
      have hsplit : start'.toList ++ Site.here ⟨l', after'⟩ =
          start.toList ++ (site.literal.written ++ between) ++ Site.here ⟨l', after'⟩ := by
        rw [Site.here, ← hstart', hstart, Site.here, ← hbetween]
        simp [Site.here]
      exact .inr ⟨between, List.append_cancel_right hsplit⟩

end Draft

section

variable {text start : String} {draft : Draft} {site : Site}

/-- **A text that matches parses** to the formula of its draft, or else is
reported where building it stops. -/
theorem Formula.parse_of_read (hread : Draft.read text.toList = .ok draft) :
    Formula.parse text =
      match draft.build with
      | .error bad => .error (.ofLiteral text.toList bad)
      | .ok f => .ok f := by
  cases hbuild : draft.build with
  | error bad => simp only [Formula.parse, Formula.parseChars, hread, hbuild]
  | ok f => simp only [Formula.parse, Formula.parseChars, hread, hbuild]

/-- Without a bad literal it parses. -/
theorem Formula.parse_of_no_bad (hread : Draft.read text.toList = .ok draft)
    (hnone : firstBad draft.sites = none) : ∃ f, Formula.parse text = .ok f := by
  have hstop := Draft.stop_build draft
  rw [Formula.parse_of_read hread]
  rw [hnone] at hstop
  cases hbuild : draft.build with
  | error bad =>
    rw [hbuild] at hstop
    cases hstop
  | ok f => exact ⟨f, rfl⟩

/-- With one it is reported with the bytes of the first. -/
theorem Formula.parse_of_first_bad (hread : Draft.read text.toList = .ok draft)
    (hfirst : firstBad draft.sites = some site) (hstart : text.toList = start.toList ++ site.here) :
    Formula.parse text =
      .error ⟨site.literal.fault, start.utf8ByteSize,
        (String.ofList site.literal.written).utf8ByteSize⟩ := by
  have hstop := Draft.stop_build draft
  rw [Formula.parse_of_read hread]
  rw [hfirst] at hstop
  have hbytes : byteLength text.toList - byteLength site.after - byteLength site.literal.written =
      start.utf8ByteSize := by
    rw [hstart, Site.here, byteLength_append, byteLength_append, byteLength_toList]
    omega
  cases hbuild : draft.build with
  | error bad =>
    rw [hbuild] at hstop
    obtain rfl := Option.some.inj hstop
    rw [utf8ByteSize_ofList, ← hbytes]
    rfl
  | ok f =>
    rw [hbuild] at hstop
    cases hstop

end

/-- **Bad literals are reported leftmost.** A text that matches the grammar is
refused if and only if it holds a bad literal, and the report is that of the
leftmost: it says what is wrong with that one and covers its bytes. Every
other bad literal stands behind them. -/
theorem bad_literals_reported_leftmost {text : String} (h : Formula.Grammatical text) :
    ((∃ e, Formula.parse text = .error e) ↔
      ∃ start l, Formula.HasLiteral text start l ∧ l.IsBad) ∧
    ∀ e, Formula.parse text = .error e → ∃ start l after,
      text = start ++ (String.ofList l.written ++ after) ∧
      Formula.HasLiteral text start l ∧ l.IsBad ∧
      e.fault = l.fault ∧ e.message = l.complaint ∧
      e.offset = start.utf8ByteSize ∧ e.length = (String.ofList l.written).utf8ByteSize ∧
      ∀ start' l', Formula.HasLiteral text start' l' → l'.IsBad →
        start' = start ∧ l' = l ∨ e.offset + e.length ≤ start'.utf8ByteSize := by
  obtain ⟨draft, hread⟩ := Draft.grammatical_iff.1 h
  rcases hfirst : firstBad draft.sites with _ | site
  · obtain ⟨f, hparse⟩ := Formula.parse_of_no_bad hread hfirst
    have hgood : ¬ ∃ start l, Formula.HasLiteral text start l ∧ l.IsBad := by
      rintro ⟨start, l, hl, hbad⟩
      obtain ⟨after, hmem, -⟩ := (Draft.hasLiteral_iff hread).1 hl
      have hnot := List.find?_eq_none.1 hfirst _ hmem
      simp [hbad] at hnot
    rw [hparse]
    exact ⟨iff_of_false nofun hgood, nofun⟩
  · have hmem := List.mem_of_find?_eq_some hfirst
    have hbad : site.literal.IsBad := by simpa using List.find?_some hfirst
    obtain ⟨start, hstart, hliteral⟩ := Draft.exists_start hread hmem
    have hparse := Formula.parse_of_first_bad hread hfirst hstart
    refine ⟨iff_of_true ⟨_, hparse⟩ ⟨start, site.literal, hliteral, hbad⟩, fun e he => ?_⟩
    obtain rfl := Except.error.inj (hparse.symm.trans he)
    refine ⟨start, site.literal, String.ofList site.after, ?_, hliteral, hbad, rfl,
      site.literal.message_fault, rfl, rfl, fun start' l' hl' hbad' => ?_⟩
    · rw [← String.toList_inj, String.toList_append, String.toList_append, String.toList_ofList,
        String.toList_ofList, hstart, Site.here]
    · rcases Draft.leftmost_of_firstBad hread hfirst hstart hl' hbad' with hsame | ⟨between, hlater⟩
      · exact .inl hsame
      · refine .inr ?_
        have hbytes := congrArg byteLength hlater
        rw [byteLength_append, byteLength_append, byteLength_toList, byteLength_toList] at hbytes
        rw [utf8ByteSize_ofList, hbytes]
        dsimp only
        omega

/-- Of two bad literals in an inner call, the regular expression comes first;
two bytes of the text before it are one character. -/
theorem first_of_two_reported :
    Formula.Grammatical "@F('ä', @G(/(/i, 4294967296))" ∧
    ∃ e start l, Formula.parse "@F('ä', @G(/(/i, 4294967296))" = .error e ∧
      e.message = "invalid regular expression: <regex error>" ∧ e.offset = 12 ∧ e.length = 4 ∧
      Formula.HasLiteral "@F('ä', @G(/(/i, 4294967296))" start l ∧ l.IsBad ∧
      start.utf8ByteSize = 12 := by
  have hreads : (Draft.read "@F('ä', @G(/(/i, 4294967296))".toList).isOk = true := by
    decide +kernel
  have hgrammatical : Formula.Grammatical "@F('ä', @G(/(/i, 4294967296))" := by
    rcases hread : Draft.read "@F('ä', @G(/(/i, 4294967296))".toList with notes | draft
    · rw [hread] at hreads
      cases hreads
    · exact Draft.grammatical_iff.2 ⟨draft, hread⟩
  have herror : (match Formula.parse "@F('ä', @G(/(/i, 4294967296))" with
      | .error e => some e
      | .ok _ => none) = some ⟨.badRegex, 12, 4⟩ := by decide +kernel
  rcases hparse : Formula.parse "@F('ä', @G(/(/i, 4294967296))" with e | f
  · rw [hparse] at herror
    obtain rfl := Option.some.inj herror
    obtain ⟨start, l, -, -, hliteral, hbad, -, -, hoffset, -⟩ :=
      (bad_literals_reported_leftmost hgrammatical).2 _ hparse
    exact ⟨hgrammatical, _, start, l, rfl, rfl, rfl, rfl, hliteral, hbad, hoffset.symm⟩
  · rw [hparse] at herror
    cases herror

end MailFormula
