import MailFormula.Formula.Parser
import MailFormula.Proofs.Formula.Grammar
/-!
# Canonical texts are read back

A formula is well formed when its names, its patterns and its flags can
be written down. Reading gives only well-formed formulas, and each of
them is what its own canonical text reads as. Both halves go through the
grammar: the canonical text in front of any other text is derived with a
draft that builds the formula (`WellFormed.exists_spelled`), and what a
derived draft builds is well formed (`wellFormed_of_spelled`).
-/

namespace MailFormula

open MailFormula.Lexeme MailFormula.Text

namespace Formula

mutual
/-- **Well-formed formulas**: every name follows the grammar, every
pattern can stand in a literal, and every flag is a flag letter. That a
number fits into 32 bits and that a pattern compiles is part of what a
formula is. -/
def WellFormed : Formula → Prop
  | text _ => True
  | number _ => True
  | regex r => PatternText r.pattern.toList ∧ ∀ c ∈ r.flags.toList, isFlagChar c = true
  | field name => IsRun isNameChar name.toList
  | var name => IsRun isVarChar name.toList
  | call name args => IsName name.toList ∧ AllWellFormed args

/-- All of several formulas are well formed. -/
def AllWellFormed : List Formula → Prop
  | [] => True
  | f :: fs => f.WellFormed ∧ AllWellFormed fs
end

end Formula

/-! ## Building -/

namespace Draft

variable {f : Formula} {fs : List Formula}

theorem build_number_eq_ok_iff {digits after : List Char} :
    (number digits after).build = .ok f ↔
      decimalValue digits < UInt32.size ∧ f = .number (UInt32.ofNat (decimalValue digits)) := by
  rw [build]
  split
  · rename_i hsize
    exact ⟨fun h => ⟨hsize, (Except.ok.inj h).symm⟩, fun h => congrArg _ h.2.symm⟩
  · rename_i hsize
    exact ⟨nofun, fun h => absurd h.1 hsize⟩

/-- A regular expression is built where the pattern compiles, and is
known by its pattern and its flags. -/
theorem build_regex_eq_ok_iff {body flags after : List Char} :
    (regex body flags after).build = .ok f ↔
      ∃ r : Regex, f = .regex r ∧ r.pattern = String.ofList (unescapePattern body) ∧
        r.flags = String.ofList flags := by
  rw [build]
  split
  · rename_i r hr
    constructor
    · intro h
      exact ⟨r, (Except.ok.inj h).symm, Regex.compile?_eq_some_iff.1 hr⟩
    · rintro ⟨r', rfl, hr'⟩
      rw [Regex.compile?_eq_some_iff.2 hr'] at hr
      rw [Option.some.inj hr]
  · rename_i hnone
    refine ⟨nofun, ?_⟩
    rintro ⟨r', rfl, hr'⟩
    rw [Regex.compile?_eq_some_iff.2 hr'] at hnone
    cases hnone

theorem build_call_eq_ok_iff {name : List Char} {args : List Draft} :
    (call name args).build = .ok f ↔
      ∃ fs, buildAll args = .ok fs ∧ f = .call (String.ofList name) fs := by
  rw [build]
  split
  · rename_i fs hfs
    constructor
    · intro h
      exact ⟨fs, hfs, (Except.ok.inj h).symm⟩
    · rintro ⟨fs', hfs', rfl⟩
      rw [hfs] at hfs'
      rw [Except.ok.inj hfs']
  · rename_i e he
    refine ⟨nofun, ?_⟩
    rintro ⟨fs', hfs', -⟩
    rw [he] at hfs'
    cases hfs'

theorem buildAll_cons_eq_ok_iff {draft : Draft} {drafts : List Draft} :
    buildAll (draft :: drafts) = .ok fs ↔
      ∃ f more, draft.build = .ok f ∧ buildAll drafts = .ok more ∧ fs = f :: more := by
  rw [buildAll]
  constructor
  · intro h
    split at h
    · cases h
    · rename_i f hf
      split at h
      · cases h
      · rename_i more hmore
        exact ⟨f, more, hf, hmore, (Except.ok.inj h).symm⟩
  · rintro ⟨f, more, hf, hmore, rfl⟩
    rw [hf, hmore]

mutual
/-- A bad literal is none that is open. -/
theorem build_fault_ne_openString : ∀ {draft : Draft} {bad : BadLiteral},
    draft.build = .error bad → bad.fault ≠ .openString
  | .text _, _, h => by cases h
  | .number digits after, bad, h => by
    rw [build] at h
    split at h
    · cases h
    · obtain rfl := Except.error.inj h
      intro hfault
      cases hfault
  | .regex body flags after, bad, h => by
    rw [build] at h
    split at h
    · cases h
    · obtain rfl := Except.error.inj h
      intro hfault
      cases hfault
  | .field _, _, h => by cases h
  | .var _, _, h => by cases h
  | .call name args, bad, h => by
    rw [build] at h
    split at h
    · cases h
    · rename_i bad' hbuild
      obtain rfl := Except.error.inj h
      exact buildAll_fault_ne_openString hbuild

theorem buildAll_fault_ne_openString : ∀ {drafts : List Draft} {bad : BadLiteral},
    buildAll drafts = .error bad → bad.fault ≠ .openString
  | [], _, h => by cases h
  | d :: ds, bad, h => by
    rw [buildAll] at h
    split at h
    · rename_i bad' hbuild
      obtain rfl := Except.error.inj h
      exact build_fault_ne_openString hbuild
    · split at h
      · rename_i bad' hbuild
        obtain rfl := Except.error.inj h
        exact buildAll_fault_ne_openString hbuild
      · cases h
end

end Draft

theorem Formula.parse_eq_ok_iff {text : String} {f : Formula} :
    Formula.parse text = .ok f ↔
      ∃ draft, Draft.read text.toList = .ok draft ∧ draft.build = .ok f := by
  rw [Formula.parse, Formula.parseChars]
  constructor
  · intro h
    split at h
    · cases h
    · rename_i draft hread
      split at h
      · cases h
      · rename_i f' hbuild
        obtain rfl := Except.ok.inj h
        exact ⟨draft, hread, hbuild⟩
  · rintro ⟨draft, hread, hbuild⟩
    rw [hread]
    simp only [hbuild]

/-! ## Canonical texts are derived -/

namespace Formula

open Draft

mutual
/-- **The canonical text is derived in front of any other**, with a
draft that builds the formula. -/
theorem WellFormed.exists_spelled : ∀ {f : Formula}, f.WellFormed → ∀ rest,
    ∃ draft, Spelled (f.chars ++ rest) draft rest ∧ draft.build = .ok f
  | .text s, _, rest => by
    refine ⟨.text (escapeString s.toList), ?_, ?_⟩
    · rw [chars, List.append_assoc, List.cons_append]
      exact .text (.inl rfl) (quotedBody_escapeString s.toList)
    · rw [build, unescapeString_escapeString, String.ofList_toList]
  | .number n, _, rest => by
    refine ⟨.number (Nat.toDigits 10 n.toNat) rest, ?_, build_number_eq_ok_iff.2 ?_⟩
    · rw [chars]
      exact .number (isRun_toDigits n.toNat)
    · rw [decimalValue_toDigits, UInt32.ofNat_toNat]
      exact ⟨n.toNat_lt, rfl⟩
  | .regex r, h, rest => by
    rw [WellFormed] at h
    refine ⟨.regex (escapePattern r.pattern.toList) r.flags.toList rest, ?_,
      build_regex_eq_ok_iff.2 ⟨r, rfl, ?_, ?_⟩⟩
    · rw [chars, List.append_assoc, List.cons_append, List.cons_append]
      exact .regex h.1.quotedBody h.2
    · rw [h.1.unescapePattern_escapePattern, String.ofList_toList]
    · rw [String.ofList_toList]
  | .field name, h, rest => by
    rw [WellFormed] at h
    refine ⟨.field name.toList, ?_, ?_⟩
    · rw [chars, List.cons_append]
      exact .field h
    · rw [build, String.ofList_toList]
  | .var name, h, rest => by
    rw [WellFormed] at h
    refine ⟨.var name.toList, ?_, ?_⟩
    · rw [chars, List.cons_append]
      exact .var h
    · rw [build, String.ofList_toList]
  | .call name args, h, rest => by
    rw [WellFormed] at h
    obtain ⟨drafts, hdrafts, hbuild⟩ := h.2.exists_spelledArgs rest
    refine ⟨.call name.toList drafts, ?_, build_call_eq_ok_iff.2 ⟨args, hbuild, ?_⟩⟩
    · have hcall := Spelled.call h.1 .nil hdrafts
      simpa [chars] using hcall
    · rw [String.ofList_toList]

theorem AllWellFormed.exists_spelledArgs : ∀ {fs : List Formula}, AllWellFormed fs → ∀ rest,
    ∃ drafts, SpelledArgs (argChars fs ++ ')' :: rest) drafts rest ∧ buildAll drafts = .ok fs
  | [], _, rest => ⟨[], .none .nil, rfl⟩
  | f :: fs, h, rest => by
    rw [AllWellFormed] at h
    obtain ⟨drafts, hdrafts, hbuilds⟩ := h.2.exists_spelledMore rest
    obtain ⟨draft, hdraft, hbuild⟩ := h.1.exists_spelled (moreChars fs ++ ')' :: rest)
    refine ⟨draft :: drafts, ?_, buildAll_cons_eq_ok_iff.2 ⟨f, fs, hbuild, hbuilds, rfl⟩⟩
    rw [argChars, List.append_assoc, ← List.nil_append (f.chars ++ _)]
    exact .some .nil hdraft hdrafts

theorem AllWellFormed.exists_spelledMore : ∀ {fs : List Formula}, AllWellFormed fs → ∀ rest,
    ∃ drafts, SpelledMore (moreChars fs ++ ')' :: rest) drafts rest ∧ buildAll drafts = .ok fs
  | [], _, rest => ⟨[], .close .nil, rfl⟩
  | f :: fs, h, rest => by
    rw [AllWellFormed] at h
    obtain ⟨drafts, hdrafts, hbuilds⟩ := h.2.exists_spelledMore rest
    obtain ⟨draft, hdraft, hbuild⟩ := h.1.exists_spelled (moreChars fs ++ ')' :: rest)
    refine ⟨draft :: drafts, ?_, buildAll_cons_eq_ok_iff.2 ⟨f, fs, hbuild, hbuilds, rfl⟩⟩
    -- The blank after the comma is the gap before the next argument.
    have hcomma := SpelledMore.comma .nil (.blank (by decide : isSpace ' ' = true) .nil) hdraft
      hdrafts
    simpa [moreChars] using hcomma
end

/-! ## What is read is well formed -/

mutual
/-- **What a derived draft builds is well formed.** -/
theorem wellFormed_of_spelled : ∀ {cs draft rest}, Spelled cs draft rest →
    ∀ {f : Formula}, draft.build = .ok f → f.WellFormed
  | _, _, _, .text _ _, f, hbuild => by
    rw [← Except.ok.inj hbuild, WellFormed]
    trivial
  | _, _, _, .number _, f, hbuild => by
    obtain ⟨-, rfl⟩ := build_number_eq_ok_iff.1 hbuild
    rw [WellFormed]
    trivial
  | _, _, _, .regex hbody hflags, f, hbuild => by
    obtain ⟨r, rfl, hpattern, hr⟩ := build_regex_eq_ok_iff.1 hbuild
    rw [WellFormed, hpattern, hr, String.toList_ofList, String.toList_ofList]
    exact ⟨hbody.patternText, hflags⟩
  | _, _, _, .field hname, f, hbuild => by
    rw [← Except.ok.inj hbuild, WellFormed, String.toList_ofList]
    exact hname
  | _, _, _, .var hname, f, hbuild => by
    rw [← Except.ok.inj hbuild, WellFormed, String.toList_ofList]
    exact hname
  | _, _, _, .call hname _ hargs, f, hbuild => by
    obtain ⟨fs, hfs, rfl⟩ := build_call_eq_ok_iff.1 hbuild
    rw [WellFormed, String.toList_ofList]
    exact ⟨hname, allWellFormed_of_spelledArgs hargs hfs⟩

theorem allWellFormed_of_spelledArgs : ∀ {cs drafts rest}, SpelledArgs cs drafts rest →
    ∀ {fs : List Formula}, buildAll drafts = .ok fs → AllWellFormed fs
  | _, _, _, .none _, fs, hbuild => by
    rw [← Except.ok.inj hbuild, AllWellFormed]
    trivial
  | _, _, _, .some _ harg hmore, fs, hbuild => by
    obtain ⟨f, more, hf, hfs, rfl⟩ := buildAll_cons_eq_ok_iff.1 hbuild
    rw [AllWellFormed]
    exact ⟨wellFormed_of_spelled harg hf, allWellFormed_of_spelledMore hmore hfs⟩

theorem allWellFormed_of_spelledMore : ∀ {cs drafts rest}, SpelledMore cs drafts rest →
    ∀ {fs : List Formula}, buildAll drafts = .ok fs → AllWellFormed fs
  | _, _, _, .close _, fs, hbuild => by
    rw [← Except.ok.inj hbuild, AllWellFormed]
    trivial
  | _, _, _, .comma _ _ harg hmore, fs, hbuild => by
    obtain ⟨f, more, hf, hfs, rfl⟩ := buildAll_cons_eq_ok_iff.1 hbuild
    rw [AllWellFormed]
    exact ⟨wellFormed_of_spelled harg hf, allWellFormed_of_spelledMore hmore hfs⟩
end

/-! ## The round trip -/

theorem WellFormed.parse_toText {f : Formula} (h : f.WellFormed) :
    Formula.parse f.toText = .ok f := by
  obtain ⟨draft, hspelled, hbuild⟩ := h.exists_spelled []
  refine parse_eq_ok_iff.2 ⟨draft, read_eq_ok_iff.2 ⟨[], f.chars, [], ?_, .nil, ?_, .gap .nil⟩,
    hbuild⟩
  · rw [toText, String.toList_ofList, List.nil_append]
  · rwa [List.append_nil] at hspelled

theorem wellFormed_of_parse {text : String} {f : Formula} (h : Formula.parse text = .ok f) :
    f.WellFormed := by
  obtain ⟨draft, hread, hbuild⟩ := parse_eq_ok_iff.1 h
  obtain ⟨gap, cs, rest, -, -, hspelled, -⟩ := read_eq_ok_iff.1 hread
  exact wellFormed_of_spelled hspelled hbuild

end Formula

/-- **Canonical texts are read back.** The canonical text of a
well-formed formula reads as that formula; every formula that any text
reads as is well formed; and so the canonical text of what was read
reads as the same again. -/
theorem canonical_text_reads_back :
    (∀ f : Formula, f.WellFormed → Formula.parse f.toText = .ok f) ∧
      ∀ (text : String) (f : Formula), Formula.parse text = .ok f →
        f.WellFormed ∧ Formula.parse f.toText = .ok f := by
  refine ⟨fun f hf => hf.parse_toText, fun text f h => ?_⟩
  have hf : f.WellFormed := Formula.wellFormed_of_parse h
  exact ⟨hf, hf.parse_toText⟩

/-- A regular expression with a bare slash and an escape. -/
def slashed : Regex := (Regex.compile? "^a/\\." "ms").get (by decide)

theorem slashed_texts : slashed.pattern = "^a/\\." ∧ slashed.flags = "ms" :=
  Regex.compile?_eq_some_iff.1 (Option.some_get _).symm

/-- A formula with a node of every kind, and much to escape. -/
def awkward : Formula :=
  .call "to-do" [.text "it's \\ \"so\"\n", .regex slashed, .field "-1", .var "1",
    .number 4294967295, .call "_" []]

theorem awkward_reads_back : awkward.WellFormed ∧ Formula.parse awkward.toText = .ok awkward := by
  have hslashed : (Formula.regex slashed).WellFormed := by
    rw [Formula.WellFormed, slashed_texts.1, slashed_texts.2]
    refine ⟨?_, List.all_eq_true.1 (by decide)⟩
    exact .plain (by decide) (by decide) (.plain (by decide) (by decide)
      (.plain (by decide) (by decide) (.escape (by decide) .nil)))
  have hname : IsName "to-do".toList :=
    ⟨⟨by decide, List.all_eq_true.1 (by decide)⟩, 't', _, rfl, by decide⟩
  have hlow : IsName "_".toList :=
    ⟨⟨by decide, List.all_eq_true.1 (by decide)⟩, '_', _, rfl, by decide⟩
  have hawkward : awkward.WellFormed := by
    simp only [awkward, Formula.WellFormed, Formula.AllWellFormed]
    exact ⟨hname, trivial, hslashed, ⟨by decide, List.all_eq_true.1 (by decide)⟩,
      ⟨by decide, List.all_eq_true.1 (by decide)⟩, trivial, ⟨hlow, trivial⟩, trivial⟩
  exact ⟨hawkward, canonical_text_reads_back.1 awkward hawkward⟩

end MailFormula
