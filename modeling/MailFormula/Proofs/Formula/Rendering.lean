import MailFormula.Proofs.Formula.RoundTrip
/-!
# The texts of a formula

Which texts write a formula, said over its tokens. A formula has its
tokens in order, and each token has its spellings (`Tokens`): a name has
one, a number one for each count of leading zeros, a string very many.
A text lays tokens out (`LaidOut`) if it has a gap before each of them,
and after the last what may end a text. Nothing is said about where a
token ends or which spelling is read first: a token that has no closing
mark is always followed by a punctuation mark or by a gap, and that is
why reading whatever comes greedily finds the same tokens.

Both directions of the agreement with the grammar of drafts carry the
tokens that follow along, so that a formula can be an argument.
-/

namespace MailFormula

open MailFormula.Lexeme MailFormula.Text MailFormula.Draft

namespace Formula

mutual
/-- **The tokens of a formula**, in order and each in one of its
spellings. -/
inductive Tokens : Formula → List (List Char) → Prop
  /-- A string: any body between two quotes of either kind that stands
  for it. -/
  | text {s : String} {quote : Char} {body : List Char} :
      quote = '\'' ∨ quote = '"' → QuotedBody quote (fun _ => false) body →
      unescapeString body = s.toList → Tokens (.text s) [quote :: (body ++ [quote])]
  /-- A number: any digits of that value. -/
  | number {n : UInt32} {digits : List Char} :
      IsRun isAsciiDigit digits → decimalValue digits = n.toNat → Tokens (.number n) [digits]
  /-- A regular expression: any body between two slashes that stands for
  its pattern, and its flags. -/
  | regex {r : Regex} {body : List Char} :
      QuotedBody '/' (· == '\n') body → unescapePattern body = r.pattern.toList →
      (∀ c ∈ r.flags.toList, isFlagChar c = true) →
      Tokens (.regex r) ['/' :: (body ++ '/' :: r.flags.toList)]
  | field {name : String} : IsRun isNameChar name.toList → Tokens (.field name) ['%' :: name.toList]
  | var {name : String} : IsRun isVarChar name.toList → Tokens (.var name) ['$' :: name.toList]
  /-- A call: its name, and its arguments between parentheses. -/
  | call {name : String} {args : List Formula} {ts : List (List Char)} :
      IsName name.toList → ArgTokens args ts →
      Tokens (.call name args) (('@' :: name.toList) :: ['('] :: (ts ++ [[')']]))

/-- The tokens between the parentheses of a call. -/
inductive ArgTokens : List Formula → List (List Char) → Prop
  | none : ArgTokens [] []
  | some {f : Formula} {fs : List Formula} {ts us : List (List Char)} :
      Tokens f ts → MoreTokens fs us → ArgTokens (f :: fs) (ts ++ us)

/-- The tokens after the first argument: each further one has a comma
before it. -/
inductive MoreTokens : List Formula → List (List Char) → Prop
  | none : MoreTokens [] []
  | some {f : Formula} {fs : List Formula} {ts us : List (List Char)} :
      Tokens f ts → MoreTokens fs us → MoreTokens (f :: fs) ([','] :: (ts ++ us))
end

/-- **A text lays tokens out**: a gap before each of them, and after the
last one what may end a text. -/
inductive LaidOut : List (List Char) → List Char → Prop
  | nil {cs : List Char} : Trailer cs → LaidOut [] cs
  | cons {gap t cs : List Char} {ts : List (List Char)} :
      Gap gap → LaidOut ts cs → LaidOut (t :: ts) (gap ++ (t ++ cs))

/-- **A text writes a formula**: it lays out its tokens. -/
def Writes (cs : List Char) (f : Formula) : Prop := ∃ ts, Tokens f ts ∧ LaidOut ts cs

theorem laidOut_cons {t cs : List Char} {ts : List (List Char)} :
    LaidOut (t :: ts) cs ↔ ∃ gap rest, cs = gap ++ (t ++ rest) ∧ Gap gap ∧ LaidOut ts rest := by
  constructor
  · intro h
    cases h with
    | cons hgap hrest => exact ⟨_, _, rfl, hgap, hrest⟩
  · rintro ⟨gap, rest, rfl, hgap, hrest⟩
    exact .cons hgap hrest

theorem laidOut_nil {cs : List Char} : LaidOut [] cs ↔ Trailer cs := by
  constructor
  · intro h
    cases h with
    | nil h => exact h
  · exact .nil

/-! ## What is derived writes what it builds -/

mutual
/-- **A derived draft has the tokens of the formula it builds**, whatever
tokens follow it. -/
theorem exists_tokens_of_spelled : ∀ {cs draft rest}, Spelled cs draft rest →
    ∀ {f : Formula}, draft.build = .ok f → ∃ ts, Tokens f ts ∧
      ∀ {us gap}, Gap gap → LaidOut us rest → LaidOut (ts ++ us) (gap ++ cs)
  | _, _, rest, .text hquote hbody, f, hbuild => by
    obtain rfl := Except.ok.inj hbuild
    refine ⟨_, .text hquote hbody String.toList_ofList.symm, fun hgap hus => ?_⟩
    refine laidOut_cons.2 ⟨_, rest, ?_, hgap, hus⟩
    rw [List.cons_append, List.append_assoc, List.singleton_append]
  | _, _, rest, .number hdigits, f, hbuild => by
    obtain ⟨hsize, rfl⟩ := build_number_eq_ok_iff.1 hbuild
    refine ⟨_, .number hdigits ?_, fun hgap hus => .cons hgap hus⟩
    exact (UInt32.toNat_ofNat_of_lt' hsize).symm
  | _, _, rest, @Spelled.regex body flags _ hbody hflags, f, hbuild => by
    obtain ⟨r, rfl, hpattern, hr⟩ := build_regex_eq_ok_iff.1 hbuild
    have hflags' : r.flags.toList = flags := by rw [hr, String.toList_ofList]
    refine ⟨_, .regex hbody (by rw [hpattern, String.toList_ofList]) (by rwa [hflags']),
      fun hgap hus => ?_⟩
    refine laidOut_cons.2 ⟨_, rest, ?_, hgap, hus⟩
    rw [hflags', List.cons_append, List.append_assoc, List.cons_append]
  | _, _, rest, .field hname, f, hbuild => by
    obtain rfl := Except.ok.inj hbuild
    refine ⟨_, .field (by rwa [String.toList_ofList]), fun hgap hus => ?_⟩
    rw [String.toList_ofList]
    exact .cons hgap hus
  | _, _, rest, .var hname, f, hbuild => by
    obtain rfl := Except.ok.inj hbuild
    refine ⟨_, .var (by rwa [String.toList_ofList]), fun hgap hus => ?_⟩
    rw [String.toList_ofList]
    exact .cons hgap hus
  | _, _, rest, .call hname hgap' hargs, f, hbuild => by
    obtain ⟨fs, hfs, rfl⟩ := build_call_eq_ok_iff.1 hbuild
    obtain ⟨ts, hts, hlaid⟩ := exists_tokens_of_spelledArgs hargs hfs
    refine ⟨_, .call (by rwa [String.toList_ofList]) hts, fun hgap hus => ?_⟩
    rw [String.toList_ofList, List.cons_append, List.cons_append, List.append_assoc]
    exact .cons hgap (.cons hgap' (hlaid hus))

theorem exists_tokens_of_spelledArgs : ∀ {cs drafts rest}, SpelledArgs cs drafts rest →
    ∀ {fs : List Formula}, buildAll drafts = .ok fs → ∃ ts, ArgTokens fs ts ∧
      ∀ {us}, LaidOut us rest → LaidOut (ts ++ [')'] :: us) cs
  | _, _, rest, .none hgap, fs, hbuild => by
    obtain rfl := Except.ok.inj hbuild
    exact ⟨[], .none, fun hus => .cons hgap hus⟩
  | _, _, rest, .some hgap harg hmore, fs, hbuild => by
    obtain ⟨f, more, hf, hfs, rfl⟩ := buildAll_cons_eq_ok_iff.1 hbuild
    obtain ⟨ts, hts, hlaid⟩ := exists_tokens_of_spelled harg hf
    obtain ⟨us, hus, hlaid'⟩ := exists_tokens_of_spelledMore hmore hfs
    refine ⟨_, .some hts hus, fun hafter => ?_⟩
    rw [List.append_assoc]
    exact hlaid hgap (hlaid' hafter)

theorem exists_tokens_of_spelledMore : ∀ {cs drafts rest}, SpelledMore cs drafts rest →
    ∀ {fs : List Formula}, buildAll drafts = .ok fs → ∃ ts, MoreTokens fs ts ∧
      ∀ {us}, LaidOut us rest → LaidOut (ts ++ [')'] :: us) cs
  | _, _, rest, .close hgap, fs, hbuild => by
    obtain rfl := Except.ok.inj hbuild
    exact ⟨[], .none, fun hus => .cons hgap hus⟩
  | _, _, rest, .comma hgap hgap' harg hmore, fs, hbuild => by
    obtain ⟨f, more, hf, hfs, rfl⟩ := buildAll_cons_eq_ok_iff.1 hbuild
    obtain ⟨ts, hts, hlaid⟩ := exists_tokens_of_spelled harg hf
    obtain ⟨us, hus, hlaid'⟩ := exists_tokens_of_spelledMore hmore hfs
    refine ⟨_, .some hts hus, fun hafter => ?_⟩
    rw [List.cons_append, List.append_assoc]
    exact .cons hgap (hlaid hgap' (hlaid' hafter))
end

/-! ## What writes a formula is derived -/

mutual
/-- **The tokens of a formula, laid out, are derived** with a draft that
builds it, and the tokens that follow are laid out in what is left. -/
theorem Tokens.exists_spelled : ∀ {f ts}, Tokens f ts → ∀ {us whole}, LaidOut (ts ++ us) whole →
    ∃ gap cs draft rest, whole = gap ++ cs ∧ Gap gap ∧ Spelled cs draft rest ∧
      draft.build = .ok f ∧ LaidOut us rest
  | _, _, @Tokens.text s quote body hquote hbody hs, us, whole, hlaid => by
    obtain ⟨gap, rest, rfl, hgap, hus⟩ := laidOut_cons.1 hlaid
    refine ⟨gap, _, .text body, rest, rfl, hgap, ?_, ?_, hus⟩
    · rw [List.cons_append, List.append_assoc]
      exact .text hquote hbody
    · rw [build, hs, String.ofList_toList]
  | _, _, @Tokens.number n digits hdigits hn, us, whole, hlaid => by
    obtain ⟨gap, rest, rfl, hgap, hus⟩ := laidOut_cons.1 hlaid
    refine ⟨gap, _, .number digits rest, rest, rfl, hgap, .number hdigits, ?_, hus⟩
    rw [build_number_eq_ok_iff, hn, UInt32.ofNat_toNat]
    exact ⟨n.toNat_lt, rfl⟩
  | _, _, @Tokens.regex r body hbody hpattern hflags, us, whole, hlaid => by
    obtain ⟨gap, rest, rfl, hgap, hus⟩ := laidOut_cons.1 hlaid
    refine ⟨gap, _, .regex body r.flags.toList rest, rest, rfl, hgap, ?_, ?_, hus⟩
    · rw [List.cons_append, List.append_assoc, List.cons_append]
      exact .regex hbody hflags
    · rw [build_regex_eq_ok_iff, hpattern, String.ofList_toList, String.ofList_toList]
      exact ⟨r, rfl, rfl, rfl⟩
  | _, _, @Tokens.field name hname, us, whole, hlaid => by
    obtain ⟨gap, rest, rfl, hgap, hus⟩ := laidOut_cons.1 hlaid
    refine ⟨gap, _, .field name.toList, rest, rfl, hgap, .field hname, ?_, hus⟩
    rw [build, String.ofList_toList]
  | _, _, @Tokens.var name hname, us, whole, hlaid => by
    obtain ⟨gap, rest, rfl, hgap, hus⟩ := laidOut_cons.1 hlaid
    refine ⟨gap, _, .var name.toList, rest, rfl, hgap, .var hname, ?_, hus⟩
    rw [build, String.ofList_toList]
  | _, _, @Tokens.call name args ts hname hargs, us, whole, hlaid => by
    obtain ⟨gap, _, rfl, hgap, hopen⟩ := laidOut_cons.1 hlaid
    obtain ⟨gap', inner, rfl, hgap', hinner⟩ := laidOut_cons.1 hopen
    rw [List.append_eq, List.append_assoc] at hinner
    obtain ⟨drafts, rest, hspelled, hbuild, hus⟩ := hargs.exists_spelledArgs hinner
    refine ⟨gap, _, .call name.toList drafts, rest, rfl, hgap, .call hname hgap' hspelled, ?_, hus⟩
    rw [build_call_eq_ok_iff, String.ofList_toList]
    exact ⟨args, hbuild, rfl⟩

theorem ArgTokens.exists_spelledArgs : ∀ {fs ts}, ArgTokens fs ts →
    ∀ {us whole}, LaidOut (ts ++ [')'] :: us) whole →
    ∃ drafts rest, SpelledArgs whole drafts rest ∧ buildAll drafts = .ok fs ∧ LaidOut us rest
  | _, _, .none, us, whole, hlaid => by
    obtain ⟨gap, rest, rfl, hgap, hus⟩ := laidOut_cons.1 hlaid
    exact ⟨[], rest, .none hgap, rfl, hus⟩
  | _, _, @ArgTokens.some f fs _ _ hts hus, us, whole, hlaid => by
    rw [List.append_assoc] at hlaid
    obtain ⟨gap, cs, draft, after, rfl, hgap, hspelled, hbuild, hafter⟩ := hts.exists_spelled hlaid
    obtain ⟨drafts, rest, hmore, hbuilds, hrest⟩ := hus.exists_spelledMore hafter
    refine ⟨draft :: drafts, rest, .some hgap hspelled hmore, ?_, hrest⟩
    exact buildAll_cons_eq_ok_iff.2 ⟨f, fs, hbuild, hbuilds, rfl⟩

theorem MoreTokens.exists_spelledMore : ∀ {fs ts}, MoreTokens fs ts →
    ∀ {us whole}, LaidOut (ts ++ [')'] :: us) whole →
    ∃ drafts rest, SpelledMore whole drafts rest ∧ buildAll drafts = .ok fs ∧ LaidOut us rest
  | _, _, .none, us, whole, hlaid => by
    obtain ⟨gap, rest, rfl, hgap, hus⟩ := laidOut_cons.1 hlaid
    exact ⟨[], rest, .close hgap, rfl, hus⟩
  | _, _, @MoreTokens.some f fs _ _ hts hus, us, whole, hlaid => by
    rw [List.cons_append, List.append_assoc] at hlaid
    obtain ⟨gap, _, rfl, hgap, harg⟩ := laidOut_cons.1 hlaid
    obtain ⟨gap', cs, draft, after, rfl, hgap', hspelled, hbuild, hafter⟩ :=
      hts.exists_spelled harg
    obtain ⟨drafts, rest, hmore, hbuilds, hrest⟩ := hus.exists_spelledMore hafter
    rw [List.singleton_append]
    refine ⟨draft :: drafts, rest, .comma hgap hgap' hspelled hmore, ?_, hrest⟩
    exact buildAll_cons_eq_ok_iff.2 ⟨f, fs, hbuild, hbuilds, rfl⟩
end

/-- **A text is read as a formula exactly when it writes it.** -/
theorem parse_eq_ok_iff_writes {written : String} {f : Formula} :
    Formula.parse written = .ok f ↔ Writes written.toList f := by
  rw [parse_eq_ok_iff]
  constructor
  · rintro ⟨draft, hread, hbuild⟩
    obtain ⟨gap, cs, rest, hwhole, hgap, hspelled, htrailer⟩ := read_eq_ok_iff.1 hread
    obtain ⟨ts, hts, hlaid⟩ := exists_tokens_of_spelled hspelled hbuild
    have hwrites := hlaid hgap (laidOut_nil.2 htrailer)
    rw [List.append_nil, ← hwhole] at hwrites
    exact ⟨ts, hts, hwrites⟩
  · rintro ⟨ts, hts, hlaid⟩
    rw [← List.append_nil ts] at hlaid
    obtain ⟨gap, cs, draft, rest, hwhole, hgap, hspelled, hbuild, hrest⟩ := hts.exists_spelled hlaid
    have htrailer : Trailer rest := laidOut_nil.1 hrest
    exact ⟨draft, read_eq_ok_iff.2 ⟨gap, cs, rest, hwhole, hgap, hspelled, htrailer⟩, hbuild⟩

end Formula

/-- **Exactly the texts of a formula are read as it.** A text is read as
a formula if and only if it lays out the formula's tokens, with blanks
and comments between them and around them as it likes; and no text
writes two formulas. -/
theorem parse_accepts_exactly_what_is_written :
    (∀ (written : String) (f : Formula),
      Formula.parse written = .ok f ↔ Formula.Writes written.toList f) ∧
    ∀ (written : List Char) (f g : Formula),
      Formula.Writes written f → Formula.Writes written g → f = g := by
  refine ⟨fun written f => Formula.parse_eq_ok_iff_writes, fun written f g hf hg => ?_⟩
  rw [← String.toList_ofList (l := written), ← Formula.parse_eq_ok_iff_writes] at hf hg
  exact Except.ok.inj (hf.symm.trans hg)

/-- A call with two strings, a number and a regular expression. -/
def remarked : Formula :=
  .call "to-do" [.text "a#b", .text "\"", .number 7, .regex slashed]

/-- A text of it: the comments have quotes and punctuation in them, a
string has a number sign in it, and the number leading zeros. -/
def remarkedText : String :=
  "# it's\n@to-do (\t'a#b' ,\"\\\"\"# ),\n,007, /^a\\/\\./ms ) # end"

/-- That text is read as the formula, and writes no other. -/
theorem remarkedText_writes_one :
    Formula.parse remarkedText = .ok remarked ∧
      ∀ g, Formula.Writes remarkedText.toList g → g = remarked := by
  have hname : IsName "to-do".toList :=
    ⟨⟨by decide, List.all_eq_true.1 (by decide)⟩, 't', _, rfl, by decide⟩
  have hplain : QuotedBody '\'' (fun _ => false) ['a', '#', 'b'] :=
    .plain (by decide) (by decide) rfl (.plain (by decide) (by decide) rfl
      (.plain (by decide) (by decide) rfl .nil))
  have hpattern : QuotedBody '/' (· == '\n') ['^', 'a', '\\', '/', '\\', '.'] :=
    .plain (by decide) (by decide) rfl (.plain (by decide) (by decide) rfl
      (.escape (.escape .nil)))
  have hflags : ∀ c ∈ slashed.flags.toList, isFlagChar c = true := by
    rw [slashed_texts.2]
    exact List.all_eq_true.1 (by decide)
  have hdigits : IsRun isAsciiDigit ['0', '0', '7'] := ⟨by decide, List.all_eq_true.1 (by decide)⟩
  have hspace : Gap [' '] := .blank (by decide) .nil
  have hquote : '\n' ∉ [' ', 'i', 't', '\'', 's'] := by decide
  have hmarks : '\n' ∉ [' ', ')', ','] := by decide
  have hend : '\n' ∉ [' ', 'e', 'n', 'd'] := by decide
  have hwrites : Formula.Writes remarkedText.toList remarked := by
    refine ⟨_, .call hname <| .some (.text (.inl rfl) hplain (by decide)) <|
      .some (.text (.inr rfl) (.escape (c := '"') .nil) (by decide)) <|
      .some (.number hdigits (by decide)) <|
      .some (.regex hpattern (by rw [slashed_texts.1]; decide) hflags) .none, ?_⟩
    refine Eq.subst (motive := Formula.LaidOut _) ?_ (.cons
      (.comment hquote .nil) <| .cons hspace <|
      .cons (.blank (c := '\t') (by decide) .nil) <| .cons hspace <| .cons .nil <|
      .cons (.comment hmarks .nil) <| .cons .nil <| .cons .nil <|
      .cons hspace <| .cons hspace <| .nil <| .comment hspace hend)
    rw [slashed_texts.2]
    decide
  exact ⟨(parse_accepts_exactly_what_is_written.1 _ _).2 hwrites,
    fun g hg => parse_accepts_exactly_what_is_written.2 _ g _ hg hwrites⟩

end MailFormula
