import MailFormula.Proofs.Formula.Attempts
import MailFormula.Proofs.Text.Offset
/-!
# Where a text that is no formula is reported

A text that does not match the grammar is reported at one place: the
furthest at which a rule was tried in vain. A rule is tried only where what
was read before can still become a formula, so the text up to the place
can be completed (`Attempted.viable`). So nobody is sent past the first
point at which the text could no longer be saved.

Places are named by the text that is left there; the report counts the
bytes before them.
-/

namespace MailFormula

open MailFormula.Lexeme MailFormula.Text

namespace Draft

variable {text pre b q cs inner place : List Char}

/-! ## Attempts come after what can be completed -/

/-- Arguments are tried behind blanks and comments. If nothing is left
there, then because the text ends, perhaps in a comment. -/
theorem viable_behind_gap (hpre : ∀ gap, Gap gap → Awaits (pre ++ gap))
    (hplace : place <:+ skip cs)
    (hviable : ∀ gap, Gap gap → ∃ between, skip cs = between ++ place ∧
      Viable (pre ++ (gap ++ between))) :
    ∃ between, cs = between ++ place ∧ Viable (pre ++ between) := by
  by_cases hskip : skip cs = []
  · rw [hskip] at hplace
    obtain rfl := List.suffix_nil.1 hplace
    exact ⟨cs, (List.append_nil cs).symm, viable_of_skip_eq_nil hpre hskip⟩
  · obtain ⟨gap, hgap, hcs⟩ := exists_gap hskip
    obtain ⟨between, hbetween, hviable⟩ := hviable gap hgap
    rw [hbetween, ← List.append_assoc] at hcs
    exact ⟨gap ++ between, hcs, hviable⟩

/-- So it is behind the beginning of a call. -/
theorem viable_behind_opening (hpre : Awaits pre) (hq : ∀ gap, Gap gap → IsOpening (q ++ gap))
    (hplace : place <:+ skip inner)
    (hviable : ∀ b, IsOpening b → ∃ between, skip inner = between ++ place ∧
      Viable (pre ++ (b ++ between))) :
    ∃ between, inner = between ++ place ∧ Viable (pre ++ (q ++ between)) := by
  simp only [← List.append_assoc] at hviable ⊢
  refine viable_behind_gap (fun gap hgap => ?_) hplace fun gap hgap => ?_
  · rw [List.append_assoc]
    exact hpre.opening (hq gap hgap)
  · simpa using hviable _ (hq gap hgap)

mutual
/-- **A rule is tried only behind what can be completed**, where an
expression is awaited. -/
theorem Tried.viable : ∀ {cs place}, Tried cs place → ∀ {pre}, Awaits pre →
    ∃ between, cs = between ++ place ∧ Viable (pre ++ between)
  | _, _, .start _, _, hpre => ⟨[], rfl, by rw [List.append_nil]; exact hpre.viable⟩
  | _, _, .name _, _, hpre => ⟨['@'], rfl, hpre.viable_mark (by decide)⟩
  | _, _, .fieldName _, _, hpre => ⟨['%'], rfl, hpre.viable_mark (by decide)⟩
  | _, _, .varName _, _, hpre => ⟨['$'], rfl, hpre.viable_mark (by decide)⟩
  | _, _, @Tried.call c cs inner place hc hinner h, _, hpre => by
    obtain ⟨gap, hgap, hcs⟩ := exists_gap_cons hinner
    have hname := isName_takeWhile cs hc
    have hcall : c :: cs = (c :: cs).takeWhile isNameChar ++ (gap ++ '(' :: inner) := by
      rw [← hcs, List.takeWhile_append_dropWhile]
    generalize (c :: cs).takeWhile isNameChar = name at hname hcall
    have hopening : ∀ gap', Gap gap' → IsOpening ('@' :: (name ++ (gap ++ ['('])) ++ gap') := by
      intro gap' hgap'
      simpa using isOpening_call hname hgap hgap'
    obtain ⟨between, rfl, hviable⟩ :=
      viable_behind_opening hpre hopening h.suffix fun _ => h.viable hpre
    exact ⟨_, by simp [hcall], hviable⟩

/-- The same of the arguments of a call that has begun. -/
theorem TriedArgs.viable : ∀ {cs place}, TriedArgs cs place → ∀ {pre b}, Awaits pre →
    IsOpening b → ∃ between, cs = between ++ place ∧ Viable (pre ++ (b ++ between))
  | _, _, .here h, _, _, hpre, hb => by
    obtain ⟨between, hcs, hviable⟩ := h.viable (hpre.opening hb)
    exact ⟨between, hcs, by rwa [List.append_assoc] at hviable⟩
  | _, _, @TriedArgs.behind cs after inner place ⟨_, hdraft⟩ hcomma h, _, b, hpre, hb => by
    obtain ⟨e, rfl, he⟩ := (spelled_of_readOne hdraft).exists_expression
    obtain ⟨gap, hgap, rfl⟩ := exists_gap_cons hcomma
    have hopening : ∀ gap', Gap gap' → IsOpening (b ++ (e ++ (gap ++ [','])) ++ gap') := by
      intro gap' hgap'
      simpa using (hb e he).comma hgap hgap'
    obtain ⟨between, rfl, hviable⟩ :=
      viable_behind_opening hpre hopening h.suffix fun _ => h.viable hpre
    exact ⟨e ++ (gap ++ ',' :: between), by simp, by simpa using hviable⟩
end

/-- **Every attempt comes after what can be completed.** -/
theorem Attempted.viable (h : Attempted text place) :
    ∃ before, text = before ++ place ∧ Viable before := by
  cases h with
  | expression htried =>
    have hstart : ∀ gap, Gap gap → Awaits ([] ++ gap) := fun _ => awaits_gap
    exact viable_behind_gap hstart htried.suffix fun gap hgap => htried.viable (hstart gap hgap)
  | @ending after haccepts hplace =>
    obtain ⟨draft, hdraft⟩ := haccepts
    have hspelled := spelled_of_readOne hdraft
    obtain ⟨gap, hgap, htext⟩ := exists_gap hspelled.ne_nil
    obtain ⟨gap', hgap', hafter⟩ := exists_gap hplace
    obtain ⟨e, hskip, he⟩ := hspelled.exists_expression
    obtain ⟨draft', hdraft'⟩ := he gap'
    refine ⟨gap ++ (e ++ gap'), ?_, [], ?_⟩
    · rw [List.append_assoc, List.append_assoc, ← hafter, ← hskip, ← htext]
    · rw [List.append_nil]
      exact ⟨gap, e ++ gap', draft', gap', rfl, hgap, hdraft', .gap hgap'⟩
  | whole _ => exact ⟨[], rfl, (awaits_gap .nil).viable⟩

/-! ## The report -/

section

variable {reading : Reading Draft} {draft : Draft} {after : List Char}

/-- **Behind an accepted expression nothing is tried but the end**, and that
is further than all attempts in the expression. -/
theorem attempted_ending (haccounts : Accounts (Tried (skip text)) reading)
    (haccepts : ∀ after, Accepts (skip text) after ↔ ∃ draft, reading.result = some (draft, after))
    (hread : reading.result = some (draft, after)) (hne : skip after ≠ []) :
    Attempted text (skip after) ∧ ∀ place, Attempted text place →
      (skip after).length ≤ place.length := by
  have hskip := (skip_suffix text).length_le
  have hnoted := haccounts.noted.suffix.length_le
  have hafter := haccounts.before hread
  have hrest := (skip_suffix after).length_le
  refine ⟨.ending ((haccepts after).2 ⟨draft, hread⟩) hne, fun place hplace => ?_⟩
  cases hplace with
  | expression htried =>
    have hfurthest := haccounts.furthest place htried
    omega
  | ending haccepted _ =>
    obtain ⟨draft', hdraft'⟩ := (haccepts _).1 haccepted
    rw [hread] at hdraft'
    obtain ⟨-, rfl⟩ := Prod.mk.inj (Option.some.inj hdraft')
    exact Nat.le_refl _
  | whole _ => omega

/-- **Where no expression is accepted**, the furthest attempt is the one
that reading noted; at the very start it is that at the whole. -/
theorem attempted_account (haccounts : Accounts (Tried (skip text)) reading)
    (haccepts : ∀ after, ¬ Accepts (skip text) after) (hnot : ¬ Grammatical text) :
    Attempted text (account text reading.notes).rest ∧ ∀ place, Attempted text place →
      (account text reading.notes).rest.length ≤ place.length := by
  rw [account]
  split
  · refine ⟨.expression haccounts.noted, fun place hplace => ?_⟩
    cases hplace with
    | expression htried => exact haccounts.furthest place htried
    | ending haccepted _ => exact absurd haccepted (haccepts _)
    | whole _ => omega
  · refine ⟨.whole hnot, fun place hplace => ?_⟩
    dsimp only
    cases hplace with
    | expression htried =>
      have hfurthest := haccounts.furthest place htried
      omega
    | ending haccepted _ => exact absurd haccepted (haccepts _)
    | whole _ => exact Nat.le_refl _

end

/-- **A text that does not match is reported at its furthest attempt.** -/
theorem attempted_of_read {notes : Notes} (h : read text = .error notes) :
    Attempted text notes.rest ∧ ∀ place, Attempted text place →
      notes.rest.length ≤ place.length := by
  have hskip := (skip_suffix text).length_le
  have haccounts : Accounts (Tried (skip text)) (readOne text.length text.length (skip text)) :=
    accounts_readOne hskip hskip
  have haccepts : ∀ after, Accepts (skip text) after ↔ ∃ draft,
      (readOne text.length text.length (skip text)).result = some (draft, after) := fun _ =>
    accepts_iff hskip hskip
  have hnot : ¬ Grammatical text := by
    intro hgrammatical
    obtain ⟨draft, hread⟩ := grammatical_iff.1 hgrammatical
    rw [h] at hread
    cases hread
  rw [read] at h
  generalize readOne text.length text.length (skip text) = reading at h haccounts haccepts
  split at h
  · rename_i draft after hread
    split at h
    · cases h
    · rename_i hne
      obtain rfl := Except.error.inj h
      exact attempted_ending haccounts haccepts hread hne
  · rename_i hread
    obtain rfl := Except.error.inj h
    refine attempted_account haccounts (fun after haccepted => ?_) hnot
    obtain ⟨draft, hdraft⟩ := (haccepts after).1 haccepted
    rw [hread] at hdraft
    cases hdraft

end Draft

/-- **A text matches the grammar.** -/
def Formula.Grammatical (text : String) : Prop := Draft.Grammatical text.toList

/-- **A text can be completed** to one that matches. -/
def Formula.Viable (text : String) : Prop := ∃ suffix, Formula.Grammatical (text ++ suffix)

theorem Formula.viable_iff {text : String} : Formula.Viable text ↔ Draft.Viable text.toList := by
  constructor
  · rintro ⟨suffix, h⟩
    rw [Grammatical, String.toList_append] at h
    exact ⟨suffix.toList, h⟩
  · rintro ⟨suffix, h⟩
    refine ⟨String.ofList suffix, ?_⟩
    rwa [Grammatical, String.toList_append, String.toList_ofList]

namespace Draft

variable {text before rest start : List Char} {notes : Notes}

/-- The bytes that a report counts are those before its place. -/
theorem offset_ofNotes (h : text = before ++ notes.rest) :
    (ParseError.ofNotes text notes).offset = byteLength before := by
  change byteLength text - byteLength notes.rest = byteLength before
  rw [h, byteLength_append, Nat.add_sub_cancel]

/-- **What cannot be completed is longer than what can.** -/
theorem byteLength_lt_of_not_viable {after : List Char} (hbefore : Viable before)
    (hstart : ¬ Viable start) (h : before ++ after = start ++ rest) :
    byteLength before < byteLength start := by
  have hprefix : before <+: start ∨ start <+: before :=
    List.prefix_or_prefix_of_prefix ⟨after, h⟩ ⟨rest, rfl⟩
  rcases hprefix with ⟨more, rfl⟩ | ⟨more, rfl⟩
  · have hmore : more ≠ [] := by
      rintro rfl
      rw [List.append_nil] at hstart
      exact hstart hbefore
    have hpos := byteLength_pos hmore
    rw [byteLength_append]
    omega
  · exact absurd hbefore.of_append hstart

/-- The further a place, the more bytes stand before it. -/
theorem byteLength_le_of_length_le {after : List Char} (h : before ++ after = start ++ rest)
    (hlength : after.length ≤ rest.length) : byteLength start ≤ byteLength before := by
  have hsuffix : after <:+ rest :=
    List.suffix_of_suffix_length_le ⟨before, h⟩ ⟨start, rfl⟩ hlength
  obtain ⟨between, rfl⟩ := hsuffix
  rw [← List.append_assoc] at h
  obtain rfl := List.append_cancel_right h
  rw [byteLength_append]
  exact Nat.le_add_right _ _

end Draft

/-- **A syntax error points at a viable position.** A text that does not
match the grammar is refused, and the position of the refusal lies within
the text, between two characters of it. The text before it can be
completed, so whatever beginning of the text cannot be is longer. At the
position a rule of the grammar was tried in vain, and nowhere further on. -/
theorem syntax_error_points_at_viable_position {text : String}
    (h : ¬ Formula.Grammatical text) :
    ∃ e before after, Formula.parse text = .error e ∧
      text = before ++ after ∧ e.offset = before.utf8ByteSize ∧
      e.offset ≤ text.utf8ByteSize ∧ String.Pos.Raw.IsValid text ⟨e.offset⟩ ∧
      Formula.Viable before ∧
      (∀ start rest, text = start ++ rest → ¬ Formula.Viable start →
        e.offset < start.utf8ByteSize) ∧
      Draft.Attempted text.toList after.toList ∧
      ∀ start rest, text = start ++ rest → Draft.Attempted text.toList rest.toList →
        start.utf8ByteSize ≤ e.offset := by
  obtain ⟨notes, hread⟩ : ∃ notes, Draft.read text.toList = .error notes := by
    rcases hread : Draft.read text.toList with notes | draft
    · exact ⟨notes, rfl⟩
    · exact absurd (Draft.grammatical_iff.2 ⟨draft, hread⟩) h
  have hparse : Formula.parse text = .error (.ofNotes text.toList notes) := by
    rw [Formula.parse, Formula.parseChars, hread]
  obtain ⟨hattempted, hfurthest⟩ := Draft.attempted_of_read hread
  obtain ⟨before, hchars, hviable⟩ := hattempted.viable
  have htext : text = String.ofList before ++ String.ofList notes.rest := by
    rw [← String.ofList_append, ← hchars, String.ofList_toList]
  have hoffset : (ParseError.ofNotes text.toList notes).offset =
      (String.ofList before).utf8ByteSize := by
    rw [Draft.offset_ofNotes hchars, utf8ByteSize_ofList]
  have hsplit : ∀ {start rest : String}, text = start ++ rest →
      before ++ notes.rest = start.toList ++ rest.toList := by
    intro start rest hstart
    rw [← hchars, ← String.toList_append, hstart]
  refine ⟨_, _, _, hparse, htext, hoffset, ?_, ?_, ?_, ?_, ?_, ?_⟩
  · rw [hoffset, htext, String.utf8ByteSize_append]
    exact Nat.le_add_right _ _
  · rw [hoffset]
    exact String.Pos.Raw.isValid_iff_exists_append.2 ⟨_, _, htext, rfl⟩
  · rwa [Formula.viable_iff, String.toList_ofList]
  · intro start rest hstart hnot
    rw [Formula.viable_iff] at hnot
    rw [Draft.offset_ofNotes hchars, ← byteLength_toList]
    exact Draft.byteLength_lt_of_not_viable hviable hnot (hsplit hstart)
  · rwa [String.toList_ofList]
  · intro start rest hstart hplace
    rw [Draft.offset_ofNotes hchars, ← byteLength_toList]
    exact Draft.byteLength_le_of_length_le (hsplit hstart) (hfurthest _ hplace)

/-- A call in which an argument is missing, between two commas. The second
of them is pointed at: with an argument in its place, the text before it
becomes a formula. -/
theorem missing_argument_is_pointed_at :
    ¬ Formula.Grammatical "@Add(1,, 2)" ∧
    ∃ e before after, Formula.parse "@Add(1,, 2)" = .error e ∧ e.offset = 7 ∧
      "@Add(1,, 2)" = before ++ after ∧ before.utf8ByteSize = 7 ∧ Formula.Viable before := by
  have hnot : ¬ Formula.Grammatical "@Add(1,, 2)" := by
    intro h
    obtain ⟨draft, hdraft⟩ := Draft.grammatical_iff.1 h
    have hread : (Draft.read "@Add(1,, 2)".toList).isOk = false := by decide +kernel
    rw [hdraft] at hread
    cases hread
  have hseven : (match Formula.parse "@Add(1,, 2)" with
      | .error e => e.offset
      | .ok _ => 0) = 7 := by decide +kernel
  obtain ⟨e, before, after, hparse, htext, hoffset, -, -, hviable, -⟩ :=
    syntax_error_points_at_viable_position hnot
  rw [hparse] at hseven
  exact ⟨hnot, e, before, after, hparse, hseven, htext, hoffset.symm.trans hseven, hviable⟩

end MailFormula
