import MailFormula.Eval
import MailFormula.Proofs.Regex.Slicing
/-!
# Replacing matches loses no text

Replacing goes round by round, and each round says where the next search
starts. What the rounds use of a matcher is a row of matches (`Sweep`): each
is found behind the one before it, since the search is never behind the
place up to which the text is copied, and moves on even behind an empty
match. So the matches are apart and in order, the rounds come to an end
(`Ends`), and the result is the text with something else in the place of
each match (`fill`), every other character copied once.

The matcher may be any that stays within the text; a compiled program does
(`Program.within_matchFrom`), and so does a matcher over byte offsets that
keeps to the boundaries of characters (`OnBoundaries.within`). With such a
matcher replacing may as well go by offsets: every round cuts what it needs
out of the text without a fault, and the result is the same (`sliceMatches_eq`).
-/

namespace MailFormula.Regex

open MailFormula.Text

variable {matcher : Nat → Option Match} {text : Array Char} {template : List Char}
  {everywhere : Bool} {m : Match} {ms used : List Match} {a b c pos search size rounds : Nat}

/-! ## Spans -/

theorem Span.of_self (text : Array Char) (a : Nat) : Span.of ⟨a, a⟩ text = [] := by
  rw [of, Array.extract_eq_empty_of_le (Nat.min_le_left a text.size)]

theorem Span.of_whole (text : Array Char) : Span.of ⟨0, text.size⟩ text = text.toList := by
  rw [of, Array.extract_size]

/-- Two spans in a row. -/
theorem Span.of_append_of (hab : a ≤ b) (hbc : b ≤ c) :
    Span.of ⟨a, b⟩ text ++ Span.of ⟨b, c⟩ text = Span.of ⟨a, c⟩ text := by
  rw [of, of, of, ← Array.toList_append, Array.extract_append_extract, Nat.min_eq_left hab,
    Nat.max_eq_right hbc]

theorem Span.of_succ {d : Char} (hd : text[a]? = some d) : Span.of ⟨a, a + 1⟩ text = [d] := by
  obtain ⟨ha, rfl⟩ := Array.getElem?_eq_some_iff.1 hd
  rw [of, Array.extract_succ_right (Nat.lt_succ_self a) ha, Array.toList_push]
  exact congrArg (· ++ [text[a]]) (of_self text a)

/-! ## The matches that are used -/

/-- The position where the search goes on behind a match. -/
def Match.resume (m : Match) : Nat :=
  if m.whole.start = m.whole.stop then m.whole.stop + 1 else m.whole.stop

/-- A match is the last that is used, or the search goes on behind it. -/
theorem Match.last_or_next (m : Match) (size : Nat) (everywhere : Bool) :
    (everywhere = false ∨ size < m.resume) ∨ everywhere = true ∧ m.resume ≤ size := by
  cases everywhere with
  | false => exact .inl (.inl rfl)
  | true => exact (Nat.lt_or_ge size m.resume).imp .inr fun hle => ⟨rfl, hle⟩

/-- Behind a match is behind its start, and not before its end. -/
theorem Match.Lies.resume (h : m.Lies pos size) :
    m.whole.start < m.resume ∧ m.whole.stop ≤ m.resume := by
  have hordered := h.ordered
  rw [Match.resume]
  split <;> omega

/-- **The matches that replacing uses** from a position on, one at a time. -/
inductive Sweep (matcher : Nat → Option Match) (size : Nat) (everywhere : Bool) :
    Nat → List Match → Prop
  /-- There is no match any more. -/
  | done {pos : Nat} : matcher pos = none → Sweep matcher size everywhere pos []
  /-- The only match that was asked for, or one at the end of the text. -/
  | last {pos : Nat} {m : Match} : matcher pos = some m →
      everywhere = false ∨ size < m.resume → Sweep matcher size everywhere pos [m]
  /-- The search goes on behind a match. -/
  | next {pos : Nat} {m : Match} {ms : List Match} : matcher pos = some m → everywhere = true →
      m.resume ≤ size → Sweep matcher size everywhere m.resume ms →
      Sweep matcher size everywhere pos (m :: ms)

/-- Every match that is used lies behind the position where the sweep
starts. -/
theorem Sweep.lies (h : Sweep matcher size everywhere pos used) (hmatcher : Within size matcher)
    (hpos : pos ≤ size) : ∀ m ∈ used, m.Lies pos size := by
  induction h with
  | done => exact nofun
  | last hm _ => exact List.forall_mem_cons.2 ⟨hmatcher hpos hm, nofun⟩
  | @next pos m ms hm _ hsize _ ih =>
    have hlies := hmatcher hpos hm
    refine List.forall_mem_cons.2 ⟨hlies, fun n hn => ⟨?_, (ih hsize n hn).2, (ih hsize n hn).3⟩⟩
    have hstart := hlies.behind
    have hresume := hlies.resume.1
    have hbehind := (ih hsize n hn).behind
    omega

/-- **One match is behind the other**, and starts later. -/
def Match.Before (m n : Match) : Prop :=
  m.whole.start < n.whole.start ∧ m.whole.stop ≤ n.whole.start

/-- The matches that are used are apart and in order. -/
theorem Sweep.pairwise (h : Sweep matcher size everywhere pos used)
    (hmatcher : Within size matcher) (hpos : pos ≤ size) : used.Pairwise Match.Before := by
  induction h with
  | done => exact .nil
  | last => exact List.pairwise_singleton ..
  | @next pos m ms hm _ hsize hms ih =>
    refine List.pairwise_cons.2 ⟨fun n hn => ?_, ih hsize⟩
    obtain ⟨hstart, hstop⟩ := (hmatcher hpos hm).resume
    have hbehind := (hms.lies hmatcher hsize n hn).behind
    exact ⟨Nat.lt_of_lt_of_le hstart hbehind, Nat.le_trans hstop hbehind⟩

/-! ## A text with its matches replaced -/

/-- **A text from a position on**, with something else in the place of each
match. -/
def fill (text : Array Char) (put : Match → List Char) : Nat → List Match → List Char
  | pos, [] => Span.of ⟨pos, text.size⟩ text
  | pos, m :: ms => Span.of ⟨pos, m.whole.start⟩ text ++ (put m ++ fill text put m.whole.stop ms)

/-- What lies before the matches is copied. -/
theorem fill_eq_of_append {put : Match → List Char} (hab : a ≤ b) (hb : b ≤ text.size)
    (hms : ∀ m ∈ ms, b ≤ m.whole.start) :
    fill text put a ms = Span.of ⟨a, b⟩ text ++ fill text put b ms := by
  cases ms with
  | nil => rw [fill, fill, Span.of_append_of hab hb]
  | cons m ms =>
    rw [fill, fill, ← Span.of_append_of hab (hms m List.mem_cons_self), List.append_assoc]

/-- **With each match in its own place** it is the text as it was. -/
theorem Sweep.fill_whole (h : Sweep matcher text.size everywhere pos used)
    (hmatcher : Within text.size matcher) (hpos : pos ≤ text.size) :
    fill text (fun m => m.whole.of text) pos used = Span.of ⟨pos, text.size⟩ text := by
  induction h with
  | done => rfl
  | @last pos m hm _ =>
    have hlies := hmatcher hpos hm
    rw [fill, fill, Span.of_append_of hlies.ordered hlies.inside,
      Span.of_append_of hlies.behind (Nat.le_trans hlies.ordered hlies.inside)]
  | @next pos m ms hm _ hsize hms ih =>
    have hlies := hmatcher hpos hm
    rw [fill, fill_eq_of_append hlies.resume.2 hsize
      fun n hn => (hms.lies hmatcher hsize n hn).behind, ih hsize,
      Span.of_append_of hlies.resume.2 hsize, Span.of_append_of hlies.ordered hlies.inside,
      Span.of_append_of hlies.behind (Nat.le_trans hlies.ordered hlies.inside)]

/-! ## The rounds -/

/-- **The rounds come to an end**: from one position and state on, the last
round leaves another state. -/
inductive Ends (matcher : Nat → Option Match) (text : Array Char) (template : List Char)
    (everywhere : Bool) : Nat → Replacing → Replacing → Prop
  /-- The last round. -/
  | last {search : Nat} {r final : Replacing} :
      replaceRound matcher text template everywhere search r = (none, final) →
      Ends matcher text template everywhere search r final
  /-- A round with another behind it. -/
  | round {search next : Nat} {r r' final : Replacing} :
      replaceRound matcher text template everywhere search r = (some next, r') →
      Ends matcher text template everywhere next r' final →
      Ends matcher text template everywhere search r final

/-- A round that finds nothing is the last, and leaves all as it is. -/
theorem replaceRound_of_none (hm : matcher search = none) (text : Array Char)
    (template : List Char) (everywhere : Bool) (r : Replacing) :
    replaceRound matcher text template everywhere search r = (none, r) := by
  rw [replaceRound, hm]
  exact ite_self _

/-- A round with the last match that is used replaces it and is the last. -/
theorem replaceRound_of_last (hsearch : search ≤ text.size) (hm : matcher search = some m)
    (hinside : m.whole.stop ≤ text.size) (hlast : everywhere = false ∨ text.size < m.resume)
    (template : List Char) (r : Replacing) :
    replaceRound matcher text template everywhere search r = (none, r.put text template m) := by
  rw [replaceRound, if_neg (Nat.not_lt.2 hsearch), hm]
  cases everywhere with
  | false => rfl
  | true =>
    have hresume := hlast.resolve_left (by decide)
    rw [Match.resume] at hresume
    by_cases hempty : m.whole.start = m.whole.stop
    · rw [if_pos hempty] at hresume
      have hc : text[m.whole.stop]? = none :=
        Array.getElem?_eq_none (Nat.le_of_lt_succ hresume)
      simp [hempty, hc]
    · -- Behind a match that is not empty the text is never left.
      rw [if_neg hempty] at hresume
      exact absurd hinside (Nat.not_le_of_gt hresume)

/-- **A round with another behind it** replaces a match and copies up to where
the search goes on. -/
theorem replaceRound_of_next (hsearch : search ≤ text.size) (hm : matcher search = some m)
    (hresume : m.resume ≤ text.size) (template : List Char) (r : Replacing) :
    ∃ r', replaceRound matcher text template true search r = (some m.resume, r') ∧
      r'.copied = m.resume ∧ r'.groups = some (m.texts text) ∧
      r'.pieces.reverse.flatten = (r.put text template m).pieces.reverse.flatten ++
        Span.of ⟨m.whole.stop, m.resume⟩ text := by
  rw [replaceRound, if_neg (Nat.not_lt.2 hsearch), hm]
  rw [Match.resume] at hresume ⊢
  by_cases hempty : m.whole.start = m.whole.stop
  · rw [if_pos hempty] at hresume ⊢
    have hc : text[m.whole.stop]? = some text[m.whole.stop] := Array.getElem?_eq_getElem hresume
    refine ⟨(r.put text template m).copy text[m.whole.stop], ?_, rfl, rfl, ?_⟩
    · simp [hempty, hc]
    · rw [Replacing.copy, List.reverse_cons, List.flatten_concat, Span.of_succ hc]
  · rw [if_neg hempty]
    refine ⟨r.put text template m, ?_, rfl, rfl, ?_⟩
    · simp [hempty]
    · rw [Span.of_self, List.append_nil]

/-- Every search position is the start of a sweep. -/
theorem exists_sweep (hmatcher : Within size matcher) (everywhere : Bool) (hpos : pos ≤ size) :
    ∃ used, Sweep matcher size everywhere pos used := by
  induction hleft : size - pos using Nat.strongRecOn generalizing pos with
  | ind left ih =>
    rcases hm : matcher pos with _ | m
    · exact ⟨[], .done hm⟩
    · rcases m.last_or_next size everywhere with hlast | ⟨heverywhere, hresume⟩
      · exact ⟨[m], .last hm hlast⟩
      · have hlies := hmatcher hpos hm
        have hbehind := hlies.behind
        have hstart := hlies.resume.1
        obtain ⟨used, hused⟩ := ih (size - m.resume) (by omega) hresume rfl
        exact ⟨m :: used, .next hm heverywhere hresume hused⟩

/-- **What the rounds do** with the matches of a sweep: they come to an end
with all of them replaced, and with the groups of the last. -/
theorem Sweep.replaceFrom (h : Sweep matcher text.size everywhere search used)
    (hmatcher : Within text.size matcher) (hsearch : search ≤ text.size)
    (hrounds : text.size < rounds + search) (template : List Char) {r : Replacing}
    (hcopied : r.copied = search) :
    let final := Regex.replaceFrom matcher text template everywhere rounds search r
    Ends matcher text template everywhere search r final ∧
      final.result text = r.pieces.reverse.flatten ++
        fill text (fun m => expand (m.texts text) template) search used ∧
      final.groups = (used.getLast?.map (·.texts text)).or r.groups := by
  obtain ⟨rounds, rfl⟩ : ∃ n, rounds = n + 1 := ⟨rounds - 1, by omega⟩
  -- At the start of every round the text is copied up to where the search is.
  induction h generalizing rounds r with
  | done hm =>
    have hround := replaceRound_of_none hm text template everywhere r
    rw [Regex.replaceFrom, hround]
    refine ⟨.last hround, ?_, rfl⟩
    rw [Replacing.result, hcopied, List.reverse_cons, List.flatten_concat, fill]
  | @last pos m hm hlast =>
    have hround := replaceRound_of_last hsearch hm (hmatcher hsearch hm).inside hlast template r
    rw [Regex.replaceFrom, hround]
    refine ⟨.last hround, ?_, rfl⟩
    simp [Replacing.result, Replacing.put, fill, hcopied]
  | @next pos m ms hm heverywhere hresume hms ih =>
    obtain rfl := heverywhere
    obtain ⟨r', hround, hcopied', hgroups, hpieces⟩ :=
      replaceRound_of_next hsearch hm hresume template r
    have hstart := (hmatcher hsearch hm).behind
    have hlater := (hmatcher hsearch hm).resume.1
    obtain ⟨n, rfl⟩ : ∃ n, rounds = n + 1 := ⟨rounds - 1, by omega⟩
    obtain ⟨hends, hresult, hlast⟩ := ih hresume hcopied' n (by omega)
    rw [Regex.replaceFrom, hround]
    refine ⟨.round hround hends, ?_, ?_⟩
    · -- What was copied in front of the next search is what lies before the next match.
      have hbehind := fun n hn => (hms.lies hmatcher hresume n hn).behind
      rw [hpieces, List.append_assoc,
        ← fill_eq_of_append (hmatcher hsearch hm).resume.2 hresume hbehind] at hresult
      refine hresult.trans ?_
      simp [Replacing.put, fill, hcopied]
    · rw [hgroups] at hlast
      refine hlast.trans ?_
      cases ms with
      | nil => rfl
      | cons n ms => simp [List.getLast?_cons]

/-! ## Rounds by offsets -/

section Offsets

variable {source : String} {find : Nat → Option Match} {next : Nat} {r r' final : Replacing}

/-- A round with another behind it has moved the search on, within the text,
and has copied the text up to there. -/
theorem lt_of_replaceRound (hmatcher : Within text.size matcher) (hsearch : search ≤ text.size)
    (h : replaceRound matcher text template everywhere search r = (some next, r')) :
    search < next ∧ next ≤ text.size ∧ r'.copied = next := by
  rcases hm : matcher search with _ | m
  · rw [replaceRound_of_none hm] at h
    cases h
  · have hlies := hmatcher hsearch hm
    rcases m.last_or_next text.size everywhere with hlast | ⟨rfl, hresume⟩
    · rw [replaceRound_of_last hsearch hm hlies.inside hlast] at h
      cases h
    · obtain ⟨_, hround, hcopied, -⟩ := replaceRound_of_next hsearch hm hresume template r
      rw [hround] at h
      obtain ⟨hnext, rfl⟩ := Prod.mk.inj h
      obtain rfl := Option.some.inj hnext
      exact ⟨Nat.lt_of_le_of_lt hlies.behind hlies.resume.1, hresume, hcopied⟩

/-- The last round has copied no more than the text. -/
theorem copied_le_of_replaceRound (hmatcher : Within text.size matcher)
    (hsearch : search ≤ text.size) (hcopied : r.copied ≤ search)
    (h : replaceRound matcher text template everywhere search r = (none, final)) :
    final.copied ≤ text.size := by
  rcases hm : matcher search with _ | m
  · rw [replaceRound_of_none hm] at h
    obtain ⟨-, rfl⟩ := Prod.mk.inj h
    exact Nat.le_trans hcopied hsearch
  · have hlies := hmatcher hsearch hm
    rcases m.last_or_next text.size everywhere with hlast | ⟨rfl, hresume⟩
    · rw [replaceRound_of_last hsearch hm hlies.inside hlast] at h
      obtain ⟨-, rfl⟩ := Prod.mk.inj h
      exact hlies.inside
    · obtain ⟨_, hround, -⟩ := replaceRound_of_next hsearch hm hresume template r
      rw [hround] at h
      cases h

/-- **The rounds by offsets come to the same end** as those by characters,
without a fault. -/
theorem Ends.sliceFrom_eq
    (h : Ends (inCharacters source find) source.toList.toArray template everywhere search r final)
    (hfind : OnBoundaries source find) (hgroups : GroupsOnBoundaries source find)
    (hsearch : search ≤ source.length) (hcopied : r.copied ≤ search)
    (hrounds : source.length < rounds + search) :
    sliceFrom find source template everywhere rounds (byteOffset source search)
        (r.inBytes source) = .ok (some (final.inBytes source)) ∧
      final.copied ≤ source.length := by
  have hmatcher := hfind.within
  rw [← size_characters] at hmatcher
  obtain ⟨rounds, rfl⟩ : ∃ n, rounds = n + 1 := ⟨rounds - 1, by omega⟩
  induction h generalizing rounds with
  | last hround =>
    rw [sliceFrom, sliceRound_eq hfind hgroups hsearch hcopied, hround]
    rw [← size_characters] at hsearch ⊢
    exact ⟨rfl, copied_le_of_replaceRound hmatcher hsearch hcopied hround⟩
  | @round search next r r' final hround _ ih =>
    rw [sliceFrom, sliceRound_eq hfind hgroups hsearch hcopied, hround]
    rw [← size_characters] at hsearch
    obtain ⟨hlater, hnext, hcopied'⟩ := lt_of_replaceRound hmatcher hsearch hround
    rw [size_characters] at hnext
    obtain ⟨n, rfl⟩ : ∃ n, rounds = n + 1 := ⟨rounds - 1, by omega⟩
    exact ih hnext (Nat.le_of_eq hcopied') n (by omega)

end Offsets

/-! ## Replacing -/

/-- The template of the whole match stands for it. -/
theorem expand_whole (m : Match) (text : Array Char) :
    expand (m.texts text) ['\\', '0'] = m.whole.of text := by
  have hexpand : expand (m.texts text) ['\\', '0'] =
      (String.ofList (m.whole.of text)).toList ++ [] :=
    (expand_escape (m.texts text) []).1 0 (by decide)
  rw [hexpand, String.toList_ofList, List.append_nil]

/-- What the rounds do from the start on, with nothing replaced yet. -/
theorem Sweep.replaceMatches (h : Sweep matcher text.size everywhere 0 used)
    (hmatcher : Within text.size matcher) (template : List Char) :
    (∃ final, Ends matcher text template everywhere 0 {} final ∧
      Regex.replaceMatches matcher text template everywhere =
        (final.result text, final.groups)) ∧
    Regex.replaceMatches matcher text template everywhere =
      (fill text (fun m => expand (m.texts text) template) 0 used,
        used.getLast?.map (·.texts text)) := by
  obtain ⟨hends, hresult, hgroups⟩ :=
    h.replaceFrom hmatcher (Nat.zero_le _) (Nat.lt_succ_self text.size) template (r := {}) rfl
  refine ⟨⟨_, hends, rfl⟩, ?_⟩
  rw [Option.or_none] at hgroups
  rw [Regex.replaceMatches, hresult, hgroups]
  rfl

/-- Replacing in a session: the groups of the last match are kept. -/
theorem Sweep.run_replaceWith (h : Sweep matcher text.size everywhere 0 used)
    (hmatcher : Within text.size matcher) (template : List Char) (patience : Nat)
    (evaluate : Formula → Run Value) (name : String) (s : Session) :
    (Behaviour.replaceWith matcher text template everywhere).run (perform patience evaluate)
        name s =
      (.ok (.string (String.ofList
          (fill text (fun m => expand (m.texts text) template) 0 used))),
        { s with captures := (used.getLast?.map (·.texts text)).getD s.captures }) := by
  rw [Behaviour.replaceWith.eq_def, (h.replaceMatches hmatcher template).2]
  cases used.getLast? with
  | none => rfl
  | some m => rfl

/-- **Replacing by offsets gives the same** as by characters, in any number of
rounds that is larger than that of the characters. -/
theorem sliceMatches_eq {source : String} {find : Nat → Option Match}
    (hfind : OnBoundaries source find) (hgroups : GroupsOnBoundaries source find)
    (template : List Char) (everywhere : Bool) (hrounds : source.length < rounds) :
    let replaced := replaceMatches (inCharacters source find) source.toList.toArray template
      everywhere
    sliceMatches find source template everywhere rounds =
      .ok (some (String.ofList replaced.1, replaced.2)) := by
  have hmatcher := hfind.within
  rw [← size_characters] at hmatcher
  obtain ⟨used, hused⟩ := exists_sweep hmatcher everywhere (Nat.zero_le _)
  obtain ⟨final, hends, hreplaced⟩ := (hused.replaceMatches hmatcher template).1
  obtain ⟨hslices, hcopied⟩ := hends.sliceFrom_eq hfind hgroups (Nat.zero_le _) (Nat.le_refl 0)
    hrounds
  obtain ⟨rest, hrest, hresult⟩ := slice_result hcopied
  rw [byteOffset_zero, inBytes_empty] at hslices
  rw [sliceMatches, hslices, ok_bind, hreplaced]
  dsimp only
  rw [hrest, ok_bind, hresult]
  rfl

/-- **Replacing loses no text.** With any matcher that stays within the
text, the rounds come to an end; what they use is a row of matches in the
text, each behind the one before it. The result is the text with what the
template stands for in the place of each match, and is the text itself
where the template is the whole match. The session then has the groups of
the last match that was used; if there was none, it is as it was.

A matcher over byte offsets that stays on the boundaries of characters, its
groups too, is such a matcher, in characters. Replacing by its offsets cuts
the text between two characters only, so nothing fails; it comes to an end,
and to that same result. -/
theorem replaceMatches_eq_fill (everywhere : Bool) :
    (∀ (text : Array Char) (matcher : Nat → Option Match), Within text.size matcher →
      ∃ used, Sweep matcher text.size everywhere 0 used ∧
        (∀ m ∈ used, m.Lies 0 text.size) ∧ used.Pairwise Match.Before ∧
        fill text (fun m => m.whole.of text) 0 used = text.toList ∧
        (replaceMatches matcher text ['\\', '0'] everywhere).1 = text.toList ∧
        ∀ template,
          (∃ final, Ends matcher text template everywhere 0 {} final ∧
            replaceMatches matcher text template everywhere =
              (final.result text, final.groups)) ∧
          (replaceMatches matcher text template everywhere).1 =
            fill text (fun m => expand (m.texts text) template) 0 used ∧
          ∀ patience evaluate name s,
            (Behaviour.replaceWith matcher text template everywhere).run
                (perform patience evaluate) name s =
              (.ok (.string (String.ofList
                  (fill text (fun m => expand (m.texts text) template) 0 used))),
                { s with captures := (used.getLast?.map (·.texts text)).getD s.captures })) ∧
    ∀ (source : String) (find : Nat → Option Match), OnBoundaries source find →
      GroupsOnBoundaries source find →
      Within source.toList.toArray.size (inCharacters source find) ∧
      ∀ template rounds, source.length < rounds →
        let replaced := replaceMatches (inCharacters source find) source.toList.toArray template
          everywhere
        sliceMatches find source template everywhere rounds =
          .ok (some (String.ofList replaced.1, replaced.2)) := by
  refine ⟨fun text matcher hmatcher => ?_, fun source find hfind hgroups => ⟨?_, ?_⟩⟩
  · obtain ⟨used, hused⟩ := exists_sweep hmatcher everywhere (Nat.zero_le text.size)
    have hwhole : fill text (fun m => m.whole.of text) 0 used = text.toList := by
      rw [hused.fill_whole hmatcher (Nat.zero_le _), Span.of_whole]
    refine ⟨used, hused, hused.lies hmatcher (Nat.zero_le _),
      hused.pairwise hmatcher (Nat.zero_le _), hwhole, ?_,
      fun template => ⟨(hused.replaceMatches hmatcher template).1, ?_, ?_⟩⟩
    · rw [(hused.replaceMatches hmatcher ['\\', '0']).2]
      simp only [expand_whole]
      exact hwhole
    · rw [(hused.replaceMatches hmatcher template).2]
    · exact fun patience evaluate name s =>
        hused.run_replaceWith hmatcher template patience evaluate name s
  · rw [size_characters]
    exact hfind.within
  · exact fun template rounds hrounds => sliceMatches_eq hfind hgroups template everywhere hrounds

/-- A matcher of the longest run of a character, which may be empty. -/
def runOf (d : Char) (text : Array Char) (pos : Nat) : Option Match :=
  some ⟨⟨pos, pos + ((text.toList.drop pos).takeWhile (· == d)).length⟩, []⟩

theorem within_runOf (d : Char) (text : Array Char) : Within text.size (runOf d text) := by
  intro pos m hpos hm
  obtain rfl := Option.some.inj hm
  have hrun : ((text.toList.drop pos).takeWhile (· == d)).length ≤ text.size - pos := by
    rw [← Array.length_toList, ← List.length_drop]
    exact (List.takeWhile_prefix _).length_le
  exact ⟨Nat.le_refl _, Nat.le_add_right _ _, by dsimp only; omega⟩

/-- Empty matches before, between and behind the characters. -/
example :
    replaceMatches (runOf 'x' #['ä', 'x', 'x', 'b']) #['ä', 'x', 'x', 'b'] "<\\0>".toList true =
      ("<>ä<xx><>b<>".toList, some [""]) := by
  decide +kernel

/-- A matcher over the offsets of a text of two characters, the first of two
bytes: it finds nothing at each place between them, and has that first one
as its group. -/
def emptyFound (o : Nat) : Option Match :=
  if o ∈ [0, 2, 3] then some ⟨⟨o, o⟩, [some ⟨0, 2⟩]⟩ else none

theorem onBoundaries_emptyFound :
    OnBoundaries "äb" emptyFound ∧ GroupsOnBoundaries "äb" emptyFound := by
  have hplaces : ∀ o ∈ [0, 2, 3], String.Pos.Raw.IsValid "äb" ⟨o⟩ := by decide
  constructor
  · intro o m hm
    rw [emptyFound] at hm
    split at hm
    case isTrue ho =>
      obtain rfl := Option.some.inj hm
      exact ⟨Nat.le_refl o, Nat.le_refl o, hplaces o ho, hplaces o ho⟩
    case isFalse => cases hm
  · intro o m hm s hs
    rw [emptyFound] at hm
    split at hm
    case isTrue ho =>
      obtain rfl := Option.some.inj hm
      obtain rfl := Option.some.inj (List.mem_singleton.1 hs)
      exact ⟨by decide, by decide, by decide⟩
    case isFalse => cases hm

/-- A text with a run of two characters, and empty runs around it; and a text
in which a character of two bytes is stepped over. -/
theorem runs_replaced :
    Within #['ä', 'x', 'x', 'b'].size (runOf 'x' #['ä', 'x', 'x', 'b']) ∧
      (replaceMatches (runOf 'x' #['ä', 'x', 'x', 'b']) #['ä', 'x', 'x', 'b'] ['\\', '0'] true).1 =
        ['ä', 'x', 'x', 'b'] ∧
      (∃ used, used.Pairwise Match.Before ∧
        Sweep (runOf 'x' #['ä', 'x', 'x', 'b']) 4 true 0 used ∧
        (replaceMatches (runOf 'x' #['ä', 'x', 'x', 'b']) #['ä', 'x', 'x', 'b'] ['-'] true).1 =
          fill #['ä', 'x', 'x', 'b'] (fun _ => ['-']) 0 used) ∧
      OnBoundaries "äb" emptyFound ∧ GroupsOnBoundaries "äb" emptyFound ∧
      sliceMatches emptyFound "äb" ['<', '\\', '1', '>'] true 3 =
        .ok (some ("<ä>ä<ä>b<ä>", some ["", "ä"])) := by
  have hwithin := within_runOf 'x' #['ä', 'x', 'x', 'b']
  obtain ⟨hcharacters, hoffsets⟩ := replaceMatches_eq_fill true
  obtain ⟨used, hsweep, -, hapart, -, hsame, hreplaced⟩ := hcharacters _ _ hwithin
  obtain ⟨hfind, hgroups⟩ := onBoundaries_emptyFound
  have hsliced := (hoffsets "äb" emptyFound hfind hgroups).2 ['<', '\\', '1', '>'] 3 (by decide)
  refine ⟨hwithin, hsame, ⟨used, hapart, hsweep, (hreplaced ['-']).2.1⟩, hfind, hgroups, ?_⟩
  rw [hsliced]
  decide +kernel

end MailFormula.Regex
