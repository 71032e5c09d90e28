import MailFormula.Proofs.Evaluation.Values
import MailFormula.Proofs.Regex.Matcher
/-!
# What a search finds

A search answers with the position of a match and leaves the groups of the
match behind. The position and the groups belong together: as many characters
as the whole match has, taken from that position on, are the whole match.
This holds whatever the matcher is, as long as it keeps to the boundaries of
characters. It counts in bytes, and positions count characters, so a search
turns a position into an offset and an offset back into a position.
-/

namespace MailFormula.Regex

open MailFormula.Text MailFormula.Behaviour

variable {text : String} {m : Match} {pos start a b n : Nat} {patience below : Nat}
  {s : Session} {r : UInt32}

/-! ## Positions as numbers -/

/-- The position of a text that is not too long is a number of its own. -/
theorem toNat_positionNumber (h : n < UInt32.size - 1) : (positionNumber n).toNat = n := by
  rw [positionNumber, clampNumber]
  have hsize : (n : Int) < UInt32.size := Int.ofNat_lt.2 (Nat.lt_of_lt_of_le h (by decide))
  rw [if_pos hsize]
  split
  · rename_i hzero
    obtain rfl : n = 0 := Nat.le_zero.1 (Int.ofNat_le.1 hzero)
    rfl
  · rw [Int.toNat_natCast]
    exact UInt32.toNat_ofNat_of_lt' (Int.ofNat_lt.1 hsize)

theorem positionNumber_ne_notFound (h : n < UInt32.size - 1) : positionNumber n ≠ notFound := by
  intro heq
  have hn := toNat_positionNumber h
  rw [heq] at hn
  have hnotFound : notFound.toNat = UInt32.size - 1 := rfl
  omega

/-! ## The built-ins -/

theorem find?_group : Signature.find? "Group" = some ⟨"Group", .exactly 1, .none, .group⟩ := by
  decide +kernel

theorem find?_length : Signature.find? "Length" = some ⟨"Length", .exactly 1, .none, .length⟩ := by
  decide +kernel

theorem find?_substring :
    Signature.find? "Substring" = some ⟨"Substring", .between 2 3, .none, .substring⟩ := by
  decide +kernel

theorem find?_regexFind :
    Signature.find? "RegexFind" = some ⟨"RegexFind", .between 2 3, .none, .regexFind⟩ := by
  decide +kernel

/-- The first group is the whole match. -/
theorem eval_group_zero {chars : Array Char} (hcaptures : s.captures = m.texts chars) :
    eval patience (below + 1) (.call "Group" [.number 0]) s =
      (.ok (.string (String.ofList (m.whole.of chars))), s) := by
  have hargs : List.Forall₂ (fun f v => eval patience below f s.enter = (.ok v, s.enter))
      [.number 0] [.number 0] := .cons (by rw [eval]) .nil
  refine eval_builtin_eq_ok find?_group rfl rfl hargs ?_
  have hgroup : s.captures.getD 0 "" = String.ofList (m.whole.of chars) := by
    rw [hcaptures]
    rfl
  rw [← hgroup]
  rfl

/-- The length of a text that a formula gives. -/
theorem eval_length {f : Formula} {g : String}
    (hf : eval patience below f s.enter = (.ok (.string g), s.enter)) :
    eval patience (below + 1) (.call "Length" [f]) s =
      (.ok (.number (positionNumber g.length)), s) :=
  eval_builtin_eq_ok find?_length rfl rfl (.cons hf .nil) rfl

/-- As many characters as a formula says. -/
theorem eval_substring {f : Formula} {count : UInt32}
    (hf : eval patience below f s.enter = (.ok (.number count), s.enter)) :
    eval patience (below + 1) (.call "Substring" [.text text, .number r, f]) s =
      (.ok (.string (String.ofList ((text.toList.drop r.toNat).take count.toNat))), s) := by
  have hargs : List.Forall₂ (fun f v => eval patience below f s.enter = (.ok v, s.enter))
      [.text text, .number r, f] [.string text, .number r, .number count] :=
    .cons (by rw [eval]) (.cons (by rw [eval]) (.cons hf .nil))
  exact eval_builtin_eq_ok find?_substring rfl rfl hargs rfl

/-! ## A match and its position -/

/-- A span has as many characters as lie between its ends. -/
theorem Span.length_of {chars : Array Char} (hb : b ≤ chars.size) :
    (Span.of ⟨a, b⟩ chars).length = b - a := by
  rw [of, Array.length_toList, Array.size_extract, Nat.min_eq_left hb]

/-- **A position designates the last match**: as many characters from there on
as the whole match has are the whole match. -/
def Designates (patience : Nat) (text : String) (r : UInt32) (s : Session) : Prop :=
  ∃ g, s.evaluate patience (.call "Group" [.number 0]) = (.ok (.string g), s) ∧
    s.evaluate patience
      (.call "Substring" [.text text, .number r, .call "Length" [.call "Group" [.number 0]]]) =
        (.ok (.string g), s)

/-- **The start of a match designates it**, once its groups are kept. -/
theorem designates_start (hlies : m.Lies pos text.length) (hlength : text.length < UInt32.size - 1)
    (hdepth : s.depth + 3 ≤ s.limits.maxDepth)
    (hcaptures : s.captures = m.texts text.toList.toArray) :
    Designates patience text (positionNumber m.whole.start) s := by
  obtain ⟨below, hbelow⟩ : ∃ below, s.limits.maxDepth - s.depth = below + 3 :=
    ⟨s.limits.maxDepth - s.depth - 3, by omega⟩
  have hordered := hlies.ordered
  have hinside := hlies.inside
  refine ⟨String.ofList (m.whole.of text.toList.toArray), ?_, ?_⟩
  · rw [Session.evaluate, hbelow, eval_group_zero hcaptures]
  · -- The group is measured two levels deeper than the characters are taken.
    have hgroup : eval patience (below + 1) (.call "Group" [.number 0]) s.enter.enter = _ :=
      eval_group_zero hcaptures
    rw [Session.evaluate, hbelow, eval_substring (eval_length hgroup)]
    have hsize : m.whole.stop ≤ text.toList.toArray.size := by rwa [size_characters]
    rw [String.length_ofList, Span.length_of hsize, toNat_positionNumber (by omega),
      toNat_positionNumber (by omega), Span.of_toArray]

/-- **What a search answers** from a position on, with what its matcher found:
a number. It stands for nothing just when the matcher found nothing, and then
the session is as it was; or it is a position not before the one that was
asked for, or the end, and designates the match whose groups the session
now has. -/
def Answers (patience : Nat) (text : String) (start : Nat) (s : Session) (found : Option Match)
    (o : Outcome Value) : Prop :=
  ∃ r s', o = (.ok (.number r), s') ∧ (r = notFound ↔ found = none) ∧ (r = notFound → s' = s) ∧
    (r ≠ notFound → min start text.length ≤ r.toNat ∧ Designates patience text r s')

theorem answers_nothing (patience : Nat) (text : String) (start : Nat) (s : Session) :
    Answers patience text start s none (.ok (.number notFound), s) :=
  ⟨notFound, s, rfl, iff_of_true rfl rfl, fun _ => rfl, fun hne => absurd rfl hne⟩

/-- The match of a text that is not too long is answered. -/
theorem answers_match (hlength : text.length < UInt32.size - 1)
    (hdepth : s.depth + 3 ≤ s.limits.maxDepth) (patience : Nat)
    (hlies : m.Lies (min start text.length) text.length) :
    Answers patience text start s (some m)
      (.ok (.number (positionNumber m.whole.start)),
        { s with captures := m.texts text.toList.toArray }) := by
  have hshort : m.whole.start < UInt32.size - 1 :=
    Nat.lt_of_le_of_lt (Nat.le_trans hlies.ordered hlies.inside) hlength
  have hanswer := positionNumber_ne_notFound hshort
  refine ⟨_, _, rfl, iff_of_false hanswer nofun, fun heq => absurd heq hanswer, fun _ => ⟨?_, ?_⟩⟩
  · rw [toNat_positionNumber hshort]
    exact hlies.behind
  · exact designates_start hlies hlength hdepth rfl

/-- **A search with a matcher that stays within the text** answers so. -/
theorem answers_findWith {matcher : Nat → Option Match} (hmatcher : Within text.length matcher)
    (hlength : text.length < UInt32.size - 1) (hdepth : s.depth + 3 ≤ s.limits.maxDepth)
    (patience : Nat) (evaluate : Formula → Run Value) (name : String) (start : Nat) :
    Answers patience text start s (matcher (min start text.length))
      ((findWith matcher text.toList.toArray start).run (perform patience evaluate) name s) := by
  rw [findWith, size_characters]
  rcases hm : matcher (min start text.length) with _ | m
  · exact answers_nothing patience text start s
  · exact answers_match hlength hdepth patience (hmatcher (Nat.min_le_right _ _) hm)

/-- **So does a search in a formula**, whatever the regular expression. -/
theorem answers_regexFind (hlength : text.length < UInt32.size - 1)
    (hdepth : s.depth + 3 ≤ s.limits.maxDepth) (patience : Nat) (re : Regex) (start : UInt32) :
    Answers patience text start.toNat s
      (re.matchFrom text.toList.toArray (min start.toNat text.length))
      (s.evaluate patience (.call "RegexFind" [.text text, .regex re, .number start])) := by
  have hargs : ∀ below,
      List.Forall₂ (fun f v => eval patience below f s.enter = (.ok v, s.enter))
        [.text text, .regex re, .number start] [.string text, .regex re, .number start] :=
    fun below => .cons (by rw [eval]) (.cons (by rw [eval]) (.cons (by rw [eval]) .nil))
  obtain ⟨evaluate, hcall⟩ := evaluate_builtin (by omega) find?_regexFind rfl rfl hargs
  have haction : (Builtin.regexFind.onValues [.string text, .regex re, .number start]).run
        (perform patience evaluate) "RegexFind" s.enter =
      (findWith (re.matchFrom text.toList.toArray) text.toList.toArray start.toNat).run
        (perform patience evaluate) "RegexFind" s.enter := rfl
  rw [hcall, haction, findWith, size_characters]
  rcases hm : re.matchFrom text.toList.toArray (min start.toNat text.length) with _ | m
  · exact answers_nothing patience text start.toNat s
  · refine answers_match hlength hdepth patience ?_
    rw [← size_characters] at hm ⊢
    exact re.program.within_matchFrom text.toList.toArray (Nat.min_le_right _ _) hm

/-- **A search by offsets**: it is asked for the offset of the position, or of
the end, and answers the position of the match's offset. -/
theorem findWith_inCharacters (find : Nat → Option Match) (start : Nat) :
    findWith (inCharacters text find) text.toList.toArray start =
      match find (byteOffset text start) with
      | some m =>
        .request (.capture ((m.inCharacters text).texts text.toList.toArray)) fun _ =>
          .done (.number (positionNumber (charIndex text m.whole.start)))
      | none => .done (.number notFound) := by
  rw [findWith, size_characters, inCharacters, byteOffset_min]
  cases find (byteOffset text start) with
  | none => rfl
  | some m => rfl

/-- **The position that a search answers designates the match.** For a
matcher over the byte offsets of a text that keeps to the boundaries of its
characters, and for every regular expression: the search answers a number.
It is the one that stands for nothing just when there is no match from the
position on, and then the session is as it was. If not, it is a position not
before the one that was asked for, or the end; and as many characters from
there on as the first group has are the first group.
This rests on the offsets of positions and the positions of boundaries,
which lead back to each other. -/
theorem found_position_designates_group (hlength : text.length < UInt32.size - 1)
    (hdepth : s.depth + 3 ≤ s.limits.maxDepth) (patience : Nat) (start : UInt32) :
    (∀ find, OnBoundaries text find → ∀ evaluate name,
      Answers patience text start.toNat s
        (inCharacters text find (min start.toNat text.length))
        ((findWith (inCharacters text find) text.toList.toArray start.toNat).run
          (perform patience evaluate) name s)) ∧
    (∀ re, Answers patience text start.toNat s
      (re.matchFrom text.toList.toArray (min start.toNat text.length))
      (s.evaluate patience (.call "RegexFind" [.text text, .regex re, .number start]))) ∧
    (∀ i ≤ text.length, charIndex text (byteOffset text i) = i) ∧
    ∀ o, String.Pos.Raw.IsValid text ⟨o⟩ → byteOffset text (charIndex text o) = o :=
  ⟨fun _ hfind evaluate name =>
      answers_findWith hfind.within hlength hdepth patience evaluate name start.toNat,
    fun re => answers_regexFind hlength hdepth patience re start,
    fun _ hi => charIndex_byteOffset hi, fun _ ho => byteOffset_charIndex ho⟩

/-- The matcher of two letters in a text that starts with two bytes for one
character. -/
def doubled (o : Nat) : Option Match := if o ≤ 2 then some ⟨⟨2, 4⟩, []⟩ else none

theorem onBoundaries_doubled : OnBoundaries "äxxb" doubled := by
  intro o m hm
  rw [doubled] at hm
  split at hm
  · obtain rfl := Option.some.inj hm
    exact ⟨by assumption, by decide, by decide, by decide⟩
  · cases hm

theorem run_doubled (evaluate : Formula → Run Value) (name : String) (s : Session) :
    (findWith (inCharacters "äxxb" doubled) "äxxb".toList.toArray 1).run (perform 0 evaluate)
        name s =
      (.ok (.number 1), { s with captures := ["xx"] }) := by
  have hfound : doubled (byteOffset "äxxb" 1) = some ⟨⟨2, 4⟩, []⟩ := by decide +kernel
  have htexts : (Match.inCharacters "äxxb" ⟨⟨2, 4⟩, []⟩).texts "äxxb".toList.toArray = ["xx"] := by
    decide +kernel
  have hindex : charIndex "äxxb" 2 = 1 := by decide +kernel
  rw [findWith_inCharacters, hfound]
  dsimp only
  rw [htexts, hindex]
  rfl

/-- The two letters are found at the second character. -/
theorem doubled_designated :
    "äxxb".length < UInt32.size - 1 ∧ ({} : Session).depth + 3 ≤ ({} : Session).limits.maxDepth ∧
      OnBoundaries "äxxb" doubled ∧ Designates 0 "äxxb" 1 { captures := ["xx"] } := by
  have hlength : "äxxb".length < UInt32.size - 1 := by decide
  have hdepth : ({} : Session).depth + 3 ≤ ({} : Session).limits.maxDepth := by decide
  obtain ⟨r, s', hrun, -, -, hfound⟩ :=
    (found_position_designates_group hlength hdepth 0 1).1 doubled onBoundaries_doubled (eval 0 0)
      "RegexFind"
  obtain ⟨hr, rfl⟩ := Prod.mk.inj (hrun.symm.trans (run_doubled (eval 0 0) "RegexFind" {}))
  obtain rfl : r = 1 := Value.number.inj (Except.ok.inj hr)
  exact ⟨hlength, hdepth, onBoundaries_doubled, (hfound (by decide)).2⟩

end MailFormula.Regex
