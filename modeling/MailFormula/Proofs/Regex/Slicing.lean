import MailFormula.Proofs.Regex.Matcher
import MailFormula.Proofs.Text.Slice
/-!
# Replacing by byte offsets

A text may be replaced in by offsets. Then each round cuts the groups of a
match out of the text, and what lies in front of the match; and behind an
empty match it looks at the rest of the text for the character to step over,
which may be of several bytes. Any of these cuts fails where an offset is
not between two characters, or where the text has been copied further than
up to the match (`sliceRound`).

With a matcher that stays on the boundaries no cut fails, and a round does
what it does by characters (`sliceRound_eq`): positions become offsets, and
that is all.
-/

namespace MailFormula.Regex

open MailFormula.Text

/-! ## Rounds by offsets -/

/-- A span of bytes, as an extent to cut out. -/
def Span.extent (s : Span) : Extent := ⟨s.start, s.stop⟩

/-- The text of a group that may have taken no part in the match. -/
def sliceGroup (text : String) : Option Span → Except CutFault String
  | some s => slice text s.extent
  | none => .ok ""

/-- The texts of the groups of a match, the whole match first. -/
def Match.sliceTexts (text : String) (m : Match) : Except CutFault (List String) :=
  (some m.whole :: m.groups).mapM (sliceGroup text)

/-- Where replacing by offsets stands: the result so far, the offset up to
which the text is copied, and the groups of the last match that was used. -/
structure Slicing where
  result : String := ""
  copied : Nat := 0
  groups : Option (List String) := none
deriving DecidableEq

namespace Slicing

/-- Copies what lies before a match, and puts what the template stands for in
its place. -/
def put (r : Slicing) (text : String) (template : List Char) (m : Match) :
    Except CutFault Slicing := do
  let groups ← m.sliceTexts text
  let before ← slice text ⟨r.copied, m.whole.start⟩
  .ok { result := r.result ++ before ++ String.ofList (expand groups template)
        copied := m.whole.stop
        groups := some groups }

/-- Copies the character at an offset, if there is one, and goes on behind
it. -/
def stepOver (r : Slicing) (text : String) (offset : Nat) :
    Except CutFault (Option Nat × Slicing) := do
  let rest ← slice text ⟨offset, text.utf8ByteSize⟩
  match rest.toList.head? with
  | some c => .ok (some (offset + c.utf8Size),
      { r with result := r.result ++ String.singleton c, copied := r.copied + c.utf8Size })
  | none => .ok (none, r)

end Slicing

/-- **One round by offsets**, with a search from an offset on. The round says
where the next search starts; the last one says nothing. -/
def sliceRound (find : Nat → Option Match) (text : String) (template : List Char)
    (everywhere : Bool) (search : Nat) (r : Slicing) : Except CutFault (Option Nat × Slicing) :=
  if text.utf8ByteSize < search then .ok (none, r)
  else
    match find search with
    | none => .ok (none, r)
    | some m => do
      let r ← r.put text template m
      if !everywhere then .ok (none, r)
      else if m.whole.start = m.whole.stop then r.stepOver text m.whole.stop
      else .ok (some m.whole.stop, r)

/-- Replaces round by round, and says nothing if so many rounds do not
suffice. -/
def sliceFrom (find : Nat → Option Match) (text : String) (template : List Char)
    (everywhere : Bool) : Nat → Nat → Slicing → Except CutFault (Option Slicing)
  | 0, _, _ => .ok none
  | rounds + 1, search, r => do
    match ← sliceRound find text template everywhere search r with
    | (none, r) => .ok (some r)
    | (some next, r) => sliceFrom find text template everywhere rounds next r

/-- **Replaces matches by offsets**, in no more than so many rounds. The result
is the new text and the groups of the last match that was used. -/
def sliceMatches (find : Nat → Option Match) (text : String) (template : List Char)
    (everywhere : Bool) (rounds : Nat) : Except CutFault (Option (String × Option (List String))) :=
  do
    match ← sliceFrom find text template everywhere rounds 0 {} with
    | none => .ok none
    | some r => do
      let rest ← slice text ⟨r.copied, text.utf8ByteSize⟩
      .ok (some (r.result ++ rest, r.groups))

/-- A match that begins inside a character. -/
example : sliceMatches (fun _ => some ⟨⟨1, 2⟩, []⟩) "é" ['-'] true 3 = .error (.slice 1 2) := by
  decide +kernel

variable {text : String} {find : Nat → Option Match} {template : List Char} {everywhere : Bool}
  {m : Match} {s : Span} {r : Replacing} {i j search : Nat}

/-! ## Cutting at positions -/

/-- **Between the offsets of two positions** lie the characters between
them. -/
theorem slice_byteOffset (hij : i ≤ j) (hj : j ≤ text.length) :
    slice text ⟨byteOffset text i, byteOffset text j⟩ =
      .ok (String.ofList (Span.of ⟨i, j⟩ text.toList.toArray)) := by
  obtain ⟨n, rfl⟩ := Nat.exists_eq_add_of_le hij
  rw [Span.of_toArray, Nat.add_sub_cancel_left]
  refine Extent.Holds.slice_eq ⟨text.toList.take i, text.toList.drop (i + n), ?_,
    byteOffset_eq_byteLength (Nat.le_trans hij hj), ?_⟩
  · rw [← List.drop_drop, List.take_append_drop, List.take_append_drop]
  · rw [byteOffset_eq_byteLength hj, ← byteLength_append, List.take_add]

/-- The end is an offset like any other. -/
theorem slice_rest (hi : i ≤ text.length) :
    slice text ⟨byteOffset text i, text.utf8ByteSize⟩ =
      .ok (String.ofList (Span.of ⟨i, text.length⟩ text.toList.toArray)) := by
  rw [← byteOffset_of_length_le (Nat.le_refl text.length)]
  exact slice_byteOffset hi (Nat.le_refl text.length)

/-- **A span on boundaries** is cut out as the characters of it. -/
theorem slice_extent (hordered : s.start ≤ s.stop)
    (hstart : String.Pos.Raw.IsValid text ⟨s.start⟩)
    (hstop : String.Pos.Raw.IsValid text ⟨s.stop⟩) :
    slice text s.extent = .ok (String.ofList ((s.inCharacters text).of text.toList.toArray)) := by
  have hcut := slice_byteOffset (charIndex_mono text hordered) (charIndex_le_length hstop)
  rwa [byteOffset_charIndex hstart, byteOffset_charIndex hstop] at hcut

/-- A span on boundaries is empty in characters exactly if it is in bytes. -/
theorem inCharacters_empty_iff (hstart : String.Pos.Raw.IsValid text ⟨s.start⟩)
    (hstop : String.Pos.Raw.IsValid text ⟨s.stop⟩) :
    (s.inCharacters text).start = (s.inCharacters text).stop ↔ s.start = s.stop := by
  constructor
  · intro heq
    rw [← byteOffset_charIndex hstart, ← byteOffset_charIndex hstop]
    exact congrArg (byteOffset text) heq
  · exact congrArg (charIndex text)

/-- Where no step fails, a list is mapped without a fault. -/
theorem mapM_eq_map {α β : Type} {f : α → Except CutFault β} {g : α → β} {as : List α}
    (h : ∀ a ∈ as, f a = .ok (g a)) : as.mapM f = .ok (as.map g) := by
  induction as with
  | nil => rfl
  | cons a as ih =>
    obtain ⟨ha, has⟩ := List.forall_mem_cons.1 h
    rw [List.mapM_cons, ha, ok_bind, ih has, ok_bind]
    rfl

/-- The text of a group in characters. -/
def groupText (text : Array Char) : Option Span → String
  | some s => String.ofList (s.of text)
  | none => ""

theorem sliceGroup_eq {g : Option Span}
    (h : ∀ s, g = some s → s.start ≤ s.stop ∧ String.Pos.Raw.IsValid text ⟨s.start⟩ ∧
      String.Pos.Raw.IsValid text ⟨s.stop⟩) :
    sliceGroup text g = .ok (groupText text.toList.toArray (g.map (Span.inCharacters text))) := by
  cases g with
  | none => rfl
  | some s =>
    obtain ⟨hordered, hstart, hstop⟩ := h s rfl
    exact slice_extent hordered hstart hstop

/-- **The groups are cut out** as the characters of them. -/
theorem sliceTexts_eq (hfind : OnBoundaries text find) (hgroups : GroupsOnBoundaries text find)
    (hm : find search = some m) :
    m.sliceTexts text = .ok ((m.inCharacters text).texts text.toList.toArray) := by
  have hall : ∀ g ∈ some m.whole :: m.groups, sliceGroup text g =
      .ok (groupText text.toList.toArray (g.map (Span.inCharacters text))) := by
    refine List.forall_mem_cons.2 ⟨sliceGroup_eq fun s hs => ?_, fun g hg => ?_⟩
    · obtain rfl := Option.some.inj hs
      exact (hfind hm).2
    · exact sliceGroup_eq fun s hs => hgroups hm s (hs ▸ hg)
  rw [Match.sliceTexts, mapM_eq_map hall]
  simp only [List.map_cons, Match.texts, Match.inCharacters, List.map_map]
  rfl

/-! ## Rounds by characters -/

/-- **Where replacing by characters stands**, counted in bytes. -/
def Replacing.inBytes (r : Replacing) (text : String) : Slicing where
  result := String.ofList r.pieces.reverse.flatten
  copied := byteOffset text r.copied
  groups := r.groups

/-- Nothing is replaced at the start. -/
theorem inBytes_empty (text : String) : Replacing.inBytes {} text = {} := by
  rw [Replacing.inBytes, byteOffset_zero]
  rfl

/-- **The result is the same**, with the rest of the text cut out. -/
theorem slice_result (hcopied : r.copied ≤ text.length) :
    ∃ rest, slice text ⟨(r.inBytes text).copied, text.utf8ByteSize⟩ = .ok rest ∧
      (r.inBytes text).result ++ rest = String.ofList (r.result text.toList.toArray) := by
  refine ⟨_, slice_rest hcopied, ?_⟩
  rw [Replacing.inBytes, Replacing.result, size_characters, List.reverse_cons,
    List.flatten_concat, String.ofList_append]

/-- **A match is replaced** alike. -/
theorem put_inBytes (hfind : OnBoundaries text find) (hgroups : GroupsOnBoundaries text find)
    (hm : find search = some m) (hcopied : r.copied ≤ charIndex text m.whole.start)
    (template : List Char) :
    (r.inBytes text).put text template m =
      .ok ((r.put text.toList.toArray template (m.inCharacters text)).inBytes text) := by
  obtain ⟨-, -, hstart, hstop⟩ := hfind hm
  have hcut := slice_byteOffset hcopied (charIndex_le_length hstart)
  have hoffset : byteOffset text (m.inCharacters text).whole.stop = m.whole.stop :=
    byteOffset_charIndex hstop
  rw [byteOffset_charIndex hstart] at hcut
  rw [Slicing.put, sliceTexts_eq hfind hgroups hm, ok_bind, Replacing.inBytes, hcut, ok_bind,
    Replacing.inBytes, Replacing.put]
  dsimp only
  rw [hoffset, ← String.ofList_append, ← String.ofList_append]
  simp [Match.inCharacters, Span.inCharacters]

/-- **A character is stepped over** alike, however many bytes it has. -/
theorem stepOver_inBytes (r : Replacing) (text : String) (hcopied : r.copied ≤ text.length) :
    (r.inBytes text).stepOver text (byteOffset text r.copied) =
      .ok (match text.toList.toArray[r.copied]? with
        | some c => (some (byteOffset text (r.copied + 1)), (r.copy c).inBytes text)
        | none => (none, r.inBytes text)) := by
  have hhead : (Span.of ⟨r.copied, text.length⟩ text.toList.toArray).head? =
      text.toList[r.copied]? := by
    rw [Span.of_toArray, List.head?_take, List.head?_drop]
    split
    case isTrue hend =>
      have hnone : text.toList.length ≤ r.copied := by
        rw [String.length_toList]
        exact Nat.sub_eq_zero_iff_le.1 hend
      rw [List.getElem?_eq_none hnone]
    case isFalse => rfl
  rw [Slicing.stepOver, slice_rest hcopied, ok_bind, String.toList_ofList, hhead,
    List.getElem?_toArray]
  rcases hc : text.toList[r.copied]? with _ | c
  · rfl
  · have hcopy : (r.copy c).inBytes text =
        { r.inBytes text with
          result := (r.inBytes text).result ++ String.singleton c
          copied := (r.inBytes text).copied + c.utf8Size } := by
      rw [Replacing.inBytes, Replacing.copy, Replacing.inBytes]
      dsimp only
      rw [byteOffset_succ hc, List.reverse_cons, List.flatten_concat, String.ofList_append,
        String.singleton_eq_ofList]
    dsimp only
    rw [byteOffset_succ hc, hcopy]

/-- **A round by offsets** does what the round by characters does. -/
theorem sliceRound_eq (hfind : OnBoundaries text find) (hgroups : GroupsOnBoundaries text find)
    (hsearch : search ≤ text.length) (hcopied : r.copied ≤ search) :
    sliceRound find text template everywhere (byteOffset text search) (r.inBytes text) =
      .ok ((replaceRound (inCharacters text find) text.toList.toArray template everywhere search
          r).1.map (byteOffset text),
        (replaceRound (inCharacters text find) text.toList.toArray template everywhere search
          r).2.inBytes text) := by
  rw [sliceRound, if_neg (Nat.not_lt.2 (byteOffset_le_utf8ByteSize hsearch)), replaceRound,
    size_characters, if_neg (Nat.not_lt.2 hsearch), inCharacters]
  rcases hm : find (byteOffset text search) with _ | m
  · rfl
  · obtain ⟨hbehind, hordered, hstart, hstop⟩ := hfind hm
    have hbefore := charIndex_mono text hbehind
    rw [charIndex_byteOffset hsearch] at hbefore
    dsimp only [Option.map_some]
    rw [put_inBytes hfind hgroups hm (Nat.le_trans hcopied hbefore), ok_bind]
    have hempty : (m.inCharacters text).whole.start = (m.inCharacters text).whole.stop ↔
        m.whole.start = m.whole.stop := inCharacters_empty_iff hstart hstop
    have hoffset : byteOffset text (m.inCharacters text).whole.stop = m.whole.stop :=
      byteOffset_charIndex hstop
    generalize hput : r.put text.toList.toArray template (m.inCharacters text) = r'
    have hcopied' : r'.copied = (m.inCharacters text).whole.stop := hput ▸ rfl
    cases everywhere with
    | false => rfl
    | true =>
      by_cases hwhole : m.whole.start = m.whole.stop
      · have hover := stepOver_inBytes r' text (hcopied' ▸ charIndex_le_length hstop)
        rw [hcopied', hoffset] at hover
        simp only [Bool.not_true, Bool.false_eq_true, if_false, hempty, hwhole, if_true]
        rw [hover]
        cases text.toList.toArray[(m.inCharacters text).whole.stop]? with
        | none => rfl
        | some c => rfl
      · simp only [Bool.not_true, Bool.false_eq_true, if_false, hempty, hwhole]
        rw [Option.map_some, hoffset]

end MailFormula.Regex
