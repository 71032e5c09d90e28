import MailFormula.Proofs.Text.Offset
import MailFormula.Regex.Replace
/-!
# Matchers

What searching and replacing ask of a matcher: a match that is found from
a position on lies there and within the text (`Within`). Two matchers meet
that. A compiled program does, whatever its instructions are: its machine
starts a way at no earlier position than it was asked for, and a way
accepts where it has come to (`Program.within_matchFrom`). And so does a
matcher that counts in bytes, if its matches begin and end between two
characters (`OnBoundaries.within`).
-/

namespace MailFormula.Regex

open MailFormula.Text

/-- **A match lies within a text** of so many characters, at a position or
behind it. -/
structure Match.Lies (m : Match) (pos size : Nat) : Prop where
  behind : pos ≤ m.whole.start
  ordered : m.whole.start ≤ m.whole.stop
  inside : m.whole.stop ≤ size

/-- **A matcher stays within a text** of so many characters. -/
def Within (size : Nat) (matcher : Nat → Option Match) : Prop :=
  ∀ ⦃pos m⦄, pos ≤ size → matcher pos = some m → m.Lies pos size

/-! ## The matches of a program -/

variable {program : Program} {code : Array Inst} {text : Array Char} {start pos size : Nat}

/-- **A way began at the start or behind it**, and no later than where it
stands now. -/
def Began (start pos : Nat) (slots : Array (Option Nat)) : Prop :=
  ∀ a, slots[0]? = some (some a) → start ≤ a ∧ a ≤ pos

/-- **A match was accepted** behind where its way began, within the text. -/
def Accepted (start size : Nat) (slots : Array (Option Nat)) : Prop :=
  ∀ a b, slots[0]? = some (some a) → slots[1]? = some (some b) → start ≤ a ∧ a ≤ b ∧ b ≤ size

theorem Began.mono {slots : Array (Option Nat)} {pos' : Nat} (h : Began start pos slots)
    (hpos : pos ≤ pos') : Began start pos' slots :=
  fun a ha => ⟨(h a ha).1, Nat.le_trans (h a ha).2 hpos⟩

/-- Remembering the position keeps the way as it is, whatever the slot. -/
theorem Began.save {slots : Array (Option Nat)} (h : Began start pos slots) (hpos : start ≤ pos)
    (slot : Nat) : Began start pos (slots.setIfInBounds slot (some pos)) := by
  intro a ha
  rw [Array.getElem?_setIfInBounds] at ha
  split at ha
  · split at ha
    · obtain rfl := Option.some.inj (Option.some.inj ha)
      exact ⟨hpos, Nat.le_refl _⟩
    · cases ha
  · exact h a ha

/-- A way that accepts has its match end where it stands. -/
theorem Began.accept {slots : Array (Option Nat)} (h : Began start pos slots) (hpos : pos ≤ size) :
    Accepted start size (slots.setIfInBounds 1 (some pos)) := by
  intro a b ha hb
  rw [Array.getElem?_setIfInBounds_ne (by decide)] at ha
  rw [Array.getElem?_setIfInBounds_self] at hb
  split at hb
  · obtain rfl := Option.some.inj (Option.some.inj hb)
    exact ⟨(h a ha).1, (h a ha).2, hpos⟩
  · cases hb

/-- What is reached without a character has begun like what it is reached
from. -/
theorem began_follow {before after : Option Char} {rounds : Nat} {stack ready : List Way}
    {seen : Array Bool} (hpos : start ≤ pos) (hstack : ∀ way ∈ stack, Began start pos way.slots)
    (hready : ∀ way ∈ ready, Began start pos way.slots) :
    ∀ way ∈ (follow code pos before after rounds stack seen ready).2,
      Began start pos way.slots := by
  fun_induction follow code pos before after rounds stack seen ready with
  | case1 => exact hready
  | case2 => exact hready
  | case3 rounds way stack seen ready hseen ih => exact ih (List.forall_mem_cons.1 hstack).2 hready
  | case4 rounds way stack seen ready hseen seen' hcode ih =>
    exact ih (List.forall_mem_cons.1 hstack).2 hready
  | case5 rounds way stack seen ready hseen seen' table hcode ih =>
    obtain ⟨hway, hstack⟩ := List.forall_mem_cons.1 hstack
    exact ih hstack (List.forall_mem_cons.2 ⟨hway, hready⟩)
  | case6 rounds way stack seen ready hseen seen' hcode ih =>
    obtain ⟨hway, hstack⟩ := List.forall_mem_cons.1 hstack
    exact ih hstack (List.forall_mem_cons.2 ⟨hway, hready⟩)
  | case7 rounds way stack seen ready hseen seen' a b hcode ih =>
    obtain ⟨hway, hstack⟩ := List.forall_mem_cons.1 hstack
    exact ih (List.forall_mem_cons.2 ⟨hway, List.forall_mem_cons.2 ⟨hway, hstack⟩⟩) hready
  | case8 rounds way stack seen ready hseen seen' a hcode ih =>
    obtain ⟨hway, hstack⟩ := List.forall_mem_cons.1 hstack
    exact ih (List.forall_mem_cons.2 ⟨hway, hstack⟩) hready
  | case9 rounds way stack seen ready hseen seen' l hcode hholds ih =>
    obtain ⟨hway, hstack⟩ := List.forall_mem_cons.1 hstack
    exact ih (List.forall_mem_cons.2 ⟨hway, hstack⟩) hready
  | case10 rounds way stack seen ready hseen seen' l hcode hholds ih =>
    exact ih (List.forall_mem_cons.1 hstack).2 hready
  | case11 rounds way stack seen ready hseen seen' slot hcode ih =>
    obtain ⟨hway, hstack⟩ := List.forall_mem_cons.1 hstack
    exact ih (List.forall_mem_cons.2 ⟨hway.save hpos slot, hstack⟩) hready

/-- **A machine between two characters**: its ways began at the start or
behind it, and its best match lies there and within the text. -/
structure Running (start pos size : Nat) (ways : List Way)
    (best : Option (Array (Option Nat))) : Prop where
  began : ∀ way ∈ ways, Began start pos way.slots
  accepted : ∀ slots ∈ best, Accepted start size slots

/-- What holds of all ways holds without the first. -/
theorem Running.tail {way : Way} {ways : List Way} {best : Option (Array (Option Nat))}
    (h : Running start pos size (way :: ways) best) : Running start pos size ways best where
  began := (List.forall_mem_cons.1 h.began).2
  accepted := h.accepted

/-- **Consuming a character** keeps that. -/
theorem Running.consume {next : Option Char} {ways : List Way}
    {best : Option (Array (Option Nat))} (h : Running start pos size ways best)
    (hpos : pos ≤ size) :
    Running start pos size (consume code next pos ways best).1
      (consume code next pos ways best).2 := by
  fun_induction Regex.consume code next pos ways best with
  | case1 best => exact h
  | case2 way ways best hcode =>
    refine ⟨nofun, fun slots hslots => ?_⟩
    obtain rfl := Option.some.inj hslots
    exact (h.began way List.mem_cons_self).accept hpos
  | case3 way ways best table hcode moved best' hmoved c hc htable ih =>
    have hrest := ih h.tail
    rw [hmoved] at hrest
    exact ⟨List.forall_mem_cons.2 ⟨h.began way List.mem_cons_self, hrest.began⟩, hrest.accepted⟩
  | case4 way ways best table hcode moved best' hmoved c hc htable ih =>
    have hrest := ih h.tail
    rwa [hmoved] at hrest
  | case5 way ways best table hcode moved best' hmoved hc ih =>
    have hrest := ih h.tail
    rwa [hmoved] at hrest
  | case6 way ways best _ _ ih => exact ih h.tail

/-- **Visiting a position** keeps that too: a new way begins right here. -/
theorem Running.visit {ways : List Way} {best : Option (Array (Option Nat))}
    (h : Running start pos size ways best) (program : Program) (before next : Option Char)
    (hstart : start ≤ pos) (hpos : pos ≤ size) :
    Running start pos size (visit program before next pos ways best).1
      (visit program before next pos ways best).2 := by
  have hfresh : Began start pos
      ((Array.replicate (2 * program.groups) none).setIfInBounds 0 (some pos)) := by
    refine Began.save (fun a ha => ?_) hstart 0
    rw [Array.getElem?_replicate] at ha
    split at ha
    · cases Option.some.inj ha
    · cases ha
  refine Running.consume ⟨?_, h.accepted⟩ hpos
  simp only [List.mem_reverse]
  refine began_follow hstart (fun way hway => ?_) nofun
  split at hway
  · rcases List.mem_append.1 hway with hway | hway
    · exact h.began way hway
    · obtain rfl := List.mem_singleton.1 hway
      exact hfresh
  · exact h.began way hway

/-- **So a run ends with a match behind the start.** -/
theorem accepted_advance {before : Option Char} {ways : List Way}
    {best : Option (Array (Option Nat))} (h : Running start pos text.size ways best)
    (hstart : start ≤ pos) (hpos : pos ≤ text.size) :
    ∀ slots ∈ advance program text before pos ways best, Accepted start text.size slots := by
  fun_induction advance program text before pos ways best with
  | case1 before pos ways best hlt c moved best' hvisit hdone =>
    have hmoved := h.visit program before (some c) hstart hpos
    rw [hvisit] at hmoved
    exact hmoved.accepted
  | case2 before pos ways best hlt c moved best' hvisit hmore ih =>
    have hmoved := h.visit program before (some c) hstart hpos
    rw [hvisit] at hmoved
    refine ih ⟨fun way hway => ?_, hmoved.accepted⟩ (Nat.le_succ_of_le hstart) hlt
    exact (hmoved.began way hway).mono (Nat.le_succ _)
  | case3 before pos ways best hend => exact (h.visit program before none hstart hpos).accepted

/-- **A program stays within the text**, whatever its instructions are. -/
theorem Program.within_matchFrom (program : Program) (text : Array Char) :
    Within text.size (program.matchFrom text) := by
  intro pos m hpos hm
  rw [matchFrom, if_neg (Nat.not_lt.2 hpos)] at hm
  simp only [Option.bind_eq_bind, Option.bind_eq_some_iff, Option.some.injEq] at hm
  obtain ⟨slots, hslots, whole, hwhole, rfl⟩ := hm
  have hnothing : Running pos pos text.size [] none :=
    ⟨fun way hway => (List.not_mem_nil hway).elim, fun slots hslots => by cases hslots⟩
  have haccepted := accepted_advance hnothing (Nat.le_refl pos) hpos slots hslots
  rw [spanAt] at hwhole
  split at hwhole
  · rename_i a b ha hb
    obtain rfl := Option.some.inj hwhole
    obtain ⟨hstart, horder, hstop⟩ := haccepted a b ha hb
    exact ⟨hstart, horder, hstop⟩
  · cases hwhole

/-! ## Matchers that count in bytes -/

theorem size_characters (text : String) : text.toList.toArray.size = text.length :=
  String.length_toList

/-- So many characters of a text from a position on are a span of it. -/
theorem Span.of_toArray (text : String) (a b : Nat) :
    Span.of ⟨a, b⟩ text.toList.toArray = (text.toList.drop a).take (b - a) := by
  rw [of, Array.toList_extract, List.extract_eq_take_drop]

/-- A span of bytes as a span of characters. -/
def Span.inCharacters (text : String) (s : Span) : Span :=
  ⟨charIndex text s.start, charIndex text s.stop⟩

/-- A match in bytes as a match in characters. -/
def Match.inCharacters (text : String) (m : Match) : Match :=
  ⟨m.whole.inCharacters text, m.groups.map (Option.map (Span.inCharacters text))⟩

/-- **A matcher over byte offsets**, asked for a position in characters: it
is given the offset of the position, and its match is counted again. -/
def inCharacters (text : String) (find : Nat → Option Match) (pos : Nat) : Option Match :=
  (find (byteOffset text pos)).map (Match.inCharacters text)

/-- **A matcher over byte offsets stays on the boundaries** of a text: what
it finds from an offset on begins there or behind it, and begins and ends
between two characters. -/
def OnBoundaries (text : String) (find : Nat → Option Match) : Prop :=
  ∀ ⦃o m⦄, find o = some m → o ≤ m.whole.start ∧ m.whole.start ≤ m.whole.stop ∧
    String.Pos.Raw.IsValid text ⟨m.whole.start⟩ ∧ String.Pos.Raw.IsValid text ⟨m.whole.stop⟩

/-- **The groups of its matches stay on the boundaries** too. -/
def GroupsOnBoundaries (text : String) (find : Nat → Option Match) : Prop :=
  ∀ ⦃o m⦄, find o = some m → ∀ s, some s ∈ m.groups → s.start ≤ s.stop ∧
    String.Pos.Raw.IsValid text ⟨s.start⟩ ∧ String.Pos.Raw.IsValid text ⟨s.stop⟩

/-- **On the boundaries it stays within the text**, in characters. -/
theorem OnBoundaries.within {text : String} {find : Nat → Option Match}
    (h : OnBoundaries text find) : Within text.length (inCharacters text find) := by
  intro pos m hpos hm
  obtain ⟨m', hm', rfl⟩ := Option.map_eq_some_iff.1 hm
  obtain ⟨hbehind, hordered, -, hstop⟩ := h hm'
  have hstart := charIndex_mono text hbehind
  rw [charIndex_byteOffset hpos] at hstart
  exact ⟨hstart, charIndex_mono text hordered, charIndex_le_length hstop⟩

end MailFormula.Regex
