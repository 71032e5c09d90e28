import MailFormula.Proofs.Text.Search
import Mathlib.Data.List.Basic
/-!
# Replacing takes the leftmost occurrences

A text is replaced piece by piece: up to the next occurrence it is kept as
it is written, and the search goes on behind the occurrence. What is written
and what is folded are cut at the same places, since folding keeps the number
of characters; so the text is cut into gaps and occurrences, each occurrence
is the first from the end of the one before on (`Leftmost`), and nothing but
the occurrences changes.
-/

namespace MailFormula.Text

variable {text needle rest folded new : List Char} {start i : Nat} {r : Option Nat}

/-! ## The pieces of a text -/

/-- What is kept of a text, and the occurrence behind it. -/
structure Piece where
  gap : List Char
  hit : List Char

/-- Pieces in a row, with something else in the place of each occurrence. -/
def join (pieces : List Piece) (hit : Piece → List Char) : List Char :=
  pieces.flatMap fun p => p.gap ++ hit p

theorem join_nil (hit : Piece → List Char) : join [] hit = [] := rfl

theorem join_cons (p : Piece) (pieces : List Piece) (hit : Piece → List Char) :
    join (p :: pieces) hit = p.gap ++ (hit p ++ join pieces hit) := by
  rw [join, List.flatMap_cons, List.append_assoc]
  rfl

/-- **The pieces end with the leftmost occurrences** that do not overlap,
from a place of the text on. -/
inductive Leftmost (text needle : List Char) : Nat → List Piece → Prop
  /-- There is no occurrence any more. -/
  | done {start : Nat} : Finds text needle start none → Leftmost text needle start []
  /-- The first occurrence stands behind the gap, and the search goes on
  behind it. -/
  | next {start : Nat} {p : Piece} {pieces : List Piece} :
      Finds text needle start (some (start + p.gap.length)) →
      Leftmost text needle (start + p.gap.length + p.hit.length) pieces →
      Leftmost text needle start (p :: pieces)

/-! ## Searching the rest of a text -/

theorem occursAt_drop (hstart : start ≤ text.length) :
    OccursAt (text.drop start) needle i ↔ OccursAt text needle (start + i) := by
  simp only [OccursAt, List.length_drop, List.getElem?_drop, Nat.add_assoc]
  refine and_congr_left fun _ => ?_
  omega

/-- **What is found in the rest of a text** is found in the text from there
on. -/
theorem finds_of_drop (hstart : start ≤ text.length) (h : Finds (text.drop start) needle 0 r) :
    Finds text needle start (r.map (start + ·)) := by
  cases r with
  | none =>
    intro i hi hoccurs
    obtain ⟨k, rfl⟩ := Nat.exists_eq_add_of_le hi
    exact h k (Nat.zero_le k) ((occursAt_drop hstart).2 hoccurs)
  | some i =>
    obtain ⟨-, hoccurs, hfirst⟩ := h
    refine ⟨Nat.le_add_right start i, (occursAt_drop hstart).1 hoccurs, fun j hj hji hoccurs => ?_⟩
    obtain ⟨k, rfl⟩ := Nat.exists_eq_add_of_le hj
    exact hfirst k (Nat.zero_le k) (Nat.lt_of_add_lt_add_left hji)
      ((occursAt_drop hstart).2 hoccurs)

/-- At the end of a text there is no occurrence. -/
theorem finds_none_of_length_le (hneedle : needle ≠ []) (hstart : text.length ≤ start) :
    Finds text needle start none := by
  rintro i hi ⟨hend, -⟩
  have hlength := List.length_pos_iff.2 hneedle
  omega

/-- What stands at an occurrence folds to the needle. -/
theorem map_take_drop_of_occursAt {fold : Char → Char} (hrest : rest.map fold = text.drop start)
    (h : OccursAt text needle (start + i)) :
    ((rest.drop i).take needle.length).map fold = needle := by
  have hhere : needle <+: text.drop (start + i) := by
    rwa [← occursAt_iff_prefix (Nat.le_of_add_right_le h.1)]
  rw [List.map_take, List.map_drop, hrest, List.drop_drop]
  exact (List.prefix_iff_eq_take.1 hhere).symm

/-! ## Replacing -/

/-- **Replacing the rest of a text** keeps its gaps and replaces its leftmost
occurrences. -/
theorem replaceChars_eq_join {fold : Char → Char} {n : Char} {ns : List Char}
    (done : List (List Char)) (hfolded : folded = rest.map fold) (hrest : folded = text.drop start)
    (hstart : start ≤ text.length) :
    ∃ pieces tail, rest = join pieces Piece.hit ++ tail ∧
      (∀ p ∈ pieces, p.hit.map fold = n :: ns) ∧ Leftmost text (n :: ns) start pieces ∧
      replaceChars n ns new done rest folded =
        done.reverse.flatten ++ (join pieces (fun _ => new) ++ tail) := by
  fun_induction replaceChars n ns new done rest folded generalizing start with
  | case1 done rest =>
    refine ⟨[], rest, rfl, nofun, .done (finds_none_of_length_le (List.cons_ne_nil n ns) ?_), ?_⟩
    · exact List.drop_eq_nil_iff.1 hrest.symm
    · rw [join_nil, List.nil_append, List.reverse_cons, List.flatten_concat]
  | case2 done rest c cs hnone =>
    have hfinds := finds_findChars (c :: cs) (n :: ns) 0
    rw [hnone, hrest] at hfinds
    refine ⟨[], rest, rfl, nofun, .done (finds_of_drop hstart hfinds), ?_⟩
    rw [join_nil, List.nil_append, List.reverse_cons, List.flatten_concat]
  | case3 done rest c cs i hsome ih =>
    have hfinds := finds_findChars (c :: cs) (n :: ns) 0
    rw [hsome, hrest] at hfinds
    have hfirst : Finds text (n :: ns) start (some (start + i)) := finds_of_drop hstart hfinds
    have hoccurs := hfirst.2.1
    have hend := hoccurs.1
    rw [List.length_cons] at hend
    have hlength := congrArg List.length (hfolded.symm.trans hrest)
    rw [List.length_map, List.length_drop] at hlength
    -- Behind the occurrence, text and folded text are cut at the same place.
    have hbehind : cs.drop (i + ns.length) = (c :: cs).drop (i + ns.length + 1) := rfl
    obtain ⟨pieces, tail, hpieces, hhits, hleftmost, hreplaced⟩ := @ih
      (start + i + (ns.length + 1))
      (by rw [hbehind, hfolded, List.map_drop])
      (by rw [hbehind, hrest, List.drop_drop]; congr 1; omega) (by omega)
    have hgap : (rest.take i).length = i := by rw [List.length_take]; omega
    have hhit : ((rest.drop i).take (ns.length + 1)).length = ns.length + 1 := by
      rw [List.length_take, List.length_drop]
      omega
    refine ⟨⟨rest.take i, (rest.drop i).take (ns.length + 1)⟩ :: pieces, tail, ?_, ?_, ?_, ?_⟩
    · rw [join_cons, List.append_assoc, List.append_assoc, ← hpieces, Nat.add_assoc,
        ← List.drop_drop, List.take_append_drop, List.take_append_drop]
    · exact List.forall_mem_cons.2
        ⟨map_take_drop_of_occursAt (hfolded.symm.trans hrest) hoccurs, hhits⟩
    · refine .next (by rwa [hgap]) ?_
      rwa [hgap, hhit]
    · rw [hreplaced, join_cons]
      simp

/-- The same of whole texts. -/
theorem exists_pieces_replaceAll (text new : String) {old : String} (hold : old ≠ "")
    (caseSensitive : Bool) :
    ∃ pieces tail, text.toList = join pieces Piece.hit ++ tail ∧
      (∀ p ∈ pieces,
        p.hit.map (foldFor caseSensitive) = old.toList.map (foldFor caseSensitive)) ∧
      Leftmost (text.toList.map (foldFor caseSensitive)) (old.toList.map (foldFor caseSensitive))
        0 pieces ∧
      (replaceAll text old new caseSensitive).toList =
        join pieces (fun _ => new.toList) ++ tail := by
  rw [replaceAll]
  split
  · rename_i hnil
    rw [List.map_eq_nil_iff, String.toList_eq_nil_iff] at hnil
    exact absurd hnil hold
  · rename_i n ns hcons
    rw [hcons, String.toList_ofList]
    exact replaceChars_eq_join [] rfl rfl (Nat.zero_le _)

theorem replaceAll_empty (text new : String) (caseSensitive : Bool) :
    replaceAll text "" new caseSensitive = text := rfl

theorem foldFor_true : foldFor true = id := rfl

/-- **Replaced by itself**, an occurrence stays as it is. -/
theorem replaceAll_self (text old : String) : replaceAll text old old true = text := by
  rcases eq_or_ne old "" with rfl | hold
  · exact replaceAll_empty text "" true
  · obtain ⟨pieces, tail, htext, hhits, -, hreplaced⟩ :=
      exists_pieces_replaceAll text old hold true
    simp only [foldFor_true, List.map_id] at hhits
    have hsame : join pieces (fun _ => old.toList) = join pieces Piece.hit :=
      List.flatMap_congr fun p hp => by rw [hhits p hp]
    rw [← String.toList_inj, hreplaced, hsame, htext]

/-- **Where nothing occurs** nothing is replaced. -/
theorem replaceAll_eq_self (text old new : String) (caseSensitive : Bool)
    (hnone : ∀ i, ¬ FoldedAt text old caseSensitive i) :
    replaceAll text old new caseSensitive = text := by
  rcases eq_or_ne old "" with rfl | hold
  · exact replaceAll_empty text new caseSensitive
  · obtain ⟨pieces, tail, htext, -, hleftmost, hreplaced⟩ :=
      exists_pieces_replaceAll text new hold caseSensitive
    cases hleftmost with
    | done => rw [← String.toList_inj, hreplaced, htext, join_nil, join_nil]
    | next hfirst => exact absurd hfirst.2.1 (hnone _)

/-- **Replacing replaces exactly the leftmost occurrences** that do not
overlap. The text is a row of gaps and occurrences: each occurrence has as
many characters as the old text and folds to the same, it is the first from
the end of the one before on, and there is none behind the last. The result
has the new text in the place of each, and the gaps as they are written. So
a text replaced by itself changes nothing, and neither does an empty one or
one that does not occur. -/
theorem replaces_leftmost_occurrences (text old new : String) (caseSensitive : Bool) :
    (old ≠ "" → ∃ pieces tail, text.toList = join pieces Piece.hit ++ tail ∧
      (∀ p ∈ pieces, p.hit.length = old.toList.length ∧
        p.hit.map (foldFor caseSensitive) = old.toList.map (foldFor caseSensitive)) ∧
      Leftmost (text.toList.map (foldFor caseSensitive)) (old.toList.map (foldFor caseSensitive))
        0 pieces ∧
      (replaceAll text old new caseSensitive).toList =
        join pieces (fun _ => new.toList) ++ tail) ∧
    replaceAll text old old true = text ∧
    replaceAll text "" new caseSensitive = text ∧
    ((∀ i, ¬ FoldedAt text old caseSensitive i) →
      replaceAll text old new caseSensitive = text) := by
  refine ⟨fun hold => ?_, replaceAll_self text old, replaceAll_empty text new caseSensitive,
    replaceAll_eq_self text old new caseSensitive⟩
  obtain ⟨pieces, tail, htext, hhits, hleftmost, hreplaced⟩ :=
    exists_pieces_replaceAll text new hold caseSensitive
  refine ⟨pieces, tail, htext, fun p hp => ⟨?_, hhits p hp⟩, hleftmost, hreplaced⟩
  have hlength := congrArg List.length (hhits p hp)
  rwa [List.length_map, List.length_map] at hlength

/-- Of two occurrences that overlap, the first is replaced. -/
example : replaceAll "abAbaXaBA" "aBa" "-" false = "-baX-" := by decide +kernel

/-- A text with occurrences that overlap and are not written like the old
text. -/
theorem overlapping_replaced :
    "aBa" ≠ "" ∧ (∀ i, ¬ FoldedAt "abAbaXaBA" "bb" false i) ∧
      (∃ pieces tail, "abAbaXaBA".toList = join pieces Piece.hit ++ tail ∧
        Leftmost ("abAbaXaBA".toList.map (foldFor false)) ("aBa".toList.map (foldFor false)) 0
          pieces ∧
        (replaceAll "abAbaXaBA" "aBa" "-" false).toList = join pieces (fun _ => ['-']) ++ tail) ∧
      replaceAll "abAbaXaBA" "bb" "-" false = "abAbaXaBA" := by
  have hold : "aBa" ≠ "" := by decide
  have hnone : ∀ i, ¬ FoldedAt "abAbaXaBA" "bb" false i := fun i =>
    findChars_eq_none_iff.1 (by decide +kernel) i (Nat.zero_le i)
  obtain ⟨pieces, tail, htext, -, hleftmost, hreplaced⟩ :=
    (replaces_leftmost_occurrences "abAbaXaBA" "aBa" "-" false).1 hold
  exact ⟨hold, hnone, ⟨pieces, tail, htext, hleftmost, hreplaced⟩,
    (replaces_leftmost_occurrences "abAbaXaBA" "bb" "-" false).2.2.2 hnone⟩

end MailFormula.Text
