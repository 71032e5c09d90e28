import MailFormula.Text.Blank
/-!
# Lines

A text as a list of lines. `inclusiveLines` keeps the line feed at the end of each line, so the
lines together are the text; `linesOf` drops the line ends, and with a line feed a carriage return
before it.
-/

namespace MailFormula.Text

/-- The lines of a text, each with its line feed; `current` holds the line so far in reverse. -/
def inclusiveLinesFrom (current : List Char) : List Char → List (List Char)
  | [] => if current.isEmpty then [] else [current.reverse]
  | c :: cs =>
    if c == '\n' then (c :: current).reverse :: inclusiveLinesFrom [] cs
    else inclusiveLinesFrom (c :: current) cs

/-- The lines of a text, each with its line feed. -/
def inclusiveLines (cs : List Char) : List (List Char) := inclusiveLinesFrom [] cs

/-- A line without its line end. -/
def dropLineEnd (line : List Char) : List Char :=
  match line.reverse with
  | '\n' :: '\r' :: rest => rest.reverse
  | '\n' :: rest => rest.reverse
  | _ => line

/-- The lines of a text without their line ends. -/
def linesOf (cs : List Char) : List (List Char) := (inclusiveLines cs).map dropLineEnd

/-- The text with every carriage return that stands before a line feed removed, from left to
right. -/
def dropCarriageReturns : List Char → List Char
  | [] => []
  | [c] => [c]
  | c :: d :: cs =>
    if c == '\r' && d == '\n' then '\n' :: dropCarriageReturns cs
    else c :: dropCarriageReturns (d :: cs)

/-- The text before and after the first occurrence of a character. -/
def splitOnce (mark : Char) (cs : List Char) : Option (List Char × List Char) :=
  match cs.dropWhile (· != mark) with
  | [] => none
  | _ :: after => some (cs.takeWhile (· != mark), after)

/-! ## Small lemmas -/

theorem flatten_inclusiveLinesFrom (current cs : List Char) :
    (inclusiveLinesFrom current cs).flatten = current.reverse ++ cs := by
  induction cs generalizing current with
  | nil =>
    unfold inclusiveLinesFrom
    split <;> simp_all
  | cons c cs ih =>
    unfold inclusiveLinesFrom
    split
    · simp [ih]
    · simp [ih]

/-- **The lines with their line feeds are the text.** -/
theorem flatten_inclusiveLines (cs : List Char) : (inclusiveLines cs).flatten = cs := by
  simp [inclusiveLines, flatten_inclusiveLinesFrom]

theorem dropCarriageReturns_sublist (cs : List Char) : (dropCarriageReturns cs).Sublist cs := by
  fun_induction dropCarriageReturns cs with
  | case1 => exact .slnil
  | case2 => exact List.Sublist.refl _
  | case3 c d cs hcd ih =>
    rw [Bool.and_eq_true, beq_iff_eq, beq_iff_eq] at hcd
    obtain ⟨-, rfl⟩ := hcd
    exact (ih.cons_cons _).cons _
  | case4 c d cs _ ih => exact ih.cons_cons _

end MailFormula.Text
