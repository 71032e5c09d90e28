import MailFormula.Value
import MailFormula.Proofs.Formula.Token
import MailFormula.Proofs.Text.Lines
import Mathlib.Data.Nat.Digits.Defs
/-!
# Texts read as numbers

A text reads as the number that its digits write, once the blanks in front
are skipped. What counts as its digits is settled by a division of the
text (`Text.LeadingDigits`): blanks, digits, and a rest that could add neither a
digit nor, as long as there is none, a blank. Every text is divided so
(`exists_leadingDigits`), and the digits of the division are the ones that are read
(`digits_eq_of_leadingDigits`), whatever the rest is.
-/

namespace MailFormula

namespace Text

variable {blanks digits rest cs : List Char}

/-- **The digits of a number in their places**, the last one counting ones. -/
theorem decimalValue_eq_ofDigits (digits : List Char) :
    decimalValue digits = Nat.ofDigits 10 (digits.reverse.map digitValue) := by
  induction digits using List.reverseRecOn with
  | nil => rfl
  | append_singleton digits d ih =>
    have hlast : decimalValue (digits ++ [d]) = decimalValue digits * 10 + digitValue d :=
      List.foldl_append
    rw [hlast, ih, List.reverse_append, List.reverse_singleton, List.singleton_append,
      List.map_cons, Nat.ofDigits_cons, Nat.mul_comm, Nat.add_comm]

/-- **A text divided at its leading number.** -/
structure LeadingDigits (blanks digits rest : List Char) : Prop where
  areBlanks : ∀ c ∈ blanks, isBlank c = true
  areDigits : ∀ c ∈ digits, isAsciiDigit c = true
  /-- The digits end where the rest begins. -/
  digitsEnd : ∀ c ∈ rest.head?, isAsciiDigit c = false
  /-- And where there are none, the blanks do. -/
  blanksEnd : digits = [] → ∀ c ∈ rest.head?, isBlank c = false

/-- Whether a division is one at the leading number shows in its parts. -/
instance : Decidable (LeadingDigits blanks digits rest) :=
  decidable_of_iff
    (blanks.all isBlank = true ∧ digits.all isAsciiDigit = true ∧
      rest.head?.all (fun c => !isAsciiDigit c) = true ∧
      (digits = [] → rest.head?.all (fun c => !isBlank c) = true)) <| by
    simp only [List.all_eq_true, Option.all_eq_true, Bool.not_eq_true']
    exact ⟨fun ⟨hblanks, hdigits, hend, hnone⟩ => ⟨hblanks, hdigits, hend, hnone⟩,
      fun h => ⟨h.areBlanks, h.areDigits, h.digitsEnd, h.blanksEnd⟩⟩

/-- The blanks that are skipped are those in front. -/
theorem LeadingDigits.dropBlanks_eq (h : LeadingDigits blanks digits rest) :
    dropBlanks (blanks ++ (digits ++ rest)) = digits ++ rest := by
  rw [dropBlanks, List.dropWhile_append_of_pos h.areBlanks]
  cases digits with
  | nil =>
    cases rest with
    | nil => rfl
    | cons c rest => exact dropBlanks_cons (h.blanksEnd rfl c rfl)
  | cons d digits =>
    exact dropBlanks_cons (isBlank_of_isAsciiDigit (h.areDigits d List.mem_cons_self))

/-- **The digits that are read** are those of the division. -/
theorem digits_eq_of_leadingDigits (h : LeadingDigits blanks digits rest) :
    (dropBlanks (blanks ++ (digits ++ rest))).takeWhile isAsciiDigit = digits := by
  have hrest : rest.takeWhile isAsciiDigit = [] := by
    cases rest with
    | nil => rfl
    | cons c rest => exact List.takeWhile_cons_of_neg (by simp [h.digitsEnd c rfl])
  rw [h.dropBlanks_eq, List.takeWhile_append_of_pos h.areDigits, hrest, List.append_nil]

/-- What is left behind the longest run of some characters goes on with
another. -/
theorem head?_dropWhile {p : Char → Bool} {c : Char} (h : c ∈ (cs.dropWhile p).head?) :
    p c = false := by
  have hnot := List.head?_dropWhile_not p cs
  rw [Option.mem_def.1 h] at hnot
  exact hnot

/-- **Every text is divided so.** -/
theorem exists_leadingDigits (cs : List Char) :
    ∃ blanks digits rest, cs = blanks ++ (digits ++ rest) ∧ LeadingDigits blanks digits rest := by
  refine ⟨cs.takeWhile isBlank, (dropBlanks cs).takeWhile isAsciiDigit,
    (dropBlanks cs).dropWhile isAsciiDigit, ?_, ?_, ?_, ?_, ?_⟩
  · rw [List.takeWhile_append_dropWhile]
    exact List.takeWhile_append_dropWhile.symm
  · exact fun c hc => List.mem_takeWhile_imp hc
  · exact fun c hc => List.mem_takeWhile_imp hc
  · exact fun c hc => head?_dropWhile hc
  · -- Without digits the rest is all that stands behind the blanks.
    intro hnone c hc
    have hall := List.takeWhile_append_dropWhile (p := isAsciiDigit) (l := dropBlanks cs)
    rw [hnone, List.nil_append] at hall
    rw [hall] at hc
    exact head?_dropWhile hc

end Text

open MailFormula.Text

/-- A text reads as the number that its digits write, if it has 32 bits. -/
theorem toNat_leadingNumber {blanks digits rest : String}
    (h : LeadingDigits blanks.toList digits.toList rest.toList) :
    (leadingNumber (blanks ++ digits ++ rest)).toNat =
      if decimalValue digits.toList < 2 ^ 32 then decimalValue digits.toList else 0 := by
  have hsize : UInt32.size = 2 ^ 32 := rfl
  rw [leadingNumber, String.toList_append, String.toList_append, List.append_assoc,
    digits_eq_of_leadingDigits h, hsize]
  split
  · rename_i hsmall
    exact UInt32.toNat_ofNat_of_lt' hsmall
  · rfl

/-- **A text reads as the number that its leading digits write.** For
every division of a text, the text by itself and as the text of a field
is the value of its digits if that is below 2 ^ 32, and 0 if it is not;
every text has such a division. A number written as a text and read again
is the same number. -/
theorem number_reads_leading_digits :
    (∀ blanks digits rest : String, LeadingDigits blanks.toList digits.toList rest.toList →
      ∀ n, n = Nat.ofDigits 10 (digits.toList.reverse.map digitValue) →
        (Value.string (blanks ++ digits ++ rest)).toNumber.toNat = (if n < 2 ^ 32 then n else 0) ∧
        ∀ name, (Value.field name (some (blanks ++ digits ++ rest))).toNumber.toNat =
          if n < 2 ^ 32 then n else 0) ∧
    (∀ text : String, ∃ blanks digits rest : String, text = blanks ++ digits ++ rest ∧
      LeadingDigits blanks.toList digits.toList rest.toList) ∧
    ∀ live n, (Value.string ((Value.number n).text live)).toNumber = n := by
  refine ⟨?_, ?_, ?_⟩
  · rintro blanks digits rest h n rfl
    rw [← decimalValue_eq_ofDigits]
    exact ⟨toNat_leadingNumber h, fun _ => toNat_leadingNumber h⟩
  · intro text
    obtain ⟨blanks, digits, rest, htext, h⟩ := exists_leadingDigits text.toList
    refine ⟨String.ofList blanks, String.ofList digits, String.ofList rest, ?_, ?_⟩
    · rw [← String.toList_inj, htext]
      simp
    · simpa using h
  · intro live n
    have hdigits : (toString n.toNat).toList = Nat.toDigits 10 n.toNat := Nat.toList_repr
    have hled : LeadingDigits "".toList (toString n.toNat).toList "".toList := by
      rw [hdigits]
      exact ⟨nofun, (Lexeme.isRun_toDigits n.toNat).all, nofun,
        fun hnil => absurd hnil (Lexeme.isRun_toDigits n.toNat).ne_nil⟩
    have hvalue := toNat_leadingNumber hled
    rw [hdigits, Lexeme.decimalValue_toDigits, if_pos n.toNat_lt, String.empty_append,
      String.append_empty] at hvalue
    exact UInt32.toNat_inj.1 hvalue

/-- Behind a wide blank, leading zeros and further digits do not count;
the first number with 33 bits counts as none. -/
theorem padded_number_reads :
    (LeadingDigits "\u3000\t".toList "0042".toList "x7".toList ∧
      (Value.string ("\u3000\t" ++ "0042" ++ "x7")).toNumber.toNat = 42) ∧
    LeadingDigits "".toList "4294967296".toList ".5".toList ∧
      (Value.field "Size" (some ("" ++ "4294967296" ++ ".5"))).toNumber.toNat = 0 := by
  have hpadded : LeadingDigits "\u3000\t".toList "0042".toList "x7".toList := by decide
  have hwide : LeadingDigits "".toList "4294967296".toList ".5".toList := by decide
  obtain ⟨hread, -⟩ := number_reads_leading_digits
  exact ⟨⟨hpadded, (hread _ _ _ hpadded 42 (by decide)).1⟩,
    hwide, (hread _ _ _ hwide 4294967296 (by decide)).2 "Size"⟩

end MailFormula
