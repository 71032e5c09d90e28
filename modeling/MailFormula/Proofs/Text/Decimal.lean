import MailFormula.Proofs.Formula.Token
import MailFormula.Proofs.Text.Lines
/-!
# Decimal texts of integers

An integer in digits, with a sign in front or without one. Its decimal text
is one of them (`signedDigits_toString`): the digits of its size, and the
minus sign if it is negative.
-/

namespace MailFormula.Text

open MailFormula.Lexeme

/-- The text of a number that is not negative. -/
theorem toList_toString_natCast (n : Nat) : (toString (n : Int)).toList = Nat.toDigits 10 n :=
  Nat.toList_repr

/-- A negative number has its sign in front. -/
theorem toList_toString_negSucc (n : Nat) :
    (toString (Int.negSucc n)).toList = '-' :: Nat.toDigits 10 (n + 1) := by
  have htext : toString (Int.negSucc n) = "-" ++ (n + 1).repr := rfl
  rw [htext, String.toList_append, Nat.toList_repr]
  rfl

/-- **A signed number in digits**: a sign if there is one, and at least one
digit. -/
inductive SignedDigits : List Char → Int → Prop
  | plain {digits : List Char} :
      IsRun isAsciiDigit digits → SignedDigits digits (decimalValue digits)
  | plus {digits : List Char} :
      IsRun isAsciiDigit digits → SignedDigits ('+' :: digits) (decimalValue digits)
  | minus {digits : List Char} :
      IsRun isAsciiDigit digits → SignedDigits ('-' :: digits) (-(decimalValue digits : Int))

/-- There are no blanks in it. -/
theorem SignedDigits.isBlank_eq_false {cs : List Char} {n : Int} (h : SignedDigits cs n) :
    ∀ c ∈ cs, isBlank c = false := by
  have hdigits : ∀ {digits : List Char}, IsRun isAsciiDigit digits →
      ∀ c ∈ digits, isBlank c = false :=
    fun hrun c hc => isBlank_of_isAsciiDigit (hrun.all c hc)
  cases h with
  | plain hrun => exact hdigits hrun
  | plus hrun => exact List.forall_mem_cons.2 ⟨by decide, hdigits hrun⟩
  | minus hrun => exact List.forall_mem_cons.2 ⟨by decide, hdigits hrun⟩

/-- **The decimal text of a number** is the number in digits. -/
theorem signedDigits_toString (n : Int) : SignedDigits (toString n).toList n := by
  cases n with
  | ofNat n =>
    have hdigits := SignedDigits.plain (isRun_toDigits n)
    rw [decimalValue_toDigits] at hdigits
    exact (toList_toString_natCast n).symm ▸ hdigits
  | negSucc n =>
    have hdigits := SignedDigits.minus (isRun_toDigits (n + 1))
    rw [decimalValue_toDigits] at hdigits
    exact (toList_toString_negSucc n).symm ▸ hdigits

end MailFormula.Text
