import MailFormula.Json.Reader
import MailFormula.Json.Writer
import MailFormula.Proofs.Text.Decimal
/-!
# JSON strings and integers read back

A string is written character by character, some of them escaped, and an
integer in its digits. Both are read back whatever follows them: a string
ends at its closing quote (`readString_quoted`), and an integer where its
text cannot go on (`readNumber_natural`, `readNumber_negative`). For that
the digits may not begin with a zero (`toDigits_head`) and must fit 64 bits.
-/

namespace MailFormula.JsonValue

open MailFormula.Lexeme MailFormula.Text

variable {cs rest digits : List Char} {c : Char} {n : Nat} {steps : Nat}

/-! ## Strings -/

theorem hexValue?_hexDigit (h : n < 16) : hexValue? (hexDigit n) = some n := by
  have hall : ∀ n, n < 16 → hexValue? (hexDigit n) = some n := by decide
  exact hall n h

theorem escaped_letter {l : Char} (h : letterEscape? l = some c) :
    escaped (l :: cs) = .ok (c, cs) := by
  rw [escaped, h]

/-- What is escaped by its number is read back. -/
theorem escaped_hex (h : c.toNat < 0x20) :
    escaped ('u' :: '0' :: '0' :: hexDigit (c.toNat / 16) :: hexDigit (c.toNat % 16) :: cs) =
      .ok (c, cs) := by
  have hzero : hexValue? '0' = some 0 := rfl
  have hhigh : hexValue? (hexDigit (c.toNat / 16)) = some (c.toNat / 16) :=
    hexValue?_hexDigit (by omega)
  have hlow : hexValue? (hexDigit (c.toNat % 16)) = some (c.toNat % 16) :=
    hexValue?_hexDigit (by omega)
  have hvalue : ((0 * 16 + 0) * 16 + c.toNat / 16) * 16 + c.toNat % 16 = c.toNat := by omega
  have hfour : fourHex ('0' :: '0' :: hexDigit (c.toNat / 16) :: hexDigit (c.toNat % 16) :: cs) =
      .ok (c.toNat, cs) := by
    rw [fourHex]
    simp only [hzero, hhigh, hlow, hvalue]
  have hnotLow : ¬ 0xDC00 ≤ c.toNat := by omega
  have hnotHigh : ¬ 0xD800 ≤ c.toNat := by omega
  have hletter : letterEscape? 'u' = none := rfl
  rw [escaped, hletter]
  simp only [ne_eq, not_true_eq_false, if_false, hfour]
  simp [bind, Except.bind, hnotLow, hnotHigh, Char.ofNat_toNat]

theorem stringFrom_escape {tail : List Char} (h : escaped tail = .ok (c, cs)) :
    stringFrom (steps + 1) ('\\' :: tail) = (do
      let (more, rest) ← stringFrom steps cs
      .ok (c :: more, rest)) := by
  have hquote : '\\' ≠ '"' := by decide
  rw [stringFrom, if_neg hquote, if_pos rfl, h]
  rfl

/-- **A character is read back**, escaped or not. -/
theorem stringFrom_escapeChar (c : Char) (steps : Nat) (cs : List Char) :
    stringFrom (steps + 1) (escapeChar c ++ cs) = (do
      let (more, rest) ← stringFrom steps cs
      .ok (c :: more, rest)) := by
  unfold escapeChar
  split
  case h_8 _ hquote hslash _ _ _ _ _ =>
    split
    case isTrue hcontrol => exact stringFrom_escape (escaped_hex hcontrol)
    case isFalse hplain =>
      rw [List.singleton_append, stringFrom, if_neg hquote, if_neg hslash, if_neg hplain]
  all_goals exact stringFrom_escape (escaped_letter rfl)

/-- **A string is read back** up to its closing quote. -/
theorem stringFrom_flatMap (rest : List Char) (h : cs.length < steps) :
    stringFrom steps (cs.flatMap escapeChar ++ '"' :: rest) = .ok (cs, rest) := by
  induction cs generalizing steps with
  | nil =>
    obtain ⟨steps, rfl⟩ := Nat.exists_eq_add_one_of_ne_zero (Nat.ne_zero_of_lt h)
    rw [List.flatMap_nil, List.nil_append, stringFrom, if_pos rfl]
  | cons c cs ih =>
    obtain ⟨steps, rfl⟩ := Nat.exists_eq_add_one_of_ne_zero (Nat.ne_zero_of_lt h)
    have hrest : cs.length < steps := Nat.lt_of_succ_lt_succ h
    rw [List.flatMap_cons, List.append_assoc, stringFrom_escapeChar, ih hrest]
    rfl

theorem escapeChar_ne_nil (c : Char) : escapeChar c ≠ [] := by
  unfold escapeChar
  split
  case h_8 => split <;> exact List.cons_ne_nil _ _
  all_goals exact List.cons_ne_nil _ _

/-- Escapes make a text no shorter. -/
theorem length_le_length_flatMap_escapeChar (cs : List Char) :
    cs.length ≤ (cs.flatMap escapeChar).length := by
  induction cs with
  | nil => exact Nat.zero_le _
  | cons c cs ih =>
    have hchar : 0 < (escapeChar c).length := List.length_pos_of_ne_nil (escapeChar_ne_nil c)
    rw [List.flatMap_cons, List.length_append, List.length_cons]
    omega

theorem readString_quoted (s : String) (rest : List Char) :
    readString (s.toList.flatMap escapeChar ++ '"' :: rest) = .ok (s, rest) := by
  have hsteps : s.toList.length < (s.toList.flatMap escapeChar ++ '"' :: rest).length + 1 := by
    have hlength := length_le_length_flatMap_escapeChar s.toList
    rw [List.length_append]
    omega
  rw [readString, stringFrom_flatMap rest hsteps]
  exact congrArg (fun t => Except.ok (t, rest)) String.ofList_toList

/-! ## Integers -/

/-- Whether a character can go on a number. -/
def extendsNumber (c : Char) : Bool := isAsciiDigit c || c == '.' || c == 'e' || c == 'E'

theorem digitNext_eq_false (h : Ends extendsNumber rest) : digitNext rest = false := by
  cases rest with
  | nil => rfl
  | cons c rest =>
    have hc : extendsNumber c = false := h c rest rfl
    simp only [extendsNumber, Bool.or_eq_false_iff] at hc
    exact hc.1.1.1

/-- An integer ends where its text cannot go on. -/
theorem afterInteger_of_ends (positive : Bool) (n : Nat) (h : Ends extendsNumber rest) :
    afterInteger positive n rest =
      if positive then .ok (.integer n, rest)
      else if n = 0 || UInt64.size / 2 < n then .ok (.float (-(UInt64.ofNat n).toFloat), rest)
      else .ok (.integer (-n), rest) := by
  unfold afterInteger
  split
  · cases h _ _ rfl
  · cases h _ _ rfl
  · cases h _ _ rfl
  · rfl

/-- Digits only make a number larger. -/
theorem le_foldl_digits (digits : List Char) (n : Nat) :
    n ≤ digits.foldl (fun n d => n * 10 + digitValue d) n := by
  induction digits generalizing n with
  | nil => exact Nat.le_refl n
  | cons d digits ih =>
    have hstep : n ≤ n * 10 + digitValue d := by omega
    exact Nat.le_trans hstep (ih _)

/-- **Digits are taken** as long as the number stays exact. -/
theorem absorb_digits (hdigits : ∀ c ∈ digits, isAsciiDigit c = true)
    (hrest : digitNext rest = false) (taken n : Nat)
    (hexact : digits.foldl (fun n d => n * 10 + digitValue d) n ≤ mostExact) :
    absorb n taken (digits ++ rest) =
      (digits.foldl (fun n d => n * 10 + digitValue d) n, taken + digits.length, rest) := by
  induction digits generalizing n taken with
  | nil =>
    cases rest with
    | nil => rfl
    | cons c rest =>
      have hc : isAsciiDigit c = false := hrest
      rw [List.nil_append, absorb, hc, Bool.false_and, if_neg Bool.false_ne_true]
      rfl
  | cons d digits ih =>
    rw [List.forall_mem_cons] at hdigits
    have hstep : n * 10 + digitValue d ≤ mostExact :=
      Nat.le_trans (le_foldl_digits digits _) hexact
    rw [List.cons_append, absorb, hdigits.1, Bool.true_and, if_pos (decide_eq_true hstep),
      ih hdigits.2 _ _ hexact, List.length_cons, List.foldl_cons]
    congr 2
    omega

/-- **No zero leads** the digits of a number. -/
theorem toDigits_head (h : 0 < n) : ∃ c cs, Nat.toDigits 10 n = c :: cs ∧ c ≠ '0' := by
  induction n using Nat.strongRecOn with
  | _ n ih =>
    rcases Nat.lt_or_ge n 10 with hlt | hge
    · have hall : ∀ n, n < 10 → 0 < n → Nat.digitChar n ≠ '0' := by decide
      exact ⟨n.digitChar, [], Nat.toDigits_of_lt_base hlt, hall n hlt h⟩
    · obtain ⟨c, cs, hcs, hc⟩ := ih (n / 10) (by omega) (by omega)
      refine ⟨c, cs ++ [(n % 10).digitChar], ?_, hc⟩
      rw [Nat.toDigits_of_base_le (by decide) hge, hcs, List.cons_append]

/-- **The digits of a number are read** up to where they end. -/
theorem readNumber_toDigits (positive : Bool) (hfits : n ≤ mostExact)
    (hrest : Ends extendsNumber rest) :
    readNumber positive (Nat.toDigits 10 n ++ rest) = afterInteger positive n rest := by
  have hnext := digitNext_eq_false hrest
  rcases Nat.eq_zero_or_pos n with rfl | hpos
  · have hzero : Nat.toDigits 10 0 = ['0'] := rfl
    rw [hzero, List.singleton_append, readNumber, hnext, if_neg Bool.false_ne_true]
  · obtain ⟨c, cs, hcs, hc⟩ := toDigits_head hpos
    have hdigits := (isRun_toDigits n).all
    have hvalue : decimalValue (c :: cs) = n := hcs ▸ decimalValue_toDigits n
    rw [hcs] at hdigits ⊢
    have habsorb := absorb_digits hdigits hnext 0 0 (hvalue.trans_le hfits)
    have hdigit : isAsciiDigit c = true := hdigits c List.mem_cons_self
    rw [List.cons_append] at habsorb ⊢
    unfold readNumber
    split
    case h_1 heq => cases heq
    case h_2 heq => exact absurd (List.cons.inj heq).1 hc
    case h_3 heq =>
      obtain ⟨rfl, rfl⟩ := List.cons.inj heq
      have hfold : (c :: cs).foldl (fun n d => n * 10 + digitValue d) 0 = n := hvalue
      rw [hdigit, Bool.not_true, if_neg Bool.false_ne_true, habsorb, hfold]
      exact if_neg (ne_true_of_eq_false hnext)

/-- **A natural number is read back.** -/
theorem readNumber_natural (hfits : n ≤ mostExact) (hrest : Ends extendsNumber rest) :
    readNumber true (Nat.toDigits 10 n ++ rest) = .ok (.integer n, rest) := by
  rw [readNumber_toDigits true hfits hrest, afterInteger_of_ends true n hrest, if_pos rfl]

/-- **A negative number is read back** from the digits behind its sign. -/
theorem readNumber_negative (hfits : n < UInt64.size / 2) (hrest : Ends extendsNumber rest) :
    readNumber false (Nat.toDigits 10 (n + 1) ++ rest) = .ok (.integer (Int.negSucc n), rest) := by
  have hexact : n + 1 ≤ mostExact := by
    simp only [mostExact, UInt64.size] at hfits ⊢
    omega
  have hkept : (n + 1 = 0 || UInt64.size / 2 < n + 1) = false := by
    rw [Bool.or_eq_false_iff, decide_eq_false_iff_not, decide_eq_false_iff_not]
    omega
  rw [readNumber_toDigits false hexact hrest, afterInteger_of_ends false (n + 1) hrest,
    if_neg Bool.false_ne_true, hkept, if_neg Bool.false_ne_true]
  rfl

end MailFormula.JsonValue
