import MailFormula.Profile
import MailFormula.Proofs.Text.Decimal
/-!
# Settings read back

A profile may start from any sections, well formed or not, and is written
any number of times. `LastWrite` says what was put under a section and a
key last. The profile answers with that, whatever was written elsewhere
before and after (`get?_writeAll`), and the two ways of asking agree: an
integer is also the text of its digits, and a text that writes an integer
(`WritesInteger`) is also that integer (`readInteger_trimChars_iff`).
-/

namespace MailFormula

open MailFormula.Lexeme MailFormula.Text

/-! ## Integers in texts -/

/-- **Within 64 bits.** -/
def FitsInteger (n : Int) : Prop := Int64.minValue.toInt ≤ n ∧ n ≤ Int64.maxValue.toInt

theorem fitsInteger_toInt (n : Int64) : FitsInteger n.toInt :=
  ⟨n.minValue_le_toInt, n.toInt_le⟩

/-- **A text writes an integer**: signed digits with blanks around them, and
the number fits. -/
def WritesInteger (cs : List Char) (n : Int) : Prop :=
  ∃ left signed right, cs = left ++ (signed ++ right) ∧
    (∀ c ∈ left, isBlank c = true) ∧ (∀ c ∈ right, isBlank c = true) ∧
    SignedDigits signed n ∧ FitsInteger n

theorem isRun_iff {digits : List Char} :
    (digits.isEmpty || !digits.all isAsciiDigit) = false ↔ IsRun isAsciiDigit digits := by
  rw [Bool.or_eq_false_iff, Bool.not_eq_false', List.isEmpty_eq_false_iff, List.all_eq_true]
  exact ⟨fun h => ⟨h.1, h.2⟩, fun h => ⟨h.ne_nil, h.all⟩⟩

/-- **Exactly the signed digits of what fits are read.** -/
theorem readInteger_eq_some_iff {cs : List Char} {n : Int} :
    readInteger cs = some n ↔ SignedDigits cs n ∧ FitsInteger n := by
  have hbounded : ∀ (digits : List Char) (m : Int),
      (if digits.isEmpty || !digits.all isAsciiDigit then none
        else if Int64.minValue.toInt ≤ m && m ≤ Int64.maxValue.toInt then some m else none) =
          some n ↔ IsRun isAsciiDigit digits ∧ m = n ∧ FitsInteger n := by
    intro digits m
    rw [← isRun_iff]
    cases digits.isEmpty || !digits.all isAsciiDigit with
    | true => exact iff_of_false nofun nofun
    | false =>
      rw [if_neg Bool.false_ne_true, Option.ite_none_right_eq_some, Bool.and_eq_true,
        decide_eq_true_iff, decide_eq_true_iff, Option.some_inj]
      constructor
      · rintro ⟨hfits, rfl⟩
        exact ⟨rfl, rfl, hfits⟩
      · rintro ⟨-, rfl, hfits⟩
        exact ⟨hfits, rfl⟩
  constructor
  · intro h
    unfold readInteger at h
    dsimp only at h
    split at h
    · obtain ⟨hrun, rfl, hfits⟩ := (hbounded _ _).1 h
      exact ⟨.plus hrun, hfits⟩
    · obtain ⟨hrun, rfl, hfits⟩ := (hbounded _ _).1 h
      exact ⟨.minus hrun, hfits⟩
    · obtain ⟨hrun, rfl, hfits⟩ := (hbounded _ _).1 h
      exact ⟨.plain hrun, hfits⟩
  · rintro ⟨h, hfits⟩
    cases h with
    | plus hrun => exact (hbounded _ _).2 ⟨hrun, rfl, hfits⟩
    | minus hrun => exact (hbounded _ _).2 ⟨hrun, rfl, hfits⟩
    | plain hrun =>
      have hsign : ∀ c ∈ cs, c ∉ ['+', '-'] :=
        fun c hc => not_mem_of_isChar (by decide) (hrun.all c hc)
      unfold readInteger
      dsimp only
      -- Digits have no sign in front of them.
      split
      · exact absurd List.mem_cons_self (hsign '+' List.mem_cons_self)
      · exact absurd (by decide) (hsign '-' List.mem_cons_self)
      · exact (hbounded _ _).2 ⟨hrun, rfl, hfits⟩

/-- **What a text writes is read**, and nothing else. -/
theorem readInteger_trimChars_iff {cs : List Char} {n : Int} :
    readInteger (trimChars cs) = some n ↔ WritesInteger cs n := by
  rw [readInteger_eq_some_iff]
  constructor
  · rintro ⟨hsigned, hfits⟩
    obtain ⟨left, right, hcs, hleft, hright⟩ := exists_trimChars cs
    exact ⟨left, trimChars cs, right, hcs, hleft, hright, hsigned, hfits⟩
  · rintro ⟨left, signed, right, rfl, hleft, hright, hsigned, hfits⟩
    rw [trimChars_append hleft hright hsigned.isBlank_eq_false]
    exact ⟨hsigned, hfits⟩

namespace Profile

/-! ## Writes -/

/-- **What is put** under a section and a key: a text, or an integer of 64
bits. -/
inductive Setting where
  | text (s : String)
  | integer (n : Int64)

/-- A setting and where it is put. -/
structure Write where
  sec : String
  key : String
  setting : Setting

/-- The value that a setting is kept as. -/
def Setting.toValue : Setting → JsonValue
  | text s => .string s
  | integer n => .integer n.toInt

/-- Puts a setting in its place. -/
def write (p : Profile) (w : Write) : Profile :=
  match w.setting with
  | .text s => p.setText w.sec w.key s
  | .integer n => p.setInteger w.sec w.key n.toInt

/-- Puts one setting after the other. -/
def writeAll (p : Profile) (ws : List Write) : Profile := ws.foldl write p

/-- **Nothing is put** under a section and a key. -/
def Untouched (ws : List Write) (sec key : String) : Prop :=
  ∀ w ∈ ws, ¬ (w.sec = sec ∧ w.key = key)

/-- **The last write** to a section and a key: behind it nothing is put there. -/
def LastWrite (ws : List Write) (sec key : String) (setting : Setting) : Prop :=
  ∃ before after, ws = before ++ ⟨sec, key, setting⟩ :: after ∧ Untouched after sec key

variable {p : Profile} {ws : List Write} {sec key : String} {setting : Setting}

theorem write_eq (p : Profile) (w : Write) : p.write w = p.put w.sec w.key w.setting.toValue := by
  rw [write]
  cases w.setting <;> rfl

theorem get?_writeAll_of_untouched (h : Untouched ws sec key) :
    (p.writeAll ws).get? sec key = p.get? sec key := by
  induction ws generalizing p with
  | nil => rfl
  | cons w ws ih =>
    have hrest : Untouched ws sec key := fun w' hw' => h w' (List.mem_cons_of_mem w hw')
    have hcons : p.writeAll (w :: ws) = (p.write w).writeAll ws := rfl
    rw [hcons, ih hrest, write_eq, get?_put, if_neg (h w List.mem_cons_self)]

/-- **The last write is what is there.** -/
theorem get?_writeAll (h : LastWrite ws sec key setting) :
    (p.writeAll ws).get? sec key = some setting.toValue := by
  obtain ⟨before, after, rfl, hafter⟩ := h
  have hsplit : p.writeAll (before ++ ⟨sec, key, setting⟩ :: after) =
      ((p.writeAll before).write ⟨sec, key, setting⟩).writeAll after := by
    rw [writeAll, List.foldl_append]
    rfl
  rw [hsplit, get?_writeAll_of_untouched hafter, write_eq, get?_put, if_pos ⟨rfl, rfl⟩]

/-- What is asked for depends on the value that is there only. -/
theorem reads_congr {q : Profile} (h : p.get? sec key = q.get? sec key) :
    p.getText sec key = q.getText sec key ∧ p.getInteger sec key = q.getInteger sec key := by
  rw [getText, getText, getInteger, getInteger, h]
  exact ⟨rfl, rfl⟩

/-! ## Answers -/

theorem getText_of_string {s : String} (h : p.get? sec key = some (.string s)) :
    p.getText sec key = some s := by
  rw [getText, h]

theorem getInteger_of_string_iff {s : String} {n : Int}
    (h : p.get? sec key = some (.string s)) :
    p.getInteger sec key = some n ↔ WritesInteger s.toList n := by
  rw [getInteger, h]
  exact readInteger_trimChars_iff

theorem getText_of_integer {n : Int} (h : p.get? sec key = some (.integer n)) :
    p.getText sec key = some (toString n) := by
  have htext : (JsonValue.integer n).toText = toString n := String.ofList_toList
  rw [getText, h, ← htext]

theorem getInteger_of_integer {n : Int64} (h : p.get? sec key = some (.integer n.toInt)) :
    p.getInteger sec key = some n.toInt := by
  rw [getInteger, h]
  exact if_pos n.toInt_le

/-- Blanks around the decimal text of an integer make no difference. -/
theorem writesInteger_toString {left right : String} (n : Int64) (hleft : isAllBlank left = true)
    (hright : isAllBlank right = true) :
    WritesInteger (left ++ toString n.toInt ++ right).toList n.toInt := by
  refine ⟨left.toList, (toString n.toInt).toList, right.toList, ?_, List.all_eq_true.1 hleft,
    List.all_eq_true.1 hright, signedDigits_toString n.toInt, fitsInteger_toInt n⟩
  rw [String.toList_append, String.toList_append, List.append_assoc]

end Profile

/-- **A profile answers with what was put last.** From whatever sections it
starts, a text that was put last under a section and a key is the answer
there, and it is answered as an integer exactly if it writes one. An integer
is answered as itself, and as the text of its digits; that text is answered
as the integer again, with blanks around it or not. Where nothing was put,
the answers are those of the start. -/
theorem profile_answers_last_write (p : Profile) (ws : List Profile.Write) (sec key : String) :
    (∀ s, Profile.LastWrite ws sec key (.text s) →
      (p.writeAll ws).getText sec key = some s ∧
      ∀ n, (p.writeAll ws).getInteger sec key = some n ↔ WritesInteger s.toList n) ∧
    (∀ n, Profile.LastWrite ws sec key (.integer n) →
      (p.writeAll ws).getInteger sec key = some n.toInt ∧
      (p.writeAll ws).getText sec key = some (toString n.toInt)) ∧
    (∀ (n : Int64) (left right : String), isAllBlank left = true → isAllBlank right = true →
      Profile.LastWrite ws sec key (.text (left ++ toString n.toInt ++ right)) →
      (p.writeAll ws).getInteger sec key = some n.toInt) ∧
    (Profile.Untouched ws sec key →
      (p.writeAll ws).getText sec key = p.getText sec key ∧
      (p.writeAll ws).getInteger sec key = p.getInteger sec key) := by
  refine ⟨fun s h => ?_, fun n h => ?_, fun n left right hleft hright h => ?_, fun h => ?_⟩
  · have hthere := Profile.get?_writeAll (p := p) h
    exact ⟨Profile.getText_of_string hthere, fun n => Profile.getInteger_of_string_iff hthere⟩
  · have hthere := Profile.get?_writeAll (p := p) h
    exact ⟨Profile.getInteger_of_integer hthere, Profile.getText_of_integer hthere⟩
  · have hthere := Profile.get?_writeAll (p := p) h
    exact (Profile.getInteger_of_string_iff hthere).2
      (Profile.writesInteger_toString n hleft hright)
  · exact Profile.reads_congr (Profile.get?_writeAll_of_untouched h)

/-- A profile with two sections that hold no settings. -/
def malformedProfile : Profile := { name := "main", root := [("a", .array []), ("b", .null)] }

/-- Settings in both of them, one written twice. -/
def mixedSettings : List Profile.Write :=
  [⟨"a", "x", .text "one"⟩, ⟨"b", "n", .integer (-7)⟩, ⟨"a", "x", .text " \t-7\n"⟩]

/-- They are answered from the last write, and the key beside them is not
answered. -/
theorem malformed_sections_take_settings :
    (malformedProfile.writeAll mixedSettings).getText "a" "x" = some " \t-7\n" ∧
    (malformedProfile.writeAll mixedSettings).getInteger "a" "x" = some (-7) ∧
    (malformedProfile.writeAll mixedSettings).getInteger "b" "n" = some (-7) ∧
    (malformedProfile.writeAll mixedSettings).getText "b" "n" = some "-7" ∧
    (malformedProfile.writeAll mixedSettings).getText "b" "x" = none := by
  have hspaced : " \t" ++ toString (-7 : Int64).toInt ++ "\n" = " \t-7\n" := by decide +kernel
  have htext : Profile.LastWrite mixedSettings "a" "x" (.text " \t-7\n") :=
    ⟨[⟨"a", "x", .text "one"⟩, ⟨"b", "n", .integer (-7)⟩], [], rfl, nofun⟩
  have hinteger : Profile.LastWrite mixedSettings "b" "n" (.integer (-7)) := by
    refine ⟨[⟨"a", "x", .text "one"⟩], [⟨"a", "x", .text " \t-7\n"⟩], rfl, ?_⟩
    rintro w hw ⟨hsec, -⟩
    rw [List.mem_singleton.1 hw] at hsec
    exact absurd hsec (by decide)
  have huntouched : Profile.Untouched mixedSettings "b" "x" := by
    simp [Profile.Untouched, mixedSettings]
  obtain ⟨hatText, -, hatSpaced, -⟩ :=
    profile_answers_last_write malformedProfile mixedSettings "a" "x"
  obtain ⟨-, hatInteger, -, -⟩ :=
    profile_answers_last_write malformedProfile mixedSettings "b" "n"
  obtain ⟨-, -, -, hatUntouched⟩ :=
    profile_answers_last_write malformedProfile mixedSettings "b" "x"
  refine ⟨(hatText _ htext).1, ?_, (hatInteger _ hinteger).1, (hatInteger _ hinteger).2,
    (hatUntouched huntouched).1⟩
  exact hatSpaced (-7) " \t" "\n" (by decide +kernel) (by decide +kernel) (hspaced ▸ htext)

end MailFormula
