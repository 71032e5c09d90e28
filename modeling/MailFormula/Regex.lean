import MailFormula.Regex.Footprint
import MailFormula.Regex.Program
import MailFormula.Regex.Reader
/-!
# Regular expressions

A `Regex` is a pattern text with its flag letters, together with the program that they compile
to. The program is determined by the two texts, so a regular expression can be rebuilt from them,
and a text that compiles to nothing is no regular expression at all.
-/

namespace MailFormula

open MailFormula.Regex in
/-- The modes that the flag letters of a literal ask for; other letters change nothing. -/
def Regex.flagsOf (letters : List Char) : Flags :=
  letters.foldl
    (fun flags c =>
      match c with
      | 'i' => { flags with caseless := true }
      | 'm' => { flags with multiLine := true }
      | 's' => { flags with dotAll := true }
      | 'x' => { flags with extended := true }
      | _ => flags)
    {}

open MailFormula.Regex in
/-- The program of a pattern text under some flag letters, unless it would be too large. -/
def Regex.program? (pattern flags : String) : Option Program :=
  ((Reader.read (flagsOf flags.toList) pattern.toList).filter Pattern.fits).map
    Program.ofPattern

/-- A regular expression. -/
structure Regex where
  pattern : String
  flags : String
  program : Regex.Program
  compiles : Regex.program? pattern flags = some program

namespace Regex

/-- Compiles a pattern text under some flag letters. -/
def compile? (pattern flags : String) : Option Regex :=
  match h : program? pattern flags with
  | some program => some ⟨pattern, flags, program, h⟩
  | none => none

/-- Whether a pattern text compiles under some flag letters. -/
def IsValid (pattern flags : String) : Prop :=
  (program? pattern flags).isSome

instance (pattern flags : String) : Decidable (IsValid pattern flags) :=
  inferInstanceAs (Decidable (_ = true))

/-- The leftmost match that starts at or after a character position. -/
def matchFrom (r : Regex) (text : Array Char) (start : Nat) : Option Match :=
  r.program.matchFrom text start

/-- **A regular expression is its two texts.** The program adds nothing to them. -/
theorem ext_texts {r s : Regex} (hp : r.pattern = s.pattern) (hf : r.flags = s.flags) : r = s := by
  obtain ⟨p, f, prog, h⟩ := r
  obtain ⟨p', f', prog', h'⟩ := s
  simp only at hp hf
  subst hp hf
  have : prog = prog' := Option.some.inj (h.symm.trans h')
  subst this
  rfl

instance : DecidableEq Regex := fun r s =>
  if h : r.pattern = s.pattern ∧ r.flags = s.flags then
    isTrue (ext_texts h.1 h.2)
  else
    isFalse fun e => h (e ▸ ⟨rfl, rfl⟩)

/-- Compiling succeeds exactly on valid texts, and keeps them. -/
theorem compile?_eq_some_iff {pattern flags : String} {r : Regex} :
    compile? pattern flags = some r ↔ r.pattern = pattern ∧ r.flags = flags := by
  constructor
  · intro h
    unfold compile? at h
    split at h
    · obtain rfl := Option.some.inj h
      exact ⟨rfl, rfl⟩
    · cases h
  · rintro ⟨rfl, rfl⟩
    unfold compile?
    split
    · exact congrArg some (ext_texts rfl rfl)
    · rename_i h
      rw [r.compiles] at h
      cases h

end Regex

end MailFormula
