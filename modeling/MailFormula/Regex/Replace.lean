import MailFormula.Regex.Program
import MailFormula.Text.Ascii
/-!
# Replacing matches

A matcher says, for a position in a text, where the next match lies. Replacing runs a matcher over
the text from left to right; it copies what lies between the matches and puts a replacement in the
place of each. A template stands for the replacement; in it a backslash and a digit mean the text
of a group, and two backslashes mean one.

After an empty match the search goes on one character later, so it moves forward with every match.
Positions count characters; counting bytes comes to the same, for a matcher that keeps to the
boundaries between them.
-/

namespace MailFormula.Regex

open MailFormula.Text

/-- The characters of a span. -/
def Span.of (s : Span) (text : Array Char) : List Char := (text.extract s.start s.stop).toList

/-- The texts of the groups of a match, the whole match first; a group that took no part is
empty. -/
def Match.texts (m : Match) (text : Array Char) : List String :=
  String.ofList (m.whole.of text) ::
    m.groups.map fun g =>
      match g with
      | some s => String.ofList (s.of text)
      | none => ""

/-- What a template stands for. -/
def expand (groups : List String) : List Char → List Char
  | [] => []
  | c :: cs =>
    if c == '\\' then
      match cs with
      | [] => ['\\']
      | d :: ds =>
        if d == '\\' then '\\' :: expand groups ds
        else if isAsciiDigit d then (groups.getD (digitValue d) "").toList ++ expand groups ds
        else '\\' :: expand groups (d :: ds)
    else c :: expand groups cs

/-- **What a template says**: a backslash before a digit, the text of that group, or nothing if
there is no such group; two backslashes, one; any other backslash itself, and so every other
character. -/
theorem expand_escape (groups : List String) (cs : List Char) :
    (∀ n < 10, expand groups ('\\' :: Nat.digitChar n :: cs) =
      (groups.getD n "").toList ++ expand groups cs) ∧
    expand groups ('\\' :: '\\' :: cs) = '\\' :: expand groups cs ∧
    ((∀ d ∈ cs.head?, d ≠ '\\' ∧ isAsciiDigit d = false) →
      expand groups ('\\' :: cs) = '\\' :: expand groups cs) ∧
    ∀ c, c ≠ '\\' → expand groups (c :: cs) = c :: expand groups cs := by
  refine ⟨fun n hn => ?_, ?_, fun hlone => ?_, fun c hc => ?_⟩
  · have hdigit : ∀ n < 10, Nat.digitChar n ≠ '\\' ∧ isAsciiDigit (Nat.digitChar n) = true ∧
        digitValue (Nat.digitChar n) = n := by decide
    obtain ⟨hne, hdigit, hvalue⟩ := hdigit n hn
    rw [expand.eq_def]
    simp [hne, hdigit, hvalue]
  · rw [expand.eq_def]
    simp
  · cases cs with
    | nil => rfl
    | cons d ds =>
      obtain ⟨hne, hdigit⟩ := hlone d rfl
      rw [expand.eq_def]
      simp [hne, hdigit]
  · rw [expand.eq_def]
    simp [hc]

/-- Where replacing stands: the pieces of the result, last first, how far the text is copied, and
the groups of the last match that was used. -/
structure Replacing where
  pieces : List (List Char) := []
  copied : Nat := 0
  groups : Option (List String) := none

namespace Replacing

/-- Copies what lies before a match, and puts what the template stands for in its place. -/
def put (r : Replacing) (text : Array Char) (template : List Char) (m : Match) : Replacing :=
  let groups := m.texts text
  { pieces := expand groups template :: Span.of ⟨r.copied, m.whole.start⟩ text :: r.pieces
    copied := m.whole.stop
    groups := some groups }

/-- Copies one character. -/
def copy (r : Replacing) (c : Char) : Replacing :=
  { r with pieces := [c] :: r.pieces, copied := r.copied + 1 }

/-- The result, once the rest of the text is copied. -/
def result (r : Replacing) (text : Array Char) : List Char :=
  (Span.of ⟨r.copied, text.size⟩ text :: r.pieces).reverse.flatten

end Replacing

/-- One round of replacing, with a search from a position on. The round says where the next search
starts; the last one says nothing. Behind an empty match one character is stepped over, so that it
is not found again. -/
def replaceRound (matcher : Nat → Option Match) (text : Array Char) (template : List Char)
    (everywhere : Bool) (search : Nat) (r : Replacing) : Option Nat × Replacing :=
  if text.size < search then (none, r)
  else
    match matcher search with
    | none => (none, r)
    | some m =>
      let r := r.put text template m
      if !everywhere then (none, r)
      else if m.whole.start = m.whole.stop then
        match text[m.whole.stop]? with
        | some c => (some (m.whole.stop + 1), r.copy c)
        | none => (none, r)
      else (some m.whole.stop, r)

/-- Replaces round by round. Every round moves the search forward, so one round more than there are
characters is enough. -/
def replaceFrom (matcher : Nat → Option Match) (text : Array Char) (template : List Char)
    (everywhere : Bool) : Nat → Nat → Replacing → Replacing
  | 0, _, r => r
  | rounds + 1, search, r =>
    match replaceRound matcher text template everywhere search r with
    | (none, r) => r
    | (some next, r) => replaceFrom matcher text template everywhere rounds next r

/-- Replaces matches in a text: all of them, or only the first. The result is the new text and the
groups of the last match that was used. -/
def replaceMatches (matcher : Nat → Option Match) (text : Array Char) (template : List Char)
    (everywhere : Bool) : List Char × Option (List String) :=
  let r := replaceFrom matcher text template everywhere (text.size + 1) 0 {}
  (r.result text, r.groups)

end MailFormula.Regex
