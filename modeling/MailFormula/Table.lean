import MailFormula.Text.Ascii
/-!
# Tables of names

Things that stand under keys are entries in a list, and are looked up from its front. Putting one
there replaces what stood under its key, or adds an entry where the order of the keys wants it.

A table holds at most one thing under a name. Names that differ only in the case of ASCII letters
are one name: a table keeps them in lower case.
-/

namespace MailFormula

open MailFormula.Text

/-- Puts a thing under a key, in place of what was there. A new key goes before the first of those
that have to stand behind it. -/
def putEntry {α : Type} (behind : String → Bool) (key : String) (a : α) :
    List (String × α) → List (String × α)
  | [] => [(key, a)]
  | (k, b) :: rest =>
    if k = key then (key, a) :: rest
    else if behind k then (key, a) :: (k, b) :: rest
    else (k, b) :: putEntry behind key a rest

/-- An entry in front is looked up first. -/
theorem lookup_entry {α : Type} (k other : String) (b : α) (rest : List (String × α)) :
    ((k, b) :: rest).lookup other = if k = other then some b else rest.lookup other := by
  by_cases hk : k = other
  · rw [hk, List.lookup_cons_self, if_pos rfl]
  · have hne : (other == k) = false := beq_false_of_ne (Ne.symm hk)
    rw [List.lookup_cons, hne, if_neg hk]

/-- **What was put last is looked up**, and every other key keeps what it had, whatever the order
of the keys. -/
theorem lookup_putEntry {α : Type} (behind : String → Bool) (key other : String) (a : α)
    (entries : List (String × α)) :
    (putEntry behind key a entries).lookup other =
      if key = other then some a else entries.lookup other := by
  induction entries with
  | nil => rw [putEntry, lookup_entry]
  | cons entry rest ih =>
    obtain ⟨k, b⟩ := entry
    rw [putEntry]
    split
    case isTrue hk =>
      rw [lookup_entry, lookup_entry, hk]
      split <;> rfl
    case isFalse hk =>
      split
      · exact lookup_entry ..
      · rw [lookup_entry, lookup_entry, ih]
        -- The entry that stays in front does not stand under the new key.
        grind

/-- Things under names. -/
structure Table (α : Type) where
  entries : List (String × α) := []

namespace Table

variable {α : Type}

/-- What stands under a name. -/
def get? (t : Table α) (name : String) : Option α := t.entries.lookup (asciiLower name)

/-- Puts a thing under a name; a new one goes last. -/
def put (t : Table α) (name : String) (a : α) : Table α :=
  ⟨putEntry (fun _ => false) (asciiLower name) a t.entries⟩

/-- Whether something stands under a name. -/
def contains (t : Table α) (name : String) : Bool := (t.get? name).isSome

/-- **A table reads back what was put last.** Every other name keeps what it had. -/
theorem get?_put (t : Table α) (name other : String) (a : α) :
    (t.put name a).get? other =
      if asciiLower name = asciiLower other then some a else t.get? other :=
  lookup_putEntry _ _ _ _ _

theorem contains_put (t : Table α) (name other : String) (a : α) :
    (t.put name a).contains other =
      (decide (asciiLower name = asciiLower other) || t.contains other) := by
  unfold contains
  rw [get?_put]
  split <;> simp_all

end Table

end MailFormula
