import MailFormula.Table
/-!
# JSON values

A JSON value as data. Integers that fit 64 bits, signed or not, stay integers; every other number
is a floating-point number. An object keeps its members in the order of their keys, each key once.
-/

namespace MailFormula

/-- A JSON value. -/
inductive JsonValue where
  | null
  | boolean (b : Bool)
  | integer (n : Int)
  | float (x : Float)
  | string (s : String)
  | array (items : List JsonValue)
  | object (members : List (String × JsonValue))

namespace JsonValue

/-- Puts a value under a key, in place of what was there, and keeps the keys in order. -/
def putMember (key : String) (v : JsonValue) (members : List (String × JsonValue)) :
    List (String × JsonValue) :=
  putEntry (fun k => key < k) key v members

theorem putMember_cons (key : String) (v : JsonValue) (member : String × JsonValue)
    (members : List (String × JsonValue)) :
    putMember key v (member :: members) =
      if member.1 = key then (key, v) :: members
      else if key < member.1 then (key, v) :: member :: members
      else member :: putMember key v members := by
  rw [putMember, putEntry]
  simp only [decide_eq_true_eq]
  rfl

end JsonValue

end MailFormula
