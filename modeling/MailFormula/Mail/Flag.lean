/-!
# Status flags

The twelve marks that a message can carry, and the word of bits that holds them.
-/

namespace MailFormula

/-- A mark on a message. -/
inductive Flag where
  | seen
  | replied
  | forwarded
  | deleted
  | draft
  | marked
  | sent
  | junk
  | user1
  | user2
  | user3
  | user4
deriving DecidableEq, Repr

namespace Flag

/-- Every flag. -/
def all : List Flag :=
  [seen, replied, forwarded, deleted, draft, marked, sent, junk, user1, user2, user3, user4]

/-- The bit of a flag in a message's status word. -/
def bit : Flag → UInt32
  | seen => 0x1
  | replied => 0x2
  | forwarded => 0x4
  | deleted => 0x8
  | draft => 0x10
  | marked => 0x20
  | sent => 0x40
  | junk => 0x80
  | user1 => 0x10000
  | user2 => 0x20000
  | user3 => 0x40000
  | user4 => 0x80000

end Flag

/-- Replaces the bits of a status word that a mask selects. -/
def setBits (current bits mask : UInt32) : UInt32 :=
  (current &&& ~~~mask) ||| (bits &&& mask)

end MailFormula
