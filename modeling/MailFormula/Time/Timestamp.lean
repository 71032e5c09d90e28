import MailFormula.Time.Calendar
/-!
# Points in time

A timestamp is an instant together with the offset of the clock that shows it. Two timestamps are
the same instant when they agree in everything but the offset. A minute with 61 seconds keeps its
last second apart: it counts as the second before, marked.
-/

namespace MailFormula.Time

/-- An instant, and how far the clock that shows it is ahead of UTC. -/
structure Timestamp where
  /-- Seconds since 1 January 1970, UTC. -/
  seconds : Int
  /-- Seconds that the local clock is ahead. -/
  offset : Int
  /-- Whether this is an inserted second, shown as 60. -/
  leap : Bool := false
deriving DecidableEq, Repr

/-- The hands of a clock. -/
structure Clock where
  hour : Nat
  minute : Nat
  second : Nat
deriving DecidableEq, Repr

namespace Timestamp

/-- The start of the count, in UTC. -/
def epoch : Timestamp := ⟨0, 0, false⟩

/-- The same instant, whatever the offsets. -/
def sameInstant (a b : Timestamp) : Bool := a.seconds == b.seconds && a.leap == b.leap

/-- The date on the local clock. -/
def date (t : Timestamp) : Date := Date.ofDays ((t.seconds + t.offset) / 86400)

/-- The time of day on the local clock. -/
def clock (t : Timestamp) : Clock :=
  let s := ((t.seconds + t.offset) % 86400).toNat
  ⟨s / 3600, s / 60 % 60, s % 60 + (if t.leap then 1 else 0)⟩

/-- The timestamp of a local date and time. -/
def ofLocal (d : Date) (hour minute second : Nat) (offset : Int) (leap : Bool) : Timestamp :=
  ⟨d.toDays * 86400 + hour * 3600 + minute * 60 + second - offset, offset, leap⟩

end Timestamp

end MailFormula.Time
