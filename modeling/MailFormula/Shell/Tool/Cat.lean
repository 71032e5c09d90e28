import MailFormula.Shell.Tool.Options
/-!
# Showing files

What `cat` does to a text on its way: numbers lines, marks their ends, drops repeated empty ones,
and makes visible what cannot be seen. The count of lines and what was seen last carry over from
one file to the next.
-/

namespace MailFormula.Shell

/-- What `cat` is asked to do. -/
structure CatOptions where
  number : Bool := false
  numberFilled : Bool := false
  squeeze : Bool := false
  showEnds : Bool := false
  showTabs : Bool := false
  showOdd : Bool := false

namespace Cat

/-- The options of `cat`. -/
def table : OptionTable :=
  { tool := "cat"
    letters := "benstuvAET".toList
    words :=
      [⟨"number-nonblank", 'b', false⟩, ⟨"number", 'n', false⟩, ⟨"squeeze-blank", 's', false⟩,
        ⟨"show-nonprinting", 'v', false⟩, ⟨"show-ends", 'E', false⟩, ⟨"show-tabs", 'T', false⟩,
        ⟨"show-all", 'A', false⟩, ⟨"help", 'h', false⟩, ⟨"version", 'V', false⟩] }

/-- What the options ask for. -/
def optionsOf (a : Arguments) : CatOptions :=
  { number := a.has 'n' && !a.has 'b'
    numberFilled := a.has 'b'
    squeeze := a.has 's'
    showEnds := a.has 'e' || a.has 'E' || a.has 'A'
    showTabs := a.has 't' || a.has 'T' || a.has 'A'
    showOdd := a.has 'e' || a.has 't' || a.has 'v' || a.has 'A' }

/-- A character made visible. -/
def visible (c : Char) : Octets :=
  let low (n : Nat) : Octets :=
    if n < 32 then ['^', Char.ofNat (n + 64)]
    else if n == 127 then ['^', '?']
    else [Char.ofNat n]
  if c.toNat < 128 then low c.toNat else 'M' :: '-' :: low (c.toNat - 128)

/-- Where `cat` stands: how many lines it has numbered, and how many ends of lines came last. At the
start of a line there is at least one. -/
structure State where
  count : Nat := 0
  ends : Nat := 1

/-- The number before a line. -/
def lineNumber (n : Nat) : Octets :=
  let digits := decimalText n
  fill (6 - digits.length) ' ' ++ digits ++ ['\t']

/-- Shows a text, onto `done` backwards. -/
def render (o : CatOptions) (s : State) (done : Octets) : Octets → Octets × State
  | [] => (done, s)
  | c :: cs =>
    if c == '\n' then
      if o.squeeze && 2 ≤ s.ends then render o s done cs
      else
        let isEmptyLine := 1 ≤ s.ends
        let (front, count) :=
          if isEmptyLine && o.number then (lineNumber (s.count + 1), s.count + 1) else ([], s.count)
        let mark := if o.showEnds then ['$'] else []
        render o { count, ends := s.ends + 1 } ((front ++ mark ++ ['\n']).reverse ++ done) cs
    else
      let (front, count) :=
        if 1 ≤ s.ends && (o.number || o.numberFilled) then
          (lineNumber (s.count + 1), s.count + 1)
        else ([], s.count)
      let shown :=
        if c == '\t' then (if o.showTabs then ['^', 'I'] else ['\t'])
        else if o.showOdd then visible c
        else if o.showEnds && c == '\r' && cs.head? == some '\n' then ['^', 'M']
        else [c]
      render o { count, ends := 0 } ((front ++ shown).reverse ++ done) cs

end Cat

end MailFormula.Shell
