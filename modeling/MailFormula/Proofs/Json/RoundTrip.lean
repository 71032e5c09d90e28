import MailFormula.Proofs.Json.Scalar
/-!
# JSON values read back

A value that is spread over lines is read back as it was
(`read_toPrettyText`). `Writable` says for which values: integers fit 64
bits, the keys of an object stand in order, and arrays and objects are
nested no deeper than the reader goes. Floating-point numbers are left out.

The reader is one loop over the items of an array and one over the members
of an object, each around a reader of single values. What such a reader has
to do with a value, `ReadsBack`, speaks of the value's text at any depth,
behind any blanks and before anything that does not go on a number. The
loops then pass over the lines that the writer makes
(`readItems_prettyItems`, `readMembers_prettyMembers`), and `readValue` does
it for writable values by induction on their nesting.
-/

namespace MailFormula.JsonValue

open MailFormula.Lexeme MailFormula.Text

/-! ## What can be written and read -/

/-- The keys of an object stand in order, each once. -/
def Ordered (members : List (String × JsonValue)) : Prop :=
  members.Pairwise (fun m n => m.1 < n.1)

/-- **A value that is read back**: its nesting within a bound, its integers
within 64 bits, its keys in order. -/
inductive Writable : Nat → JsonValue → Prop
  | null {levels : Nat} : Writable levels null
  | boolean {levels : Nat} (b : Bool) : Writable levels (boolean b)
  /-- Signed or unsigned, it fits. -/
  | integer {levels : Nat} {n : Int} :
      -(UInt64.size / 2 : Nat) ≤ n → n ≤ mostExact → Writable levels (integer n)
  | string {levels : Nat} (s : String) : Writable levels (string s)
  /-- One level more than the items. -/
  | array {levels : Nat} {items : List JsonValue} :
      (∀ v ∈ items, Writable levels v) → Writable (levels + 1) (array items)
  /-- One level more than the values. -/
  | object {levels : Nat} {members : List (String × JsonValue)} :
      Ordered members → (∀ m ∈ members, Writable levels m.2) →
      Writable (levels + 1) (object members)

variable {value : List Char → Reading (JsonValue × List Char)}
variable {cs rest tail gap : List Char} {c : Char} {steps levels depth : Nat} {v : JsonValue}

/-! ## Members in order -/

/-- **A key behind all others** is put at the end. -/
theorem putMember_append {key : String} {members : List (String × JsonValue)}
    (h : ∀ m ∈ members, m.1 < key) : putMember key v members = members ++ [(key, v)] := by
  induction members with
  | nil => rfl
  | cons m members ih =>
    rw [List.forall_mem_cons] at h
    obtain ⟨hm, hmembers⟩ := h
    have hne : m.1 ≠ key := fun heq => String.lt_irrefl key (heq ▸ hm)
    rw [putMember_cons, if_neg hne, if_neg (String.lt_asymm hm), ih hmembers]
    rfl

theorem mem_putMember {key : String} {members : List (String × JsonValue)}
    {m : String × JsonValue} (h : m ∈ putMember key v members) : m = (key, v) ∨ m ∈ members := by
  induction members with
  | nil => exact .inl (List.mem_singleton.1 h)
  | cons member members ih =>
    rw [putMember_cons] at h
    split at h
    · exact (List.mem_cons.1 h).imp_right (List.mem_cons_of_mem member)
    · split at h
      · exact List.mem_cons.1 h
      · rcases List.mem_cons.1 h with rfl | h
        · exact .inr List.mem_cons_self
        · exact (ih h).imp_right (List.mem_cons_of_mem member)

/-- **Members stay in order** when one is put among them. -/
theorem Ordered.putMember {members : List (String × JsonValue)} (h : Ordered members)
    (key : String) (v : JsonValue) : Ordered (putMember key v members) := by
  induction members with
  | nil => exact List.pairwise_singleton _ _
  | cons member members ih =>
    obtain ⟨hfirst, hrest⟩ := List.pairwise_cons.1 h
    rw [putMember_cons]
    split
    · rename_i heq
      exact List.pairwise_cons.2 ⟨fun m hm => heq ▸ hfirst m hm, hrest⟩
    · rename_i hne
      split
      · rename_i hlt
        refine List.pairwise_cons.2 ⟨fun m hm => ?_, h⟩
        rcases List.mem_cons.1 hm with rfl | hm
        · exact hlt
        · exact String.lt_trans hlt (hfirst m hm)
      · rename_i hle
        have hlt : member.1 < key := by
          refine String.not_le.1 (fun hge => hne ?_)
          exact String.le_antisymm (String.not_lt.1 hle) hge
        refine List.pairwise_cons.2 ⟨fun m hm => ?_, ih hrest⟩
        rcases mem_putMember hm with rfl | hm
        · exact hlt
        · exact hfirst m hm

/-- **An object stays writable** when a value is put into it. -/
theorem writable_putMember {members : List (String × JsonValue)}
    (h : Writable (levels + 1) (object members)) (hv : Writable levels v) (key : String) :
    Writable (levels + 1) (object (putMember key v members)) := by
  obtain ⟨hordered, hmembers⟩ : Ordered members ∧ ∀ m ∈ members, Writable levels m.2 := by
    cases h with
    | object hordered hmembers => exact ⟨hordered, hmembers⟩
  refine .object (hordered.putMember key v) (fun m hm => ?_)
  rcases mem_putMember hm with rfl | hm
  · exact hv
  · exact hmembers m hm

/-! ## Blanks -/

theorem skipSpace_gap (hgap : ∀ c ∈ gap, isSpace c = true) (cs : List Char) :
    skipSpace (gap ++ cs) = skipSpace cs :=
  List.dropWhile_append_of_pos hgap

theorem skipSpace_cons (hc : isSpace c = false) : skipSpace (c :: cs) = c :: cs :=
  List.dropWhile_cons_of_neg (ne_true_of_eq_false hc)

theorem isSpace_lineStart (depth : Nat) : ∀ c ∈ lineStart depth, isSpace c = true := by
  intro c hc
  rcases List.mem_cons.1 hc with rfl | hc
  · rfl
  · rw [List.eq_of_mem_replicate hc]
    rfl

/-- A line begins with its indentation. -/
theorem skipSpace_lineStart (hc : isSpace c = false) :
    skipSpace (lineStart depth ++ c :: cs) = c :: cs := by
  rw [skipSpace_gap (isSpace_lineStart depth), skipSpace_cons hc]

theorem ends_of_isSpace (hc : isSpace c = true) : Ends extendsNumber (c :: cs) := by
  rintro c cs ⟨⟩
  simp only [isSpace, Bool.or_eq_true, beq_iff_eq] at hc
  rcases hc with ((rfl | rfl) | rfl) | rfl <;> rfl

theorem ends_comma : Ends extendsNumber (',' :: cs) := by
  rintro c cs ⟨⟩
  rfl

/-! ## The loops, one step at a time -/

theorem readItems_close (first : Bool) (h : skipSpace cs = ']' :: tail) :
    readItems value (steps + 1) first cs = .ok ([], tail) := by
  rw [readItems, h]
  rfl

theorem readItems_first (h : skipSpace cs = c :: tail) (hc : c ≠ ']') :
    readItems value (steps + 1) true cs = (do
      let (v, rest) ← value (c :: tail)
      let (more, rest) ← readItems value steps false rest
      .ok (v :: more, rest)) := by
  rw [readItems, h]
  split
  case h_1 heq => cases heq
  case h_2 heq => exact absurd (List.cons.inj heq).1 hc
  case h_3 heq =>
    obtain ⟨rfl, rfl⟩ := List.cons.inj heq
    rfl

theorem readItems_comma (h : skipSpace cs = c :: tail) (hc : c ≠ ']') :
    readItems value (steps + 1) false (',' :: cs) = (do
      let (v, rest) ← value (c :: tail)
      let (more, rest) ← readItems value steps false rest
      .ok (v :: more, rest)) := by
  have hcomma : skipSpace (',' :: cs) = ',' :: cs := skipSpace_cons rfl
  rw [readItems, hcomma]
  split
  case h_1 heq => cases heq
  case h_2 heq => cases heq
  case h_3 heq =>
    obtain ⟨rfl, rfl⟩ := List.cons.inj heq
    rw [if_neg Bool.false_ne_true, if_pos rfl, h]
    split
    case h_1 heq => cases heq
    case h_2 heq => exact absurd (List.cons.inj heq).1 hc
    case h_3 => rfl

theorem readMembers_close (first : Bool) (members : List (String × JsonValue))
    (h : skipSpace cs = '\x7d' :: tail) :
    readMembers value (steps + 1) first members cs = .ok (members, tail) := by
  rw [readMembers, h]
  rfl

theorem readMembers_first (members : List (String × JsonValue)) (h : skipSpace cs = '"' :: tail) :
    readMembers value (steps + 1) true members cs = (do
      let ((key, v), rest) ← readMember value ('"' :: tail)
      readMembers value steps false (putMember key v members) rest) := by
  rw [readMembers, h]
  rfl

theorem readMembers_comma (members : List (String × JsonValue)) (h : skipSpace cs = '"' :: tail) :
    readMembers value (steps + 1) false members (',' :: cs) = (do
      let ((key, v), rest) ← readMember value ('"' :: tail)
      readMembers value steps false (putMember key v members) rest) := by
  have hcomma : skipSpace (',' :: cs) = ',' :: cs := skipSpace_cons rfl
  rw [readMembers, hcomma]
  split
  case h_1 heq => cases heq
  case h_2 heq => cases heq
  case h_3 heq =>
    obtain ⟨rfl, rfl⟩ := List.cons.inj heq
    rw [if_neg Bool.false_ne_true, if_pos rfl, h]
    rfl

/-! ## The loops over written lines -/

/-- **A reader reads a value back**: its text begins as that of a value, and
is read to its end at any depth, behind any blanks and whatever follows. -/
structure ReadsBack (value : List Char → Reading (JsonValue × List Char)) (v : JsonValue) :
    Prop where
  starts : ∀ depth, ∃ c tail, v.pretty depth = c :: tail ∧ isSpace c = false ∧ c ≠ ']'
  reads : ∀ {depth rest} gap, (∀ c ∈ gap, isSpace c = true) → Ends extendsNumber rest →
    value (gap ++ (v.pretty depth ++ rest)) = .ok (v, rest)

theorem ReadsBack.reads_here (h : ReadsBack value v) (hrest : Ends extendsNumber rest) :
    value (v.pretty depth ++ rest) = .ok (v, rest) := h.reads [] nofun hrest

/-- The text of a value on a line of its own. -/
theorem ReadsBack.skipSpace_line (h : ReadsBack value v) (depth : Nat) (rest : List Char) :
    ∃ c tail, skipSpace (lineStart depth ++ (v.pretty depth ++ rest)) = c :: tail ∧ c ≠ ']' ∧
      c :: tail = v.pretty depth ++ rest := by
  obtain ⟨c, tail, htext, hspace, hclose⟩ := h.starts depth
  refine ⟨c, tail ++ rest, ?_, hclose, ?_⟩
  · rw [htext, List.cons_append, skipSpace_lineStart hspace]
  · rw [htext, List.cons_append]

theorem ends_prettyItems (items : List JsonValue) :
    Ends extendsNumber (prettyItems depth items ++ rest) := by
  cases items with
  | nil => exact ends_of_isSpace rfl
  | cons v items => exact ends_comma

theorem ends_prettyMembers (members : List (String × JsonValue)) :
    Ends extendsNumber (prettyMembers depth members ++ rest) := by
  cases members with
  | nil => exact ends_of_isSpace rfl
  | cons m members => exact ends_comma

/-- **The further items of an array are read back**, in a step each. -/
theorem readItems_prettyItems {items : List JsonValue} (hitems : ∀ v ∈ items, ReadsBack value v)
    (hsteps : items.length < steps) :
    readItems value steps false (prettyItems depth items ++ rest) = .ok (items, rest) := by
  induction items generalizing steps with
  | nil =>
    obtain ⟨steps, rfl⟩ := Nat.exists_eq_add_one_of_ne_zero (Nat.ne_zero_of_lt hsteps)
    rw [prettyItems, List.append_assoc]
    exact readItems_close false (skipSpace_lineStart rfl)
  | cons v items ih =>
    obtain ⟨steps, rfl⟩ := Nat.exists_eq_add_one_of_ne_zero (Nat.ne_zero_of_lt hsteps)
    rw [List.forall_mem_cons] at hitems
    obtain ⟨hv, hitems⟩ := hitems
    obtain ⟨c, tail, hline, hclose, htext⟩ :=
      hv.skipSpace_line (depth + 1) (prettyItems depth items ++ rest)
    have hread : value (v.pretty (depth + 1) ++ (prettyItems depth items ++ rest)) =
        .ok (v, prettyItems depth items ++ rest) := hv.reads_here (ends_prettyItems items)
    have hmore := ih hitems (Nat.lt_of_succ_lt_succ hsteps)
    rw [prettyItems, List.append_assoc, List.append_assoc, List.cons_append,
      readItems_comma hline hclose, htext, hread]
    exact congrArg (· >>= fun p => Except.ok (v :: p.1, p.2)) hmore

/-- A member is read back. -/
theorem readMember_quoted {k : String} (hv : ReadsBack value v) (hrest : Ends extendsNumber rest) :
    readMember value (quoted k ++ ':' :: ' ' :: (v.pretty depth ++ rest)) = .ok ((k, v), rest) := by
  have hkey : (quoted k ++ ':' :: ' ' :: (v.pretty depth ++ rest)).drop 1 =
      k.toList.flatMap escapeChar ++ '"' :: ':' :: ' ' :: (v.pretty depth ++ rest) := by
    rw [quoted, List.cons_append, List.cons_append, List.drop_one, List.tail_cons,
      List.append_assoc, List.singleton_append]
  have hcolon : skipSpace (':' :: ' ' :: (v.pretty depth ++ rest)) =
      ':' :: ' ' :: (v.pretty depth ++ rest) := skipSpace_cons rfl
  have hread : value (' ' :: (v.pretty depth ++ rest)) = .ok (v, rest) :=
    hv.reads [' '] (List.forall_mem_singleton.2 rfl) hrest
  rw [readMember, hkey, readString_quoted]
  simp only [bind, Except.bind, hcolon, hread]

/-- **The further members of an object are read back**, in a step each, and
put behind those that were read before. -/
theorem readMembers_prettyMembers {members : List (String × JsonValue)}
    (before : List (String × JsonValue)) (hordered : Ordered (before ++ members))
    (hmembers : ∀ m ∈ members, ReadsBack value m.2) (hsteps : members.length < steps) :
    readMembers value steps false before (prettyMembers depth members ++ rest) =
      .ok (before ++ members, rest) := by
  induction members generalizing steps before with
  | nil =>
    obtain ⟨steps, rfl⟩ := Nat.exists_eq_add_one_of_ne_zero (Nat.ne_zero_of_lt hsteps)
    rw [prettyMembers, List.append_assoc, List.append_nil]
    exact readMembers_close false before (skipSpace_lineStart rfl)
  | cons m members ih =>
    obtain ⟨steps, rfl⟩ := Nat.exists_eq_add_one_of_ne_zero (Nat.ne_zero_of_lt hsteps)
    obtain ⟨k, v⟩ := m
    rw [List.forall_mem_cons] at hmembers
    obtain ⟨hv, hmembers⟩ := hmembers
    have hbefore : ∀ m ∈ before, m.1 < k :=
      fun m hm => (List.pairwise_append.1 hordered).2.2 m hm (k, v) List.mem_cons_self
    have hput : putMember k v before = before ++ [(k, v)] := putMember_append hbefore
    have hassoc : before ++ (k, v) :: members = before ++ [(k, v)] ++ members := by
      rw [List.append_assoc, List.singleton_append]
    have hmore := ih (before ++ [(k, v)]) (hassoc ▸ hordered) hmembers
      (Nat.lt_of_succ_lt_succ hsteps)
    have hread : readMember value (quoted k ++ ':' :: ' ' ::
        (v.pretty (depth + 1) ++ (prettyMembers depth members ++ rest))) =
          .ok ((k, v), prettyMembers depth members ++ rest) :=
      readMember_quoted hv (ends_prettyMembers members)
    rw [quoted, List.cons_append] at hread
    rw [prettyMembers, quoted]
    simp only [List.append_assoc, List.cons_append]
    rw [readMembers_comma before (skipSpace_lineStart rfl), hassoc, ← hmore, ← hput]
    simp only [List.append_assoc, List.cons_append] at hread
    rw [hread]
    rfl

/-- Every further item takes room. -/
theorem length_le_length_prettyItems (depth : Nat) (items : List JsonValue) :
    items.length ≤ (prettyItems depth items).length := by
  induction items with
  | nil => exact Nat.zero_le _
  | cons v items ih =>
    rw [prettyItems, List.length_append, List.length_append, List.length_cons, List.length_cons]
    omega

/-- Every further member takes room. -/
theorem length_le_length_prettyMembers (depth : Nat) (members : List (String × JsonValue)) :
    members.length ≤ (prettyMembers depth members).length := by
  induction members with
  | nil => exact Nat.zero_le _
  | cons m members ih =>
    rw [prettyMembers, List.length_append, List.length_append, List.length_append,
      List.length_cons, List.length_cons]
    omega

/-- **The lines of an array are read back**, behind its opening mark. -/
theorem readItems_pretty {items : List JsonValue} (hitems : ∀ v ∈ items, ReadsBack value v)
    (depth : Nat) (rest : List Char) :
    ∃ body, (array items).pretty depth = '[' :: body ∧
      readItems value ((body ++ rest).length + 1) true (body ++ rest) = .ok (items, rest) := by
  cases items with
  | nil => exact ⟨[']'], rfl, readItems_close true (skipSpace_cons rfl)⟩
  | cons v items =>
    rw [List.forall_mem_cons] at hitems
    obtain ⟨hv, hitems⟩ := hitems
    refine ⟨lineStart (depth + 1) ++ v.pretty (depth + 1) ++ prettyItems depth items, rfl, ?_⟩
    obtain ⟨c, tail, hline, hclose, htext⟩ :=
      hv.skipSpace_line (depth + 1) (prettyItems depth items ++ rest)
    have hread : value (v.pretty (depth + 1) ++ (prettyItems depth items ++ rest)) =
        .ok (v, prettyItems depth items ++ rest) := hv.reads_here (ends_prettyItems items)
    have hroom := length_le_length_prettyItems depth items
    rw [List.append_assoc, List.append_assoc]
    have hsteps : items.length < (lineStart (depth + 1) ++
        (v.pretty (depth + 1) ++ (prettyItems depth items ++ rest))).length := by
      rw [lineStart, List.length_append, List.length_append, List.length_append, List.length_cons]
      omega
    rw [readItems_first hline hclose, htext, hread]
    exact congrArg (· >>= fun p => Except.ok (v :: p.1, p.2)) (readItems_prettyItems hitems hsteps)

/-- **The lines of an object are read back**, behind its opening mark. -/
theorem readMembers_pretty {members : List (String × JsonValue)} (hordered : Ordered members)
    (hmembers : ∀ m ∈ members, ReadsBack value m.2) (depth : Nat) (rest : List Char) :
    ∃ body, (object members).pretty depth = '\x7b' :: body ∧
      readMembers value ((body ++ rest).length + 1) true [] (body ++ rest) =
        .ok (members, rest) := by
  cases members with
  | nil => exact ⟨['\x7d'], rfl, readMembers_close true [] (skipSpace_cons rfl)⟩
  | cons m members =>
    obtain ⟨k, v⟩ := m
    rw [List.forall_mem_cons] at hmembers
    obtain ⟨hv, hmembers⟩ := hmembers
    refine ⟨lineStart (depth + 1) ++ quoted k ++ ':' :: ' ' :: v.pretty (depth + 1) ++
      prettyMembers depth members, rfl, ?_⟩
    have hread : readMember value (quoted k ++ ':' :: ' ' ::
        (v.pretty (depth + 1) ++ (prettyMembers depth members ++ rest))) =
          .ok ((k, v), prettyMembers depth members ++ rest) :=
      readMember_quoted hv (ends_prettyMembers members)
    have hroom := length_le_length_prettyMembers depth members
    simp only [quoted, List.append_assoc, List.cons_append] at hread ⊢
    have hsteps : members.length < (lineStart (depth + 1) ++
        '"' :: (k.toList.flatMap escapeChar ++ '"' :: ([] ++ ':' :: ' ' ::
          (v.pretty (depth + 1) ++ (prettyMembers depth members ++ rest))))).length := by
      simp only [List.length_append, List.length_cons]
      omega
    rw [readMembers_first [] (skipSpace_lineStart rfl), hread]
    exact readMembers_prettyMembers [(k, v)] hordered hmembers hsteps

/-! ## Values -/

theorem readWord_append (v : JsonValue) (word rest : List Char) :
    readWord v word (word ++ rest) = .ok (v, rest) := by
  induction word with
  | nil => rfl
  | cons w word ih => rw [List.cons_append, readWord, if_pos rfl, ih]

/-- The marks that a text of an array or an object begins with, and the one
that ends an array. -/
def brackets : List Char := ['[', ']', '\x7b']

/-- What begins no array and no object is read as a scalar. -/
theorem readValue_eq_readScalar (levels : Nat) (hgap : ∀ c ∈ gap, isSpace c = true)
    (hspace : isSpace c = false) (hopen : c ∉ brackets) :
    readValue levels (gap ++ c :: cs) = readScalar (c :: cs) := by
  have hskip : skipSpace (gap ++ c :: cs) = c :: cs := by
    rw [skipSpace_gap hgap, skipSpace_cons hspace]
  have harray : c ≠ '[' := by
    rintro rfl
    exact hopen (by decide)
  have hobject : c ≠ '\x7b' := by
    rintro rfl
    exact hopen (by decide)
  cases levels
  all_goals
    rw [readValue, hskip]
    split
    case h_1 heq => exact absurd (List.cons.inj heq).1 harray
    case h_2 heq => exact absurd (List.cons.inj heq).1 hobject
    case h_3 => rfl

/-- A value without parts is read back if it is read behind no blanks. -/
theorem readsBack_of_readScalar (htext : ∀ depth, v.pretty depth = c :: tail)
    (hspace : isSpace c = false) (hopen : c ∉ brackets)
    (hread : ∀ rest, Ends extendsNumber rest → readScalar (c :: (tail ++ rest)) = .ok (v, rest)) :
    ReadsBack (readValue levels) v where
  starts := by
    intro depth
    refine ⟨c, tail, htext depth, hspace, ?_⟩
    rintro rfl
    exact hopen (by decide)
  reads := by
    intro depth rest gap hgap hrest
    rw [htext, List.cons_append, readValue_eq_readScalar levels hgap hspace hopen, hread rest hrest]

/-- A digit begins a number. -/
theorem readScalar_digit (hc : isAsciiDigit c = true) :
    readScalar (c :: cs) = readNumber true (c :: cs) := by
  have hmark : c ∉ ['n', 't', 'f', '-', '"'] := not_mem_of_isChar (by decide) hc
  unfold readScalar
  split
  case h_1 heq => cases heq
  case h_7 heq =>
    obtain ⟨rfl, rfl⟩ := List.cons.inj heq
    exact if_pos hc
  all_goals
    rename_i heq
    rw [(List.cons.inj heq).1] at hmark
    exact absurd (by decide) hmark

theorem isSpace_of_isAsciiDigit (hc : isAsciiDigit c = true) : isSpace c = false := by
  have hmark : c ∉ [' ', '\n', '\t', '\r'] := not_mem_of_isChar (by decide) hc
  simp only [List.mem_cons, List.not_mem_nil, or_false, not_or] at hmark
  simp only [isSpace, Bool.or_eq_false_iff, beq_eq_false_iff_ne]
  exact ⟨⟨⟨hmark.1, hmark.2.1⟩, hmark.2.2.1⟩, hmark.2.2.2⟩

theorem readsBack_integer {n : Int} (hlow : -(UInt64.size / 2 : Nat) ≤ n) (hhigh : n ≤ mostExact) :
    ReadsBack (readValue levels) (integer n) := by
  have htext : ∀ depth, (integer n).pretty depth = (toString n).toList := fun _ => rfl
  cases n with
  | ofNat n =>
    have hdigits := isRun_toDigits n
    obtain ⟨c, tail, hcs⟩ := List.exists_cons_of_ne_nil hdigits.ne_nil
    have hc : isAsciiDigit c = true := hdigits.all c (hcs ▸ List.mem_cons_self)
    have hshort : ∀ depth, (integer (Int.ofNat n)).pretty depth = c :: tail :=
      fun depth => (htext depth).trans ((toList_toString_natCast n).trans hcs)
    refine readsBack_of_readScalar hshort (isSpace_of_isAsciiDigit hc)
      (not_mem_of_isChar (by decide) hc) (fun rest hrest => ?_)
    rw [readScalar_digit hc, ← List.cons_append, ← hcs]
    exact readNumber_natural (Int.ofNat_le.1 hhigh) hrest
  | negSucc n =>
    have hsigned : ∀ depth, (integer (Int.negSucc n)).pretty depth =
        '-' :: Nat.toDigits 10 (n + 1) :=
      fun depth => (htext depth).trans (toList_toString_negSucc n)
    have hfits : n < UInt64.size / 2 := by omega
    exact readsBack_of_readScalar hsigned rfl (by decide)
      (fun rest hrest => readNumber_negative hfits hrest)

theorem readsBack_array {items : List JsonValue}
    (hitems : ∀ v ∈ items, ReadsBack (readValue levels) v) :
    ReadsBack (readValue (levels + 1)) (array items) where
  starts := by
    intro depth
    obtain ⟨body, htext, -⟩ := readItems_pretty hitems depth []
    exact ⟨'[', body, htext, rfl, by decide⟩
  reads := by
    intro depth rest gap hgap _
    obtain ⟨body, htext, hread⟩ := readItems_pretty hitems depth rest
    rw [htext, List.cons_append, readValue, skipSpace_gap hgap, skipSpace_cons rfl]
    exact congrArg (· >>= fun p => Except.ok (array p.1, p.2)) hread

theorem readsBack_object {members : List (String × JsonValue)} (hordered : Ordered members)
    (hmembers : ∀ m ∈ members, ReadsBack (readValue levels) m.2) :
    ReadsBack (readValue (levels + 1)) (object members) where
  starts := by
    intro depth
    obtain ⟨body, htext, -⟩ := readMembers_pretty hordered hmembers depth []
    exact ⟨'\x7b', body, htext, rfl, by decide⟩
  reads := by
    intro depth rest gap hgap _
    obtain ⟨body, htext, hread⟩ := readMembers_pretty hordered hmembers depth rest
    rw [htext, List.cons_append, readValue, skipSpace_gap hgap, skipSpace_cons rfl]
    exact congrArg (· >>= fun p => Except.ok (object p.1, p.2)) hread

/-- **Writable values are read back** wherever they stand. -/
theorem Writable.readsBack (h : Writable levels v) : ReadsBack (readValue levels) v := by
  induction h with
  | null =>
    exact readsBack_of_readScalar (fun _ => rfl) rfl (by decide)
      (fun rest _ => readWord_append _ "ull".toList rest)
  | boolean b =>
    cases b with
    | false =>
      exact readsBack_of_readScalar (fun _ => rfl) rfl (by decide)
        (fun rest _ => readWord_append _ "alse".toList rest)
    | true =>
      exact readsBack_of_readScalar (fun _ => rfl) rfl (by decide)
        (fun rest _ => readWord_append _ "rue".toList rest)
  | integer hlow hhigh => exact readsBack_integer hlow hhigh
  | string s =>
    have htext : ∀ depth, (JsonValue.string s).pretty depth =
        '"' :: (s.toList.flatMap escapeChar ++ ['"']) := fun _ => rfl
    refine readsBack_of_readScalar htext rfl (by decide) (fun rest _ => ?_)
    rw [List.append_assoc, List.singleton_append, readScalar, readString_quoted]
    rfl
  | array _ ih => exact readsBack_array ih
  | object hordered _ ih => exact readsBack_object hordered ih

/-- **A text over several lines is read back as its value.** -/
theorem read_toPrettyText (h : Writable mostLevels v) : read v.toPrettyText = .ok v := by
  have hread : readValue mostLevels (v.pretty 0 ++ []) = .ok (v, []) :=
    h.readsBack.reads_here nofun
  rw [List.append_nil] at hread
  rw [read, toPrettyText, String.toList_ofList, readDocument, hread]
  rfl

end MailFormula.JsonValue
