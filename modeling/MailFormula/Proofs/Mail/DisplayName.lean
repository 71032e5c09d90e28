import MailFormula.Mail.Address
import MailFormula.Proofs.Text.Lines
/-!
# Display names between quotes

A mailbox is written as its name between double quotes, with a backslash
before every quote and every backslash of the name, and its address
between angle brackets. Four scanners read it, and they do not agree on
what is quoted. The one that cuts the list into segments knows quotes and
escapes (`carries_writeMailbox`), and so does the one that resolves the
escapes (`unescape_escapeQuoted`). The search for the opening bracket
knows neither, and the one that takes comments out knows quotes but no
escapes: behind an odd number of quotes of the name it takes itself to be
outside. `Legible` says which names escape both, and
`display_names_read_back_iff` that these and no others come back.
-/

namespace MailFormula

open MailFormula.Text

namespace Address

variable {cs name address before inner after run run' rest : List Char} {s t u : ScanState}
variable {quoted : Bool} {depth : Nat}

/-! ## Written mailboxes -/

/-- A name with a backslash before every quote and every backslash. -/
def escapeQuoted : List Char → List Char
  | [] => []
  | c :: cs =>
    if c == '"' || c == '\\' then '\\' :: c :: escapeQuoted cs else c :: escapeQuoted cs

/-- A name between quotes and an address between angle brackets. -/
def writeMailbox (name address : List Char) : List Char :=
  '"' :: (escapeQuoted name ++ '"' :: ' ' :: '<' :: (address ++ ['>']))

/-- **A list as it is written**: its mailboxes, with a comma and a blank
between two of them. -/
def writeList (entries : List (String × String)) : String :=
  ", ".intercalate (entries.map fun e => String.ofList (writeMailbox e.1.toList e.2.toList))

/-- A name that nothing is trimmed from. -/
structure IsDisplayName (name : List Char) : Prop where
  ne_nil : name ≠ []
  trimmed : trimChars name = name

instance (name : List Char) : Decidable (IsDisplayName name) :=
  decidable_of_iff (name ≠ [] ∧ trimChars name = name)
    ⟨fun h => ⟨h.1, h.2⟩, fun h => ⟨h.ne_nil, h.trimmed⟩⟩

/-- The marks that lists are made of. -/
def listMarks : List Char := ['"', '\\', ',', ':', ';', '(', ')', '<', '>']

/-- An address without blanks and without marks. -/
structure IsAddress (address : List Char) : Prop where
  ne_nil : address ≠ []
  noBlank : ∀ c ∈ address, isBlank c = false
  noMark : ∀ c ∈ address, c ∉ listMarks

instance (address : List Char) : Decidable (IsAddress address) :=
  decidable_of_iff (address ≠ [] ∧
      address.all (fun c => !isBlank c && !listMarks.contains c) = true) <| by
    simp only [List.all_eq_true, Bool.and_eq_true, Bool.not_eq_true', List.contains_eq_mem,
      decide_eq_false_iff_not]
    exact ⟨fun h => ⟨h.1, fun c hc => (h.2 c hc).1, fun c hc => (h.2 c hc).2⟩,
      fun h => ⟨h.ne_nil, fun c hc => ⟨h.noBlank c hc, h.noMark c hc⟩⟩⟩

/-- **The names that are read back**: they have no opening bracket, and
no opening parenthesis behind an odd number of quotes. -/
structure Legible (name : List Char) : Prop where
  noBracket : '<' ∉ name
  noComment : ∀ before after, name = before ++ '(' :: after → before.count '"' % 2 = 0

/-! ## Segments -/

/-- **A run is carried into the segment** as a whole, and the scan goes on
from another state behind it. -/
def Carries (s : ScanState) (run : List Char) (t : ScanState) : Prop :=
  ∀ current rest, segmentsFrom s current (run ++ rest) =
    segmentsFrom t (run.reverse ++ current) rest

theorem Carries.nil : Carries s [] s := fun _ _ => rfl

theorem Carries.append (h : Carries s run t) (h' : Carries t run' u) :
    Carries s (run ++ run') u := by
  intro current rest
  rw [List.append_assoc, h, h', List.reverse_append, List.append_assoc]

/-- A character is carried where it does not cut. -/
theorem Carries.cons {c : Char} (hc : s.isOpen = false ∨ c ∉ [',', ';', ':'])
    (h : Carries (s.next c) run t) : Carries s (c :: run) t := by
  intro current rest
  have hcut : (s.isOpen && (c == ',' || c == ';')) = false ∧ (s.isOpen && c == ':') = false := by
    rcases hc with hc | hc
    · rw [hc]
      exact ⟨rfl, rfl⟩
    · simp only [List.mem_cons, List.not_mem_nil, or_false, not_or] at hc
      simp [hc]
  rw [List.cons_append, segmentsFrom, hcut.1, hcut.2, if_neg Bool.false_ne_true,
    if_neg Bool.false_ne_true, h, List.reverse_cons, List.append_assoc, List.singleton_append]

/-- Where a scan stands inside quotes, and where inside angle brackets. -/
def inQuotes : ScanState := { quoted := true }

@[inherit_doc inQuotes]
def inAngle : ScanState := { angle := true }

/-- **An escaped name is carried between quotes**: its own quotes are
escaped, and nothing else counts there. -/
theorem carries_escapeQuoted (name : List Char) :
    Carries inQuotes (escapeQuoted name) inQuotes := by
  induction name with
  | nil => exact .nil
  | cons c cs ih =>
    rw [escapeQuoted]
    split
    · exact .cons (.inl rfl) (.cons (.inl rfl) ih)
    · rename_i hc
      have hnext : inQuotes.next c = inQuotes := by
        simp only [Bool.or_eq_true, beq_iff_eq, not_or] at hc
        simp [ScanState.next, inQuotes, hc]
      exact .cons (.inl rfl) (hnext.symm ▸ ih)

/-- An address is carried between angle brackets. -/
theorem carries_address (h : ∀ c ∈ address, c ∉ listMarks) :
    Carries inAngle address inAngle := by
  induction address with
  | nil => exact .nil
  | cons c cs ih =>
    rw [List.forall_mem_cons] at h
    have hnext : inAngle.next c = inAngle := by
      have hc := h.1
      simp only [listMarks, List.mem_cons, List.not_mem_nil, or_false, not_or] at hc
      simp [ScanState.next, inAngle, hc]
    exact .cons (.inl rfl) (hnext.symm ▸ ih h.2)

/-- **A written mailbox is carried as a whole**, and behind it the scan
stands where it stood before. -/
theorem carries_writeMailbox (h : IsAddress address) :
    Carries {} (writeMailbox name address) {} := by
  have hclose : Carries inAngle ['>'] {} := .cons (.inl rfl) .nil
  have haddress : Carries {} ('<' :: (address ++ ['>'])) {} :=
    .cons (.inr (by decide)) ((carries_address h.noMark).append hclose)
  have hend : Carries inQuotes ('"' :: ' ' :: '<' :: (address ++ ['>'])) {} :=
    .cons (.inl rfl) (.cons (.inr (by decide)) haddress)
  exact .cons (.inr (by decide)) ((carries_escapeQuoted name).append hend)

/-- The segments of a written list: what is written for each mailbox, and
before all but the first the blank behind the comma. -/
theorem segmentsFrom_intercalate {write : String × String → List Char}
    {e : String × String} {es : List (String × String)} (current : List Char)
    (h : ∀ e' ∈ e :: es, Carries {} (write e') {}) :
    segmentsFrom {} current (", ".toList.intercalate ((e :: es).map write)) =
      (current.reverse ++ write e) :: es.map fun e' => ' ' :: write e' := by
  induction es generalizing e current with
  | nil =>
    have hlast := h e List.mem_cons_self current []
    rw [List.append_nil] at hlast
    rw [List.map_singleton, List.intercalate_singleton, hlast, segmentsFrom, List.reverse_append,
      List.reverse_reverse]
    rfl
  | cons e' es ih =>
    rw [List.forall_mem_cons] at h
    have hcut : ∀ current rest, segmentsFrom {} current (", ".toList ++ rest) =
        current.reverse :: segmentsFrom {} [' '] rest := fun _ _ => rfl
    rw [List.map_cons, List.map_cons, List.intercalate_cons_cons, List.append_assoc, h.1, hcut,
      ← List.map_cons, ih _ h.2, List.reverse_append, List.reverse_reverse]
    rfl

theorem readMailbox_blank_cons {c : Char} (hc : isBlank c = true) :
    readMailbox (c :: cs) = readMailbox cs := by
  unfold readMailbox
  rw [trimChars_blank_cons hc]

/-- **The mailboxes of a written list are read one by one.** -/
theorem readList_writeList {entries : List (String × String)}
    (h : ∀ e ∈ entries, IsAddress e.2.toList) :
    readList (writeList entries) =
      entries.filterMap fun e => readMailbox (writeMailbox e.1.toList e.2.toList) := by
  have hchars : (writeList entries).toList =
      ", ".toList.intercalate (entries.map fun e => writeMailbox e.1.toList e.2.toList) := by
    simp only [writeList, String.toList_intercalate, List.map_map, Function.comp_def,
      String.toList_ofList]
  rw [readList, readChars, segments, hchars]
  cases entries with
  | nil => rfl
  | cons e es =>
    have hcarries : ∀ e' ∈ e :: es, Carries {} (writeMailbox e'.1.toList e'.2.toList) {} :=
      fun e' he' => carries_writeMailbox (h e' he')
    have hblank : ∀ cs, readMailbox (' ' :: cs) = readMailbox cs :=
      fun _ => readMailbox_blank_cons rfl
    rw [segmentsFrom_intercalate [] hcarries, List.reverse_nil, List.nil_append,
      List.filterMap_cons, List.filterMap_cons, List.filterMap_map]
    simp only [Function.comp_def, hblank]

/-! ## Brackets and escapes -/

/-- **The address** stands behind the first opening bracket, up to the
last closing one. -/
theorem splitAngle_append (hbefore : '<' ∉ before) (hafter : '>' ∉ after) :
    splitAngle (before ++ '<' :: (inner ++ '>' :: after)) = some (before, inner) := by
  have hback : (inner ++ '>' :: after).reverse = after.reverse ++ '>' :: inner.reverse := by
    rw [List.reverse_append, List.reverse_cons, List.append_assoc, List.singleton_append]
  unfold splitAngle
  rw [dropWhile_ne_append hbefore, takeWhile_ne_append hbefore]
  dsimp only
  rw [hback, dropWhile_ne_append (by rwa [List.mem_reverse])]
  dsimp only
  rw [List.reverse_reverse]

/-- **Escapes are undone.** -/
theorem unescape_escapeQuoted (name : List Char) : unescape (escapeQuoted name) = name := by
  induction name with
  | nil => rfl
  | cons c cs ih =>
    rw [escapeQuoted]
    split
    · rw [unescape.eq_def]
      exact congrArg (c :: ·) ih
    · rename_i hc
      rw [Bool.or_eq_true, not_or, Bool.not_eq_true, Bool.not_eq_true] at hc
      rw [unescape.eq_def]
      dsimp only
      rw [hc.2, if_neg Bool.false_ne_true, ih]

/-- Escaping adds backslashes only. -/
theorem count_escapeQuoted {c : Char} (hc : c ≠ '\\') :
    (escapeQuoted name).count c = name.count c := by
  induction name with
  | nil => rfl
  | cons d cs ih =>
    rw [escapeQuoted]
    split
    · rw [List.count_cons_of_ne hc.symm, List.count_cons, List.count_cons, ih]
    · rw [List.count_cons, List.count_cons, ih]

theorem mem_escapeQuoted {c : Char} (hc : c ≠ '\\') : c ∈ escapeQuoted name ↔ c ∈ name := by
  rw [← List.count_pos_iff, count_escapeQuoted hc, List.count_pos_iff]

/-! ## Comments -/

/-- Whether a parenthesis opens a comment, for a scan that starts inside or
outside quotes and lets every quote count. -/
def opensComment : Bool → List Char → Bool
  | _, [] => false
  | quoted, c :: cs =>
    if c == '"' then opensComment (!quoted) cs
    else (c == '(' && !quoted) || opensComment quoted cs

/-- The quotes before a parenthesis say whether it opens a comment. -/
theorem opensComment_eq_true_iff :
    opensComment quoted cs = true ↔ ∃ before after, cs = before ++ '(' :: after ∧
      (before.count '"' + quoted.toNat) % 2 = 0 := by
  induction cs generalizing quoted with
  | nil =>
    refine iff_of_false nofun ?_
    rintro ⟨before, after, heq, -⟩
    exact absurd heq.symm (by simp)
  | cons c cs ih =>
    rw [opensComment]
    by_cases hc : c = '"'
    · rw [if_pos (beq_iff_eq.2 hc), ih, hc]
      constructor
      · rintro ⟨before, after, rfl, hcount⟩
        refine ⟨'"' :: before, after, rfl, ?_⟩
        rw [List.count_cons_self]
        cases quoted <;> simp at hcount ⊢ <;> omega
      · rintro ⟨before, after, heq, hcount⟩
        obtain _ | ⟨d, before⟩ := before
        · cases heq
        · obtain ⟨rfl, rfl⟩ := List.cons.inj heq
          refine ⟨before, after, rfl, ?_⟩
          rw [List.count_cons_self] at hcount
          cases quoted <;> simp at hcount ⊢ <;> omega
    · rw [if_neg (by rwa [beq_iff_eq]), Bool.or_eq_true, ih, Bool.and_eq_true, beq_iff_eq,
        Bool.not_eq_true']
      constructor
      · rintro (⟨rfl, rfl⟩ | ⟨before, after, rfl, hcount⟩)
        · exact ⟨[], cs, rfl, rfl⟩
        · exact ⟨c :: before, after, rfl, by rwa [List.count_cons_of_ne hc]⟩
      · rintro ⟨before, after, heq, hcount⟩
        obtain _ | ⟨d, before⟩ := before
        · obtain ⟨rfl, rfl⟩ := List.cons.inj heq
          cases quoted with
          | false => exact .inl ⟨rfl, rfl⟩
          | true => cases hcount
        · obtain ⟨rfl, rfl⟩ := List.cons.inj heq
          rw [List.count_cons_of_ne hc] at hcount
          exact .inr ⟨before, after, rfl, hcount⟩

theorem opensComment_eq_false (h : '(' ∉ cs) : opensComment quoted cs = false := by
  rw [Bool.eq_false_iff]
  intro hopens
  obtain ⟨before, after, rfl, -⟩ := opensComment_eq_true_iff.1 hopens
  exact h (List.mem_append_right before List.mem_cons_self)

/-- Backslashes do not matter to that scan. -/
theorem opensComment_escapeQuoted (hrest : '(' ∉ rest) :
    opensComment quoted (escapeQuoted name ++ rest) = opensComment quoted name := by
  induction name generalizing quoted with
  | nil => exact opensComment_eq_false hrest
  | cons c cs ih =>
    have hslash : ∀ cs, opensComment quoted ('\\' :: cs) = opensComment quoted cs := fun _ => rfl
    rw [escapeQuoted]
    split
    · rw [List.cons_append, List.cons_append, hslash, opensComment, opensComment, ih, ih]
    · rw [List.cons_append, opensComment, opensComment, ih, ih]

/-- Outside comments only the parenthesis that opens one is taken out. -/
theorem dropCommentsFrom_zero (quoted : Bool) (c : Char) (cs : List Char) :
    dropCommentsFrom 0 quoted (c :: cs) =
      if c == '"' then c :: dropCommentsFrom 0 (!quoted) cs
      else if c == '(' && !quoted then dropCommentsFrom 1 quoted cs
      else c :: dropCommentsFrom 0 quoted cs := by
  simp [dropCommentsFrom]

/-- **Where no comment opens** nothing is taken out. -/
theorem dropCommentsFrom_eq_self (h : opensComment quoted cs = false) :
    dropCommentsFrom 0 quoted cs = cs := by
  induction cs generalizing quoted with
  | nil => rfl
  | cons c cs ih =>
    rw [opensComment] at h
    rw [dropCommentsFrom_zero]
    split at h
    · rename_i hc
      rw [if_pos hc, ih h]
    · rename_i hc
      rw [Bool.or_eq_false_iff] at h
      rw [if_neg hc, h.1, if_neg Bool.false_ne_true, ih h.2]

theorem dropCommentsFrom_sublist (depth : Nat) (quoted : Bool) (cs : List Char) :
    (dropCommentsFrom depth quoted cs).Sublist cs := by
  fun_induction dropCommentsFrom depth quoted cs with
  | case1 => exact .slnil
  | case2 _ _ _ _ _ ih => exact ih.cons_cons _
  | case3 _ _ _ _ _ _ ih => exact ih.cons _
  | case4 _ _ _ _ _ _ _ ih => exact ih.cons _
  | case5 _ _ _ _ _ _ _ _ ih => exact ih.cons_cons _
  | case6 _ _ _ _ _ _ _ _ ih => exact ih.cons _

/-- **Where a comment opens** its parenthesis is lost. -/
theorem count_dropCommentsFrom_lt (h : opensComment quoted cs = true) :
    (dropCommentsFrom 0 quoted cs).count '(' < cs.count '(' := by
  induction cs generalizing quoted with
  | nil => cases h
  | cons c cs ih =>
    rw [opensComment] at h
    rw [dropCommentsFrom_zero]
    split at h
    · rename_i hc
      rw [if_pos hc, List.count_cons, List.count_cons]
      exact Nat.add_lt_add_right (ih h) _
    · rename_i hc
      rw [Bool.or_eq_true] at h
      rw [if_neg hc]
      split
      · rename_i hopen
        have hle := (dropCommentsFrom_sublist 1 quoted cs).count_le '('
        rw [Bool.and_eq_true, beq_iff_eq] at hopen
        rw [hopen.1, List.count_cons_self]
        exact Nat.lt_succ_of_le hle
      · rename_i hopen
        rw [List.count_cons, List.count_cons]
        exact Nat.add_lt_add_right (ih (h.resolve_left hopen)) _

/-! ## Names -/

theorem trimChars_sublist (cs : List Char) : (trimChars cs).Sublist cs :=
  (List.rdropWhile_prefix isBlank _).sublist.trans (List.dropWhile_suffix isBlank).sublist

theorem unescape_sublist (cs : List Char) : (unescape cs).Sublist cs := by
  fun_induction unescape cs with
  | case1 => exact .slnil
  | case2 _ _ => exact List.nil_sublist _
  | case3 _ _ _ _ ih => exact (ih.cons_cons _).cons _
  | case4 _ _ _ ih => exact ih.cons_cons _

theorem betweenQuotes_sublist (h : betweenQuotes cs = some inner) : inner.Sublist cs := by
  unfold betweenQuotes at h
  split at h
  · split at h
    · obtain rfl := Option.some.inj h
      exact (List.dropLast_sublist _).cons _
    · cases h
  · cases h

/-- A phrase gives a name out of its own characters. -/
theorem phraseName_sublist (h : phraseName cs = some name) : name.Sublist cs := by
  unfold phraseName at h
  split at h
  · cases h
  · split at h
    · rename_i inner hinner
      obtain rfl := Option.some.inj h
      exact ((trimChars_sublist _).trans (unescape_sublist _)).trans (betweenQuotes_sublist hinner)
    · obtain rfl := Option.some.inj h
      exact .refl _

theorem exists_phraseName (h : cs ≠ []) : ∃ name, phraseName cs = some name := by
  unfold phraseName
  rw [if_neg (by rwa [List.isEmpty_iff])]
  split
  · exact ⟨_, rfl⟩
  · exact ⟨_, rfl⟩

/-- The phrase before the bracket of a written mailbox, with its comments
taken out. -/
theorem dropComments_phrase (name : List Char) :
    dropComments ('"' :: (escapeQuoted name ++ ['"', ' '])) =
      '"' :: dropCommentsFrom 0 true (escapeQuoted name ++ ['"', ' ']) := rfl

/-- **A name is recovered** from its phrase if no comment opens in it. -/
theorem phraseName_of_opensComment_eq_false (htrim : trimChars name = name)
    (h : opensComment true name = false) :
    phraseName (trimChars (dropComments ('"' :: (escapeQuoted name ++ ['"', ' '])))) =
      some name := by
  have hphrase : dropComments ('"' :: (escapeQuoted name ++ ['"', ' '])) =
      '"' :: (escapeQuoted name ++ ['"']) ++ [' '] := by
    have hopens : opensComment true (escapeQuoted name ++ ['"', ' ']) = false := by
      rwa [opensComment_escapeQuoted (by decide)]
    rw [dropComments_phrase, dropCommentsFrom_eq_self hopens, List.cons_append, List.append_assoc,
      List.singleton_append]
  have htrimmed : trimChars ('"' :: (escapeQuoted name ++ ['"']) ++ [' ']) =
      '"' :: (escapeQuoted name ++ ['"']) := by
    rw [List.cons_append, trimChars_cons (by decide), ← List.cons_append,
      dropBlanksRight_concat_blank (by decide), ← List.cons_append,
      dropBlanksRight_concat (by decide)]
  have hinner : betweenQuotes ('"' :: (escapeQuoted name ++ ['"'])) = some (escapeQuoted name) := by
    rw [betweenQuotes, List.getLast?_concat, beq_self_eq_true, if_pos rfl, List.dropLast_concat]
  rw [hphrase, htrimmed, phraseName, List.isEmpty_cons, if_neg Bool.false_ne_true, hinner]
  dsimp only
  rw [unescape_escapeQuoted, htrim]

/-- **It is not** if one does: the name that is read has lost a
parenthesis. -/
theorem phraseName_of_opensComment (h : opensComment true name = true) :
    ∃ name', phraseName (trimChars (dropComments ('"' :: (escapeQuoted name ++ ['"', ' '])))) =
      some name' ∧ name' ≠ name := by
  rw [dropComments_phrase]
  have hlost : ('"' :: dropCommentsFrom 0 true (escapeQuoted name ++ ['"', ' '])).count '(' <
      name.count '(' := by
    have hopens : opensComment true (escapeQuoted name ++ ['"', ' ']) = true := by
      rwa [opensComment_escapeQuoted (by decide)]
    have hcount := count_dropCommentsFrom_lt hopens
    rw [List.count_append, count_escapeQuoted (by decide)] at hcount
    rwa [List.count_cons_of_ne (by decide)]
  have hquote :
      '"' ∈ trimChars ('"' :: dropCommentsFrom 0 true (escapeQuoted name ++ ['"', ' '])) :=
    mem_trimChars (by decide) List.mem_cons_self
  obtain ⟨name', hname'⟩ := exists_phraseName (List.ne_nil_of_mem hquote)
  refine ⟨name', hname', ?_⟩
  -- All that comes after the comments only leaves characters out.
  rintro rfl
  have hle := ((phraseName_sublist hname').trans (trimChars_sublist _)).count_le '('
  omega

theorem legible_iff : Legible name ↔ '<' ∉ name ∧ opensComment true name = false := by
  rw [Bool.eq_false_iff, Ne, opensComment_eq_true_iff]
  constructor
  · rintro ⟨hbracket, hcomment⟩
    refine ⟨hbracket, ?_⟩
    rintro ⟨before, after, heq, hcount⟩
    have heven := hcomment before after heq
    rw [Bool.toNat_true] at hcount
    omega
  · rintro ⟨hbracket, hcomment⟩
    refine ⟨hbracket, fun before after heq => ?_⟩
    by_contra hodd
    refine hcomment ⟨before, after, heq, ?_⟩
    rw [Bool.toNat_true]
    omega

/-! ## One mailbox -/

theorem trimChars_writeMailbox (name address : List Char) :
    trimChars (writeMailbox name address) = writeMailbox name address := by
  have hends : writeMailbox name address =
      '"' :: ((escapeQuoted name ++ '"' :: ' ' :: '<' :: address) ++ ['>']) := by
    simp [writeMailbox]
  rw [hends]
  exact trimChars_between (by decide) (by decide)

theorem nonEmptyName_some (h : name ≠ []) :
    nonEmptyName (some name) = some (String.ofList name) := by
  cases name with
  | nil => exact absurd rfl h
  | cons c cs => rfl

theorem eq_of_nonEmptyName {name' : List Char}
    (h : nonEmptyName (some name') = some (String.ofList name)) : name' = name := by
  cases name' with
  | nil => cases h
  | cons c cs => exact String.ofList_injective (Option.some.inj h)

/-- A written mailbox has the address behind its first opening bracket, and
the name of the phrase before it. -/
theorem readMailbox_of_splitAngle
    (hsplit : splitAngle (writeMailbox name address) = some (before, inner))
    (hinner : trimChars inner ≠ []) :
    readMailbox (writeMailbox name address) =
      some ⟨nonEmptyName ((phraseName (trimChars (dropComments before))).or
        (firstComment (writeMailbox name address))), String.ofList (trimChars inner)⟩ := by
  have hne : (writeMailbox name address).isEmpty = false := rfl
  have hinner' : (trimChars inner).isEmpty = false := by rwa [List.isEmpty_eq_false_iff]
  unfold readMailbox
  rw [trimChars_writeMailbox]
  dsimp only
  rw [hne, if_neg Bool.false_ne_true, hsplit]
  dsimp only
  rw [hinner', Bool.false_and, if_neg Bool.false_ne_true, Option.orElse_eq_orElse,
    Option.orElse_eq_or]

/-- **A bracket in the name** is taken for that of the address. -/
theorem exists_splitAngle_of_mem (address : List Char) (h : '<' ∈ name) :
    ∃ before inner,
      splitAngle (writeMailbox name address) = some (before, inner) ∧ '<' ∈ inner := by
  -- Escaping puts no backslash before a bracket, and the search would not see it.
  obtain ⟨before, after, hname, hbefore⟩ :=
    List.eq_append_cons_of_mem ((mem_escapeQuoted (by decide)).2 h)
  have hwhole : writeMailbox name address =
      ('"' :: before) ++ '<' :: ((after ++ '"' :: ' ' :: '<' :: address) ++ ['>']) := by
    simp [writeMailbox, hname]
  have hbefore' : '<' ∉ '"' :: before := by
    rw [List.mem_cons, not_or]
    exact ⟨by decide, hbefore⟩
  refine ⟨_, _, by rw [hwhole, splitAngle_append hbefore' List.not_mem_nil], ?_⟩
  exact List.mem_append_right after (by simp)

/-- Without one the bracket of the address is found. -/
theorem splitAngle_writeMailbox (address : List Char) (h : '<' ∉ name) :
    splitAngle (writeMailbox name address) =
      some ('"' :: (escapeQuoted name ++ ['"', ' ']), address) := by
  have hbefore : '<' ∉ '"' :: (escapeQuoted name ++ ['"', ' ']) := by
    simp only [List.mem_cons, List.mem_append, mem_escapeQuoted (c := '<') (by decide),
      List.not_mem_nil, or_false, not_or]
    exact ⟨by decide, h, by decide, by decide⟩
  have hwhole : writeMailbox name address =
      '"' :: (escapeQuoted name ++ ['"', ' ']) ++ '<' :: (address ++ ['>']) := by
    simp [writeMailbox]
  rw [hwhole, splitAngle_append hbefore List.not_mem_nil]

/-- **A written mailbox gives a mailbox**, and it is the one that was
written exactly when the name is legible. -/
theorem readMailbox_writeMailbox (hname : IsDisplayName name) (haddress : IsAddress address) :
    ∃ m, readMailbox (writeMailbox name address) = some m ∧
      (m = ⟨some (String.ofList name), String.ofList address⟩ ↔ Legible name) := by
  by_cases hbracket : '<' ∈ name
  · obtain ⟨before, inner, hsplit, hinner⟩ := exists_splitAngle_of_mem address hbracket
    have hkept : '<' ∈ trimChars inner := mem_trimChars (by decide) hinner
    refine ⟨_, readMailbox_of_splitAngle hsplit (List.ne_nil_of_mem hkept), ?_⟩
    -- What is read as the address has the other bracket in it.
    refine iff_of_false (fun heq => ?_) fun hlegible => hlegible.noBracket hbracket
    have haddr : trimChars inner = address := String.ofList_injective (Mailbox.mk.inj heq).2
    exact haddress.noMark '<' (haddr ▸ hkept) (by decide)
  · have htrim : trimChars address = address := trimChars_eq_self haddress.noBlank
    have hread := readMailbox_of_splitAngle (splitAngle_writeMailbox address hbracket)
      (by rw [htrim]; exact haddress.ne_nil)
    rw [htrim] at hread
    refine ⟨_, hread, ?_⟩
    cases hopens : opensComment true name with
    | false =>
      refine iff_of_true ?_ (legible_iff.2 ⟨hbracket, hopens⟩)
      rw [phraseName_of_opensComment_eq_false hname.trimmed hopens, Option.some_or,
        nonEmptyName_some hname.ne_nil]
    | true =>
      refine iff_of_false (fun heq => ?_) fun hlegible => ?_
      · obtain ⟨name', hname', hne⟩ := phraseName_of_opensComment hopens
        rw [hname', Option.some_or] at heq
        exact hne (eq_of_nonEmptyName (Mailbox.mk.inj heq).1)
      · rw [(legible_iff.1 hlegible).2] at hopens
        cases hopens

/-! ## Lists -/

/-- **Display names are read back exactly if they are legible.** A list is
written with every name between quotes and escaped. It comes back with its
names and addresses, in order, if and only if no name has an opening
bracket, or an opening parenthesis behind an odd number of quotes. -/
theorem display_names_read_back_iff {entries : List (String × String)}
    (h : ∀ e ∈ entries, IsDisplayName e.1.toList ∧ IsAddress e.2.toList) :
    readList (writeList entries) = entries.map (fun e => ⟨some e.1, e.2⟩) ↔
      ∀ e ∈ entries, Legible e.1.toList := by
  rw [readList_writeList fun e he => (h e he).2]
  induction entries with
  | nil => exact iff_of_true rfl nofun
  | cons e es ih =>
    rw [List.forall_mem_cons] at h
    obtain ⟨m, hread, hm⟩ := readMailbox_writeMailbox h.1.1 h.1.2
    rw [String.ofList_toList, String.ofList_toList] at hm
    rw [List.filterMap_cons, hread, List.map_cons, List.cons.injEq, hm, ih h.2,
      List.forall_mem_cons]

/-- Commas, quotes, backslashes and a balanced parenthesis in names do no
harm. -/
theorem marked_names_read_back :
    readList (writeList [("Doe, \"J:\\", "j@x"), ("(b) > c;", "k@y")]) =
      [⟨some "Doe, \"J:\\", "j@x"⟩, ⟨some "(b) > c;", "k@y"⟩] := by
  have hnames : ∀ e ∈ [("Doe, \"J:\\", "j@x"), ("(b) > c;", "k@y")],
      IsDisplayName e.1.toList ∧ IsAddress e.2.toList := by
    intro e he
    rw [List.mem_cons, List.mem_singleton] at he
    rcases he with rfl | rfl
    · exact ⟨by decide, by decide⟩
    · exact ⟨by decide, by decide⟩
  refine (display_names_read_back_iff hnames).2 fun e he => ?_
  rw [List.mem_cons, List.mem_singleton] at he
  rcases he with rfl | rfl
  · exact legible_iff.2 ⟨by decide, by decide⟩
  · exact legible_iff.2 ⟨by decide, by decide⟩

/-- A bracket in a name begins the address, and behind a quote in a name a
parenthesis begins a comment. -/
theorem bracket_and_comment_in_names :
    (IsDisplayName "a<b".toList ∧ IsDisplayName "\"(".toList ∧ IsAddress "c@d".toList) ∧
      readList (writeList [("a<b", "c@d")]) = [⟨some "\"a", "b\" <c@d"⟩] ∧
      readList (writeList [("\"(", "c@d")]) = [⟨none, "c@d"⟩] := by
  refine ⟨⟨by decide, by decide, by decide⟩, ?_, ?_⟩
  · decide
  · decide

end Address

end MailFormula
