import MailFormula.Mail.Address
/-!
# Address lists, piece by piece

The scan that cuts a list into segments carries what is open: quotes, an
escape, an angle bracket, nested comments. Where a text leaves nothing
open (`Closed`), the scan behind the next separator stands where a scan
begins, so the text and what follows it are cut apart from each other
(`segmentsFrom_separated`), however malformed either of them is. The name of
a group opens nothing and is dropped at its colon, so the members of a
group are read as if it were not there (`segmentsFrom_group`). Each segment
is a mailbox on its own, so the mailboxes are those of the pieces.
-/

namespace MailFormula

open MailFormula.Text

namespace Address

variable {s : ScanState} {current cs rest name : List Char}

/-! ## Where a scan stands -/

/-- Where a scan that starts somewhere stands behind a text. -/
def scan (s : ScanState) (cs : List Char) : ScanState := cs.foldl ScanState.next s

/-- **A text leaves nothing open**: no quotes, no escape, no angle bracket
and no comment. -/
def Closed (text : String) : Prop := (scan {} text.toList).isOpen = true

instance (text : String) : Decidable (Closed text) :=
  inferInstanceAs (Decidable (_ = true))

/-- What parts two pieces of a list. -/
def IsSeparator (c : Char) : Prop := c = ',' ∨ c = ';'

/-- The marks that the scan looks at. -/
def scanMarks : List Char := ['"', '\\', '(', ')', '<', '>', ',', ':', ';']

/-- **The name of a group** has no marks. -/
def IsGroupName (name : String) : Prop := ∀ c ∈ name.toList, c ∉ scanMarks

instance (name : String) : Decidable (IsGroupName name) :=
  List.decidableBAll (fun c => c ∉ scanMarks) name.toList

theorem scan_append (s : ScanState) (cs rest : List Char) :
    scan s (cs ++ rest) = scan (scan s cs) rest :=
  List.foldl_append

/-- Nothing is open only at the beginning. -/
theorem ScanState.eq_of_isOpen (h : s.isOpen = true) : s = {} := by
  obtain ⟨quoted, escaped, angle, comments⟩ := s
  simp only [ScanState.isOpen, Bool.and_eq_true, Bool.not_eq_true', beq_iff_eq] at h
  obtain ⟨⟨⟨rfl, rfl⟩, rfl⟩, rfl⟩ := h
  rfl

theorem Closed.scan_eq {text : String} (h : Closed text) : scan {} text.toList = {} :=
  ScanState.eq_of_isOpen h

/-- Where nothing is open, the marks that cut leave it so. -/
theorem ScanState.next_of_cuts {c : Char} (hs : s.isOpen = true)
    (hc : IsSeparator c ∨ c = ':') : s.next c = s := by
  obtain rfl := ScanState.eq_of_isOpen hs
  rcases hc with (rfl | rfl) | rfl <;> rfl

/-- A separator ends a segment where nothing is open. -/
theorem segmentsFrom_separator {sep : Char} (hsep : IsSeparator sep) (hs : s.isOpen = true) :
    segmentsFrom s current (sep :: rest) = current.reverse :: segments rest := by
  obtain rfl := ScanState.eq_of_isOpen hs
  rcases hsep with rfl | rfl <;> rfl

/-- **Pieces are cut apart.** Behind a text that leaves nothing open, and a
separator, the segments are those of the text, and then those of the rest
as if it stood alone. -/
theorem segmentsFrom_separated {sep : Char} (hsep : IsSeparator sep)
    (h : (scan s cs).isOpen = true) :
    segmentsFrom s current (cs ++ sep :: rest) =
      segmentsFrom s current cs ++ segments rest := by
  induction cs generalizing s current with
  | nil =>
    have hs : s.isOpen = true := h
    exact segmentsFrom_separator hsep hs
  | cons c cs ih =>
    have hnext : (scan (s.next c) cs).isOpen = true := h
    rw [List.cons_append, segmentsFrom, segmentsFrom]
    split
    · rename_i hcut
      rw [Bool.and_eq_true, Bool.or_eq_true, beq_iff_eq, beq_iff_eq] at hcut
      rw [ScanState.next_of_cuts hcut.1 (.inl hcut.2)] at hnext
      rw [ih hnext, List.cons_append]
    · split
      · rename_i hcut
        rw [Bool.and_eq_true, beq_iff_eq] at hcut
        rw [ScanState.next_of_cuts hcut.1 (.inr hcut.2)] at hnext
        exact ih hnext
      · exact ih hnext

/-- **The name of a group is dropped**, with its colon. -/
theorem segmentsFrom_group (h : ∀ c ∈ name, c ∉ scanMarks) :
    segmentsFrom {} current (name ++ ':' :: rest) = segments rest := by
  induction name generalizing current with
  | nil => rfl
  | cons c cs ih =>
    rw [List.forall_mem_cons] at h
    have hc := h.1
    simp only [scanMarks, List.mem_cons, List.not_mem_nil, or_false, not_or] at hc
    have hnext : ScanState.next {} c = {} := by simp [ScanState.next, hc]
    have hcut : segmentsFrom {} current (c :: (cs ++ ':' :: rest)) =
        segmentsFrom (ScanState.next {} c) (c :: current) (cs ++ ':' :: rest) := by
      simp [segmentsFrom, hc]
    rw [List.cons_append, hcut, hnext, ih h.2]

/-! ## Lists of mailboxes -/

theorem readChars_separated {sep : Char} (hsep : IsSeparator sep)
    (h : (scan {} cs).isOpen = true) :
    readChars (cs ++ sep :: rest) = readChars cs ++ readChars rest := by
  rw [readChars, segments, segmentsFrom_separated hsep h, List.filterMap_append]
  rfl

theorem readChars_group (h : ∀ c ∈ name, c ∉ scanMarks) :
    readChars (name ++ ':' :: rest) = readChars rest := by
  rw [readChars, segments, segmentsFrom_group h]
  rfl

variable {a b e : String} {sep sep' : Char}

theorem readList_separated (hsep : IsSeparator sep) (h : Closed a) (b : String) :
    readList (a ++ sep.toString ++ b) = readList a ++ readList b := by
  have hchars : (a ++ sep.toString ++ b).toList = a.toList ++ sep :: b.toList := by
    simp [Char.toString]
  rw [readList, hchars, readChars_separated hsep h]
  rfl

theorem readList_group {name : String} (h : IsGroupName name) (b : String) :
    readList (name ++ ":" ++ b) = readList b := by
  have hchars : (name ++ ":" ++ b).toList = name.toList ++ ':' :: b.toList := by simp
  rw [readList, hchars, readChars_group h]
  rfl

/-- Pieces with nothing open leave nothing open together. -/
theorem Closed.separated (hsep : IsSeparator sep) (ha : Closed a) (he : Closed e) :
    Closed (a ++ sep.toString ++ e) := by
  have hchars : (a ++ sep.toString ++ e).toList = a.toList ++ sep :: e.toList := by
    simp [Char.toString]
  have hnext : scan {} (sep :: e.toList) = scan {} e.toList := by
    rw [scan, List.foldl_cons, ScanState.next_of_cuts rfl (.inl hsep)]
    rfl
  rw [Closed, hchars, scan_append, ha.scan_eq, hnext]
  exact he

/-- **Address lists are read piece by piece.** Behind a text that leaves
nothing open, and a comma or a semicolon, whatever follows is read as if
it stood alone. The members of a group are read as if they stood there
without the group's name, and what follows the group as if it stood
alone. So an entry that leaves nothing open, well formed or not, keeps
its neighbours as they are. -/
theorem address_lists_parse_piecewise (ha : Closed a) (b : String) :
    (∀ sep, IsSeparator sep → readList (a ++ sep.toString ++ b) = readList a ++ readList b) ∧
    (∀ name, IsGroupName name →
      readList (name ++ ":" ++ a ++ ";" ++ b) = readList a ++ readList b) ∧
    ∀ sep sep' e, IsSeparator sep → IsSeparator sep' → Closed e →
      readList (a ++ sep.toString ++ e ++ sep'.toString ++ b) =
        readList a ++ readList e ++ readList b := by
  refine ⟨fun sep hsep => readList_separated hsep ha b, fun name hname => ?_,
    fun sep sep' e hsep hsep' he => ?_⟩
  · have hsemicolon : IsSeparator ';' := .inr rfl
    rw [String.append_assoc, String.append_assoc, readList_group hname, ← String.append_assoc]
    exact readList_separated hsemicolon ha b
  · rw [readList_separated hsep' (ha.separated hsep he), readList_separated hsep ha]

/-- Every mark of a list stands in this one where it counts for nothing:
between quotes, in angle brackets, in a comment in a comment. -/
def crowded : String := "\"Doe, \\\"J (\" <a:b@c> (d; (e, f))"

/-- A crowded list before a text that opens quotes and does not close them;
as the members of a group; and before an entry with a bracket too many. -/
theorem crowded_list_reads_piecewise :
    Closed crowded ∧ IsSeparator ';' ∧ IsGroupName "The team" ∧ Closed "x <y, z>> )" ∧
    readList (crowded ++ (';').toString ++ "v, \"w, <") =
      readList crowded ++ readList "v, \"w, <" ∧
    readList ("The team" ++ ":" ++ crowded ++ ";" ++ "v, \"w, <") =
      readList crowded ++ readList "v, \"w, <" ∧
    readList (crowded ++ (';').toString ++ "x <y, z>> )" ++ (';').toString ++ "v, \"w, <") =
      readList crowded ++ readList "x <y, z>> )" ++ readList "v, \"w, <" := by
  have hcrowded : Closed crowded := by decide +kernel
  have hentry : Closed "x <y, z>> )" := by decide +kernel
  have hname : IsGroupName "The team" := by decide +kernel
  have hsep : IsSeparator ';' := .inr rfl
  obtain ⟨hafter, hgroup, hbetween⟩ := address_lists_parse_piecewise hcrowded "v, \"w, <"
  exact ⟨hcrowded, hsep, hname, hentry, hafter _ hsep, hgroup _ hname,
    hbetween _ _ _ hsep hsep hentry⟩

end Address

end MailFormula
