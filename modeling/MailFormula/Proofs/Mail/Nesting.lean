import MailFormula.Proofs.Mail.Section
import MailFormula.Proofs.Text.Offset
/-!
# How deep parts can be nested

Reading a part reads the texts of its children, and who wrote the message
chose the boundary they are cut at. It comes to an end all the same: a
part that is cut out of a body stands behind a line of the boundary there
(`exists_of_mem_splitMultipart`), so it is shorter than the message,
counted in characters or in bytes, before the line ends were made one and
after (`shorter_of_mem_splitMultipart`).

What that gives is told with the end not taken for granted. A reader that
gives up beyond some number of levels (`readWithin`) reads what is read
without a bound as soon as there are more levels than parts inside one
another (`readWithin_eq`), and there are never more of those than
characters (`height_readChars_le`). And there is one way only to read parts
that follows the equation (`eq_read_of_readStep`).
-/

namespace MailFormula

open MailFormula.Text

namespace Part

variable {boundary segment : List Char}

/-! ## Shorter texts -/

/-- **One text is shorter than another**, in characters and in bytes. -/
structure Shorter (cs ds : List Char) : Prop where
  characters : cs.length < ds.length
  bytes : byteLength cs < byteLength ds

theorem byteLength_le_of_sublist {cs ds : List Char} (h : cs.Sublist ds) :
    byteLength cs ≤ byteLength ds := by
  induction h with
  | slnil => exact Nat.le_refl _
  | cons c _ ih => exact Nat.le_trans ih (Nat.le_add_left _ _)
  | cons_cons c _ ih => exact Nat.add_le_add_left ih _

theorem Shorter.of_sublist {cs ds es : List Char} (h : Shorter cs ds) (hsub : ds.Sublist es) :
    Shorter cs es :=
  ⟨Nat.lt_of_lt_of_le h.characters hsub.length_le,
    Nat.lt_of_lt_of_le h.bytes (byteLength_le_of_sublist hsub)⟩

/-- A text is longer than any piece of it that has something before it. -/
theorem shorter_append {before : List Char} (h : before ≠ []) (cs after : List Char) :
    Shorter cs (before ++ (cs ++ after)) := by
  have hcharacters := List.length_pos_of_ne_nil h
  have hbytes := byteLength_pos h
  constructor
  · rw [List.length_append, List.length_append]
    omega
  · rw [byteLength_append, byteLength_append]
    omega

/-- **A part that is cut out is shorter than the whole message**, as it
was received and with its line ends made one. -/
theorem shorter_of_mem_splitMultipart {content : List Char}
    (h : segment ∈ splitMultipart (sections content).2 boundary) :
    Shorter segment (dropCarriageReturns content) ∧ Shorter segment content := by
  obtain ⟨before, after, hne, hbody⟩ := exists_of_mem_splitMultipart h
  have hinside : Shorter segment (sections content).2 := hbody ▸ shorter_append hne segment after
  have hnormal := hinside.of_sublist (suffix_headerAndBody (dropCarriageReturns content)).sublist
  exact ⟨hnormal, hnormal.of_sublist (dropCarriageReturns_sublist content)⟩

/-- **Going from a part to its children ends.** -/
theorem wellFounded_childrenOf :
    WellFounded (fun segment content : List Char => segment ∈ childrenOf content) := by
  refine Subrelation.wf ?_ (measure List.length).wf
  intro segment content h
  exact length_lt_of_mem_childrenOf h

/-! ## Levels -/

mutual
/-- **How many parts are inside one another**, below the outermost. -/
def height : Part → Nat
  | mk _ _ _ cs => heightOf cs

/-- The same for several parts inside of one. -/
def heightOf : List Part → Nat
  | [] => 0
  | p :: ps => max (p.height + 1) (heightOf ps)
end

theorem heightOf_le_iff {ps : List Part} {n : Nat} : heightOf ps ≤ n ↔ ∀ p ∈ ps, p.height < n := by
  induction ps with
  | nil => exact iff_of_true (Nat.zero_le _) nofun
  | cons p ps ih => rw [heightOf, Nat.max_le, ih, List.forall_mem_cons, Nat.succ_le_iff]

/-- The part that has the header and the body of a text and these
children. -/
def assemble (content : List Char) (children : List Part) : Part :=
  mk (String.ofList (sections content).1) (String.ofList (sections content).2)
    (readFields (sections content).1) children

theorem readChars_eq_assemble (content : List Char) :
    readChars content = assemble content ((childrenOf content).map readChars) :=
  readChars_eq content

/-- A part is as high as its children need. -/
theorem height_readChars_le_iff {content : List Char} {n : Nat} :
    (readChars content).height ≤ n ↔
      ∀ segment ∈ childrenOf content, (readChars segment).height < n := by
  rw [readChars_eq_assemble, assemble, height, heightOf_le_iff, List.forall_mem_map]

/-- **There are no more levels than characters.** -/
theorem height_readChars_le (content : List Char) :
    (readChars content).height ≤ content.length := by
  induction content using wellFounded_childrenOf.induction with
  | _ content ih =>
    refine height_readChars_le_iff.2 fun segment h => ?_
    exact Nat.lt_of_le_of_lt (ih segment h) (length_lt_of_mem_childrenOf h)

/-! ## Reading without taking the end for granted -/

/-- **One round of reading**: the children are read by another reader. -/
def readStep (readChild : String → Part) (content : String) : Part :=
  assemble content.toList
    ((childrenOf content.toList).map fun segment => readChild (String.ofList segment))

/-- Reading is such a round with itself. -/
theorem read_eq_readStep (content : String) : read content = readStep read content := by
  have hchild : ∀ segment : List Char, readChars segment = read (String.ofList segment) := by
    intro segment
    rw [read, String.toList_ofList]
  rw [read, readChars_eq_assemble, readStep, List.map_congr_left fun segment _ => hchild segment]

/-- **And there is no other reader** that is a round with itself. -/
theorem eq_read_of_readStep {reader : String → Part}
    (h : ∀ content, reader content = readStep reader content) : reader = read := by
  have hchars : ∀ content : List Char, reader (String.ofList content) = readChars content := by
    intro content
    induction content using wellFounded_childrenOf.induction with
    | _ content ih =>
      rw [h, readStep, String.toList_ofList, readChars_eq_assemble, List.map_congr_left ih]
  funext content
  rw [read, ← hchars, String.ofList_toList]

/-- **Reading with so many levels at most.** Nothing is read if there are
more. -/
def readWithin : Nat → List Char → Option Part
  | 0, _ => none
  | levels + 1, content =>
    ((childrenOf content).mapM (readWithin levels)).map (assemble content)

/-- A list is read if each of its elements is. -/
theorem mapM_ite {α β : Type} (p : α → Prop) [DecidablePred p] (f : α → β) (xs : List α) :
    xs.mapM (fun x => if p x then some (f x) else none) =
      if ∀ x ∈ xs, p x then some (xs.map f) else none := by
  induction xs with
  | nil => rfl
  | cons x xs ih =>
    rw [List.mapM_cons, ih]
    by_cases hx : p x
    · by_cases hxs : ∀ x ∈ xs, p x
      · rw [if_pos hx, if_pos hxs, if_pos (List.forall_mem_cons.2 ⟨hx, hxs⟩)]
        rfl
      · rw [if_pos hx, if_neg hxs, if_neg fun h => hxs (List.forall_mem_cons.1 h).2]
        rfl
    · rw [if_neg hx, if_neg fun h => hx (List.forall_mem_cons.1 h).1]
      rfl

/-- **A bound on the levels is enough** exactly when it is above the
height of the part, and then it makes no difference. -/
theorem readWithin_eq (levels : Nat) (content : List Char) :
    readWithin levels content =
      if (readChars content).height < levels then some (readChars content) else none := by
  induction levels generalizing content with
  | zero => rfl
  | succ levels ih =>
    rw [readWithin, funext ih, mapM_ite (fun segment => (readChars segment).height < levels),
      readChars_eq_assemble]
    simp only [← height_readChars_le_iff, ← readChars_eq_assemble, Nat.lt_succ_iff]
    split
    · rw [Option.map_some, ← readChars_eq_assemble]
    · rfl

end Part

/-- **Reading a message comes to an end.** Whatever the boundary, a part
that is cut out of the body is shorter than the message, so going from
parts to their children ends. Reading follows its equation, it is the
only reader that does, and no more parts are inside one another than the
message has characters. A reader that would give up at some level reads
the same as long as there are more levels than that. -/
theorem reading_ends (content : String) :
    (∀ boundary, ∀ segment ∈ Part.splitMultipart (Part.sections content.toList).2 boundary,
      Part.Shorter segment (dropCarriageReturns content.toList) ∧
        Part.Shorter segment content.toList) ∧
    WellFounded (fun segment content : List Char => segment ∈ Part.childrenOf content) ∧
    Part.read content = Part.readStep Part.read content ∧
    (∀ reader : String → Part, (∀ text, reader text = Part.readStep reader text) →
      reader = Part.read) ∧
    (Part.read content).height ≤ content.length ∧
    ∀ levels, content.length < levels →
      Part.readWithin levels content.toList = some (Part.read content) := by
  have hheight : (Part.read content).height ≤ content.length := by
    rw [← String.length_toList]
    exact Part.height_readChars_le content.toList
  refine ⟨fun boundary segment h => Part.shorter_of_mem_splitMultipart h,
    Part.wellFounded_childrenOf, Part.read_eq_readStep content,
    fun reader h => Part.eq_read_of_readStep h, hheight, fun levels hlevels => ?_⟩
  rw [Part.readWithin_eq]
  exact if_pos (Nat.lt_of_le_of_lt hheight hlevels)

end MailFormula
