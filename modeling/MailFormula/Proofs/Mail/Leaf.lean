import MailFormula.Mail.Part
/-!
# The leaves of a message

A part without children is a leaf; the leaves of any other part are those
of its children, from the first to the last (`leaves`). Two searches go
through that tree in ways of their own: one collects attachments, the
other stops at the first leaf that satisfies a condition and looks at
children only. Both are what one would do with the flat list of leaves
(`attachments_eq_filter`, `findLeaf_eq_find?`).
-/

namespace MailFormula

open MailFormula.Text

namespace Part

mutual
/-- **The leaves of a part**, depth first. A part without children is its
own only leaf. -/
def leaves : Part → List Part
  | mk header body fields [] => [mk header body fields []]
  | mk _ _ _ (c :: cs) => c.leaves ++ leavesOf cs

/-- The leaves of several parts, one part after the other. -/
def leavesOf : List Part → List Part
  | [] => []
  | p :: ps => p.leaves ++ leavesOf ps
end

variable {p : Part}

theorem isMultipart_eq_false_iff : p.isMultipart = false ↔ p.children = [] := by
  rw [isMultipart, Bool.not_eq_false', List.isEmpty_iff]

theorem leaves_of_not_isMultipart (h : p.isMultipart = false) : p.leaves = [p] := by
  obtain ⟨header, body, fields, cs⟩ := p
  obtain rfl : cs = [] := isMultipart_eq_false_iff.1 h
  rw [leaves]

theorem leaves_of_isMultipart (h : p.isMultipart = true) : p.leaves = leavesOf p.children := by
  obtain ⟨header, body, fields, - | ⟨c, cs⟩⟩ := p
  · cases h
  · rw [leaves, children, leavesOf]

/-! ## Attachments -/

mutual
/-- **The attachments are the leaves that are attachments**, in their
order. -/
theorem attachments_eq_filter : ∀ p : Part, p.attachments = p.leaves.filter isAttachment
  | mk header body fields [] => by
    rw [attachments, leaves, List.filter_cons, List.filter_nil]
  | mk _ _ _ (c :: cs) => by
    rw [attachments, leaves, List.filter_append, attachments_eq_filter c,
      attachmentsOf_eq_filter cs]

theorem attachmentsOf_eq_filter :
    ∀ ps : List Part, attachmentsOf ps = (leavesOf ps).filter isAttachment
  | [] => rfl
  | p :: ps => by
    rw [attachmentsOf, leavesOf, List.filter_append, attachments_eq_filter p,
      attachmentsOf_eq_filter ps]
end

/-! ## Searching -/

mutual
/-- **The search below a part** finds the first leaf of its children that
satisfies the condition. -/
theorem findLeaf_eq_find? (cond : Part → Bool) :
    ∀ p : Part, p.findLeaf cond = (leavesOf p.children).find? cond
  | mk _ _ _ cs => by
    rw [findLeaf, children, findLeafOf_eq_find? cond cs]

theorem findLeafOf_eq_find? (cond : Part → Bool) :
    ∀ ps : List Part, findLeafOf cond ps = (leavesOf ps).find? cond
  | [] => rfl
  | p :: ps => by
    rw [findLeafOf, leavesOf, List.find?_append, findLeafOf_eq_find? cond ps]
    cases hp : p.isMultipart with
    | true =>
      -- Such a part is no leaf of its own, so what it holds is all there is to search.
      rw [if_pos rfl, findLeaf_eq_find? cond p, leaves_of_isMultipart hp]
      cases (leavesOf p.children).find? cond with
      | some found => rfl
      | none => rfl
    | false =>
      rw [if_neg Bool.false_ne_true, leaves_of_not_isMultipart hp, List.find?_singleton]
      cases cond p with
      | true => rfl
      | false => rfl
end

/-! ## The readable text -/

/-- A text of any kind that is no attachment. -/
def showsText (leaf : Part) : Bool :=
  sameName leaf.contentType.mediaType "text" && !leaf.isAttachment

/-- A plain text that is no attachment. -/
def showsPlainText (leaf : Part) : Bool :=
  leaf.showsText && sameName leaf.contentType.subType "plain"

theorem isReadable_star : isReadable "*" = showsText := by
  funext leaf
  rw [isReadable, ContentType.is, showsText, beq_self_eq_true, Bool.true_or, Bool.and_true]

theorem isReadable_plain : isReadable "plain" = showsPlainText := by
  have hplain : ("plain" == "*") = false := by decide
  funext leaf
  rw [isReadable, ContentType.is, showsPlainText, showsText, hplain, Bool.false_or,
    Bool.and_right_comm]

/-- **The leaf whose body is shown**: the first plain text among the leaves,
else the first text of any kind. -/
def shown (p : Part) : Option Part :=
  (p.leaves.find? showsPlainText).or (p.leaves.find? showsText)

theorem bodyText_of_not_isMultipart (h : p.isMultipart = false) : p.bodyText = p.body := by
  rw [bodyText, h, if_neg Bool.false_ne_true]

theorem bodyText_of_isMultipart (h : p.isMultipart = true) :
    p.bodyText = (p.shown.map body).getD "" := by
  rw [bodyText, h, if_pos rfl, findLeaf_eq_find?, findLeaf_eq_find?, isReadable_plain,
    isReadable_star, ← leaves_of_isMultipart h, shown]
  cases p.leaves.find? showsPlainText with
  | some leaf => rfl
  | none =>
    cases p.leaves.find? showsText with
    | some leaf => rfl
    | none => rfl

/-- What is shown is a leaf, and no attachment. -/
theorem of_shown {leaf : Part} (h : p.shown = some leaf) :
    leaf ∈ p.leaves ∧ leaf.isAttachment = false := by
  have hshows : leaf ∈ p.leaves ∧ leaf.showsText = true := by
    rcases Option.or_eq_some_iff.1 h with hplain | ⟨-, htext⟩
    · have hleaf := List.find?_some hplain
      rw [showsPlainText, Bool.and_eq_true] at hleaf
      exact ⟨List.mem_of_find?_eq_some hplain, hleaf.1⟩
    · exact ⟨List.mem_of_find?_eq_some htext, List.find?_some htext⟩
  rw [showsText, Bool.and_eq_true, Bool.not_eq_true'] at hshows
  exact ⟨hshows.1, hshows.2.2⟩

end Part

/-- **Body text and attachments follow the leaves.** The attachments of any
part are the leaves that are attachments, in order. The body text of a
part without children is its body. That of a part with children is the
body of its first leaf that is plain text and no attachment, else of its
first leaf that is text and no attachment, else empty; so it never is what
only an attachment holds. -/
theorem body_and_attachments_follow_leaves (p : Part) :
    p.attachments = p.leaves.filter Part.isAttachment ∧
    (p.children = [] → p.bodyText = p.body) ∧
    (p.children ≠ [] →
      p.bodyText = (((p.leaves.find? Part.showsPlainText).or
        (p.leaves.find? Part.showsText)).map Part.body).getD "" ∧
      (p.bodyText = "" ∨
        ∃ leaf ∈ p.leaves, leaf.isAttachment = false ∧ p.bodyText = leaf.body)) := by
  refine ⟨Part.attachments_eq_filter p, fun h => ?_, fun h => ?_⟩
  · exact Part.bodyText_of_not_isMultipart (Part.isMultipart_eq_false_iff.2 h)
  · rw [Ne, ← Part.isMultipart_eq_false_iff, Bool.not_eq_false] at h
    have hbody := Part.bodyText_of_isMultipart h
    refine ⟨hbody, ?_⟩
    rw [hbody]
    cases hshown : p.shown with
    | none => exact .inl rfl
    | some leaf =>
      obtain ⟨hmem, hattachment⟩ := Part.of_shown hshown
      exact .inr ⟨leaf, hmem, hattachment, rfl⟩

/-- A multipart in a multipart, with a plain text in front that is an
attachment, a page behind it, and a part that was to be a multipart but
has no children. -/
def enclosure : Part :=
  .mk "" "" [] [
    .mk "" "" [] [
      .mk "" "secret" [("Content-Disposition", "Attachment; filename=a.txt")] [],
      .mk "" "<p>" [("Content-Type", "TEXT/html")] []],
    .mk "" "--" [("Content-Type", "multipart/mixed; name=\"b\"")] []]

/-- The page is shown, and the two leaves that are attachments are listed,
of which the second is a leaf that lists itself and has its own body. -/
theorem enclosure_shows_page :
    enclosure.children ≠ [] ∧ enclosure.bodyText = "<p>" ∧
      enclosure.attachments.map Part.body = ["secret", "--"] ∧
      (Part.mk "" "--" [] []).children = [] ∧ (Part.mk "" "--" [] []).bodyText = "--" := by
  have hchildren : enclosure.children ≠ [] := List.cons_ne_nil _ _
  refine ⟨hchildren, ?_, ?_, rfl, (body_and_attachments_follow_leaves _).2.1 rfl⟩
  · rw [((body_and_attachments_follow_leaves enclosure).2.2 hchildren).1]
    decide
  · rw [(body_and_attachments_follow_leaves enclosure).1]
    decide

end MailFormula
