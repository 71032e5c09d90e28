import MailFormula.Mail.ContentType
/-!
# Message parts

A message is a tree of parts. A part has a header block, a body and, when its content type says
so, children that its body is cut into at the lines of a boundary. Bodies are kept as received,
with line ends written as line feeds.

Reading a part reads its children in turn. That this ends is the one point with substance here:
a child lies behind a line of the boundary inside its parent's body, so it is strictly shorter
than its parent (`length_lt_of_mem_childrenOf`).
-/

namespace MailFormula

open MailFormula.Text

/-- A part of a message; a message is its own outermost part. -/
inductive Part where
  | mk (header body : String) (fields : List (String × String)) (children : List Part)
deriving Repr

namespace Part

/-- The header block, with the line feed that ends it. -/
def header : Part → String
  | mk h _ _ _ => h

/-- The body as received. -/
def body : Part → String
  | mk _ b _ _ => b

/-- The header fields in order, folded lines joined. -/
def fieldList : Part → List (String × String)
  | mk _ _ fs _ => fs

/-- The parts that a multipart holds. -/
def children : Part → List Part
  | mk _ _ _ cs => cs

/-! ## Header fields -/

/-- A line that continues the field before it. -/
def isContinuation (line : List Char) : Bool :=
  line.head? == some ' ' || line.head? == some '\t'

/-- Appends a continuation line to the last field, if there is one. The fields are in reverse
order. -/
def continueField (line : List Char) : List (List Char × List Char) → List (List Char × List Char)
  | [] => []
  | (name, value) :: fields => (name, value ++ ' ' :: trimChars line) :: fields

/-- Adds what a line says to the fields before it, these in reverse order. -/
def addLine (fields : List (List Char × List Char)) (line : List Char) :
    List (List Char × List Char) :=
  if isContinuation line then continueField line fields
  else
    match splitOnce ':' line with
    | some (name, value) => (trimChars name, trimChars value) :: fields
    | none => fields

/-- The fields of a header block. -/
def readFields (header : List Char) : List (String × String) :=
  ((linesOf header).foldl addLine []).reverse.map
    (fun (name, value) => (String.ofList name, String.ofList value))

/-- Every value of a field, in header order. The name counts in any case. -/
def fields (p : Part) (name : String) : List String :=
  (p.fieldList.filter (fun f => sameName f.1 name)).map Prod.snd

/-- The first value of a field. -/
def field (p : Part) (name : String) : Option String :=
  (p.fieldList.find? (fun f => sameName f.1 name)).map Prod.snd

/-! ## Cutting a multipart -/

/-- What a line means to a multipart. -/
inductive LineKind where
  | content
  | delimiter
  | closing
deriving DecidableEq, Repr

/-- Whether a line is the boundary, its closing form or content. Blanks at its end do not
count. -/
def lineKind (boundary line : List Char) : LineKind :=
  let trimmed := dropBlanksRight line
  let delimiter := '-' :: '-' :: boundary
  if trimmed = delimiter then .delimiter
  else if trimmed = delimiter ++ ['-', '-'] then .closing
  else .content

/-- The part that has been gathered when a boundary line comes: the line feed before the boundary
belongs to the boundary. -/
def finishSegment (gathered : Option (List Char)) : List (List Char) :=
  match gathered with
  | none => []
  | some cs => [cs.dropLast]

/-- Cuts lines at the boundary; `gathered` holds the part being gathered, once the first boundary
has come. A part that the text ends before its boundary counts if it is not empty. -/
def cutLines (boundary : List Char) : Option (List Char) → List (List Char) → List (List Char)
  | none, [] => []
  | some cs, [] => if cs.isEmpty then [] else [cs]
  | gathered, line :: lines =>
    match lineKind boundary line with
    | .closing => finishSegment gathered
    | .delimiter => finishSegment gathered ++ cutLines boundary (some []) lines
    | .content => cutLines boundary (gathered.map (· ++ line)) lines

/-- The texts of the parts that a body holds. -/
def splitMultipart (body boundary : List Char) : List (List Char) :=
  cutLines boundary none (inclusiveLines body)

/-- A part that is cut out stands somewhere in what has been gathered and in the lines to come. -/
theorem infix_of_mem_cutLines {boundary segment : List Char} (lines : List (List Char))
    (gathered : List Char) (h : segment ∈ cutLines boundary (some gathered) lines) :
    segment <:+: gathered ++ lines.flatten := by
  induction lines generalizing gathered with
  | nil =>
    rw [cutLines] at h
    split at h
    · cases h
    · rw [List.mem_singleton.1 h]
      exact (List.prefix_append gathered _).isInfix
  | cons line lines ih =>
    have hfinished : gathered.dropLast <:+: gathered ++ (line :: lines).flatten :=
      ((List.dropLast_prefix gathered).trans (List.prefix_append gathered _)).isInfix
    simp only [cutLines, finishSegment, Option.map_some] at h
    split at h
    · rwa [List.mem_singleton.1 h]
    · rcases List.mem_append.1 h with h | h
      · rwa [List.mem_singleton.1 h]
      · refine (ih [] h).trans ?_
        rw [List.nil_append, List.flatten_cons]
        exact ((List.suffix_append line _).trans (List.suffix_append gathered _)).isInfix
    · rw [List.flatten_cons, ← List.append_assoc]
      exact ih (gathered ++ line) h

/-- Before the first part there is a line of the boundary. -/
theorem exists_of_mem_cutLines {boundary segment : List Char} (lines : List (List Char))
    (h : segment ∈ cutLines boundary none lines) :
    ∃ before after, before ≠ [] ∧ lines.flatten = before ++ (segment ++ after) := by
  induction lines with
  | nil => cases h
  | cons line lines ih =>
    simp only [cutLines, finishSegment, Option.map_none, List.nil_append] at h
    rw [List.flatten_cons]
    split at h
    · cases h
    · rename_i hkind
      have hline : line ≠ [] := by
        rintro rfl
        cases hkind
      obtain ⟨before, after, hlines⟩ := infix_of_mem_cutLines lines [] h
      refine ⟨line ++ before, after, List.append_ne_nil_of_left_ne_nil hline _, ?_⟩
      rw [List.append_assoc, ← List.append_assoc before, hlines, List.nil_append]
    · obtain ⟨before, after, hne, hlines⟩ := ih h
      refine ⟨line ++ before, after, List.append_ne_nil_of_right_ne_nil _ hne, ?_⟩
      rw [hlines, List.append_assoc]

/-- **A child stands in the body that holds it, with something before it.** -/
theorem exists_of_mem_splitMultipart {body boundary segment : List Char}
    (h : segment ∈ splitMultipart body boundary) :
    ∃ before after, before ≠ [] ∧ body = before ++ (segment ++ after) := by
  rw [← flatten_inclusiveLines body]
  exact exists_of_mem_cutLines _ h

/-! ## Reading -/

/-- Cuts a text at its first blank line: the header keeps its own line feed, and the line feed of
the blank line belongs to neither side. -/
def splitHeader : List Char → Option (List Char × List Char)
  | [] => none
  | [_] => none
  | c :: d :: cs =>
    if c == '\n' && d == '\n' then some (['\n'], cs)
    else (splitHeader (d :: cs)).map fun (h, b) => (c :: h, b)

/-- The header and the body of a text. Without a blank line a leading line feed starts the body,
and otherwise all is header. -/
def headerAndBody (cs : List Char) : List Char × List Char :=
  match splitHeader cs with
  | some split => split
  | none =>
    match cs with
    | '\n' :: rest => ([], rest)
    | _ => (cs, [])

/-- The content type that some fields give. -/
def contentTypeOf (fields : List (String × String)) : ContentType :=
  match fields.find? (fun f => sameName f.1 "Content-Type") with
  | some f => ContentType.read f.2
  | none => ContentType.plain

/-- The texts of the children of a part with this content type and body. -/
def childTexts (type : ContentType) (body : List Char) : List (List Char) :=
  if type.is "multipart" "*" then
    match type.param "boundary" with
    | some boundary => splitMultipart body boundary.toList
    | none => []
  else []

theorem suffix_of_splitHeader {cs h b : List Char} (hs : splitHeader cs = some (h, b)) :
    b <:+ cs := by
  fun_induction splitHeader cs generalizing h b with
  | case1 => simp at hs
  | case2 => simp at hs
  | case3 c d cs _ =>
    obtain ⟨-, rfl⟩ := Prod.mk.inj (Option.some.inj hs)
    exact (List.suffix_cons d cs).trans (List.suffix_cons c _)
  | case4 c d cs _ ih =>
    simp only [Option.map_eq_some_iff, Prod.mk.injEq] at hs
    obtain ⟨⟨h', b'⟩, hs, -, rfl⟩ := hs
    exact (ih hs).trans (List.suffix_cons c _)

/-- The body stands at the end of the text. -/
theorem suffix_headerAndBody (cs : List Char) : (headerAndBody cs).2 <:+ cs := by
  unfold headerAndBody
  split
  · rename_i split hs
    exact suffix_of_splitHeader hs
  · split
    · exact List.suffix_cons _ _
    · exact List.nil_suffix

/-- The texts of the children are cut out of the body. -/
theorem exists_boundary_of_mem_childTexts {type : ContentType} {body segment : List Char}
    (h : segment ∈ childTexts type body) : ∃ boundary, segment ∈ splitMultipart body boundary := by
  unfold childTexts at h
  split at h
  · split at h
    · exact ⟨_, h⟩
    · cases h
  · cases h

/-- The header and the body of a part as received. -/
def sections (content : List Char) : List Char × List Char :=
  headerAndBody (dropCarriageReturns content)

/-- The texts of the children of a part as received. -/
def childrenOf (content : List Char) : List (List Char) :=
  childTexts (contentTypeOf (readFields (sections content).1)) (sections content).2

/-- **A child is shorter than the part that holds it.** -/
theorem length_lt_of_mem_childrenOf {content segment : List Char}
    (h : segment ∈ childrenOf content) : segment.length < content.length := by
  obtain ⟨boundary, hcut⟩ := exists_boundary_of_mem_childTexts h
  obtain ⟨before, after, hne, hbody⟩ := exists_of_mem_splitMultipart hcut
  have hbefore := List.length_pos_iff.2 hne
  have hinside := congrArg List.length hbody
  have hsuffix := (suffix_headerAndBody (dropCarriageReturns content)).length_le
  have hcontent := (dropCarriageReturns_sublist content).length_le
  simp only [sections, List.length_append] at hinside
  omega

/-- Reads a part from its characters: header, blank line, body, and the children of the body. -/
def readChars (content : List Char) : Part :=
  mk (String.ofList (sections content).1) (String.ofList (sections content).2)
    (readFields (sections content).1)
    ((childrenOf content).attach.map fun ⟨segment, _⟩ => readChars segment)
termination_by content.length
decreasing_by
  rename_i h
  exact length_lt_of_mem_childrenOf h

/-- Reads a part. -/
def read (content : String) : Part := readChars content.toList

/-! ## What a part says about itself -/

/-- The content type, plain text when the header names none. -/
def contentType (p : Part) : ContentType := contentTypeOf p.fieldList

/-- Whether the part has children. -/
def isMultipart (p : Part) : Bool := !p.children.isEmpty

/-- The file name that the header suggests. -/
def fileName (p : Part) : Option String :=
  ((p.field "Content-Disposition").bind (headerParam · "filename")) <|> p.contentType.param "name"

/-- The word before the first semicolon of the disposition, in lower case. -/
def disposition (p : Part) : Option String :=
  (p.field "Content-Disposition").map fun value =>
    asciiLower (String.ofList (trimChars (value.toList.takeWhile (· != ';'))))

/-- Whether the part is an attachment: a leaf that says so, or that has a file name and does not
say it stands inline. -/
def isAttachment (p : Part) : Bool :=
  if p.isMultipart then false
  else
    match p.disposition with
    | some "attachment" => true
    | some "inline" => false
    | _ => p.fileName.isSome

mutual
/-- The attachments among the leaves, depth first. -/
def attachments : Part → List Part
  | mk h b fs [] => if (mk h b fs []).isAttachment then [mk h b fs []] else []
  | mk _ _ _ (c :: cs) => c.attachments ++ attachmentsOf cs

/-- The attachments of several parts. -/
def attachmentsOf : List Part → List Part
  | [] => []
  | p :: ps => p.attachments ++ attachmentsOf ps
end

mutual
/-- The first leaf below a part that satisfies a condition. -/
def findLeaf (cond : Part → Bool) : Part → Option Part
  | mk _ _ _ cs => findLeafOf cond cs

/-- The first leaf at or below some parts that satisfies a condition. -/
def findLeafOf (cond : Part → Bool) : List Part → Option Part
  | [] => none
  | p :: ps =>
    if p.isMultipart then
      match p.findLeaf cond with
      | some found => some found
      | none => findLeafOf cond ps
    else if cond p then some p
    else findLeafOf cond ps
end

/-- A readable text of this subtype. -/
def isReadable (subType : String) (p : Part) : Bool :=
  p.contentType.is "text" subType && !p.isAttachment

/-- The readable text: of a leaf its body, of a multipart the body of the first plain text among
its leaves or else of the first text of any kind, attachments left out. -/
def bodyText (p : Part) : String :=
  if p.isMultipart then
    match p.findLeaf (isReadable "plain") with
    | some leaf => leaf.body
    | none =>
      match p.findLeaf (isReadable "*") with
      | some leaf => leaf.body
      | none => ""
  else p.body

/-- The size of the part as text, in bytes. -/
def size (p : Part) : Nat := p.header.utf8ByteSize + 1 + p.body.utf8ByteSize

end Part

end MailFormula
