import MailFormula.Mail.ContentType
import MailFormula.Proofs.Text.Lines
/-!
# Content types as they are written

A content type is written as its two names, then for each parameter a
semicolon, a blank, the key, an equals sign and the value between double
quotes. Between its quotes a value may hold anything but another double
quote, and so semicolons and equals signs too. Reading it cuts at the
semicolons outside quotes and looks into the pieces afterwards, and finds
the same pieces (`pieces_write`) and the same parameters
(`readChars_write`).

A single parameter can be asked for without reading the type as a whole.
Both ways look at the pieces behind the first, one by one, and the first
piece with the key settles it (`findParam_filterMap`).
-/

namespace MailFormula

open MailFormula.Text

namespace ContentType

variable {quoted : Bool} {run rest main sub key value : List Char}
variable {params : List (List Char × List Char)}

/-- A parameter as it is written behind its semicolon. -/
def writeParam (param : List Char × List Char) : List Char :=
  ' ' :: (param.1 ++ '=' :: '"' :: (param.2 ++ ['"']))

/-- What is written before the first semicolon, and parameters behind it. -/
def write (main : List Char) (params : List (List Char × List Char)) : List Char :=
  main ++ params.flatMap fun param => ';' :: writeParam param

/-- **The keys that can be written**: something without blanks and without
the marks that end a key. -/
structure IsKey (key : List Char) : Prop where
  noBlank : ∀ c ∈ key, isBlank c = false
  noMark : ∀ c ∈ key, c ≠ '"' ∧ c ≠ ';' ∧ c ≠ '='

instance (key : List Char) : Decidable (IsKey key) :=
  decidable_of_iff
      (key.all (fun c => !isBlank c && (c != '"' && (c != ';' && c != '='))) = true) <| by
    simp only [List.all_eq_true, Bool.and_eq_true, Bool.not_eq_true', bne_iff_ne]
    exact ⟨fun h => ⟨fun c hc => (h c hc).1, fun c hc => (h c hc).2⟩,
      fun h c hc => ⟨h.noBlank c hc, h.noMark c hc⟩⟩

/-- A parameter that can be written. -/
def IsParam (param : List Char × List Char) : Prop := IsKey param.1 ∧ '"' ∉ param.2

/-! ## Pieces -/

/-- **A run without quotes stays in one piece**, where no semicolon in it
counts. -/
theorem piecesFrom_run (current : List Char) (hquote : '"' ∉ run)
    (hsemicolon : quoted = false → ';' ∉ run) :
    piecesFrom quoted current (run ++ rest) = piecesFrom quoted (run.reverse ++ current) rest := by
  induction run generalizing current with
  | nil => rfl
  | cons c run ih =>
    rw [List.mem_cons, not_or] at hquote
    have hc : (c == '"') = false := beq_false_of_ne (Ne.symm hquote.1)
    have hcut : (c == ';' && !quoted) = false := by
      cases quoted with
      | true => exact Bool.and_false _
      | false =>
        have hne := hsemicolon rfl
        rw [List.mem_cons, not_or] at hne
        rw [beq_false_of_ne (Ne.symm hne.1), Bool.false_and]
    have htail : quoted = false → ';' ∉ run := fun hq hmem =>
      hsemicolon hq (List.mem_cons_of_mem c hmem)
    rw [List.cons_append, piecesFrom, hc, hcut, if_neg Bool.false_ne_true,
      if_neg Bool.false_ne_true, ih _ hquote.2 htail, List.reverse_cons, List.append_assoc,
      List.singleton_append]

/-- A quote begins or ends what is quoted. -/
theorem piecesFrom_quote (current : List Char) :
    piecesFrom quoted current ('"' :: rest) = piecesFrom (!quoted) ('"' :: current) rest := by
  rw [piecesFrom, beq_self_eq_true, if_pos rfl]

/-- **A written parameter stays in one piece.** -/
theorem piecesFrom_writeParam (current : List Char) {param : List Char × List Char}
    (h : IsParam param) :
    piecesFrom false current (writeParam param ++ rest) =
      piecesFrom false ((writeParam param).reverse ++ current) rest := by
  have hkey : '"' ∉ ' ' :: (param.1 ++ ['=']) ∧ ';' ∉ ' ' :: (param.1 ++ ['=']) := by
    simp only [List.mem_cons, List.mem_append, List.not_mem_nil, or_false]
    constructor
    · rintro (hc | hc | hc)
      · cases hc
      · exact (h.1.noMark _ hc).1 rfl
      · cases hc
    · rintro (hc | hc | hc)
      · cases hc
      · exact (h.1.noMark _ hc).2.1 rfl
      · cases hc
  have hparam : writeParam param = (' ' :: (param.1 ++ ['='])) ++ '"' :: (param.2 ++ ['"']) := by
    rw [List.cons_append, List.append_assoc, List.singleton_append, writeParam]
  have hvalue : ∀ current, piecesFrom true current (param.2 ++ '"' :: rest) =
      piecesFrom true (param.2.reverse ++ current) ('"' :: rest) :=
    fun current => piecesFrom_run current h.2 nofun
  rw [hparam, List.append_assoc, piecesFrom_run current hkey.1 fun _ => hkey.2, List.cons_append,
    piecesFrom_quote, Bool.not_false, List.append_assoc, List.singleton_append, hvalue,
    piecesFrom_quote]
  simp

/-- **The pieces of what is written** are those it was put together from. -/
theorem pieces_write (hmain : '"' ∉ main ∧ ';' ∉ main) (hparams : ∀ p ∈ params, IsParam p) :
    pieces (write main params) = main :: params.map writeParam := by
  have htail : ∀ current : List Char,
      piecesFrom false current (params.flatMap fun param => ';' :: writeParam param) =
        current.reverse :: params.map writeParam := by
    induction params with
    | nil => exact fun _ => rfl
    | cons param params ih =>
      intro current
      rw [List.forall_mem_cons] at hparams
      rw [List.flatMap_cons, List.cons_append, piecesFrom, if_neg (by decide), if_pos (by decide),
        piecesFrom_writeParam [] hparams.1, ih hparams.2, List.append_nil, List.reverse_reverse,
        List.map_cons]
  rw [pieces, write, piecesFrom_run [] hmain.1 fun _ => hmain.2, htail, List.append_nil,
    List.reverse_reverse]

/-! ## Parameters -/

theorem unquote_quoted (value : List Char) : unquote ('"' :: (value ++ ['"'])) = value := by
  rw [unquote, List.getLast?_concat, beq_self_eq_true, if_pos rfl, List.dropLast_concat]

/-- **A written parameter is read.** -/
theorem param?_writeParam {param : List Char × List Char} (h : IsParam param) :
    param? (writeParam param) = some (String.ofList param.1, String.ofList param.2) := by
  have hkey : '=' ∉ ' ' :: param.1 := by
    rw [List.mem_cons, not_or]
    exact ⟨by decide, fun hc => (h.1.noMark _ hc).2.2 rfl⟩
  have hvalue : trimChars ('"' :: (param.2 ++ ['"'])) = '"' :: (param.2 ++ ['"']) :=
    trimChars_between (by decide) (by decide)
  rw [param?, writeParam, ← List.cons_append, splitOnce_append hkey, Option.map_some]
  dsimp only
  rw [trimChars_blank_cons (by decide), trimChars_eq_self h.1.noBlank, hvalue, unquote_quoted]

/-- The written parameters are read, in order. -/
theorem paramsOf_write (hmain : '"' ∉ main ∧ ';' ∉ main) (hparams : ∀ p ∈ params, IsParam p) :
    paramsOf (write main params) =
      params.map fun param => (String.ofList param.1, String.ofList param.2) := by
  rw [paramsOf, pieces_write hmain hparams, List.drop_one, List.tail_cons]
  clear hmain
  induction params with
  | nil => rfl
  | cons param params ih =>
    rw [List.forall_mem_cons] at hparams
    rw [List.map_cons, List.filterMap_cons_some (param?_writeParam hparams.1), ih hparams.2,
      List.map_cons]

/-- **A written content type is read**: its two names, trimmed and in
lower case, and its parameters in order. -/
theorem readChars_write (hquote : '"' ∉ main ++ '/' :: sub) (hsemicolon : ';' ∉ main ++ '/' :: sub)
    (hslash : '/' ∉ main) (hparams : ∀ p ∈ params, IsParam p) :
    readChars (write (main ++ '/' :: sub) params) =
      ⟨asciiLower (String.ofList (trimChars main)), asciiLower (String.ofList (trimChars sub)),
        params.map fun param => (String.ofList param.1, String.ofList param.2)⟩ := by
  rw [readChars, pieces_write ⟨hquote, hsemicolon⟩ hparams, List.headD_cons,
    splitOnce_append hslash, paramsOf_write ⟨hquote, hsemicolon⟩ hparams]

/-! ## Single parameters -/

/-- **Looking a name up among what pieces write** is looking for the first
piece that has it for its key. -/
theorem findParam_filterMap (pieces : List (List Char)) (name : String) :
    findParam (pieces.filterMap param?) name = pieces.findSome? (valueUnder? name) := by
  induction pieces with
  | nil => rfl
  | cons piece pieces ih =>
    rw [List.findSome?_cons, ← ih, valueUnder?]
    rcases hsplit : splitOnce '=' piece with _ | ⟨key, value⟩
    -- A piece without an equals sign writes nothing, under this key or another.
    · have hnone : param? piece = none := by rw [param?, hsplit, Option.map_none]
      rw [List.filterMap_cons_none hnone]
    · have hsome : param? piece =
          some (String.ofList (trimChars key), String.ofList (unquote (trimChars value))) := by
        rw [param?, hsplit, Option.map_some]
      rw [List.filterMap_cons_some hsome, findParam, List.find?_cons]
      dsimp only
      cases sameName (String.ofList (trimChars key)) name with
      | true => rfl
      | false => rfl

/-- The parameters count whether or not there is a slash. -/
theorem params_readChars (cs : List Char) : (readChars cs).params = paramsOf cs := by
  rw [readChars]
  split <;> rfl

/-! ## Tokens -/

/-- The marks that structure a header. -/
def specials : List Char := "()<>@,;:\\\"/[]?=".toList

/-- **A character of a token**: neither a blank nor a special one. -/
def isTokenChar (c : Char) : Bool := !isBlank c && !specials.contains c

/-- A text of such characters. -/
def IsToken (text : String) : Prop := ∀ c ∈ text.toList, isTokenChar c = true

instance (text : String) : Decidable (IsToken text) :=
  decidable_of_iff (text.toList.all isTokenChar = true) List.all_eq_true

variable {text : String}

theorem IsToken.not_mem (h : IsToken text) {c : Char} (hc : c ∈ specials) : c ∉ text.toList := by
  intro hmem
  have htoken := h c hmem
  rw [isTokenChar, List.contains_iff_mem.2 hc, Bool.not_true, Bool.and_false] at htoken
  cases htoken

theorem IsToken.noBlank (h : IsToken text) : ∀ c ∈ text.toList, isBlank c = false := by
  intro c hmem
  have htoken := h c hmem
  rw [isTokenChar, Bool.and_eq_true, Bool.not_eq_true'] at htoken
  exact htoken.1

theorem IsToken.trim (h : IsToken text) : String.ofList (trimChars text.toList) = text := by
  rw [trimChars_eq_self h.noBlank, String.ofList_toList]

theorem IsToken.ne_of_mem (h : IsToken text) {c d : Char} (hmem : c ∈ text.toList)
    (hd : d ∈ specials) : c ≠ d :=
  fun heq => h.not_mem hd (heq ▸ hmem)

/-- A token can be the key of a parameter. -/
theorem IsToken.isKey (h : IsToken text) : IsKey text.toList where
  noBlank := h.noBlank
  noMark _ hmem :=
    ⟨h.ne_of_mem hmem (by decide), h.ne_of_mem hmem (by decide), h.ne_of_mem hmem (by decide)⟩

/-- Two tokens and a slash between them hold no other special character. -/
theorem not_mem_names {mediaType subType : String} (htype : IsToken mediaType)
    (hsub : IsToken subType) {c : Char} (hc : c ∈ specials) (hslash : c ≠ '/') :
    c ∉ mediaType.toList ++ '/' :: subType.toList := by
  rw [List.mem_append, List.mem_cons, not_or, not_or]
  exact ⟨htype.not_mem hc, hslash, hsub.not_mem hc⟩

/-- **A content type as it is written**: its two names with a slash
between them, then its parameters. -/
def writeText (mediaType subType : String) (params : List (String × String)) : String :=
  mediaType ++ "/" ++ subType ++
    String.join (params.map fun p => "; " ++ p.1 ++ "=\"" ++ p.2 ++ "\"")

theorem toList_writeText (mediaType subType : String) (params : List (String × String)) :
    (writeText mediaType subType params).toList =
      write (mediaType.toList ++ '/' :: subType.toList)
        (params.map fun p => (p.1.toList, p.2.toList)) := by
  have hslash : "/".toList = ['/'] := rfl
  have hsemicolon : "; ".toList = [';', ' '] := rfl
  have hequals : "=\"".toList = ['=', '"'] := rfl
  have hquote : "\"".toList = ['"'] := rfl
  simp only [writeText, write, writeParam, String.toList_append, String.toList_join,
    List.flatMap_map, hslash, hsemicolon, hequals, hquote, List.append_assoc, List.cons_append,
    List.nil_append]

end ContentType

/-- **Content parameters round trip, and both readers agree.** A content
type that is written with tokens for its two names and for the keys of its
parameters, and with any values that have no double quote in them, is read
with its names in lower case and exactly those parameters in order. And
whatever a header value is, asking it for one parameter finds what reading
it as a content type and asking that finds. -/
theorem content_parameters_read_back :
    (∀ (mediaType subType : String) (params : List (String × String)),
      ContentType.IsToken mediaType → ContentType.IsToken subType →
      (∀ p ∈ params, ContentType.IsToken p.1 ∧ '"' ∉ p.2.toList) →
      ContentType.read (ContentType.writeText mediaType subType params) =
        ⟨asciiLower mediaType, asciiLower subType, params⟩) ∧
    ∀ value name : String, headerParam value name = (ContentType.read value).param name := by
  refine ⟨fun mediaType subType params htype hsub hparams => ?_, fun value name => ?_⟩
  · have hwritten : ∀ p ∈ params.map fun p => (p.1.toList, p.2.toList),
        ContentType.IsParam p := by
      rw [List.forall_mem_map]
      exact fun p hp => ⟨(hparams p hp).1.isKey, (hparams p hp).2⟩
    have hread : (params.map fun p => (p.1.toList, p.2.toList)).map
        (fun p => (String.ofList p.1, String.ofList p.2)) = params := by
      simp [Function.comp_def]
    have hquote : '"' ∉ mediaType.toList ++ '/' :: subType.toList :=
      ContentType.not_mem_names htype hsub (by decide) (by decide)
    have hsemicolon : ';' ∉ mediaType.toList ++ '/' :: subType.toList :=
      ContentType.not_mem_names htype hsub (by decide) (by decide)
    rw [ContentType.read, ContentType.toList_writeText,
      ContentType.readChars_write hquote hsemicolon (htype.not_mem (by decide)) hwritten,
      htype.trim, hsub.trim, hread]
  · rw [ContentType.param, ContentType.read, ContentType.params_readChars, ContentType.paramsOf,
      ContentType.findParam_filterMap]
    rfl

/-- A value with all the marks in it that structure a header, an empty one
under the same key, and a malformed header value: a blank before its
equals sign, an unquoted piece without one, and a quote that is not
closed. -/
theorem marked_values_read_back :
    ContentType.IsToken "Text" ∧ ContentType.IsToken "X-PLAIN" ∧
      (∀ p ∈ [("name", "a; b=c/ d"), ("NAME", "")],
        ContentType.IsToken p.1 ∧ '"' ∉ p.2.toList) ∧
      ContentType.read
          (ContentType.writeText "Text" "X-PLAIN" [("name", "a; b=c/ d"), ("NAME", "")]) =
        ⟨"text", "x-plain", [("name", "a; b=c/ d"), ("NAME", "")]⟩ ∧
      (ContentType.read "attachment; loose; FileName = \"a;b").param "filename" =
        some "\"a;b" := by
  have htype : ContentType.IsToken "Text" := by decide
  have hsub : ContentType.IsToken "X-PLAIN" := by decide
  have hparams : ∀ p ∈ [("name", "a; b=c/ d"), ("NAME", "")],
      ContentType.IsToken p.1 ∧ '"' ∉ p.2.toList := by decide
  have hread := content_parameters_read_back.1 "Text" "X-PLAIN" _ htype hsub hparams
  refine ⟨htype, hsub, hparams, hread, ?_⟩
  rw [← content_parameters_read_back.2]
  decide

end MailFormula
