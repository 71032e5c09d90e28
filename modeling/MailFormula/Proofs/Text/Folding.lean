import MailFormula.Proofs.Evaluation.Values
import MailFormula.Proofs.Text.CaseTable
import MailFormula.Proofs.Text.Search
/-!
# Two ways to ignore case

Texts are compared in full lower case and searched with one character
folded at a time. The two agree on most texts, and this module says on
which. They part at two capitals. The dotted i has two characters in lower
case and is folded to one, so behind one that faces an i everything is out
of step. And a capital sigma at the end of a word becomes a final sigma
only in full lower case.

What is compared and searched is walked through in parallel. As long as no
dotted i faces another character the walk is in step; behind one that does,
only dots can follow (`dots_of_ahead`, `not_prefix_of_behind`).
-/

namespace MailFormula.Text

variable {c d x : Char} {cs ds before before' : List Char} {n : Nat}

/-! ## Lower case by character -/

/-- **A lower case of a character** other than the dotted i, somewhere in a
text. -/
def LowerOf (c x : Char) : Prop :=
  x = lowerSimple c ∨ c = capitalSigma ∧ x = finalSigma

theorem lowerAfter_dottedI (before cs : List Char) :
    lowerAfter before (dottedI :: cs) = 'i' :: dotAbove :: lowerAfter (dottedI :: before) cs := rfl

theorem toNat_eq_iff_eq_ofNat (c : Char) (n : Nat) (hn : (Char.ofNat n).toNat = n) :
    c.toNat = n ↔ c = Char.ofNat n := by
  rw [← Char.toNat_inj, hn]

theorem lowerAfter_cons (hc : c ≠ dottedI) (before cs : List Char) :
    ∃ x, LowerOf c x ∧ lowerAfter before (c :: cs) = x :: lowerAfter (c :: before) cs := by
  rw [lowerAfter]
  by_cases hsigma : c.toNat == 0x3A3
  · have hc : c = capitalSigma := (toNat_eq_iff_eq_ofNat c 0x3A3 rfl).1 (beq_iff_eq.1 hsigma)
    rw [if_pos hsigma]
    split
    · exact ⟨_, .inr ⟨hc, rfl⟩, rfl⟩
    · exact ⟨_, .inl (by rw [hc, lowerSimple_capitalSigma]), rfl⟩
  · rw [if_neg hsigma, lowerChar, if_neg]
    · exact ⟨_, .inl rfl, rfl⟩
    · rw [beq_iff_eq]
      exact fun h => hc ((toNat_eq_iff_eq_ofNat c 0x130 rfl).1 h)

theorem lowerAfter_of_ascii (hc : c.toNat < 128) (before cs : List Char) :
    lowerAfter before (c :: cs) = c.toLower :: lowerAfter (c :: before) cs := by
  rw [lowerAfter, if_neg (by rw [beq_iff_eq]; omega), lowerChar,
    if_neg (by rw [beq_iff_eq]; omega), lowerSimple, if_pos hc]
  rfl

theorem foldChar_dottedI : foldChar dottedI = 'i' := rfl

theorem foldChar_of_ne (hc : c ≠ dottedI) : foldChar c = lowerSimple c := by
  rw [foldChar, if_neg]
  rw [beq_iff_eq]
  exact fun h => hc ((toNat_eq_iff_eq_ofNat c 0x130 rfl).1 h)

theorem foldChar_eq_dotAbove : foldChar c = dotAbove ↔ c = dotAbove := by
  by_cases hc : c = dottedI
  · rw [hc]
    decide
  · rw [foldChar_of_ne hc, lowerSimple_eq_dotAbove]

/-- Only the dot has the dot as its lower case. -/
theorem LowerOf.eq_dotAbove (h : LowerOf c dotAbove) : c = dotAbove := by
  rcases h with h | ⟨-, h⟩
  · exact lowerSimple_eq_dotAbove.1 h.symm
  · exact absurd h (by decide)

/-- A text in lower case that begins with the dot begins with it. -/
theorem cons_of_lowerAfter_eq_dot {rest : List Char}
    (h : lowerAfter before cs = dotAbove :: rest) :
    ∃ cs', cs = dotAbove :: cs' ∧ lowerAfter (dotAbove :: before) cs' = rest := by
  cases cs with
  | nil => cases h
  | cons c cs =>
    by_cases hc : c = dottedI
    · rw [hc, lowerAfter_dottedI] at h
      exact absurd (List.cons.inj h).1 (by decide)
    · obtain ⟨x, hx, hlower⟩ := lowerAfter_cons hc before cs
      rw [hlower] at h
      obtain ⟨rfl, hrest⟩ := List.cons.inj h
      obtain rfl := hx.eq_dotAbove
      exact ⟨cs, rfl, hrest⟩

theorem lowerAfter_dotAbove (before cs : List Char) :
    lowerAfter before (dotAbove :: cs) = dotAbove :: lowerAfter (dotAbove :: before) cs := by
  obtain ⟨x, hx, hlower⟩ := lowerAfter_cons (by decide : dotAbove ≠ dottedI) before cs
  rcases hx with rfl | ⟨hsigma, -⟩
  · rw [hlower, lowerSimple_eq_dotAbove.2 rfl]
  · exact absurd hsigma (by decide)

theorem lowerAfter_eq_nil : lowerAfter before cs = [] ↔ cs = [] := by
  cases cs with
  | nil => exact ⟨fun _ => rfl, fun _ => rfl⟩
  | cons c cs =>
    refine ⟨fun h => ?_, nofun⟩
    by_cases hc : c = dottedI
    · rw [hc, lowerAfter_dottedI] at h
      cases h
    · obtain ⟨x, -, hlower⟩ := lowerAfter_cons hc before cs
      rw [hlower] at h
      cases h

/-! ## Texts out of step -/

/-- **One text is a dot ahead.** Then it has the other as its beginning only if
nothing but dots follows in both, up to their ends. -/
theorem dots_of_ahead (h : lowerAfter before cs = dotAbove :: lowerAfter before' ds)
    (hbegins : ds.map foldChar <+: cs.map foldChar) :
    ∃ n, cs = List.replicate (n + 1) dotAbove ∧ ds = List.replicate n dotAbove := by
  induction ds generalizing cs before before' with
  | nil =>
    obtain ⟨cs, rfl, hrest⟩ := cons_of_lowerAfter_eq_dot h
    obtain rfl := lowerAfter_eq_nil.1 hrest
    exact ⟨0, rfl, rfl⟩
  | cons d ds ih =>
    obtain ⟨cs, rfl, hrest⟩ := cons_of_lowerAfter_eq_dot h
    rw [List.map_cons, List.map_cons, List.cons_prefix_cons, foldChar_eq_dotAbove.2 rfl,
      foldChar_eq_dotAbove] at hbegins
    obtain ⟨rfl, hbegins⟩ := hbegins
    rw [lowerAfter_dotAbove] at hrest
    obtain ⟨n, rfl, rfl⟩ := ih hrest hbegins
    exact ⟨n + 1, rfl, rfl⟩

/-- **One text is a dot behind.** Then it does not have the other as its
beginning. -/
theorem not_prefix_of_behind (h : dotAbove :: lowerAfter before cs = lowerAfter before' ds) :
    ¬ ds.map foldChar <+: cs.map foldChar := by
  intro hbegins
  induction cs generalizing ds before before' with
  | nil =>
    obtain ⟨ds, rfl, -⟩ := cons_of_lowerAfter_eq_dot h.symm
    exact absurd hbegins.length_le (by simp)
  | cons c cs ih =>
    obtain ⟨ds, rfl, hrest⟩ := cons_of_lowerAfter_eq_dot h.symm
    rw [List.map_cons, List.map_cons, List.cons_prefix_cons, foldChar_eq_dotAbove.2 rfl, eq_comm,
      foldChar_eq_dotAbove] at hbegins
    obtain ⟨rfl, hbegins⟩ := hbegins
    rw [lowerAfter_dotAbove] at hrest
    exact ih hrest.symm hbegins

/-! ## Texts in step -/

/-- **Two characters that can face each other**: a dotted i faces only itself,
and a capital sigma no final one. -/
structure Faces (c d : Char) : Prop where
  dotted : c = dottedI ↔ d = dottedI
  capital : ¬ (c = capitalSigma ∧ d = finalSigma)
  final : ¬ (c = finalSigma ∧ d = capitalSigma)

/-- **Texts that are alike** are in step up to the end, where the second may
have a dotted i for some character and a dot of the first. -/
inductive Alike : List Char → List Char → Prop
  | nil : Alike [] []
  | cons {c d : Char} {cs ds : List Char} : Faces c d → Alike cs ds → Alike (c :: cs) (d :: ds)
  | dotted {c : Char} {n : Nat} : c ≠ dottedI →
      Alike (c :: List.replicate (n + 1) dotAbove) (dottedI :: List.replicate n dotAbove)

theorem faces_dottedI : Faces dottedI dottedI := ⟨Iff.rfl, by decide, by decide⟩

theorem alike_cons_iff (h : c = dottedI ↔ d = dottedI) :
    Alike (c :: cs) (d :: ds) ↔ Faces c d ∧ Alike cs ds := by
  constructor
  · intro halike
    cases halike with
    | cons hfaces hrest => exact ⟨hfaces, hrest⟩
    | dotted hc => exact absurd (h.2 rfl) hc
  · exact fun ⟨hfaces, hrest⟩ => .cons hfaces hrest

theorem not_alike_of_dottedI (hd : d ≠ dottedI) : ¬ Alike (dottedI :: cs) (d :: ds) := by
  intro halike
  cases halike with
  | cons hfaces _ => exact hd (hfaces.dotted.1 rfl)
  | dotted hc => exact hc rfl

theorem alike_dottedI_iff (hc : c ≠ dottedI) :
    Alike (c :: cs) (dottedI :: ds) ↔
      ∃ n, cs = List.replicate (n + 1) dotAbove ∧ ds = List.replicate n dotAbove := by
  constructor
  · intro halike
    cases halike with
    | cons hfaces _ => exact absurd (hfaces.dotted.2 rfl) hc
    | dotted _ => exact ⟨_, rfl, rfl⟩
  · rintro ⟨n, rfl, rfl⟩
    exact .dotted hc

/-- **Characters of one lower case** fold to the same if they can face each
other. -/
theorem foldChar_eq_iff_faces (hc : c ≠ dottedI) (hd : d ≠ dottedI) (hcx : LowerOf c x)
    (hdx : LowerOf d x) : foldChar d = foldChar c ↔ Faces c d := by
  rw [foldChar_of_ne hc, foldChar_of_ne hd]
  have hne : lowerSimple capitalSigma ≠ finalSigma := by
    rw [lowerSimple_capitalSigma]
    decide
  constructor
  · intro heq
    refine ⟨by simp [hc, hd], ?_, ?_⟩
    · rintro ⟨rfl, rfl⟩
      rw [lowerSimple_eq_finalSigma.2 rfl] at heq
      exact hne heq.symm
    · rintro ⟨rfl, rfl⟩
      rw [lowerSimple_eq_finalSigma.2 rfl] at heq
      exact hne heq
  · intro hfaces
    rcases hcx with hcx | ⟨hcapital, hfinal⟩
    · rcases hdx with hdx | ⟨hcapital, hfinal⟩
      · rw [← hcx, ← hdx]
      · -- The other is a final sigma, which does not face a capital one.
        rw [hfinal, eq_comm, lowerSimple_eq_finalSigma] at hcx
        exact absurd ⟨hcx, hcapital⟩ hfaces.final
    · rcases hdx with hdx | ⟨hcapital', -⟩
      · rw [hfinal, eq_comm, lowerSimple_eq_finalSigma] at hdx
        exact absurd ⟨hcapital, hdx⟩ hfaces.capital
      · rw [hcapital, hcapital']

/-- **Texts of one lower case**: one begins with the other, folded, if they are
alike. -/
theorem prefix_iff_alike (h : lowerAfter before cs = lowerAfter before' ds) :
    ds.map foldChar <+: cs.map foldChar ↔ Alike cs ds := by
  induction cs generalizing ds before before' with
  | nil =>
    obtain rfl := lowerAfter_eq_nil.1 h.symm
    exact ⟨fun _ => .nil, fun _ => List.nil_prefix⟩
  | cons c cs ih =>
    cases ds with
    | nil => exact absurd (lowerAfter_eq_nil.1 h) (List.cons_ne_nil c cs)
    | cons d ds =>
      rw [List.map_cons, List.map_cons, List.cons_prefix_cons]
      by_cases hc : c = dottedI <;> by_cases hd : d = dottedI
      · -- Two dotted i's leave the texts in step.
        subst hc hd
        rw [lowerAfter_dottedI, lowerAfter_dottedI, List.cons.injEq, List.cons.injEq] at h
        rw [alike_cons_iff Iff.rfl, ih h.2.2]
        exact and_congr_left fun _ => ⟨fun _ => faces_dottedI, fun _ => rfl⟩
      · -- One in the first text leaves it a dot behind,
        subst hc
        obtain ⟨x, -, hlower⟩ := lowerAfter_cons hd before' ds
        rw [lowerAfter_dottedI, hlower, List.cons.injEq] at h
        exact iff_of_false (fun hbegins => not_prefix_of_behind h.2 hbegins.2)
          (not_alike_of_dottedI hd)
      · -- and one in the second, a dot ahead.
        subst hd
        obtain ⟨x, hx, hlower⟩ := lowerAfter_cons hc before cs
        rw [lowerAfter_dottedI, hlower, List.cons.injEq] at h
        rw [alike_dottedI_iff hc]
        refine ⟨fun hbegins => dots_of_ahead h.2 hbegins.2, ?_⟩
        rintro ⟨n, rfl, rfl⟩
        refine ⟨?_, ?_⟩
        · rw [foldChar_dottedI, foldChar_of_ne hc, ← h.1]
          exact hx.resolve_right fun hfinal => absurd (h.1.symm.trans hfinal.2) (by decide)
        · rw [List.map_replicate, List.map_replicate, List.replicate_succ']
          exact List.prefix_append _ _
      · obtain ⟨x, hcx, hcs⟩ := lowerAfter_cons hc before cs
        obtain ⟨y, hdy, hds⟩ := lowerAfter_cons hd before' ds
        rw [hcs, hds, List.cons.injEq] at h
        obtain ⟨rfl, h⟩ := h
        rw [alike_cons_iff (by simp [hc, hd]), ih h, foldChar_eq_iff_faces hc hd hcx hdy]

/-! ## Comparing and searching -/

theorem compareText_eq_iff {a b : String} : Value.compareText a b = .eq ↔ a = b := by
  rw [Value.compareText]
  split
  · rename_i hlt
    refine ⟨nofun, ?_⟩
    rintro rfl
    exact absurd hlt (String.lt_irrefl a)
  · simp

/-- **Texts compare equal** if they have the same lower case. -/
theorem compare_eq_iff {live : MessageKey → Bool} {a b : String} :
    (Value.string a).compare live (.string b) false = .eq ↔
      lowerAfter [] a.toList = lowerAfter [] b.toList := by
  simp only [Value.compare, Bool.false_eq_true, if_false, Value.text]
  rw [compareText_eq_iff, lower, lower, String.ofList_inj]

/-- A search that ignores case folds. -/
theorem foldFor_false : foldFor false = foldChar := by
  funext c
  rw [foldFor, if_neg Bool.false_ne_true]

/-- A text begins with another of the same lower case if they are alike. -/
theorem beginsWith_iff_alike {a b : String}
    (h : lowerAfter [] a.toList = lowerAfter [] b.toList) :
    beginsWith a b false = true ↔ Alike a.toList b.toList := by
  rw [beginsWith, beginsWithChars_iff, foldFor_false, prefix_iff_alike h]

/-- And it is found at its start. -/
theorem find_iff_alike {a b : String} (h : lowerAfter [] a.toList = lowerAfter [] b.toList) :
    find a b 0 false = some 0 ↔ Alike a.toList b.toList := by
  rw [find, findChars_zero_iff, foldFor_false, prefix_iff_alike h]

theorem find?_equal : Signature.find? "Equal" = some ⟨"Equal", .between 2 3, .none, .equal⟩ := by
  decide +kernel

theorem find?_contain :
    Signature.find? "Contain" = some ⟨"Contain", .between 2 3, .none, .contain false⟩ := by
  decide +kernel

theorem find?_beginWith :
    Signature.find? "BeginWith" = some ⟨"BeginWith", .between 2 3, .none, .contain true⟩ := by
  decide +kernel

/-- A built-in called with two texts, whose action gives a value. -/
theorem evaluate_texts {patience : Nat} {s : Session} {name a b : String} {sig : Signature}
    {v : Value} (hdepth : s.depth < s.limits.maxDepth) (hsig : Signature.find? name = some sig)
    (hlazy : sig.builtin.isLazy = false) (haccepts : sig.arity.accepts 2 = true)
    (hv : ∀ evaluate, (sig.builtin.onValues [.string a, .string b]).run
      (perform patience evaluate) name s.enter = (.ok v, s.enter)) :
    s.evaluate patience (.call name [.text a, .text b]) = (.ok v, s) := by
  have hargs : ∀ below,
      List.Forall₂ (fun f v => eval patience below f s.enter = (.ok v, s.enter))
        [.text a, .text b] [.string a, .string b] :=
    fun below => .cons (by rw [eval]) (.cons (by rw [eval]) .nil)
  obtain ⟨evaluate, hcall⟩ := evaluate_builtin hdepth hsig hlazy (by exact haccepts) hargs
  rw [hcall, hv]
  rfl

/-- **Where texts that compare equal are found in each other.** The first
begins with the second, and the second is found at its very start, exactly
if the two are alike. The built-ins say so too. -/
theorem found_iff_alike_of_equal {live : MessageKey → Bool} {a b : String}
    (h : (Value.string a).compare live (.string b) false = .eq) :
    (beginsWith a b false = true ↔ Alike a.toList b.toList) ∧
    (find a b 0 false = some 0 ↔ Alike a.toList b.toList) ∧
    ∀ patience (s : Session), s.depth < s.limits.maxDepth →
      s.evaluate patience (.call "Equal" [.text a, .text b]) = (.ok (.boolean true), s) ∧
      (s.evaluate patience (.call "BeginWith" [.text a, .text b]) = (.ok (.boolean true), s) ↔
        Alike a.toList b.toList) ∧
      (Alike a.toList b.toList →
        s.evaluate patience (.call "Contain" [.text a, .text b]) = (.ok (.boolean true), s)) := by
  have hlower := compare_eq_iff.1 h
  refine ⟨beginsWith_iff_alike hlower, find_iff_alike hlower,
    fun patience s hdepth => ⟨?_, ?_, fun halike => ?_⟩⟩
  · refine evaluate_texts hdepth find?_equal rfl rfl fun evaluate => ?_
    change (Except.ok (Value.boolean ((Value.string a).compare s.enter.isLive (.string b) false ==
      .eq)), s.enter) = _
    rw [compare_eq_iff.2 hlower]
    rfl
  · have hbegins : s.evaluate patience (.call "BeginWith" [.text a, .text b]) =
        (.ok (.boolean (beginsWith a b false)), s) :=
      evaluate_texts hdepth find?_beginWith rfl rfl fun evaluate => rfl
    rw [hbegins, ← beginsWith_iff_alike hlower]
    simp
  · refine evaluate_texts hdepth find?_contain rfl rfl fun evaluate => ?_
    change (Except.ok (Value.boolean (find a b 0 false).isSome), s.enter) = _
    rw [(find_iff_alike hlower).2 halike]
    rfl

/-- An i with a dot of its own has the lower case of the dotted i, and it has
one character more. -/
theorem dotted_i_not_found :
    (Value.string "\u0130").compare (fun _ => false) (.string "i\u0307") false = .eq ∧
      beginsWith "\u0130" "i\u0307" false = false ∧ find "\u0130" "i\u0307" 0 false = none := by
  have hlower : lowerAfter [] "\u0130".toList = lowerAfter [] "i\u0307".toList := by
    change lowerAfter [] [dottedI] = lowerAfter [] ['i', dotAbove]
    rw [lowerAfter_dottedI, lowerAfter_of_ascii (by decide), lowerAfter_dotAbove]
    rfl
  refine ⟨compare_eq_iff.2 hlower, ?_, ?_⟩
  · rw [← Bool.not_eq_true, beginsWith_iff_alike hlower]
    exact not_alike_of_dottedI (by decide)
  · refine findChars_eq_none_iff.2 fun i _ hoccurs => ?_
    have hend := hoccurs.1
    rw [List.length_map, List.length_map] at hend
    have hlong : "i\u0307".toList.length = 2 := by decide
    have hshort : "\u0130".toList.length = 1 := by decide
    omega

/-- The other way round it is found. -/
theorem dotted_i_found :
    (Value.string "Ai\u0307").compare (fun _ => false) (.string "a\u0130") false = .eq ∧
      ({} : Session).depth < ({} : Session).limits.maxDepth ∧
      Alike "Ai\u0307".toList "a\u0130".toList ∧ beginsWith "Ai\u0307" "a\u0130" false = true ∧
      ({} : Session).evaluate 0 (.call "Contain" [.text "Ai\u0307", .text "a\u0130"]) =
        (.ok (.boolean true), {}) := by
  have hequal : (Value.string "Ai\u0307").compare (fun _ => false) (.string "a\u0130") false =
      .eq := by
    refine compare_eq_iff.2 ?_
    change lowerAfter [] ['A', 'i', dotAbove] = lowerAfter [] ['a', dottedI]
    rw [lowerAfter_of_ascii (by decide), lowerAfter_of_ascii (by decide), lowerAfter_dotAbove,
      lowerAfter_of_ascii (by decide), lowerAfter_dottedI]
    rfl
  have hdepth : ({} : Session).depth < ({} : Session).limits.maxDepth := by decide
  have hfaces : Faces 'A' 'a' := ⟨by decide, by decide, by decide⟩
  have halike : Alike "Ai\u0307".toList "a\u0130".toList :=
    .cons hfaces (.dotted (c := 'i') (n := 0) (by decide))
  obtain ⟨hbegins, -, hcalls⟩ := found_iff_alike_of_equal hequal
  exact ⟨hequal, hdepth, halike, hbegins.2 halike, (hcalls 0 {} hdepth).2.2 halike⟩

end MailFormula.Text
