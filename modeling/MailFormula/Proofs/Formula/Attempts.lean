import MailFormula.Proofs.Formula.Completion
/-!
# Where reading is stuck

A reader of the grammar tries rules: at a place it tries one rule after
another, goes on where one of them is accepted, and goes back where none
is. Every rule that is tried in vain leaves an attempt behind, and a text
that is no formula is reported at the furthest of them.

`Tried` says where rules are tried in vain, whether or not reading goes
back behind them. The reader of drafts keeps one place only, the last one
that it noted. `accounts_readOne` says that this is the furthest place of
all: an attempt behind an accepted expression is further than all in it.
-/

namespace MailFormula

open MailFormula.Lexeme MailFormula.Text

namespace Lexeme

/-- What is left after skipping is an end of the text. -/
theorem skip_suffix (cs : List Char) : skip cs <:+ cs := by
  obtain ⟨gap, -, hcs | ⟨hnil, -⟩⟩ := skip_cases cs
  · exact ⟨gap, hcs.symm⟩
  · rw [hnil]
    exact List.nil_suffix

theorem suffix_of_skip_eq {c : Char} {cs rest : List Char} (h : skip cs = c :: rest) :
    rest <:+ cs := (List.suffix_cons c rest).trans (h ▸ skip_suffix cs)

end Lexeme

namespace Draft

/-! ## Bounds on reading

The length of a text is enough for the rounds and the levels, and more
make no difference. -/

section

variable {one one' : List Char → Reading Draft} {rounds rounds' : Nat} {done : List Draft}
  {notes : Notes} {cs : List Char}

/-- Two readers that agree on what a text can hold agree on arguments. -/
theorem readMore_congr (hone : ∀ x, x.length ≤ cs.length → one x = one' x)
    (hshorter : ∀ {x draft after}, (one x).result = some (draft, after) → after.length < x.length)
    (h : cs.length ≤ rounds) (h' : cs.length ≤ rounds') :
    readMore one rounds done notes cs = readMore one' rounds' done notes cs := by
  induction rounds generalizing rounds' done notes cs with
  | zero =>
    obtain rfl := List.eq_nil_of_length_eq_zero (Nat.le_zero.1 h)
    cases rounds' with
    | zero => rfl
    | succ rounds' => rfl
  | succ rounds ih =>
    cases rounds' with
    | zero =>
      obtain rfl := List.eq_nil_of_length_eq_zero (Nat.le_zero.1 h')
      rfl
    | succ rounds' =>
      have hskip := (skip_suffix cs).length_le
      rw [readMore, readMore]
      split
      · rename_i rest hcomma
        rw [hcomma, List.length_cons] at hskip
        have hrest := (skip_suffix rest).length_le
        rw [← hone (skip rest) (by omega)]
        dsimp only
        split
        · rename_i arg after hafter
          have hafter := hshorter hafter
          exact ih (fun x hx => hone x (by omega)) (by omega) (by omega)
        · rfl
      · rfl
      · rfl

theorem readArgs_congr (hone : ∀ x, x.length ≤ cs.length → one x = one' x)
    (hshorter : ∀ {x draft after}, (one x).result = some (draft, after) → after.length < x.length)
    (h : cs.length ≤ rounds) (h' : cs.length ≤ rounds') :
    readArgs one rounds cs = readArgs one' rounds' cs := by
  have hskip := (skip_suffix cs).length_le
  rw [readArgs, readArgs, ← hone (skip cs) hskip]
  split
  · rename_i arg after hafter
    have hafter := hshorter hafter
    exact readMore_congr (fun x hx => hone x (by omega)) hshorter (by omega) (by omega)
  · rfl

end

section

variable {rounds levels rounds' levels' : Nat} {cs rest after : List Char} {draft : Draft}

theorem length_lt_of_readOne (h : (readOne rounds levels cs).result = some (draft, rest)) :
    rest.length < cs.length := (spelled_of_readOne h).length_lt

theorem suffix_of_readOne (h : (readOne rounds levels cs).result = some (draft, rest)) :
    rest <:+ cs := by
  obtain ⟨e, rfl, -⟩ := (spelled_of_readOne h).exists_expression
  exact List.suffix_append e rest

/-- **More rounds and levels make no difference.** -/
theorem readOne_congr (hrounds : cs.length ≤ rounds) (hlevels : cs.length ≤ levels)
    (hrounds' : cs.length ≤ rounds') (hlevels' : cs.length ≤ levels') :
    readOne rounds levels cs = readOne rounds' levels' cs := by
  induction hn : cs.length using Nat.strongRecOn generalizing cs levels levels' with
  | ind n ih =>
    match cs, levels, levels' with
    | [], _, _ =>
      rw [readOne.eq_def, readOne.eq_def]
    | c :: tail, levels + 1, levels' + 1 =>
      rw [List.length_cons] at hrounds hlevels hrounds' hlevels' hn
      have hargs : ∀ inner, inner.length ≤ tail.length →
          readArgs (readOne rounds levels) rounds inner =
            readArgs (readOne rounds' levels') rounds' inner := by
        intro inner hinner
        refine readArgs_congr (fun x hx => ?_) length_lt_of_readOne (by omega) (by omega)
        exact ih x.length (by omega) (by omega) (by omega) (by omega) (by omega) rfl
      rw [readOne.eq_def, readOne.eq_def]
      dsimp only
      split
      · split
        · split
          · split
            · rename_i d more _ _ inner hinner
              have hskip := (skip_suffix ((d :: more).dropWhile isNameChar)).length_le
              have hdrop := (List.dropWhile_suffix (l := d :: more) isNameChar).length_le
              rw [hinner, List.length_cons] at hskip
              rw [hargs inner (by omega)]
            · rfl
          · rfl
        · rfl
      · rfl

/-- **An expression is accepted** at the start of a text, and this is left. -/
def Accepts (cs after : List Char) : Prop :=
  ∃ draft, (readOne cs.length cs.length cs).result = some (draft, after)

theorem accepts_iff (hrounds : cs.length ≤ rounds) (hlevels : cs.length ≤ levels) :
    Accepts cs after ↔ ∃ draft, (readOne rounds levels cs).result = some (draft, after) := by
  rw [Accepts, readOne_congr hrounds hlevels (Nat.le_refl _) (Nat.le_refl _)]

end

/-! ## Attempts -/

mutual
/-- **A rule is tried in vain** while an expression is read at the start of
the first text; the second is what is left at the place. -/
inductive Tried : List Char → List Char → Prop
  /-- Where no call is accepted, the rule of calls is tried in vain. -/
  | start {cs : List Char} :
      (∀ tail after, cs = '@' :: tail → ¬ Accepts cs after) → Tried cs cs
  | name {cs : List Char} : Ends isNameStart cs → Tried ('@' :: cs) cs
  | fieldName {cs : List Char} : Ends isNameChar cs → Tried ('%' :: cs) cs
  | varName {cs : List Char} : Ends isVarChar cs → Tried ('$' :: cs) cs
  /-- The name of a call is there, and its opening parenthesis. -/
  | call {c : Char} {cs inner place : List Char} :
      isNameStart c = true → skip ((c :: cs).dropWhile isNameChar) = '(' :: inner →
      TriedArgs (skip inner) place → Tried ('@' :: c :: cs) place

/-- The same while an argument is read, and those behind it. -/
inductive TriedArgs : List Char → List Char → Prop
  | here {cs place : List Char} : Tried cs place → TriedArgs cs place
  | behind {cs after inner place : List Char} :
      Accepts cs after → skip after = ',' :: inner → TriedArgs (skip inner) place →
      TriedArgs cs place
end

/-- The same behind an argument. -/
def TriedMore (cs place : List Char) : Prop :=
  ∃ inner, skip cs = ',' :: inner ∧ TriedArgs (skip inner) place

/-- **The attempts at a whole text**: those at its expression, the end that
is expected behind it, and the attempt at the whole. -/
inductive Attempted (text : List Char) : List Char → Prop
  | expression {place : List Char} : Tried (skip text) place → Attempted text place
  | ending {after : List Char} :
      Accepts (skip text) after → skip after ≠ [] → Attempted text (skip after)
  | whole : ¬ Grammatical text → Attempted text text

mutual
/-- A place is an end of the text. -/
theorem Tried.suffix : ∀ {cs place}, Tried cs place → place <:+ cs
  | _, _, .start _ => List.suffix_refl _
  | _, _, .name _ => List.suffix_cons _ _
  | _, _, .fieldName _ => List.suffix_cons _ _
  | _, _, .varName _ => List.suffix_cons _ _
  | _, _, @Tried.call c cs inner _ _ hinner h => by
    have hname : (c :: cs).dropWhile isNameChar <:+ c :: cs := List.dropWhile_suffix isNameChar
    have hcall := (suffix_of_skip_eq hinner).trans (hname.trans (List.suffix_cons '@' (c :: cs)))
    exact h.suffix.trans ((skip_suffix inner).trans hcall)

theorem TriedArgs.suffix : ∀ {cs place}, TriedArgs cs place → place <:+ cs
  | _, _, .here h => h.suffix
  | _, _, @TriedArgs.behind _ _ inner _ ⟨_, hdraft⟩ hcomma h => by
    have hinner := (skip_suffix inner).trans (suffix_of_skip_eq hcomma)
    exact h.suffix.trans (hinner.trans (suffix_of_readOne hdraft))
end

/-! ## The place that is noted -/

/-- **A reading accounts for attempts**: it has noted the furthest of
them, and where it has accepted something, that lies further still. -/
structure Accounts {α : Type} (places : List Char → Prop) (r : Reading α) : Prop where
  noted : places r.notes.rest
  furthest : ∀ place, places place → r.notes.rest.length ≤ place.length
  before : ∀ {a after}, r.result = some (a, after) → after.length < r.notes.rest.length

/-- A reader reads expressions up to some length, and accounts for the
attempts at them. -/
structure Reads (one : List Char → Reading Draft) (bound : Nat) : Prop where
  accounts : ∀ {x : List Char}, x.length ≤ bound → Accounts (Tried x) (one x)
  accepts : ∀ {x after : List Char}, x.length ≤ bound →
    (Accepts x after ↔ ∃ draft, (one x).result = some (draft, after))

section

variable {one : List Char → Reading Draft} {rounds levels bound : Nat} {done : List Draft}
  {notes : Notes} {cs rest after : List Char} {draft : Draft} {r : Reading (List Draft)}

theorem Reads.mono (h : Reads one bound) {bound' : Nat} (hbound : bound' ≤ bound) :
    Reads one bound' where
  accounts := fun hx => h.accounts (Nat.le_trans hx hbound)
  accepts := fun hx => h.accepts (Nat.le_trans hx hbound)

/-- An argument that is not accepted ends the arguments. -/
theorem Reads.accounts_none (h : Reads one bound) (hcs : cs.length ≤ bound)
    (hread : (one cs).result = none) {result : Option (List Draft × List Char)}
    (hresult : ∀ {a after}, result = some (a, after) →
      after.length < (one cs).notes.rest.length) :
    Accounts (TriedArgs cs) ⟨result, (one cs).notes⟩ := by
  refine ⟨.here (h.accounts hcs).noted, fun place htried => ?_, hresult⟩
  cases htried with
  | here htried => exact (h.accounts hcs).furthest place htried
  | behind haccepts _ _ =>
    obtain ⟨draft, hdraft⟩ := (h.accepts hcs).1 haccepts
    rw [hread] at hdraft
    cases hdraft

/-- **Behind an argument that is accepted, every attempt is further.** -/
theorem Reads.accounts_some (h : Reads one bound) (hcs : cs.length ≤ bound)
    (hread : (one cs).result = some (draft, after))
    (hr : Accounts (fun place => place = (one cs).notes.rest ∨ TriedMore after place) r) :
    Accounts (TriedArgs cs) r := by
  refine ⟨?_, fun place htried => ?_, hr.before⟩
  · rcases hr.noted with heq | ⟨inner, hcomma, htried⟩
    · rw [heq]
      exact .here (h.accounts hcs).noted
    · exact .behind ((h.accepts hcs).2 ⟨draft, hread⟩) hcomma htried
  · cases htried with
    | here htried =>
      exact Nat.le_trans (hr.furthest _ (.inl rfl)) ((h.accounts hcs).furthest place htried)
    | behind haccepts hcomma htried =>
      obtain ⟨draft', hdraft⟩ := (h.accepts hcs).1 haccepts
      rw [hread] at hdraft
      obtain ⟨-, rfl⟩ := Prod.mk.inj (Option.some.inj hdraft)
      exact hr.furthest place (.inr ⟨_, hcomma, htried⟩)

/-- Where no comma follows, the place that was noted stays the furthest. -/
theorem accounts_of_no_comma (hno : ∀ inner, skip cs ≠ ',' :: inner)
    {result : Option (List Draft × List Char)}
    (hresult : ∀ {a after}, result = some (a, after) → after.length < notes.rest.length) :
    Accounts (fun place => place = notes.rest ∨ TriedMore cs place) ⟨result, notes⟩ := by
  refine ⟨.inl rfl, ?_, hresult⟩
  rintro place (rfl | ⟨inner, hcomma, -⟩)
  · exact Nat.le_refl _
  · exact absurd hcomma (hno inner)

/-- Where one follows, the attempts behind it are further. -/
theorem accounts_of_comma (hcomma : skip cs = ',' :: rest)
    (hnotes : cs.length < notes.rest.length) (hr : Accounts (TriedArgs (skip rest)) r) :
    Accounts (fun place => place = notes.rest ∨ TriedMore cs place) r := by
  refine ⟨.inr ⟨rest, hcomma, hr.noted⟩, ?_, hr.before⟩
  rintro place (rfl | ⟨inner, hinner, htried⟩)
  · have hplace := (hr.noted.suffix.trans (skip_suffix rest)).length_le
    have hrest := (suffix_of_skip_eq hcomma).length_le
    omega
  · rw [hcomma] at hinner
    obtain ⟨-, rfl⟩ := List.cons.inj hinner
    exact hr.furthest place htried

/-- **What is read behind an argument is accounted for**, with the place
that was noted before. -/
theorem accounts_readMore (hone : Reads one cs.length) (hrounds : cs.length ≤ rounds)
    (hnotes : cs.length < notes.rest.length) :
    Accounts (fun place => place = notes.rest ∨ TriedMore cs place)
      (readMore one rounds done notes cs) := by
  induction rounds generalizing done notes cs with
  | zero =>
    obtain rfl := List.eq_nil_of_length_eq_zero (Nat.le_zero.1 hrounds)
    have hno : ∀ inner, skip [] ≠ ',' :: inner := nofun
    exact accounts_of_no_comma hno nofun
  | succ rounds ih =>
    have hskip := (skip_suffix cs).length_le
    rw [readMore]
    split
    · rename_i rest hcomma
      rw [hcomma, List.length_cons] at hskip
      have hrest := (skip_suffix rest).length_le
      have hbound : (skip rest).length ≤ cs.length := by omega
      refine accounts_of_comma hcomma hnotes ?_
      dsimp only
      split
      · rename_i arg after hread
        have hafter := (hone.accounts hbound).before hread
        have hplace := (hone.accounts hbound).noted.suffix.length_le
        exact hone.accounts_some hbound hread (ih (hone.mono (by omega)) (by omega) hafter)
      · rename_i hread
        exact hone.accounts_none hbound hread nofun
    · rename_i rest hclose
      rw [hclose, List.length_cons] at hskip
      refine accounts_of_no_comma (fun inner hinner => ?_) fun h => ?_
      · rw [hclose] at hinner
        cases hinner
      · cases h
        omega
    · rename_i hcomma _
      exact accounts_of_no_comma hcomma nofun

/-- Only one place is tried at a closing parenthesis. -/
theorem Tried.eq_of_close {place : List Char} (h : Tried (')' :: rest) place) :
    place = ')' :: rest := by
  cases h with
  | start _ => rfl

theorem accounts_readArgs (hone : Reads one cs.length) (hrounds : cs.length ≤ rounds) :
    Accounts (TriedArgs (skip cs)) (readArgs one rounds cs) := by
  have hskip := (skip_suffix cs).length_le
  rw [readArgs]
  split
  · rename_i arg after hread
    have hafter := (hone.accounts hskip).before hread
    have hplace := (hone.accounts hskip).noted.suffix.length_le
    exact hone.accounts_some hskip hread
      (accounts_readMore (hone.mono (by omega)) (by omega) hafter)
  · rename_i hread
    split
    · rename_i rest hclose
      refine hone.accounts_none hskip hread fun h => ?_
      have hnoted := (hone.accounts hskip).noted
      rw [hclose] at hnoted ⊢
      cases h
      rw [hnoted.eq_of_close]
      exact Nat.lt_succ_self _
    · refine hone.accounts_none hskip hread fun h => ?_
      cases h

theorem ends_of_readName {isChar : Char → Bool} (h : readName isChar cs = none) :
    Ends isChar cs := by
  rintro c tail rfl
  cases hc : isChar c with
  | false => rfl
  | true =>
    have hrun : IsRun isChar ((c :: tail).takeWhile isChar) := isRun_takeWhile hc
    rw [readName] at h
    split at h
    · rename_i hnil
      exact absurd hnil hrun.ne_nil
    · cases h

theorem not_ends_of_readName {isChar : Char → Bool} {name : List Char}
    (h : readName isChar cs = some (name, rest)) : ¬ Ends isChar cs := by
  intro hends
  obtain ⟨hname, rfl⟩ := isRun_of_readName h
  obtain ⟨c, tail, rfl⟩ := List.exists_cons_of_ne_nil hname.ne_nil
  have hc := hname.all c List.mem_cons_self
  rw [hends c _ rfl] at hc
  cases hc

/-- Where a text begins with no mark, its start is the one place. -/
theorem Tried.eq_of_not_mark {c : Char} {place : List Char} (h : Tried (c :: cs) place)
    (hc : c ∉ ['@', '%', '$']) : place = c :: cs := by
  cases h with
  | start _ => rfl
  | name _ => exact absurd (by decide) hc
  | fieldName _ => exact absurd (by decide) hc
  | varName _ => exact absurd (by decide) hc
  | call _ _ _ => exact absurd (by decide) hc

/-- The start of a text is noted where it is the one place. -/
theorem accounts_start {result : Option (Draft × List Char)} {expected : List Expected}
    (hstart : Tried cs cs) (hone : ∀ place, Tried cs place → place = cs)
    (hresult : ∀ {draft after}, result = some (draft, after) → after.length < cs.length) :
    Accounts (Tried cs) ⟨result, ⟨cs, expected⟩⟩ where
  noted := hstart
  furthest := fun place htried => Nat.le_of_eq (congrArg List.length (hone place htried).symm)
  before := hresult

/-- The place behind a mark is noted where no name follows. -/
theorem accounts_mark {c : Char} {expected : List Expected} (hmark : Tried (c :: cs) cs)
    (hone : ∀ place, Tried (c :: cs) place → place = c :: cs ∨ place = cs) :
    Accounts (Tried (c :: cs)) (⟨none, ⟨cs, expected⟩⟩ : Reading Draft) where
  noted := hmark
  furthest := fun place htried => by
    rcases hone place htried with rfl | rfl
    · exact Nat.le_succ _
    · exact Nat.le_refl _
  before := nofun

/-- A name without a parenthesis behind it is tried from its mark. -/
theorem accounts_unopened {c : Char} {expected : List Expected} (hc : isNameStart c = true)
    (hno : ∀ inner, skip ((c :: cs).dropWhile isNameChar) ≠ '(' :: inner)
    (hnot : ∀ after, ¬ Accepts ('@' :: c :: cs) after) :
    Accounts (Tried ('@' :: c :: cs)) (⟨none, ⟨'@' :: c :: cs, expected⟩⟩ : Reading Draft) := by
  refine accounts_start (.start fun _ after _ => hnot after) (fun place htried => ?_) nofun
  cases htried with
  | start _ => rfl
  | name hends =>
    rw [hends c cs rfl] at hc
    cases hc
  | call _ hinner _ => exact absurd hinner (hno _)

/-- A call accounts for what its arguments account for. -/
theorem accounts_call {c : Char} {inner : List Char} {result : Option (Draft × List Char)}
    (hc : isNameStart c = true) (hinner : skip ((c :: cs).dropWhile isNameChar) = '(' :: inner)
    (hr : Accounts (TriedArgs (skip inner)) r)
    (hresult : ∀ {draft after}, result = some (draft, after) →
      ∃ args, r.result = some (args, after)) :
    Accounts (Tried ('@' :: c :: cs)) ⟨result, r.notes⟩ := by
  have htried : Tried ('@' :: c :: cs) r.notes.rest := .call hc hinner hr.noted
  refine ⟨htried, fun place hplace => ?_, fun h => ?_⟩
  · cases hplace with
    | start _ => exact htried.suffix.length_le
    | name hends =>
      rw [hends c cs rfl] at hc
      cases hc
    | call _ hinner' h =>
      rw [hinner] at hinner'
      obtain ⟨-, rfl⟩ := List.cons.inj hinner'
      exact hr.furthest place h
  · obtain ⟨args, hargs⟩ := hresult h
    exact hr.before hargs

/-- **The furthest attempt is noted.** -/
theorem accounts_readOne (hrounds : cs.length ≤ rounds) (hlevels : cs.length ≤ levels) :
    Accounts (Tried cs) (readOne rounds levels cs) := by
  induction hn : cs.length using Nat.strongRecOn generalizing cs levels with
  | ind n ih =>
    -- What follows the parenthesis of a call is shorter.
    have hargs : ∀ {levels c tail inner}, (c :: tail).length ≤ levels →
        ('@' :: c :: tail).length ≤ n → skip ((c :: tail).dropWhile isNameChar) = '(' :: inner →
        Accounts (TriedArgs (skip inner)) (readArgs (readOne rounds levels) rounds inner) := by
      intro levels c tail inner hlevels htail hinner
      have hlength := (suffix_of_skip_eq hinner).length_le
      have hname := (List.dropWhile_suffix (l := c :: tail) isNameChar).length_le
      rw [List.length_cons] at htail
      refine accounts_readArgs ⟨fun hx => ?_, fun hx => ?_⟩ (by omega)
      · exact ih _ (by omega) (by omega) (by omega) rfl
      · exact accepts_iff (by omega) (by omega)
    have hshorter : ∀ {draft after}, (readOne rounds levels cs).result = some (draft, after) →
        after.length < cs.length := length_lt_of_readOne
    have haccepts : ∀ after, Accepts cs after →
        ∃ draft, (readOne rounds levels cs).result = some (draft, after) := fun after =>
      (accepts_iff hrounds hlevels).1
    revert hshorter haccepts
    fun_cases readOne rounds levels cs with
    | case1 =>
      intro hshorter haccepts
      refine accounts_start (.start ?_) (fun place htried => ?_) hshorter
      · intro _ _ heq
        cases heq
      · cases htried with
        | start _ => rfl
    | case2 =>
      cases hlevels
    | case3 c hc d tail hd levels inner args args' after hread hinner =>
      intro _ _
      have hread : (readArgs (readOne rounds levels) rounds inner).result = some (args', after) :=
        hread
      obtain rfl := beq_iff_eq.1 hc
      simp only [hinner, hread]
      have haccounts := hargs (Nat.le_of_succ_le_succ hlevels) (Nat.le_of_eq hn) hinner
      refine accounts_call hd hinner haccounts fun h => ?_
      cases h
      exact ⟨args', hread⟩
    | case4 c hc d tail hd levels inner args hread hinner =>
      intro _ _
      have hread : (readArgs (readOne rounds levels) rounds inner).result = none := hread
      obtain rfl := beq_iff_eq.1 hc
      simp only [hinner, hread]
      have haccounts := hargs (Nat.le_of_succ_le_succ hlevels) (Nat.le_of_eq hn) hinner
      exact accounts_call hd hinner haccounts nofun
    | case5 c hc d tail hd levels hno =>
      intro hshorter haccepts
      obtain rfl := beq_iff_eq.1 hc
      have hnot : ∀ after, ¬ Accepts ('@' :: d :: tail) after := by
        intro after haccepted
        obtain ⟨draft, hdraft⟩ := haccepts after haccepted
        dsimp only at hdraft
        split at hdraft
        · rename_i inner hinner
          exact hno inner hinner
        · cases hdraft
      dsimp only at hshorter ⊢
      split
      · rename_i inner hinner
        exact absurd hinner (hno inner)
      · exact accounts_unopened hd hno hnot
    | case6 levels c hc d tail hd =>
      intro _ _
      obtain rfl := beq_iff_eq.1 hc
      have hends : Ends isNameStart (d :: tail) := by
        intro e more heq
        obtain ⟨rfl, -⟩ := List.cons.inj heq
        exact Bool.not_eq_true _ ▸ hd
      refine accounts_mark (.name hends) fun place htried => ?_
      cases htried with
      | start _ => exact .inl rfl
      | name _ => exact .inr rfl
      | call hd' _ _ => exact absurd hd' hd
    | case7 levels c hc =>
      intro _ _
      obtain rfl := beq_iff_eq.1 hc
      refine accounts_mark (.name nofun) fun place htried => ?_
      cases htried with
      | start _ => exact .inl rfl
      | name _ => exact .inr rfl
    | case8 levels c tail _ hc name after hread =>
      intro hshorter haccepts
      obtain rfl := beq_iff_eq.1 hc
      refine accounts_start (.start nofun) (fun place htried => ?_) hshorter
      cases htried with
      | start _ => rfl
      | fieldName hends => exact absurd hends (not_ends_of_readName hread)
    | case9 levels c tail _ hc hread =>
      intro hshorter haccepts
      obtain rfl := beq_iff_eq.1 hc
      refine accounts_mark (.fieldName (ends_of_readName hread)) fun place htried => ?_
      cases htried with
      | start _ => exact .inl rfl
      | fieldName _ => exact .inr rfl
    | case10 levels c tail _ _ hc name after hread =>
      intro hshorter _
      obtain rfl := beq_iff_eq.1 hc
      refine accounts_start (.start nofun) (fun place htried => ?_) hshorter
      cases htried with
      | start _ => rfl
      | varName hends => exact absurd hends (not_ends_of_readName hread)
    | case11 levels c tail _ _ hc hread =>
      intro _ _
      obtain rfl := beq_iff_eq.1 hc
      refine accounts_mark (.varName (ends_of_readName hread)) fun place htried => ?_
      cases htried with
      | start _ => exact .inl rfl
      | varName _ => exact .inr rfl
    | case12 levels c tail hcall hfield hvar | case13 levels c tail hcall hfield hvar
    | case14 levels c tail hcall hfield hvar | case15 levels c tail hcall hfield hvar
    | case16 levels c tail hcall hfield hvar | case17 levels c tail hcall hfield hvar =>
      intro hshorter _
      rw [beq_iff_eq] at hcall hfield hvar
      have hmark : c ∉ ['@', '%', '$'] := by simp [hcall, hfield, hvar]
      refine accounts_start (.start ?_) (fun place htried => htried.eq_of_not_mark hmark) hshorter
      rintro more after heq
      exact absurd (List.cons.inj heq).1 hcall

end

end Draft

end MailFormula
