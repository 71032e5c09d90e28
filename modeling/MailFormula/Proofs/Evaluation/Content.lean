import MailFormula.Proofs.Evaluation.Confinement
import MailFormula.Proofs.Evaluation.Fragment
/-!
# How much of a message is asked for

The hint of a formula is read off its text: the largest part of a message
that any function written in it declares to need. While the formula runs,
content is asked for by header fields and by a few built-ins, in the
context at hand or in that of a message visited, and from the bodies of
functions as well. `hint_bounds_content` says that the hint is an upper
bound of all of it, as long as no text is read as a formula.

Three facts carry it. No built-in asks for more than it declares
(`Signature.le_hint_of_asker`); formulas of at most some hint make up a
fragment (`Fragment.hinted`); and no fetch is counted and no content kept
that was not asked for (`fetches_of_moves`, `granularity_le_of_moves`).
-/

namespace MailFormula

/-! ## What built-ins declare -/

namespace Signature

/-- An entry that is found is one of the entries. -/
theorem mem_all_of_find? {name : String} {sig : Signature} (h : find? name = some sig) :
    sig ∈ all := by
  obtain ⟨l₁, l₂, heq, -⟩ := List.lookup_eq_some_iff.1 h
  have hmem : (Text.asciiLower name, sig) ∈ index := by
    rw [heq]
    simp
  obtain ⟨sig', hsig', hpair⟩ := List.mem_map.1 hmem
  exact (Prod.mk.inj hpair).2 ▸ hsig'

/-- **No built-in asks for more than it declares**, and none asks for
nothing at all. -/
theorem le_hint_of_asker {name : String} {sig : Signature} (h : find? name = some sig)
    {hint : Hint} (hask : sig.builtin ∈ (Request.content hint).askers) :
    .header ≤ hint ∧ hint ≤ sig.hint := by
  have hall : ∀ sig ∈ all, ∀ hint ∈ [Hint.none, .header, .text, .all],
      sig.builtin ∈ (Request.content hint).askers → .header ≤ hint ∧ hint ≤ sig.hint := by
    decide +kernel
  exact hall sig (mem_all_of_find? h) hint (by cases hint <;> decide) hask

/-- Nor more than the hint of a formula that calls it. -/
theorem le_of_ownHint_le {name : String} {sig : Signature} (h : find? name = some sig) {H : Hint}
    (hH : Formula.ownHint name ≤ H) {r : Request} (hask : sig.builtin ∈ r.askers) :
    ∀ hint, r = .content hint → .header ≤ hint ∧ hint ≤ H := by
  rintro hint rfl
  obtain ⟨hleast, hle⟩ := le_hint_of_asker h hask
  rw [Formula.ownHint, h] at hH
  exact ⟨hleast, Hint.le_trans hle hH⟩

end Signature

/-- Whether a built-in evaluates no formulas but those of its arguments:
two others read formulas from texts. -/
def Builtin.readsNoFormula (b : Builtin) (_ : Nat) : Bool := b != .eval && b != .includeFile

/-- **Formulas of at most some hint**, where no text is read as a formula. -/
def Fragment.hinted (H : Hint) : Fragment :=
  Fragment.ofCalls
    (fun f => f.callsOnly Builtin.readsNoFormula = true ∧ f.hint ≤ H)
    (fun r => ∀ hint, r = .content hint → .header ≤ hint ∧ hint ≤ H)
    (by
      intro name args h f hf
      exact ⟨(Formula.callsOnly_call_iff.1 h.1).2 f hf, (Formula.hint_call_le_iff.1 h.2).2 f hf⟩)
    (by
      intro name args sig h hsig
      have hallowed := (Formula.callsOnly_call_iff.1 h.1).1 sig hsig
      simpa [Builtin.readsNoFormula] using hallowed)
    (by
      intro name args sig h hsig
      have hown := (Formula.hint_call_le_iff.1 h.2).1
      exact (sig.builtin.onFormulas_only args).mono fun r => Signature.le_of_ownHint_le hsig hown)
    (by
      intro name args sig values h hsig _
      have hown := (Formula.hint_call_le_iff.1 h.2).1
      exact (sig.builtin.onValues_only values).mono fun r => Signature.le_of_ownHint_le hsig hown)

/-! ## Content that was not asked for -/

/-- How much of the message at hand is kept. -/
def Context.granularity (c : Context) : Hint :=
  match c.fetched with
  | some (had, _) => had
  | none => .none

/-- How often each message was fetched. -/
def Store.fetches (s : Store) : List Nat := s.statuses.map Status.fetches

theorem Store.fetches_modifyStatus {change : Status → Status}
    (h : ∀ st, (change st).fetches = st.fetches) (s : Store) (key : MessageKey) :
    (s.modifyStatus key change).fetches = s.fetches :=
  map_statuses_modifyStatus h s key

/-- **Only a request for the content fetches any.** -/
theorem fetches_effect_of_ne {r : Request} (h : r.isPlain = true)
    (hr : ∀ hint, r ≠ .content hint) (s : Session) :
    (r.effect s).2.store.fetches = s.store.fetches := by
  by_cases hmark : ∃ flag on, r = .mark flag on
  · obtain ⟨flag, on, rfl⟩ := hmark
    rw [Request.effect, perform, mark]
    split
    · rfl
    · split
      · rfl
      · split
        · rename_i hset
          obtain rfl := Store.eq_of_setFlags hset
          refine Store.fetches_modifyStatus ?_ s.store _
          intro st
          rfl
        · rfl
  · have hleaves := leaves_effect h s
    generalize (r.effect s).2 = t at hleaves ⊢
    cases hleaves with
    | content context store hcontent => exact absurd hcontent (hr _)
    | mark store hm => exact absurd ⟨_, _, hm⟩ hmark
    | _ => rfl

/-- What is kept after a request for the content: what was kept, or as
much as that request fetches. -/
theorem granularity_content (hint : Hint) (s : Session) :
    ((Request.content hint).effect s).2.context.granularity = s.context.granularity ∨
      ((Request.content hint).effect s).2.context.granularity = s.context.wanted hint := by
  have hhad := s.context.had_content s.store hint
  rw [Request.effect, perform]
  dsimp only
  generalize s.context.content s.store hint = o at hhad ⊢
  cases hhad with
  | same answer => exact .inl rfl
  | fresh _ _ => exact .inr rfl

namespace Course

variable {c : State} {t : Session}

/-- **A step that asks for no content fetches none.** -/
theorem fetches_of_moves (hno : ∀ hint, ¬ c.Serves (.content hint)) (h : Moves c t) :
    t.store.fetches = c.session.store.fetches := by
  cases h with
  | serve hcontrol hplain =>
    refine fetches_effect_of_ne hplain ?_ c.session
    rintro hint rfl
    exact hno hint (.act hcontrol hplain)
  | field hcontrol => exact absurd (.field hcontrol) (hno .header)
  | enter ht =>
    obtain rfl := Session.eq_enter_of_tryEnter ht
    rfl
  | _ => rfl

/-- **No more is kept after a step** than was kept here, or outside of
the visit that ends, or than the step asks for. -/
theorem granularity_le_of_moves {B : Hint} (hc : c.session.context.granularity ≤ B)
    (hout : ∀ o ∈ outsides c.pending, o.context.granularity ≤ B)
    (hserves : ∀ hint, c.Serves (.content hint) → c.session.context.wanted hint ≤ B)
    (h : Moves c t) : t.context.granularity ≤ B := by
  have hcontent : ∀ hint, c.Serves (.content hint) →
      ((Request.content hint).effect c.session).2.context.granularity ≤ B := by
    intro hint hhint
    rcases granularity_content hint c.session with h | h
    · rw [h]
      exact hc
    · rw [h]
      exact hserves hint hhint
  cases h with
  | @serve name r next hcontrol hplain =>
    by_cases hr : ∃ hint, r = .content hint
    · obtain ⟨hint, rfl⟩ := hr
      exact hcontent hint (.act hcontrol hplain)
    · rw [context_effect_of_ne hplain fun hint h => hr ⟨hint, h⟩]
      exact hc
  | field hcontrol => exact hcontent .header (.field hcontrol)
  | enter ht =>
    obtain rfl := Session.eq_enter_of_tryEnter ht
    exact hc
  -- A child context begins with nothing kept.
  | visit key => exact Nat.zero_le _
  | @back outside ho => exact hout outside ho
  | _ => exact hc

/-- What is asked for within the fragment of a hint is within the hint. -/
theorem hint_le_of_serves {H hint : Hint} (h : c.Within (Fragment.hinted H).toFamily)
    (hserves : c.Serves (.content hint)) : .header ≤ hint ∧ hint ≤ H := by
  cases hserves with
  | act hcontrol _ => exact (h.asks hcontrol).1 hint rfl
  | @field name hcontrol =>
    have hfield := h.control
    rw [hcontrol] at hfield
    have hhint : (Formula.field name).hint ≤ H := hfield.2
    rw [Formula.hint] at hhint
    exact ⟨Hint.le_refl _, hhint⟩

end Course

/-! ## The hint -/

theorem Hint.max_header {hint : Hint} (h : .header ≤ hint) : hint.max .header = hint := by
  cases hint with
  | none => exact absurd h (by decide)
  | header | text | all => rfl

namespace Course

variable {H : Hint} {f : Formula} {s : Session} {c : State}

/-- A message is asked for what the formula asks for, at every moment. -/
theorem wanted_of_leads (hwhole : s.context.permissions.fetchWhole = false)
    (hc : Leads (beginning f s) c) {hint : Hint} (hleast : .header ≤ hint) :
    c.session.context.wanted hint = hint := by
  have hconfined := (confinedBy s.host).at_moment (Confined.refl s.host) hc
  have hpermissions : c.session.context.permissions = s.context.permissions :=
    hconfined.permissions
  rw [Context.wanted, hpermissions, hwhole]
  exact Hint.max_header hleast

variable (hf : (Fragment.hinted H).holds f) (hs : (Fragment.hinted H).Bodies s.functions)

include hf hs

/-- Where no content is needed, none has been fetched. -/
theorem fetches_of_leads (hnone : H = .none) (hc : Leads (beginning f s) c) :
    c.session.store.fetches = s.store.fetches := by
  refine holds_at_moment (P := fun t => t.store.fetches = s.store.fetches) rfl ?_ hc
  intro c hc hbefore _ t hmove
  have hno : ∀ hint, ¬ c.Serves (.content hint) := by
    intro hint hserves
    obtain ⟨hleast, hle⟩ := hint_le_of_serves (within_of_leads hf hs hc) hserves
    have hheader : Hint.header ≤ .none := Hint.le_trans hleast (hnone ▸ hle)
    exact absurd hheader (by decide)
  rw [fetches_of_moves hno hmove, hbefore]

/-- And no more is kept than the hint allows, but for what was kept
before and for the header that every fetch brings. -/
theorem granularity_of_leads (hwhole : s.context.permissions.fetchWhole = false)
    (hc : Leads (beginning f s) c) :
    c.session.context.granularity ≤ (s.context.granularity.max H).max .header := by
  obtain ⟨hmax, -⟩ := Hint.max_le_iff.1 (Hint.le_refl ((s.context.granularity.max H).max .header))
  obtain ⟨hkept, hH⟩ := Hint.max_le_iff.1 hmax
  refine holds_at_moment
    (P := fun t => t.context.granularity ≤ (s.context.granularity.max H).max .header) hkept ?_ hc
  intro c hc hbefore hout t hmove
  refine granularity_le_of_moves hbefore hout ?_ hmove
  intro hint hserves
  obtain ⟨hleast, hle⟩ := hint_le_of_serves (within_of_leads hf hs hc) hserves
  rw [wanted_of_leads hwhole hc hleast]
  exact Hint.le_trans hle hH

end Course

/-- **What an evaluation within a hint may leave.** No function has a
larger hint. Where the hint is that no content is needed, none has been
fetched. And unless every fetch takes all there is, no more is kept than
was kept before, or than the hint allows, or than a header. -/
structure Session.WithinHint (H : Hint) (s t : Session) : Prop where
  bodies : ∀ name body, t.functions.get? name = some body → body.hint ≤ H
  fetches : H = .none → t.store.fetches = s.store.fetches
  granularity : s.context.permissions.fetchWhole = false →
    t.context.granularity ≤ (s.context.granularity.max H).max .header

/-- **The hint of a formula bounds the content that it asks for.** Let no
text be read as a formula, and let neither the formula nor any function
have a hint above `H`. Then whenever content is asked for, here or for a
message visited, at least the header is asked for and at most `H`, and
that is also what a message is asked for unless every fetch takes all
there is; where no content is asked for, none is fetched. At every moment
and at the end, the session is within `H`. -/
theorem hint_bounds_content {H : Hint} {f : Formula} {s : Session}
    (hf : f.callsOnly Builtin.readsNoFormula = true ∧ f.hint ≤ H)
    (hs : ∀ name body, s.functions.get? name = some body →
      body.callsOnly Builtin.readsNoFormula = true ∧ body.hint ≤ H) :
    (∀ c, Course.Leads (Course.beginning f s) c →
      (∀ hint, c.Serves (.content hint) → (.header ≤ hint ∧ hint ≤ H) ∧
        (s.context.permissions.fetchWhole = false → c.session.context.wanted hint = hint)) ∧
      ((∀ hint, ¬ c.Serves (.content hint)) →
        (Course.step c).session.store.fetches = c.session.store.fetches) ∧
      s.WithinHint H c.session) ∧
    ∀ patience r t, s.evaluate patience f = (r, t) → r ≠ .error .unfinished →
      s.WithinHint H t := by
  have hholds : (Fragment.hinted H).holds f := hf
  have hbodies : (Fragment.hinted H).Bodies s.functions := hs
  have hmoment : ∀ c, Course.Leads (Course.beginning f s) c → s.WithinHint H c.session := by
    intro c hc
    have hwithin := Course.within_of_leads hholds hbodies hc
    exact ⟨fun name body hbody => (hwithin.bodies name body hbody).2,
      fun hnone => Course.fetches_of_leads hholds hbodies hnone hc,
      fun hwhole => Course.granularity_of_leads hholds hbodies hwhole hc⟩
  refine ⟨fun c hc => ⟨fun hint hserves => ?_, fun hno => ?_, hmoment c hc⟩,
    fun patience r t hval hr => hmoment _ (Course.leads_halt_of_evaluate hval hr)⟩
  · have hle := Course.hint_le_of_serves (Course.within_of_leads hholds hbodies hc) hserves
    exact ⟨hle, fun hwhole => Course.wanted_of_leads hwhole hc hle.1⟩
  · exact Course.fetches_of_moves hno (Course.moves_step c)

/-- A session at a message, with another message selected and a function
that reads the text of a message. -/
def leafing : Session :=
  { context := { holder := some 0, selected := [⟨1, 1⟩] }
    store := ((Store.addDetached {} "Subject: x\n\ny" false).addDetached "Subject: z\n\nw" false)
    functions := ({} : Table Formula).put "Text" (.call "Body" []) }

/-- Reads the subject here, and defines and calls a function for every
message selected. -/
def leafThrough : Formula :=
  .call "And" [.field "Subject",
    .call "ForEach" [.call "Selected" [],
      .call "Progn" [.call "Defun" [.text "Twice", .call "Concat" [.call "Text" [],
        .call "Text" []]], .call "Twice" []]]]

/-- The hint of the formula is that of the header, and with the function
it is that of the text. Both messages are fetched, and no more is asked
for than that. -/
theorem leafing_stays_within_text :
    (leafThrough.callsOnly Builtin.readsNoFormula = true ∧ leafThrough.hint ≤ .text) ∧
    (∀ name body, leafing.functions.get? name = some body →
      body.callsOnly Builtin.readsNoFormula = true ∧ body.hint ≤ .text) ∧
    (∀ c, Course.Leads (Course.beginning leafThrough leafing) c →
      ∀ hint, c.Serves (.content hint) → hint ≤ .text) ∧
    ∃ v t, leafing.evaluate 0 leafThrough = (.ok v, t) ∧ t.store.fetches = [1, 1] ∧
      t.context.granularity ≤ .text := by
  have hf : leafThrough.callsOnly Builtin.readsNoFormula = true ∧ leafThrough.hint ≤ .text := by
    decide +kernel
  have hbodies : ∀ name body, leafing.functions.get? name = some body →
      body.callsOnly Builtin.readsNoFormula = true ∧ body.hint ≤ .text := by
    intro name body h
    rw [leafing, Table.get?_put] at h
    split at h
    · obtain rfl := Option.some.inj h
      decide +kernel
    · cases h
  have hrun : (leafing.evaluate 0 leafThrough).1.isOk = true ∧
      (leafing.evaluate 0 leafThrough).2.store.fetches = [1, 1] := by decide +kernel
  obtain ⟨hmoments, hend⟩ := hint_bounds_content hf hbodies
  rcases hval : leafing.evaluate 0 leafThrough with ⟨e | v, t⟩
  · rw [hval] at hrun
    cases hrun.1
  · rw [hval] at hrun
    exact ⟨hf, hbodies, fun c hc hint hserves => ((hmoments c hc).1 hint hserves).1.2,
      v, t, rfl, hrun.2, (hend 0 (.ok v) t hval nofun).granularity rfl⟩

end MailFormula
