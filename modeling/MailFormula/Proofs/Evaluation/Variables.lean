import MailFormula.Proofs.Evaluation.Depth
import MailFormula.Proofs.Evaluation.Origin
/-!
# Variables stay in their scope

An assignment may reach any frame, but it binds a new name only in the
innermost one. So an evaluation leaves the names of every frame around it
as they are, and takes none away from its own (`Scope.Keeps`, `scoping`).
The body of a function and the visit to a message have a frame to
themselves; all frames of the caller are around it, and what such a body
does to them is to overwrite what they have.

The globals are below all frames, and an assignment reaches them only if
it is asked to. `Course.globals_by_set` goes back from a global that has
changed to the call of `Set` or `Variable` that changed it.
-/

namespace MailFormula

open Text

/-! ## Names -/

namespace Table

variable {α : Type}

/-- Names that differ in case are one name. -/
theorem contains_congr {name other : String} (h : asciiLower name = asciiLower other)
    (t : Table α) : t.contains name = t.contains other := by
  rw [contains, contains, get?, get?, h]

/-- Overwriting binds nothing. -/
theorem contains_put_of_contains {t : Table α} {name : String} (h : t.contains name = true)
    (a : α) (other : String) : (t.put name a).contains other = t.contains other := by
  rw [contains_put]
  by_cases hname : asciiLower name = asciiLower other
  · rw [← contains_congr hname, h, Bool.or_true]
  · rw [decide_eq_false hname, Bool.false_or]

/-- Binding a name takes none away. -/
theorem contains_put_of_contains_other {t : Table α} {other : String}
    (h : t.contains other = true) (name : String) (a : α) :
    (t.put name a).contains other = true := by
  rw [contains_put, h, Bool.or_true]

end Table

/-- The names that a frame binds. -/
def Frame.binds (f : Frame) (name : String) : Bool := f.vars.contains name

namespace Scope

/-- Overwriting a variable binds no name in any frame. -/
theorem map_binds_overwrite {name : String} {v : Value} {frames frames' : List Frame}
    (h : overwrite name v frames = some frames') :
    frames'.map Frame.binds = frames.map Frame.binds := by
  induction frames generalizing frames' with
  | nil => cases h
  | cons f fs ih =>
    rw [overwrite] at h
    split at h
    · rename_i hbound
      obtain rfl := Option.some.inj h
      rw [List.map_cons, List.map_cons]
      congr 1
      funext other
      exact Table.contains_put_of_contains hbound v other
    · obtain ⟨gs, hgs, rfl⟩ := Option.map_eq_some_iff.1 h
      rw [List.map_cons, List.map_cons, ih hgs]

/-- **What an evaluation keeps of a scope**: the names of every frame but
the innermost, and at least the names of that one and of the globals. -/
structure Keeps (a b : Scope) : Prop where
  outer : b.frames.tail.map Frame.binds = a.frames.tail.map Frame.binds
  inner : ∀ f ∈ a.frames.head?, ∃ g ∈ b.frames.head?, ∀ name, f.binds name → g.binds name
  globals : ∀ name, a.globals.contains name → b.globals.contains name

namespace Keeps

variable {a b c : Scope}

theorem refl (a : Scope) : Keeps a a :=
  ⟨rfl, fun f hf => ⟨f, hf, fun _ h => h⟩, fun _ h => h⟩

theorem trans (h : Keeps a b) (k : Keeps b c) : Keeps a c where
  outer := k.outer.trans h.outer
  inner := by
    intro f hf
    obtain ⟨g, hg, hfg⟩ := h.inner f hf
    obtain ⟨i, hi, hgi⟩ := k.inner g hg
    exact ⟨i, hi, fun name hname => hgi name (hfg name hname)⟩
  globals := fun name hname => k.globals name (h.globals name hname)

/-- Frames that bind the same names are kept. -/
theorem of_names (hframes : b.frames.map Frame.binds = a.frames.map Frame.binds)
    (hglobals : ∀ name, a.globals.contains name → b.globals.contains name) : Keeps a b where
  outer := by rw [List.map_tail, List.map_tail, hframes]
  inner := by
    intro f hf
    have hhead := congrArg List.head? hframes
    rw [List.head?_map, List.head?_map, Option.mem_def.1 hf, Option.map_some] at hhead
    obtain ⟨g, hg, hgf⟩ := Option.map_eq_some_iff.1 hhead
    exact ⟨g, hg, fun name hname => by rwa [hgf]⟩
  globals := hglobals

theorem setGlobal (a : Scope) (name : String) (v : Value) : Keeps a (a.setGlobal name v) :=
  of_names rfl fun _ h => Table.contains_put_of_contains_other h name v

/-- A new name goes to the innermost frame. -/
theorem set (a : Scope) (name : String) (v : Value) : Keeps a (a.set name v) := by
  rw [Scope.set]
  split
  · rename_i frames h
    exact of_names (map_binds_overwrite h) fun _ h => h
  · split
    · rename_i f fs hframes
      refine ⟨by rw [hframes]; rfl, ?_, fun _ h => h⟩
      intro g hg
      rw [hframes] at hg
      obtain rfl := Option.some.inj hg
      exact ⟨_, rfl, fun other h => Table.contains_put_of_contains_other h name v⟩
    · exact setGlobal a name v

/-- **The frames around a frame of its own** bind what they did. -/
theorem map_binds_pop {args : Option (List Value)} (h : Keeps (a.push args) b) :
    b.pop.frames.map Frame.binds = a.frames.map Frame.binds := h.outer

theorem pop {args : Option (List Value)} (h : Keeps (a.push args) b) : Keeps a b.pop :=
  of_names h.map_binds_pop h.globals

end Keeps

end Scope

/-! ## Evaluation -/

/-- A plain request keeps the scope. -/
theorem keeps_effect {r : Request} (hr : r.isPlain = true) (s : Session) :
    Scope.Keeps s.scope (r.effect s).2.scope := by
  rcases scope_effect hr s with h | ⟨name, v, h | h⟩
  · rw [h]
    exact Scope.Keeps.refl s.scope
  · rw [h]
    exact Scope.Keeps.set s.scope name v
  · rw [h]
    exact Scope.Keeps.setGlobal s.scope name v

/-- Keeping the scope does not ask how an outcome came about. -/
theorem obeys_keeps_iff {α : Type} {s : Session} {o : Outcome α} :
    Obeys (fun s t => Scope.Keeps s.scope t.scope) (fun s _ t => Scope.Keeps s.scope t.scope) s o ↔
      Scope.Keeps s.scope o.2.scope := by
  obtain ⟨e | a, t⟩ := o
  · exact Iff.rfl
  · exact Iff.rfl

/-- **The law of scopes.** -/
def scoping : Law where
  keeps := fun s t => Scope.Keeps s.scope t.scope
  stops := fun s _ t => Scope.Keeps s.scope t.scope
  refl := fun s => Scope.Keeps.refl s.scope
  trans := Scope.Keeps.trans
  stops_trans := Scope.Keeps.trans
  fails := fun s _ => Scope.Keeps.refl s.scope
  tires := fun _ h => h
  caught := fun h => h
  effect := fun _ hr s => obeys_keeps_iff.2 (keeps_effect hr s)
  call := fun h => h.imp (fun k => k) fun _ k => k
  frame := fun h => h.imp Scope.Keeps.pop fun _ => Scope.Keeps.pop
  child := fun h => h.imp (fun k => k) fun _ k => k

theorem keeps_eval (patience levels : Nat) (f : Formula) (s : Session) :
    Scope.Keeps s.scope (eval patience levels f s).2.scope :=
  obeys_keeps_iff.1 (scoping.holds_eval patience levels f s)

/-- **The body of a function binds nothing in a frame of the caller**,
once the arguments are there. -/
theorem map_binds_callUser {patience levels : Nat} {name : String} {args : List Formula}
    {body : Formula} {vs : List Value} {s t : Session} (hbody : s.functions.get? name = some body)
    (hargs : evalArgs (eval patience levels) args s = (.ok vs, t)) :
    (callUser (eval patience levels) name args s).2.scope.frames.map Frame.binds =
      t.scope.frames.map Frame.binds := by
  rw [callUser_eq, hbody]
  dsimp only
  rw [hargs]
  exact (keeps_eval patience levels body
    (t.pushFrame (some (.string name :: vs)))).map_binds_pop

/-- **Nor does a visit.** Whatever is evaluated in it, its frame is the
one that is dropped. -/
theorem map_binds_visit (patience levels : Nat) (key : MessageKey) (body : Formula)
    (found : Option Formula) (s : Session) :
    (visit (eval patience levels) key body found s).2.scope.frames.map Frame.binds =
      s.scope.frames.map Frame.binds := by
  rw [visit_eq]
  have hbody := keeps_eval patience levels body ((s.openChild key).pushFrame none)
  generalize eval patience levels body ((s.openChild key).pushFrame none) = o at hbody ⊢
  obtain ⟨e | v, t⟩ := o
  · exact hbody.map_binds_pop
  · dsimp only
    split
    · rcases found with - | f
      · exact hbody.map_binds_pop
      · have hfound := hbody.trans (keeps_eval patience levels f t)
        dsimp only
        generalize eval patience levels f t = o at hfound ⊢
        obtain ⟨e | w, u⟩ := o
        · exact hfound.map_binds_pop
        · exact hfound.map_binds_pop
    · exact hbody.map_binds_pop

/-! ## Globals -/

theorem globals_set {a : Scope} (h : a.frames ≠ []) (name : String) (v : Value) :
    (a.set name v).globals = a.globals := by
  rw [Scope.set]
  split
  · rfl
  · split
    · rfl
    · rename_i hframes
      exact absurd hframes h

/-- Where there is a frame, only a global assignment reaches the globals. -/
theorem globals_effect {r : Request} (hr : r.isPlain = true) {s : Session}
    (hs : s.scope.frames ≠ []) :
    (r.effect s).2.scope.globals = s.scope.globals ∨
      ∃ name v, r = .assign name v true ∧
        (r.effect s).2.scope.globals = s.scope.globals.put name v := by
  by_cases hassign : ∃ name v isGlobal, r = .assign name v isGlobal
  · obtain ⟨name, v, isGlobal, rfl⟩ := hassign
    cases isGlobal with
    | false => exact .inl (globals_set hs name v)
    | true => exact .inr ⟨name, v, rfl, rfl⟩
  · left
    rw [scope_effect_of_ne hr fun name v isGlobal he => hassign ⟨name, v, isGlobal, he⟩]

namespace Course

variable {c : State} {s t : Session}

/-- So it is with a step. -/
theorem globals_step (hs : c.session.scope.frames ≠ []) :
    (step c).session.scope.globals = c.session.scope.globals ∨
      ∃ fn name v next, c.control = .act fn (.request (.assign name v true) next) ∧
        (step c).session.scope.globals = c.session.scope.globals.put name v := by
  have hmoves := moves_step c
  generalize (step c).session = t at hmoves
  cases hmoves with
  | @serve fn r next hcontrol hr =>
    rcases globals_effect hr hs with h | ⟨name, v, rfl, h⟩
    · exact .inl h
    · exact .inr ⟨fn, name, v, next, hcontrol, h⟩
  | enter ht =>
    obtain rfl := Session.eq_enter_of_tryEnter ht
    exact .inl rfl
  | _ => exact .inl rfl

/-- **A global `Set`.** A call of `Set` or `Variable` has its arguments:
a name, a value, and the wish that it be global. -/
def SetsGlobal (d : State) (name : String) (v : Value) : Prop :=
  ∃ (sig : Signature) (fn : String) (given : Value) (more : List Value),
    d.control = .arguments (.builtin sig fn) (given :: v :: more) [] ∧
    (sig.builtin = .set ∨ sig.builtin = .variableValue) ∧
    Behaviour.truthOr (given :: v :: more) 2 false = true ∧
    given.text d.session.isLive = name

/-- What is left of a `Set` asks for one assignment, of what it was given. -/
theorem left_set {args : List Value} {r : Request} {next : r.Reply → Action Value}
    (h : (Behaviour.set args).Left s (.request r next) t) :
    ∃ given v more, args = given :: v :: more ∧
      r = .assign (given.text s.isLive) v (Behaviour.truthOr args 2 false) := by
  unfold Behaviour.set at h
  split at h
  · rename_i given v more
    rcases h.of_look with ⟨hr, -⟩ | h
    · cases hr
    · dsimp only at h
      split at h
      · cases h.of_fail
      · rcases h.of_request with ⟨hr, -⟩ | ⟨reply, u, h⟩
        · cases hr
          exact ⟨given, v, more, rfl, rfl⟩
        · cases h.of_done
  · cases h.of_fail

/-- `Variable` with a name alone asks for nothing; with more it is a `Set`. -/
theorem left_variableValue {args : List Value} {r : Request} {next : r.Reply → Action Value}
    (h : (Behaviour.variableValue args).Left s (.request r next) t) :
    (Behaviour.set args).Left s (.request r next) t := by
  unfold Behaviour.variableValue at h
  split at h
  · rcases h.of_look with ⟨hr, -⟩ | h
    · cases hr
    · dsimp only at h
      split at h
      · cases h.of_fail
      · cases h.of_done
  · exact h

theorem mem_askers_assign {b : Builtin} {name : String} {v : Value} {isGlobal : Bool} :
    b ∈ (Request.assign name v isGlobal).askers ↔ b = .set ∨ b = .variableValue := by
  rw [Request.askers, List.mem_cons, List.mem_singleton]

/-- **A global assignment is asked for by a global `Set`.** -/
theorem setsGlobal_of_begins {d : State} {fn name : String} {v : Value}
    {next : (Request.assign name v true).Reply → Action Value}
    (h : Begins d fn (.request (.assign name v true) next) t) : SetsGlobal d name v := by
  cases h with
  | @formulas sig args u _ _ _ _ hleft =>
    have hasks := (sig.builtin.onFormulas_only args).left hleft
    cases hasks with
    | request hmem _ =>
      -- Neither of the two receives formulas.
      rcases mem_askers_assign.1 hmem with hb | hb
      · rw [hb] at hleft
        cases hleft.of_fail
      · rw [hb] at hleft
        cases hleft.of_fail
  | @values sig args hcontrol hleft =>
    have hasks := (sig.builtin.onValues_only args).left hleft
    cases hasks with
    | request hmem _ =>
      have hset : (sig.builtin = .set ∨ sig.builtin = .variableValue) ∧
          (Behaviour.set args).Left d.session (.request (.assign name v true) next) t := by
        rcases mem_askers_assign.1 hmem with hb | hb
        · rw [hb] at hleft
          exact ⟨.inl hb, hleft⟩
        · rw [hb] at hleft
          exact ⟨.inr hb, left_variableValue hleft⟩
      obtain ⟨given, w, more, rfl, hassign⟩ := left_set hset.2
      injection hassign with hname hw hglobal
      subst hw
      exact ⟨sig, fn, given, more, hcontrol, hset.1, hglobal.symm, hname.symm⟩

/-- **A global is explained**: it is as it was, or a global `Set` on the
way has given it its value. -/
def Explained (base c : State) (name : String) : Prop :=
  c.session.scope.globals.get? name = base.session.scope.globals.get? name ∨
    ∃ d given v, Leads base d ∧ Leads d c ∧ SetsGlobal d given v ∧
      asciiLower given = asciiLower name ∧ c.session.scope.globals.get? name = some v

/-- A global that a step leaves alone stays explained. -/
theorem Explained.step_of_eq {base : State} {name : String} (h : Explained base c name)
    (heq : (step c).session.scope.globals.get? name = c.session.scope.globals.get? name) :
    Explained base (step c) name := by
  rcases h with h | ⟨d, given, v, hd, hdc, hset, hlower, hv⟩
  · exact .inl (heq.trans h)
  · exact .inr ⟨d, given, v, hd, hdc.then_step rfl, hset, hlower, heq.trans hv⟩

/-- And one that a step assigns is explained by the call behind it. -/
theorem Explained.step {base : State} {name : String} (h : Explained base c name)
    (hs : c.session.scope.frames ≠ [])
    (horigin : ∀ fn a, c.control = .act fn a → Traced base c fn a c.session) :
    Explained base (step c) name := by
  rcases globals_step hs with hglobals | ⟨fn, given, v, next, hcontrol, hglobals⟩
  · exact h.step_of_eq (by rw [hglobals])
  · by_cases hlower : asciiLower given = asciiLower name
    · obtain ⟨d, hd, hdc, hbegins⟩ := horigin fn _ hcontrol
      refine .inr ⟨d, given, v, hd, hdc.then_step rfl, setsGlobal_of_begins hbegins, hlower, ?_⟩
      rw [hglobals, Table.get?_put, if_pos hlower]
    · exact h.step_of_eq (by rw [hglobals, Table.get?_put, if_neg hlower])

/-- Where no call is admitted any more, an evaluation is over at once. -/
theorem step_beginning_of_too_deep (h : s.limits.maxDepth < s.depth) (f : Formula) :
    ∃ r t, step (beginning f s) = halt r t ∧ t.scope = s.scope := by
  cases f with
  | field name =>
    refine ⟨_, _, rfl, ?_⟩
    rw [fieldValue_snd]
    rfl
  | call name args =>
    have htoo : ¬ s.depth + 1 ≤ s.limits.maxDepth := by omega
    refine ⟨.error (.failure { s.tooDeep with function := some name }), s, ?_, rfl⟩
    change start (.call name args) [] s = _
    rw [start, Session.tryEnter, if_neg htoo]
    rfl
  | _ => exact ⟨_, s, rfl, rfl⟩

/-- Where there was a frame, there is one at every moment. -/
theorem frames_ne_nil {f : Formula} (hs : s.scope.frames ≠ []) (hc : Leads (beginning f s) c) :
    c.session.scope.frames ≠ [] := by
  rcases Nat.lt_or_ge s.limits.maxDepth s.depth with hdeep | hdepth
  · obtain ⟨r, t, hstep, hscope⟩ := step_beginning_of_too_deep hdeep f
    obtain ⟨n, rfl⟩ := hc
    cases n with
    | zero => exact hs
    | succ n =>
      rw [Function.iterate_succ_apply, hstep, iterate_halt]
      change t.scope.frames ≠ []
      rwa [hscope]
  · have hlength := (accounted_of_leads (accounted_beginning hdepth f) hc).length_frames_le
    have hpos := List.length_pos_iff.2 hs
    exact List.length_pos_iff.1 (by omega)

/-- **Globals change by global `Set`s alone**, at every moment. -/
theorem globals_by_set {f : Formula} (hs : s.scope.frames ≠ []) (hc : Leads (beginning f s) c)
    (name : String) : Explained (beginning f s) c name := by
  obtain ⟨n, rfl⟩ := hc
  induction n with
  | zero => exact .inl rfl
  | succ n ih =>
    have hbefore : Leads (beginning f s) (step^[n] (beginning f s)) := ⟨n, rfl⟩
    rw [Function.iterate_succ_apply']
    exact ih.step (frames_ne_nil hs hbefore) fun fn a ha => origin hbefore ha

end Course

/-- **No variable leaks out of a scope.** An evaluation, however it ends,
leaves the names that every frame but the innermost binds as they are,
and takes none away from the innermost or from the globals. Once its
arguments are there, the body of a function binds no name in any frame of
the caller, nor does the visit to a message: what changes in these frames
is the value of a name that the frame had. And if there is a frame at
all, then at every moment, the end included, each global is as it was or
has been given its value by a global `Set` or `Variable` on the way. -/
theorem variables_stay_in_their_scope (s : Session) :
    (∀ patience f, Scope.Keeps s.scope (s.evaluate patience f).2.scope) ∧
    (∀ patience levels name args body vs t, s.functions.get? name = some body →
      evalArgs (eval patience levels) args s = (.ok vs, t) →
      (callUser (eval patience levels) name args s).2.scope.frames.map Frame.binds =
        t.scope.frames.map Frame.binds) ∧
    (∀ patience levels key body found,
      (visit (eval patience levels) key body found s).2.scope.frames.map Frame.binds =
        s.scope.frames.map Frame.binds) ∧
    (s.scope.frames ≠ [] → ∀ f,
      (∀ c, Course.Leads (Course.beginning f s) c →
        ∀ name, Course.Explained (Course.beginning f s) c name) ∧
      ∀ patience r t, s.evaluate patience f = (r, t) → r ≠ .error .unfinished →
        ∀ name, Course.Explained (Course.beginning f s) (Course.halt r t) name) := by
  refine ⟨fun patience f => keeps_eval patience _ f s,
    fun _ _ _ _ _ _ _ hbody hargs => map_binds_callUser hbody hargs,
    fun patience levels key body found => map_binds_visit patience levels key body found s,
    fun hs f => ⟨fun c hc => Course.globals_by_set hs hc, fun patience r t h hr => ?_⟩⟩
  exact Course.globals_by_set hs (Course.leads_halt_of_evaluate h hr)

/-- Binds a name of its own, one that the caller has, and a global. -/
def spilling : Formula :=
  .call "Progn" [.call "Set" [.text "own", .number 1], .call "Set" [.text "Shared", .number 2],
    .call "Variable" [.text "everywhere", .number 3, .number 1]]

/-- A session with that function, and with a frame that binds one name. -/
def spilled : Session :=
  { functions := ({} : Table Formula).put "Spill" spilling
    scope := { frames := [{ vars := ({} : Table Value).put "shared" (.number 0) }] } }

/-- The frame of the caller still binds the one name, and the globals are
explained at every moment. -/
theorem spilled_keeps_names :
    (spilled.functions.get? "spill" = some spilling ∧
      evalArgs (eval 0 3) [] spilled = (.ok [], spilled) ∧ spilled.scope.frames ≠ []) ∧
    (callUser (eval 0 3) "spill" [] spilled).2.scope.frames.map Frame.binds =
      spilled.scope.frames.map Frame.binds ∧
    ∀ c, Course.Leads (Course.beginning (.call "spill" []) spilled) c →
      ∀ name, Course.Explained (Course.beginning (.call "spill" []) spilled) c name := by
  have hbody : spilled.functions.get? "spill" = some spilling := by
    rw [spilled, Table.get?_put, if_pos (by decide)]
  obtain ⟨-, hcall, -, hglobals⟩ := variables_stay_in_their_scope spilled
  exact ⟨⟨hbody, rfl, nofun⟩, hcall 0 3 "spill" [] spilling [] spilled hbody rfl,
    (hglobals nofun (.call "spill" [])).1⟩

end MailFormula
