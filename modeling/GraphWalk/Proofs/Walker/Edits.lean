import GraphWalk.Proofs.Store.Run
import GraphWalk.Walker.Step

/-!
# What bodies do to the graph

Bodies act on the graph only through the changes they ask for. `requestEdits` are
those of one request, `programEdits` those of a program run to its end,
`dispatchEdits` and `phasesEdits` those of the bodies of a phase and of a step, all in
order. The `_store` lemmas say that the store a body leaves is the store it found
after just these changes; the `_stays` lemmas that a body does not move, end or
replace a walker.

A step either ends its walker where it stands, and takes its pin off, or moves it to
a live position, which is pinned before the old one is let go (`Leaves`). It does
nothing else to the graph than what the bodies ask for (`stepEdits`), and nothing to
other walkers: `stepWalker_leaves` says so of every step that is taken, and
`stepWalker_rests` that a step that is not taken changes nothing.
-/

namespace GraphWalk

namespace Store

/-- Several changes, one after the other. -/
def editAll (s : Store) (es : List Edit) : Store := s.run (es.map .edit)

theorem editAll_append (s : Store) (es es' : List Edit) :
    s.editAll (es ++ es') = (s.editAll es).editAll es' := by
  unfold editAll run
  rw [List.map_append, List.foldl_append]

end Store

namespace Visit

open Store (Edit)

/-- The change of the graph that a request leads to. -/
def requestEdits (o : Occasion) (side : Side) (v : Visit) : Request → List Edit
  | .setField t name value =>
    if onWalker side t then []
    else match (v.fieldsOf side t).set name value with
      | .ok f => [.setFields o.position f]
      | .error _ => []
  | .createNode arch init =>
    match v.engine.registry.lookup ⟨.node, arch⟩ with
    | .ok a => [.createNode a init]
    | .error _ => []
  | .connect arch source target init =>
    match v.engine.registry.lookup ⟨.edge, arch⟩ with
    | .ok a => [.createEdge a source target a.directed init]
    | .error _ => []
  | .delete h => [.delete h]
  | _ => []

/-- The changes that a program asks for. -/
def programEdits {α : Type} (o : Occasion) (side : Side) : Program α → Visit → List Edit
  | .ask r next, v =>
    v.requestEdits o side r ++
      programEdits o side (next (v.answer o side r).2) (v.answer o side r).1
  | _, _ => []

def invokeEdits (v : Visit) (here : ArchKey) (event : Event) (inv : Invocation) (body : Body) :
    List Edit :=
  let o := v.occasion here event inv
  programEdits o inv.side (body.run o) (v.observed o.position (.ability o.path event inv.side))

/-- The changes that the bodies of a phase ask for. -/
def dispatchEdits (here : ArchKey) (event : Event) : List Invocation → Visit → List Edit
  | [], _ => []
  | inv :: rest, v => match inv.ability.bound with
    | none =>
      dispatchEdits here event rest
        (v.logged ⟨.debug, "Skipping abstract ability.",
          [("ability", .text inv.ability.path.text)]⟩)
    | some (body, _) =>
      v.invokeEdits here event inv body ++
        match v.invoke here event inv body with
        | (_, some _) => []
        | (v', none) => if v'.walker.isDisengaged then [] else dispatchEdits here event rest v'

/-- The changes that the bodies of the phases that are left ask for. -/
def phasesEdits (here : Architype) : List Event → Visit → List Edit
  | [], _ => []
  | event :: rest, v =>
    let (table, invs) :=
      v.engine.table.lookup v.engine.registry.epoch v.walker.arch here event
    let v := { v with engine := { v.engine with table } }
    dispatchEdits here.key event invs v ++
      match dispatch here.key event invs v with
      | (_, _, some _) => []
      | (v', _, none) => if v'.walker.isDisengaged then [] else phasesEdits here rest v'

/-- The walker of `v'` is where and what it was in `v`, and so are all others. -/
structure Stays (v v' : Visit) : Prop where
  walkers : v'.engine.walkers = v.engine.walkers
  position : v'.walker.position = v.walker.position
  state : v'.walker.state = v.walker.state

variable {v v' v'' : Visit} {o : Occasion} {side : Side}

theorem Stays.refl (v : Visit) : v.Stays v := ⟨rfl, rfl, rfl⟩

theorem Stays.trans (h : v.Stays v') (h' : v'.Stays v'') : v.Stays v'' :=
  ⟨h'.walkers.trans h.walkers, h'.position.trans h.position, h'.state.trans h.state⟩

theorem observed_stays (v : Visit) (position : Handle) (m : Moment) :
    v.Stays (v.observed position m) := ⟨rfl, rfl, rfl⟩

theorem logged_stays (v : Visit) (r : LogRecord) : v.Stays (v.logged r) := ⟨rfl, rfl, rfl⟩

theorem createdBy_stays (key : ArchKey) (create : Architype → Except StoreError (Store × Handle)) :
    v.Stays (v.createdBy key create).1 := by
  unfold createdBy
  split
  · exact Stays.refl v
  · split
    · exact Stays.refl v
    · exact ⟨rfl, rfl, rfl⟩

/-- A creation leaves the store that creates, or the old one if it is refused. -/
theorem createdBy_store (key : ArchKey) (create : Architype → Except StoreError (Store × Handle)) :
    (v.createdBy key create).1.engine.store =
      match v.engine.registry.lookup key with
      | .ok a => v.engine.store.orKeep ((create a).map (·.1))
      | .error _ => v.engine.store := by
  unfold createdBy
  cases v.engine.registry.lookup key with
  | error e => rfl
  | ok a =>
    simp only
    cases create a <;> rfl

/-- No request moves, ends or replaces a walker. -/
theorem answer_stays (r : Request) : v.Stays (v.answer o side r).1 := by
  cases r with
  | setField t name value =>
    simp only [answer]
    split
    · unfold withFields
      split <;> exact ⟨rfl, rfl, rfl⟩
    · exact Stays.refl v
  | visit first targets =>
    simp only [answer]
    split <;> exact ⟨rfl, rfl, rfl⟩
  | createNode arch init => exact createdBy_stays _ _
  | connect arch source target init => exact createdBy_stays _ _
  | delete h =>
    simp only [answer]
    split <;> exact ⟨rfl, rfl, rfl⟩
  | global name =>
    simp only [answer]
    split <;> exact ⟨rfl, rfl, rfl⟩
  | setGlobal name value =>
    simp only [answer]
    split
    · exact Stays.refl v
    · split <;> exact ⟨rfl, rfl, rfl⟩
  | _ => exact ⟨rfl, rfl, rfl⟩

/-- **A request changes the graph as it says.** -/
theorem answer_store (r : Request) :
    (v.answer o side r).1.engine.store = v.engine.store.editAll (v.requestEdits o side r) := by
  cases r with
  | setField t name value =>
    simp only [answer, requestEdits]
    by_cases hw : onWalker side t = true
    · rw [if_pos hw]
      cases (v.fieldsOf side t).set name value with
      | ok f => simp only; unfold withFields; rw [if_pos hw]; rfl
      | error e => rfl
    · rw [if_neg hw]
      cases (v.fieldsOf side t).set name value with
      | ok f => simp only; unfold withFields; rw [if_neg hw]; rfl
      | error e => rfl
  | visit first targets =>
    simp only [answer]
    split <;> rfl
  | createNode arch init =>
    simp only [answer, requestEdits, createdBy_store]
    cases v.engine.registry.lookup ⟨.node, arch⟩ with
    | error e => rfl
    | ok a =>
      show v.engine.store.orKeep
          (((v.engine.store.createNode a init).map fun p => (p.1, p.2.id)).map (·.1)) =
        v.engine.store.orKeep ((v.engine.store.createNode a init).map (·.1))
      cases v.engine.store.createNode a init <;> rfl
  | connect arch source target init =>
    simp only [answer, requestEdits, createdBy_store]
    cases v.engine.registry.lookup ⟨.edge, arch⟩ with
    | error e => rfl
    | ok a =>
      show v.engine.store.orKeep
          (((v.engine.store.createEdge a source target a.directed init).map
            fun p => (p.1, p.2.id)).map (·.1)) =
        v.engine.store.orKeep
          ((v.engine.store.createEdge a source target a.directed init).map (·.1))
      cases v.engine.store.createEdge a source target a.directed init <;> rfl
  | delete h =>
    simp only [answer, requestEdits]
    show _ = v.engine.store.orKeep (v.engine.store.delete h)
    cases v.engine.store.delete h <;> rfl
  | global name =>
    simp only [answer]
    split <;> rfl
  | setGlobal name value =>
    simp only [answer]
    split
    · rfl
    · split <;> rfl
  | _ => rfl

/-- Nor does a program. -/
theorem run_stays {α : Type} (p : Program α) :
    ∀ v : Visit, v.Stays (v.run o side p).1 := by
  induction p with
  | ask r next ih =>
    intro v
    exact (answer_stays r).trans (ih _ _)
  | _ => exact fun v => Stays.refl v

/-- **A program changes the graph by what it asks for**, in order. -/
theorem run_store {α : Type} (p : Program α) :
    ∀ v : Visit, (v.run o side p).1.engine.store =
      v.engine.store.editAll (programEdits o side p v) := by
  -- what is asked next depends on the answer, so the visit varies in the induction
  induction p with
  | ask r next ih =>
    intro v
    simp only [programEdits, Store.editAll_append, ← answer_store]
    exact ih _ _
  | _ => exact fun v => rfl

variable (here : ArchKey) (event : Event)

/-- Invoking a body leaves what its program leaves, however it ends. -/
theorem invoke_fst (v : Visit) (inv : Invocation) (body : Body) :
    (v.invoke here event inv body).1 =
      ((v.observed v.walker.position
        (.ability inv.ability.path event inv.side)).run (v.occasion here event inv) inv.side
          (body.run (v.occasion here event inv))).1 := by
  unfold invoke
  simp only
  split <;> simp_all [occasion]

theorem invoke_stays (v : Visit) (inv : Invocation) (body : Body) :
    v.Stays (v.invoke here event inv body).1 := by
  rw [invoke_fst]
  exact (observed_stays v _ _).trans (run_stays _ _)

theorem invoke_store (v : Visit) (inv : Invocation) (body : Body) :
    (v.invoke here event inv body).1.engine.store =
      v.engine.store.editAll (v.invokeEdits here event inv body) := by
  rw [invoke_fst, run_store]
  rfl

theorem dispatch_stays (invs : List Invocation) :
    ∀ v : Visit, v.Stays (dispatch here event invs v).1 := by
  induction invs with
  | nil => exact fun v => Stays.refl v
  | cons inv rest ih =>
    intro v
    unfold dispatch
    cases inv.ability.bound with
    | none => exact (logged_stays v _).trans (ih _)
    | some bound =>
      have := v.invoke_stays here event inv bound.1
      simp only
      cases h : v.invoke here event inv bound.1 with
      | mk v' fault =>
        rw [h] at this
        cases fault with
        | some f => exact this
        | none =>
          simp only
          -- a body that disengages is the last one of the phase
          split
          · exact this
          · exact this.trans (ih _)

/-- **The bodies of a phase change the graph by what they ask for.** -/
theorem dispatch_store (invs : List Invocation) :
    ∀ v : Visit, (dispatch here event invs v).1.engine.store =
      v.engine.store.editAll (dispatchEdits here event invs v) := by
  induction invs with
  | nil => exact fun v => rfl
  | cons inv rest ih =>
    intro v
    unfold dispatch dispatchEdits
    cases inv.ability.bound with
    | none => exact ih _
    | some bound =>
      have := v.invoke_store here event inv bound.1
      simp only
      rw [Store.editAll_append, ← this]
      cases h : v.invoke here event inv bound.1 with
      | mk v' fault =>
        cases fault with
        | some f => rfl
        | none =>
          simp only
          split
          · rfl
          · exact ih _

end Visit

/-! ## What a step leaves -/

open Store (Edit)

namespace Visit

/-- Left after the changes `es`: the walker has ended, or it has moved on. -/
inductive Leaves (v : Visit) (es : List Edit) (v' : Visit) : Prop where
  | ended (walkers : v'.engine.walkers = v.engine.walkers)
      (store : v'.engine.store = (v.engine.store.editAll es).unpin v.walker.position)
      (position : v'.walker.position = v.walker.position)
      (state : v'.walker.state.isTerminal = true)
  | moved (s : Store) (walkers : v'.engine.walkers = v.engine.walkers)
      (pinned : (v.engine.store.editAll es).pin v'.walker.position = .ok s)
      (store : v'.engine.store = s.unpin v.walker.position)
      (state : v'.walker.state.isTerminal = false)

variable {v v' v'' : Visit} {es : List Edit}

/-- What is left after `es` and then `es'` is left after both. -/
theorem Leaves.after {es' : List Edit} (h : v.Stays v')
    (hs : v'.engine.store = v.engine.store.editAll es) (hl : v'.Leaves es' v'') :
    v.Leaves (es ++ es') v'' := by
  cases hl with
  | ended hw hst hp ht =>
    rw [hs, ← Store.editAll_append, h.position] at hst
    exact .ended (hw.trans h.walkers) hst (hp.trans h.position) ht
  | moved s hw hpin hst ht =>
    rw [hs, ← Store.editAll_append] at hpin
    rw [h.position] at hst
    exact .moved s (hw.trans h.walkers) hpin hst ht

/-- What is left of a visit that only told or noted something. -/
theorem Leaves.of_stays (h : v.Stays v') (hs : v'.engine.store = v.engine.store)
    (hl : v'.Leaves es v'') : v.Leaves es v'' := by
  have hs' : v'.engine.store = v.engine.store.editAll [] := hs
  exact Leaves.after h hs' hl

/-- The search for the next position: where it stops, the position is pinned; if it
finds none, nothing has changed. -/
theorem advance_spec (queue : List Handle) :
    ∀ v : Visit, v.walker.state.isTerminal = false →
      ((advance queue v).2 = true ∧ v.Leaves [] (advance queue v).1) ∨
      ((advance queue v).2 = false ∧ v.Stays (advance queue v).1 ∧
        (advance queue v).1.engine.store = v.engine.store) := by
  induction queue with
  | nil => exact fun v _ => Or.inr ⟨rfl, ⟨rfl, rfl, rfl⟩, rfl⟩
  | cons h rest ih =>
    intro v ha
    -- an entry that is skipped leaves a visit in which the search goes on
    have skip : ∀ v' : Visit, v.Stays v' → v'.engine.store = v.engine.store →
        ((advance rest v').2 = true ∧ v.Leaves [] (advance rest v').1) ∨
        ((advance rest v').2 = false ∧ v.Stays (advance rest v').1 ∧
          (advance rest v').1.engine.store = v.engine.store) := by
      intro v' hst hs
      rcases ih v' (by rw [hst.state]; exact ha) with ⟨hb, hl⟩ | ⟨hb, hst', hs'⟩
      · exact Or.inl ⟨hb, hl.of_stays hst hs⟩
      · exact Or.inr ⟨hb, hst.trans hst', hs'.trans hs⟩
    unfold advance
    -- an entry is skipped if it is ignored or not live any more
    split
    · exact skip _ (observed_stays v _ _) rfl
    · cases hp : v.engine.store.pin h with
      | error e =>
        exact skip _ ((logged_stays v _).trans (observed_stays _ _ _)) rfl
      | ok s => exact Or.inl ⟨rfl, .moved s rfl hp rfl ha⟩

/-- A walker that finishes has ended where it stood. -/
theorem finish_leaves (v : Visit) (ending : Ending) (invoked : Nat) (cause : Option Fault) :
    v.Leaves [] (v.finish ending invoked cause).1 := by
  refine .ended rfl rfl rfl ?_
  cases ending <;> rfl

/-- At the end of a step the walker moves on, or has ended if it has nowhere to go. -/
theorem conclude_leaves (ha : v.walker.state.isTerminal = false) (invoked : Nat)
    (cause : Option Fault) : v.Leaves [] (v.conclude invoked cause).1 := by
  unfold conclude
  cases h : advance v.walker.queue v with
  | mk v' found =>
    have := advance_spec v.walker.queue v ha
    rw [h] at this
    rcases this with ⟨rfl, hl⟩ | ⟨rfl, hst, hs⟩
    · exact hl
    · exact (finish_leaves v' .completed invoked cause).of_stays hst hs

/-- A fault ends the walker, or is noted and the step goes on to its end. -/
theorem afterFault_leaves (ha : v.walker.state.isTerminal = false) (event : Event)
    (invoked : Nat) (f : Fault) : v.Leaves [] (v.afterFault event invoked f).1 := by
  unfold afterFault
  simp only
  split
  · refine Leaves.of_stays ?_ ?_ (finish_leaves _ _ _ _)
    · exact ⟨rfl, rfl, rfl⟩
    · rfl
  · refine Leaves.of_stays ?_ ?_ (conclude_leaves ?_ _ _)
    · exact ⟨rfl, rfl, rfl⟩
    · rfl
    · exact ha

/-- **The phases of a step** end the walker or move it, after what the bodies ask for. -/
theorem phases_leaves (here : Architype) (events : List Event) :
    ∀ (v : Visit) (invoked : Nat), v.walker.state.isTerminal = false →
      v.Leaves (phasesEdits here events v) (phases here events v invoked).1 := by
  induction events with
  | nil => exact fun v invoked ha => conclude_leaves ha invoked none
  | cons event rest ih =>
    intro v invoked ha
    unfold phases phasesEdits
    cases v.engine.table.lookup v.engine.registry.epoch v.walker.arch here event with
    | mk table invs =>
      simp only
      let u : Visit := { v with engine := { v.engine with table } }
      have hst := dispatch_stays here.key event invs u
      have hs := dispatch_store here.key event invs u
      cases hd : dispatch here.key event invs u with
      | mk v' r =>
        rw [hd] at hst hs
        have hu : v.Stays u := ⟨rfl, rfl, rfl⟩
        have hv : v.Stays v' := hu.trans hst
        have ha' : v'.walker.state.isTerminal = false := by rw [hv.state]; exact ha
        obtain ⟨n, cause⟩ := r
        refine Leaves.after hv hs ?_
        -- after a fault or a disengagement no further phase asks for anything
        cases cause with
        | some f =>
          simp only
          split
          · exact finish_leaves v' _ _ _
          · exact afterFault_leaves ha' event _ f
        | none =>
          by_cases hdis : v'.walker.isDisengaged = true
          · simp only [hdis, if_true]
            exact finish_leaves v' _ _ _
          · simp only [if_neg hdis]
            exact ih v' _ ha'

end Visit

namespace Engine

/-- The changes that a step asks for. -/
def stepEdits (e : Engine) (cancelled : Bool) (w : Walker) : List Edit :=
  match settled? w with
  | some _ => []
  | none =>
    if cancelled then []
    else
      let v : Visit := ⟨e, { w with state := .active, steps := w.steps + 1 }, .empty⟩
      match e.store.instanceAt w.position with
      | .error _ => []
      | .ok inst =>
        let v := { v with here := inst.fields }
        let v := v.logged ⟨.debug, "Visiting position.", [("position", .text w.position.text),
          ("arch", .text inst.arch.name)]⟩
        Visit.phasesEdits inst.arch [.entry, .exit] (v.observed w.position .visit)

variable {e : Engine} {w : Walker} {cancelled : Bool}

theorem settled?_isSome : (settled? w).isSome = w.state.isTerminal := by
  unfold settled?
  cases w.state <;> rfl

/-- A walker that has ended, or whose step is cancelled, stays as it is. -/
theorem stepWalker_rests (h : w.state.isTerminal = true ∨ cancelled = true) :
    (e.stepWalker cancelled w).1 = ⟨e, w, .empty⟩ ∧ e.stepEdits cancelled w = [] := by
  rw [← settled?_isSome] at h
  unfold stepWalker stepEdits
  cases hs : settled? w with
  | some outcome => exact ⟨rfl, rfl⟩
  | none =>
    rcases h with h | rfl
    · rw [hs] at h; cases h
    · exact ⟨rfl, rfl⟩

/-- **A step that is taken** ends its walker or moves it, after what the bodies ask for. -/
theorem stepWalker_leaves (h : w.state.isTerminal = false) :
    (⟨e, w, .empty⟩ : Visit).Leaves (e.stepEdits false w) (e.stepWalker false w).1 := by
  rw [← settled?_isSome] at h
  unfold stepWalker stepEdits
  cases hs : settled? w with
  | some outcome => rw [hs] at h; cases h
  | none =>
    simp only [Bool.false_eq_true, if_false]
    cases e.store.instanceAt w.position with
    | error err =>
      refine .ended rfl rfl rfl rfl
    | ok inst =>
      simp only
      have := Visit.phases_leaves inst.arch [.entry, .exit]
        (((⟨e, { w with state := .active, steps := w.steps + 1 }, inst.fields⟩ : Visit).logged
          ⟨.debug, "Visiting position.", [("position", .text w.position.text),
            ("arch", .text inst.arch.name)]⟩).observed w.position .visit) 0 rfl
      cases this with
      | ended hw hst hp ht => exact .ended hw hst hp ht
      | moved s hw hpin hst ht => exact .moved s hw hpin hst ht

end Engine

end GraphWalk
