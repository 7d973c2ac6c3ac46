import GraphWalk.Proofs.Walker.Edits

/-!
# Pins and walkers

`Command` lists what can be done with an engine and its graph: walkers are spawned and
stepped, and the graph is changed from outside. `Engine.OK n` is the invariant after
`n` calls of the store: the graph is in order, and every handle is pinned as often as
walkers that have not ended stand on it. `act_ok` keeps it along one command and
`acts_ok` along a run.

Main result: `accounted_of_run`. **A walker that has not ended stands on a live
instance, whatever was deleted meanwhile, and no pin is lost or left behind.**
-/

namespace GraphWalk

open Store (Edit)

/-- Whether a walker is still there at a handle: it stands on it and has not ended. -/
def Walker.stands (w : Walker) (h : Handle) : Bool := !w.state.isTerminal && w.position == h

/-- The number of walkers that stand on a handle. -/
def standing (ws : List Walker) (h : Handle) : Nat := ws.countP (·.stands h)

namespace Engine

inductive Command where
  | spawn (a : Architype) (start : Handle) (args : List (String × Value))
  | step (cancelled : Bool) (i : Nat)
  /-- The graph is changed from outside. -/
  | edit (e : Edit)

/-- A new engine over an empty graph. -/
def new (registry : Registry) (globals : Option GlobalTable) (haltOnError : Bool)
    (surroundings : Surroundings) : Engine :=
  { store := .empty, registry, globals, haltOnError, table := [], walkers := [], named := 0,
    signals := #[], surroundings }

/-- The engine that a command leaves: the old one if it is refused. -/
def act (e : Engine) : Command → Engine
  | .spawn a start args => match e.spawn a start args with
    | .ok (e', _) => e'
    | .error _ => e
  | .step cancelled i => match e.step cancelled i with
    | some (e', _) => e'
    | none => e
  | .edit ed => { e with store := e.store.edit ed }

/-- The changes of the graph that a command leads to. -/
def edits (e : Engine) : Command → List Edit
  | .spawn .. => []
  | .step cancelled i => match e.walkers[i]? with
    | some w => e.stepEdits cancelled w
    | none => []
  | .edit ed => [ed]

def acts (e : Engine) (as : List Command) : Engine := as.foldl act e

/-- The number of calls of the store, other than for pins, that a run makes. -/
def calls : Engine → List Command → Nat
  | _, [] => 0
  | e, a :: as => (e.edits a).countP Edit.isCall + calls (e.act a) as

variable {e e' : Engine} {w w' : Walker} {ws : List Walker} {h : Handle} {i n : Nat}

/-- **The invariant** of an engine after `n` calls of its store. -/
structure OK (n : Nat) (e : Engine) : Prop where
  store : ∃ created, e.store.OK n created
  balanced : ∀ h, e.store.pinCount h = standing e.walkers h

/-- What a walker that is replaced adds to the count, and what it takes away. -/
theorem standing_set (hw : ws[i]? = some w) (w' : Walker) (h : Handle) :
    standing (ws.set i w') h + (if w.stands h then 1 else 0) =
      standing ws h + (if w'.stands h then 1 else 0) := by
  obtain ⟨hi, rfl⟩ := List.getElem?_eq_some_iff.1 hw
  unfold standing
  rw [List.countP_set hi]
  have hpos : ws[i].stands h = true → 0 < ws.countP (·.stands h) := fun hs =>
    List.countP_pos_iff.2 ⟨ws[i], List.getElem_mem hi, hs⟩
  by_cases hs : ws[i].stands h = true
  · have := hpos hs
    simp only [hs, if_true]
    omega
  · simp only [hs]
    simp

theorem stands_of_active (ha : w.state.isTerminal = false) (h : Handle) :
    w.stands h = (w.position == h) := by
  unfold Walker.stands
  rw [ha]
  rfl

theorem stands_of_ended (ht : w.state.isTerminal = true) (h : Handle) : w.stands h = false := by
  unfold Walker.stands
  rw [ht]
  rfl

/-- Changes of the graph set no pin and take none off. -/
theorem pinCount_editAll (s : Store) (es : List Edit) (h : Handle) :
    (s.editAll es).pinCount h = s.pinCount h := by
  induction es generalizing s with
  | nil => rfl
  | cons ed es ih =>
    refine (ih (s.edit ed)).trans ?_
    unfold Store.pinCount
    rw [Store.edit_pins]

theorem pinCount_unpin (s : Store) (p h : Handle) :
    (s.unpin p).pinCount h = s.pinCount h - if p == h then 1 else 0 := by
  unfold Store.pinCount Store.unpin
  rw [List.count_erase]

theorem pinCount_pin {s t : Store} {p : Handle} (hp : s.pin p = .ok t) (h : Handle) :
    t.pinCount h = s.pinCount h + if p == h then 1 else 0 := by
  obtain ⟨-, rfl⟩ := Store.pin_eq hp
  unfold Store.pinCount
  rw [List.count_cons]

theorem editAll_ok {s : Store} {created : List Handle} (ok : s.OK n created) (es : List Edit)
    (hn : n + es.countP Edit.isCall < UInt32.size - 1) :
    ∃ created', (s.editAll es).OK (n + es.countP Edit.isCall) created' := by
  have hcalls : Store.calls (es.map .edit) = es.countP Edit.isCall := by
    unfold Store.calls
    rw [List.countP_map]
    rfl
  have := Store.run_ok (es.map .edit) ok (by rw [hcalls]; exact hn)
  rw [hcalls] at this
  exact ⟨_, this⟩

/-- **A step keeps the balance**: the pin of the old position goes when the walker goes. -/
theorem balanced_of_leaves {es : List Edit} {v : Visit} {here : Fields}
    (hb : ∀ h, e.store.pinCount h = standing e.walkers h) (hw : e.walkers[i]? = some w)
    (ha : w.state.isTerminal = false) (hl : (⟨e, w, here⟩ : Visit).Leaves es v) (h : Handle) :
    v.engine.store.pinCount h = standing (v.engine.walkers.set i v.walker) h := by
  -- the walker is replaced by what it has become, which stands elsewhere or has ended
  have hset := standing_set hw v.walker h
  have hbal := hb h
  have hpos : w.stands h = true → 0 < standing e.walkers h := fun hs =>
    List.countP_pos_iff.2 ⟨w, List.mem_of_getElem? hw, hs⟩
  rw [stands_of_active ha] at hset hpos
  cases hl with
  | ended hws hst hp ht =>
    rw [stands_of_ended ht] at hset
    rw [hws, hst, pinCount_unpin, pinCount_editAll]
    simp only [Bool.false_eq_true, if_false] at hset ⊢
    omega
  | moved s hws hpin hst ht =>
    rw [stands_of_active ht] at hset
    rw [hws, hst, pinCount_unpin, pinCount_pin hpin, pinCount_editAll]
    simp only at hset ⊢
    omega

/-- **What spawning that succeeds** has checked, and what it does. -/
theorem spawn_eq_ok {a : Architype} {start : Handle} {args : List (String × Value)}
    (hs : e.spawn a start args = .ok (e', w)) :
    ∃ fields s, Fields.new a.effectiveFields args = .ok fields ∧ e.store.pin start = .ok s ∧
      w = { id := e.surroundings.walkerId e.named, arch := a, fields, args := .ofAttrs args,
            state := .ready, position := start, queue := [], ignored := [], reports := [],
            faults := [], steps := 0, isDisengaged := false } ∧
      e' = ({ e with store := s, walkers := e.walkers ++ [w], named := e.named + 1 }.logged
        ⟨.debug, "Walker spawned.", [("walker", .text w.id), ("arch", .text a.name),
          ("start", .text start.text)]⟩).observed w start .spawn := by
  unfold spawn at hs
  split at hs
  · cases hs
  · split at hs
    · cases hs
    · rename_i fields hf
      split at hs
      · cases hs
      · rename_i s hp
        cases hs
        exact ⟨fields, s, hf, hp, rfl, rfl⟩

/-- A walker that is spawned is ready where it starts, and its start is pinned. -/
theorem spawn_eq {a : Architype} {start : Handle} {args : List (String × Value)}
    (hs : e.spawn a start args = .ok (e', w)) :
    ∃ s, e.store.pin start = .ok s ∧ e'.store = s ∧ e'.walkers = e.walkers ++ [w] ∧
      w.position = start ∧ w.state = .ready := by
  obtain ⟨fields, s, -, hp, rfl, rfl⟩ := spawn_eq_ok hs
  exact ⟨s, hp, rfl, rfl, rfl, rfl⟩

theorem OK.spawn (ok : e.OK n) {a : Architype} {start : Handle} {args : List (String × Value)}
    (hs : e.spawn a start args = .ok (e', w)) : e'.OK n := by
  obtain ⟨s, hp, rfl, hws, hpos, hst⟩ := spawn_eq hs
  obtain ⟨created, hok⟩ := ok.store
  refine ⟨⟨created, hok.pin hp⟩, fun h => ?_⟩
  have ha : w.state.isTerminal = false := by rw [hst]; rfl
  rw [pinCount_pin hp, ok.balanced h, hws]
  unfold standing
  rw [List.countP_append, List.countP_singleton, stands_of_active ha, hpos]

theorem OK.step (ok : e.OK n) (cancelled : Bool) (hw : e.walkers[i]? = some w)
    (hn : n + (e.stepEdits cancelled w).countP Edit.isCall < UInt32.size - 1) :
    ({ (e.stepWalker cancelled w).1.engine with
        walkers := (e.stepWalker cancelled w).1.engine.walkers.set i
          (e.stepWalker cancelled w).1.walker } : Engine).OK
      (n + (e.stepEdits cancelled w).countP Edit.isCall) := by
  by_cases hr : w.state.isTerminal = true ∨ cancelled = true
  · -- nothing happens: the walker is put back where it was
    obtain ⟨hrest, hnone⟩ := stepWalker_rests (e := e) hr
    obtain ⟨hi, rfl⟩ := List.getElem?_eq_some_iff.1 hw
    rw [hrest, hnone]
    refine ⟨ok.store, fun h => ?_⟩
    simp only [List.set_getElem_self]
    exact ok.balanced h
  · obtain ⟨ha, hc⟩ := not_or.1 hr
    rw [Bool.not_eq_true] at ha hc
    subst hc
    have hl := stepWalker_leaves (e := e) ha
    refine ⟨?_, balanced_of_leaves ok.balanced hw ha hl⟩
    obtain ⟨created, hok⟩ := ok.store
    obtain ⟨created', hok'⟩ := editAll_ok hok _ hn
    cases hl with
    | ended hws hst hp ht => exact ⟨created', hst ▸ hok'.unpin _⟩
    | moved s hws hpin hst ht => exact ⟨created', hst ▸ (hok'.pin hpin).unpin _⟩

/-- **One command keeps the invariant.** -/
theorem act_ok (ok : e.OK n) (a : Command)
    (hn : n + (e.edits a).countP Edit.isCall < UInt32.size - 1) :
    (e.act a).OK (n + (e.edits a).countP Edit.isCall) := by
  cases a with
  | spawn a start args =>
    unfold act edits
    simp only
    split
    · rename_i hs
      exact ok.spawn hs
    · exact ok
  | step cancelled i =>
    unfold act edits at *
    simp only [Engine.step] at *
    cases hw : e.walkers[i]? with
    | none => exact ok
    | some w =>
      rw [hw] at hn
      exact ok.step cancelled hw hn
  | edit ed =>
    obtain ⟨created, hok⟩ := ok.store
    obtain ⟨created', hok'⟩ := editAll_ok hok [ed] hn
    refine ⟨⟨created', hok'⟩, fun h => ?_⟩
    exact (pinCount_editAll e.store [ed] h).trans (ok.balanced h)

/-- **A run keeps the invariant** while fewer than `2^32 - 1` calls are made. -/
theorem acts_ok (as : List Command) :
    ∀ {e : Engine} {n : Nat}, e.OK n → n + e.calls as < UInt32.size - 1 →
      (e.acts as).OK (n + e.calls as) := by
  induction as with
  | nil => exact fun ok _ => ok
  | cons a as ih =>
    intro e n ok hn
    have hcalls : e.calls (a :: as) = (e.edits a).countP Edit.isCall + (e.act a).calls as := rfl
    rw [hcalls, ← Nat.add_assoc] at hn ⊢
    exact ih (act_ok ok a (by omega)) hn

theorem new_ok {registry : Registry} {globals : Option GlobalTable} {haltOnError : Bool}
    {surroundings : Surroundings} : (new registry globals haltOnError surroundings).OK 0 :=
  ⟨⟨[], Store.empty_ok⟩, fun _ => rfl⟩

/-- The pins of an engine and its walkers account for each other. -/
structure Accounted (e : Engine) : Prop where
  /-- A handle is pinned once for each walker that stands on it and has not ended. -/
  pins : ∀ h, e.store.pinCount h = standing e.walkers h
  /-- A walker that has not ended stands on a live instance, so its step can start. -/
  live : ∀ w ∈ e.walkers, w.state.isTerminal = false →
    ∃ inst, e.store.instanceAt w.position = .ok inst
  /-- If it stands on an edge, then both ends of the edge are live nodes. -/
  ends : ∀ w ∈ e.walkers, w.state.isTerminal = false → ∀ x, e.store.edge? w.position = some x →
    (e.store.node? x.source).isSome = true ∧ (e.store.node? x.target).isSome = true
  /-- Spawning a walker in vain sets no pin and adds no walker. -/
  refused : ∀ a start args f, e.spawn a start args = .error f →
    (e.act (.spawn a start args)).store.pins = e.store.pins ∧
      (e.act (.spawn a start args)).walkers = e.walkers

/-- A walker that has not ended is one of those its pin is for. -/
theorem OK.pinned (ok : e.OK n) (hw : w ∈ e.walkers) (ha : w.state.isTerminal = false) :
    w.position ∈ e.store.pins := by
  have hpos : 0 < standing e.walkers w.position :=
    List.countP_pos_iff.2 ⟨w, hw, by rw [stands_of_active ha, beq_self_eq_true]⟩
  rw [← ok.balanced] at hpos
  exact List.count_pos_iff.1 hpos

/-- **The invariant accounts** for all pins. -/
theorem OK.accounted (ok : e.OK n) : e.Accounted := by
  obtain ⟨created, hok⟩ := ok.store
  refine ⟨ok.balanced, fun w hw ha => ?_, fun w hw ha x hx => ?_, fun a start args f hf => ?_⟩
  · exact Store.contains_instanceAt (hok.anchored _ (ok.pinned hw ha))
  · exact ⟨hok.joined.source hx, hok.joined.target hx⟩
  · simp only [act, hf, and_self]

/-- **Pin accounting**: in every state of every run from a new engine, with fewer than
`2^32 - 1` calls of the store, pins and walkers account for each other. -/
theorem accounted_of_run (registry : Registry) (globals : Option GlobalTable)
    (haltOnError : Bool) (surroundings : Surroundings) (as : List Command)
    (h : (new registry globals haltOnError surroundings).calls as < 2 ^ 32 - 1) :
    ((new registry globals haltOnError surroundings).acts as).Accounted := by
  have hsize : UInt32.size - 1 = 2 ^ 32 - 1 := rfl
  exact (acts_ok as new_ok (by omega)).accounted

/-- A walker is sent on by a body that then deletes the node under it, in vain; from
outside the node can be deleted once the walker has left. -/
def sweep : List Command :=
  let node := Architype.new "m" ⟨.node, "N"⟩
  let ability : Ability :=
    { name := "clear", signature := ⟨[], .entry, []⟩, isAbstract := false,
      bound := some (⟨.native, fun o => do
        Program.visit false [.node 1 1]
        Program.delete o.position⟩, "m"),
      declModule := "m", order := 0, owner := ⟨.walker, "W"⟩ }
  let walker := { Architype.new "m" ⟨.walker, "W"⟩ with linkedAbilities := [ability] }
  [.edit (.createNode node []), .edit (.createNode node []), .spawn walker (.node 0 1) [],
    .edit (.delete (.node 0 1)), .step false 0, .edit (.delete (.node 0 1)), .step false 0]

theorem accounted_sweep :
    (new .empty none false default).calls sweep < 2 ^ 32 - 1 ∧
      ((new .empty none false default).acts sweep).Accounted := by
  have h : (new .empty none false default).calls sweep < 2 ^ 32 - 1 := by decide +kernel
  exact ⟨h, accounted_of_run .empty none false default sweep h⟩

end Engine

end GraphWalk
