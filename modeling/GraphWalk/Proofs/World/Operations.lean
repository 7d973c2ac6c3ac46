import GraphWalk.Proofs.Snapshot.Restore
import GraphWalk.Proofs.World.Deeds

/-!
# The operations of a world's store

Whatever is done with a world, its store goes through operations: `Leads known s s'` says that
there are some from `s` to `s'` which bring along only such architypes.

* `restore_leads`, `buildNodes_leads`, `buildEdges_leads`: restoring a snapshot and building a
  graph create instances of records, and delete.
* `step_leads`: a step does what the bodies ask for, and moves the pin of its walker.

`Reaches w ops w'` says that deeds lead from `w` to `w'`, and that `ops` come to what they do to
the store.

Main result: `Later.reaches`. **Every deed runs operations**, so for whatever is done there is such
a list, and what holds of every run of operations holds of the store of every world.
-/

namespace GraphWalk

/-- What is found under a key is a record of the registry, and has the key. -/
theorem Registry.mem_of_lookup {r : Registry} {key : ArchKey} {a : Architype}
    (h : r.lookup key = .ok a) : a ∈ r.archs ∧ a.key = key := by
  unfold lookup at h
  split at h
  · rename_i b hf
    cases h
    exact ⟨List.mem_of_find?_eq_some hf, by simpa using List.find?_some hf⟩
  · cases h

/-! ## Stores -/

namespace Store

variable {s s' s'' t : Store} {known : Architype → Prop} {a : Architype}
  {init : List (String × Value)}

/-- Operations that bring along architypes of a kind only lead from a store to another. -/
def Leads (known : Architype → Prop) (s s' : Store) : Prop :=
  ∃ ops, (∀ op ∈ ops, ∀ a ∈ op.archs, known a) ∧ s.run ops = s'

theorem Leads.refl (known : Architype → Prop) (s : Store) : s.Leads known s :=
  ⟨[], fun _ hm => absurd hm List.not_mem_nil, rfl⟩

theorem Leads.trans (h : s.Leads known s') (h' : s'.Leads known s'') : s.Leads known s'' := by
  obtain ⟨ops, hops, rfl⟩ := h
  obtain ⟨ops', hops', rfl⟩ := h'
  refine ⟨ops ++ ops', fun op hm => ?_, run_append s ops ops'⟩
  exact (List.mem_append.1 hm).elim (hops op) (hops' op)

theorem Leads.any (h : s.Leads known s') : s.Leads (fun _ => True) s' :=
  let ⟨ops, _, hrun⟩ := h
  ⟨ops, fun _ _ _ _ => trivial, hrun⟩

theorem leads_perform (op : Operation) (h : ∀ a ∈ op.archs, known a) :
    s.Leads known (s.perform op) :=
  ⟨[op], fun _ hm => List.mem_singleton.1 hm ▸ h, rfl⟩

theorem leads_createNode (ha : known a) {x : Node} (h : s.createNode a init = .ok (t, x)) :
    s.Leads known t := by
  have hperform : s.perform (.edit (.createNode a init)) = t := by
    simp only [perform, edit, h]
    rfl
  exact hperform ▸ leads_perform _ fun b hb => List.mem_singleton.1 hb ▸ ha

theorem leads_createEdge (ha : known a) {source target : Handle} {directed : Bool} {x : Edge}
    (h : s.createEdge a source target directed init = .ok (t, x)) : s.Leads known t := by
  have hperform : s.perform (.edit (.createEdge a source target directed init)) = t := by
    simp only [perform, edit, h]
    rfl
  exact hperform ▸ leads_perform _ fun b hb => List.mem_singleton.1 hb ▸ ha

theorem leads_pin {h : Handle} (hp : s.pin h = .ok t) : s.Leads known t := by
  have hperform : s.perform (.pin h) = t := by
    simp only [perform, hp]
    rfl
  exact hperform ▸ leads_perform _ nofun

end Store

/-! ## Snapshots -/

namespace Snapshot

open Store (Leads leads_createNode leads_createEdge leads_perform)

variable {r : Registry}

/-- The nodes of a snapshot are created one after the other, up to the first failure. -/
theorem restoreNodes_leads (cs : List NodeCopy) : ∀ (s : Store) (m : HandleMap),
    s.Leads (· ∈ r.archs) (restoreNodes r cs s m).1 := by
  induction cs with
  | nil => exact fun s m => .refl _ s
  | cons c cs ih =>
    intro s m
    obtain ⟨stop, h⟩ | ⟨a, init, t, x, hl, -, hc, h⟩ := restoreNodes_cons (r := r) c cs s m
    · rw [h]
      exact .refl _ s
    · rw [h]
      exact (leads_createNode (Registry.mem_of_lookup hl).1 hc).trans (ih t _)

/-- So are the edges. -/
theorem restoreEdges_leads (cs : List EdgeCopy) : ∀ (s : Store) (m : HandleMap),
    s.Leads (· ∈ r.archs) (restoreEdges r cs s m).1 := by
  induction cs with
  | nil => exact fun s m => .refl _ s
  | cons c cs ih =>
    intro s m
    obtain ⟨stop, h⟩ | ⟨a, source, target, init, t, x, hl, -, -, hc, h⟩ :=
      restoreEdges_cons (r := r) c cs s m
    · rw [h]
      exact .refl _ s
    · rw [h]
      exact (leads_createEdge (Registry.mem_of_lookup hl).1 hc).trans (ih t _)

/-- Rolling back deletes, and goes on when a deletion is refused. -/
theorem rollback_leads {known : Architype → Prop} (m : HandleMap) : ∀ s : Store,
    s.Leads known (rollback s m) := by
  induction m with
  | nil => exact fun s => .refl _ s
  | cons p m ih =>
    intro s
    refine Leads.trans ?_ (ih _)
    simp only
    split
    · exact leads_perform (.edit (.deleteNode p.2)) nofun
    · exact .refl _ s

/-- **Restoring a snapshot** creates instances of records only, however it ends. -/
theorem restore_leads (snap : Snapshot) (s : Store) :
    s.Leads (· ∈ r.archs) (restore snap r s).1 := by
  have hnodes := restoreNodes_leads (r := r) snap.nodes s []
  unfold restore
  simp only
  split
  · rename_i t m stop hn
    rw [hn] at hnodes
    cases stop with
    | fault f => exact hnodes.trans (rollback_leads m t)
    | brokenOff message => exact hnodes
  · rename_i t m hn
    rw [hn] at hnodes
    have hedges := hnodes.trans (restoreEdges_leads (r := r) snap.edges t m)
    split
    · rename_i t' m' stop he
      rw [he] at hedges
      cases stop with
      | fault f => exact hedges.trans (rollback_leads m' t')
      | brokenOff message => exact hedges
    · rename_i t' m' he
      rw [he] at hedges
      exact hedges

end Snapshot

/-! ## Steps -/

/-- A step that rests does nothing; one that does not makes the changes its bodies ask for, and then
moves the pin of the walker. -/
theorem Engine.step_leads {e e' : Engine} {cancelled : Bool} {i : Nat} {outcome : StepOutcome}
    (h : e.step cancelled i = some (e', outcome)) :
    e.store.Leads (fun _ => True) e'.store := by
  obtain ⟨w, hw, rfl, -, -⟩ := step_eq_some h
  rw [act_step, hw]
  simp only
  by_cases hr : w.state.isTerminal = true ∨ cancelled = true
  · rw [(stepWalker_rests (e := e) hr).1]
    exact .refl _ _
  · obtain ⟨ha, hc⟩ := not_or.1 hr
    rw [Bool.not_eq_true] at ha hc
    subst hc
    have hedits : e.store.Leads (fun _ => True) (e.store.editAll (e.stepEdits false w)) :=
      ⟨_, fun _ _ _ _ => trivial, rfl⟩
    cases stepWalker_leaves (e := e) ha with
    | ended _ hst _ _ =>
      rw [hst]
      exact hedits.trans (Store.leads_perform (.unpin w.position) nofun)
    | moved s _ hpin hst _ =>
      rw [hst]
      exact (hedits.trans (Store.leads_pin hpin)).trans
        (Store.leads_perform (.unpin w.position) nofun)

/-! ## Worlds -/

namespace World

open Store (Operation)

variable {w w' w'' : World} {r : Registry} {label : String} {ops ops' : List Operation}

/-- The nodes of a graph are created one after the other, up to the first failure. -/
theorem buildNodes_leads (ns : List SeedNode) :
    ∀ (s : Store) (built : List (String × Handle)),
      s.Leads (· ∈ r.archs) (buildNodes r label ns s built).1 := by
  induction ns with
  | nil => exact fun s built => .refl _ s
  | cons n ns ih =>
    intro s built
    unfold buildNodes
    simp only
    split
    · exact .refl _ s
    · split
      · exact .refl _ s
      · rename_i a hl
        split
        · exact .refl _ s
        · rename_i t x hc
          exact (Store.leads_createNode (Registry.mem_of_lookup hl).1 hc).trans (ih t _)

/-- So are its edges. -/
theorem buildEdges_leads {nodes : List (String × Handle)} (es : List SeedEdge) :
    ∀ (s : Store) (built : List (String × Handle)),
      s.Leads (· ∈ r.archs) (buildEdges r label nodes es s built).1 := by
  induction es with
  | nil => exact fun s built => .refl _ s
  | cons e es ih =>
    intro s built
    unfold buildEdges
    simp only
    split
    · exact .refl _ s
    · rename_i a hl
      split
      · exact .refl _ s
      · exact .refl _ s
      · split
        · exact .refl _ s
        · rename_i t x hc
          exact (Store.leads_createEdge (Registry.mem_of_lookup hl).1 hc).trans (ih t _)

/-- Spawning pins the start. -/
theorem spawn_leads {arch : String} {start : Handle} {args : List (String × Value)} {x : Walker}
    (h : w.spawn arch start args = .ok (w', x)) :
    w.engine.store.Leads (fun _ => True) w'.engine.store := by
  unfold World.spawn at h
  split at h
  · cases h
  · split at h
    · cases h
    · split at h
      · cases h
      · rename_i hs
        cases h
        obtain ⟨s, hp, hstore, -⟩ := Engine.spawn_eq hs
        exact hstore ▸ Store.leads_pin hp

/-- **Every deed runs operations of the store.** -/
theorem Deed.leads (h : Deed w w') : w.engine.store.Leads (fun _ => True) w'.engine.store := by
  cases h with
  | load mods =>
    rw [(load_engine w mods).1]
    exact .refl _ _
  | build name =>
    refine build_preserves (P := fun v => w.engine.store.Leads (fun _ => True) v.engine.store)
      (fun v label ns h => ?_) (fun v label nodes es h => ?_) (fun h hs => ?_)
      (fun v r h => h) (.refl _ _) name
    · -- by the phases of the build: the nodes, the edges, then each walker
      exact h.trans (buildNodes_leads ns _ _).any
    · exact h.trans (buildEdges_leads es _ _).any
    · exact h.trans (spawn_leads hs)
  | spawn hs => exact spawn_leads hs
  | step hs => exact Engine.step_leads hs
  | graph op _ => exact Store.leads_perform op fun _ _ => trivial
  | restore snap => exact (Snapshot.restore_leads snap _).any
  | globals t => exact .refl _ _
  | told s => exact .refl _ _

/-- Deeds lead from a world to another, and the operations come to what they do to the store. -/
inductive Reaches (w : World) : List Operation → World → Prop where
  | refl : Reaches w [] w
  | tail {ops ops' : List Operation} {w' w'' : World} (h : Reaches w ops w') (hd : Deed w' w'')
      (hs : w'.engine.store.run ops' = w''.engine.store) : Reaches w (ops ++ ops') w''

theorem Reaches.later (h : Reaches w ops w') : Later w w' := by
  induction h with
  | refl => exact .refl
  | tail _ hd _ ih => exact ih.tail hd

/-- The store is what the operations make of it. -/
theorem Reaches.store (h : Reaches w ops w') : w.engine.store.run ops = w'.engine.store := by
  induction h with
  | refl => rfl
  | tail _ _ hs ih => rw [Store.run_append, ih, hs]

/-- Operations from outside reach what they come to, if they have the architypes from the
registry. -/
theorem Reaches.graph (h : Reaches w ops w') {ops' : List Operation}
    (hops : ∀ op ∈ ops', ∀ a ∈ op.archs, w'.engine.registry.lookup a.key = .ok a) :
    Reaches w (ops ++ ops') (w'.withStore (w'.engine.store.run ops')) := by
  induction ops' generalizing ops w' with
  | nil =>
    rw [List.append_nil]
    exact h
  | cons op ops' ih =>
    obtain ⟨hop, hops⟩ := List.forall_mem_cons.1 hops
    have hrun : w'.engine.store.run [op] = w'.engine.store.perform op := rfl
    -- the registry is the same in each of the worlds, so the other operations stay allowed
    have hnext := ih (h.tail (.graph w' op hop) hrun) hops
    rwa [List.append_assoc, List.singleton_append] at hnext

/-- **Whatever is done with a world**, there are operations that come to the same. -/
theorem Later.reaches (h : Later w w') : ∃ ops, Reaches w ops w' := by
  induction h with
  | refl => exact ⟨[], .refl⟩
  | tail _ hd ih =>
    obtain ⟨ops, hr⟩ := ih
    obtain ⟨ops', -, hs⟩ := hd.leads
    exact ⟨ops ++ ops', hr.tail hd hs⟩

end World

end GraphWalk
