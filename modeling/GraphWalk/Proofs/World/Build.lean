import GraphWalk.Proofs.Architype.Start
import GraphWalk.Proofs.Snapshot.Restore
import GraphWalk.Proofs.Walker.Pins
import GraphWalk.World.Seed

/-!
# Building seed graphs

The elements of a seed graph name each other, and building it replaces the names by
handles. `SeedNode.Makes`, `SeedEdge.Makes` and `SeedSpawn.Makes` say what each element
comes to, `Store.Enlarged` what the store gains, and `Realised` what all of it comes to.

* `buildNodes_spec`, `buildEdges_spec`, `buildSpawns_spec`: one loop each, by induction on
  the elements.
* `node?_of_added`, `enlarged_of_added`: edges that join new nodes leave the old nodes as
  they are.
* `enlarged_of_build`: the first two loops together, where there are indices left
  (`SeedGraph.Fits`).
* `SeedGraph.fits_of_calls`: there are, if what is built counts among the calls.

Main result: `realised_of_build`. **A graph that is built stands there as it is
described**, in whatever store: under new handles, beside all that was there.
-/

namespace GraphWalk

open Snapshot (NodesAdded EdgesAdded nodeCopy)

/-! ## What the elements describe -/

/-- The node that an element describes. -/
structure SeedNode.Makes (r : Registry) (n : SeedNode) (x : Node) : Prop where
  arch : r.lookup ⟨.node, n.arch⟩ = .ok x.arch
  fields : x.fields.Begun x.arch.effectiveFields n.fields

/-- The edge that an element describes, where `nodes` are the handles of the named nodes. -/
structure SeedEdge.Makes (r : Registry) (nodes : List (String × Handle)) (d : SeedEdge)
    (e : Edge) : Prop where
  arch : r.lookup ⟨.edge, d.arch⟩ = .ok e.arch
  fields : e.fields.Begun e.arch.effectiveFields d.fields
  source : lookupKey d.source nodes = some e.source
  target : lookupKey d.target nodes = some e.target
  directed : e.directed = d.directed.getD e.arch.directed

/-- The walker that an element describes: it has not done anything yet. -/
structure SeedSpawn.Makes (r : Registry) (nodes : List (String × Handle)) (sp : SeedSpawn)
    (x : Walker) : Prop where
  arch : r.lookup ⟨.walker, sp.walker⟩ = .ok x.arch
  fields : x.fields.Begun x.arch.effectiveFields sp.args
  position : lookupKey sp.at_ nodes = some x.position
  rest : x =
    { id := x.id, arch := x.arch, fields := x.fields, args := .ofAttrs sp.args, state := .ready,
      position := x.position, queue := [], ignored := [], reports := [], faults := [],
      steps := 0, isDisengaged := false }

/-! ## What the store gains -/

namespace Store

variable {s t s' : Store} {xs : List Node} {es : List Edge}

/-- `s'` is `s` with the nodes `xs` and, between them, the edges `es`. -/
structure Enlarged (xs : List Node) (es : List Edge) (s s' : Store) : Prop where
  node? : ∀ h x, s'.node? h = some x ↔ s.node? h = some x ∨ x ∈ xs ∧ x.id = h
  edge? : ∀ h e, s'.edge? h = some e ↔ s.edge? h = some e ∨ e ∈ es ∧ e.id = h
  nodup_nodes : (xs.map Node.id).Nodup
  nodup_edges : (es.map Edge.id).Nodup
  fresh_nodes : ∀ x ∈ xs, s.node? x.id = none
  fresh_edges : ∀ e ∈ es, s.edge? e.id = none
  listed : ∀ x ∈ xs,
    x.edges = (es.filter fun e => x.id = e.source ∨ x.id = e.target).map Edge.id
  size : s'.size = (s.size.1 + xs.length, s.size.2 + es.length)

/-- The node, with those of the edges listed that are at it. -/
def listing (es : List Edge) (x : Node) : Node :=
  { x with edges := (es.filter fun e => x.id = e.source ∨ x.id = e.target).map Edge.id }

theorem nodeCopy_self (x : Node) : nodeCopy (x, x.id) = { x with edges := [] } := rfl

/-- The handles of the nodes that are added stood for nothing. -/
theorem fresh_of_added (hn : NodesAdded (xs.map fun x => (x, x.id)) s t) :
    ∀ h ∈ xs.map Node.id, s.node? h = none := by
  intro h hh
  obtain ⟨x, hx, rfl⟩ := List.mem_map.1 hh
  exact hn.fresh (x, x.id) (List.mem_map_of_mem hx)

/-- New edges are listed at new nodes only. -/
theorem node?_of_added (hn : NodesAdded (xs.map fun x => (x, x.id)) s t)
    (he : EdgesAdded id (es.map fun e => (e, e.id)) t s')
    (hends : ∀ e ∈ es, e.source ∈ xs.map Node.id ∧ e.target ∈ xs.map Node.id) (v : Handle)
    (x : Node) :
    s'.node? v = some x ↔ s.node? v = some x ∨ x ∈ xs.map (listing es) ∧ x.id = v := by
  have hnode : s'.node? v = (t.node? v).map fun x =>
      { x with edges := x.edges ++
        (es.filter fun e => v = e.source ∨ v = e.target).map Edge.id } := by
    rw [he.node?, List.filter_map, List.map_map]
    rfl
  -- the nodes are there before the edges, with nothing listed
  have hadded : ∀ y, t.node? v = some y ↔
      s.node? v = some y ∨ ∃ x ∈ xs, v = x.id ∧ y = { x with edges := [] } := by
    intro y
    rw [hn.found]
    simp only [List.mem_map, exists_exists_and_eq_and, nodeCopy_self]
  -- no new edge is at a node that was there
  have hold : ∀ {y}, s.node? v = some y →
      es.filter (fun e => v = e.source ∨ v = e.target) = [] := by
    intro y hy
    rw [List.filter_eq_nil_iff]
    intro e hm hv
    have hsome : s.node? v ≠ none := by rw [hy]; exact Option.some_ne_none y
    rcases of_decide_eq_true hv with rfl | rfl
    · exact hsome (fresh_of_added hn _ (hends e hm).1)
    · exact hsome (fresh_of_added hn _ (hends e hm).2)
  rw [hnode, Option.map_eq_some_iff]
  constructor
  · rintro ⟨y, hy, rfl⟩
    rcases (hadded y).1 hy with hy | ⟨x, hx, rfl, rfl⟩
    · left
      rw [hold hy, hy]
      simp
    · exact Or.inr ⟨List.mem_map.2 ⟨x, hx, rfl⟩, rfl⟩
  · rintro (hx | ⟨hx, rfl⟩)
    · refine ⟨x, (hadded x).2 (Or.inl hx), ?_⟩
      rw [hold hx]
      simp
    · obtain ⟨y, hy, rfl⟩ := List.mem_map.1 hx
      exact ⟨_, (hadded _).2 (Or.inr ⟨y, hy, rfl, rfl⟩), rfl⟩

/-- **Nodes and edges between them**, added one after the other. -/
theorem enlarged_of_added (hn : NodesAdded (xs.map fun x => (x, x.id)) s t)
    (he : EdgesAdded id (es.map fun e => (e, e.id)) t s')
    (hends : ∀ e ∈ es, e.source ∈ xs.map Node.id ∧ e.target ∈ xs.map Node.id)
    (hsize : s'.size = (s.size.1 + xs.length, s.size.2 + es.length)) :
    Enlarged (xs.map (listing es)) es s s' := by
  have hids : (xs.map (listing es)).map Node.id = xs.map Node.id := by
    rw [List.map_map]
    rfl
  refine ⟨node?_of_added hn he hends, fun k e => ?_, ?_, ?_, fun x hx => ?_, fun e hm => ?_,
    fun x hx => ?_, ?_⟩
  · rw [he.found, edge?_congr hn.edges]
    simp only [List.mem_map, exists_exists_and_eq_and]
    refine or_congr_right ⟨?_, ?_⟩
    · rintro ⟨d, hd, rfl, rfl⟩
      exact ⟨hd, rfl⟩
    · rintro ⟨hm, rfl⟩
      exact ⟨e, hm, rfl, rfl⟩
  · have := hn.nodup
    rw [List.map_map] at this
    rw [hids]
    exact this
  · have := he.nodup
    rw [List.map_map] at this
    exact this
  · exact fresh_of_added hn _ (hids ▸ List.mem_map_of_mem hx)
  · rw [← edge?_congr hn.edges]
    exact he.fresh (e, e.id) (List.mem_map_of_mem hm)
  · obtain ⟨y, -, rfl⟩ := List.mem_map.1 hx
    rfl
  · rw [hsize, List.length_map]

theorem Enlarged.withPins (h : Enlarged xs es s s') (pins : List Handle) :
    Enlarged xs es s { s' with pins } :=
  ⟨h.node?, h.edge?, h.nodup_nodes, h.nodup_edges, h.fresh_nodes, h.fresh_edges, h.listed, h.size⟩

/-- Creating an edge makes no node. -/
theorem createEdge_live {a : Architype} {source target : Handle} {directed : Bool}
    {init : List (String × Value)} {e : Edge}
    (h : s.createEdge a source target directed init = .ok (s', e)) :
    s'.nodes.live = s.nodes.live := by
  obtain ⟨-, fields, -, -, -, -, -, -, rfl⟩ := createEdge_eq h
  simp only
  split <;> rfl

end Store

namespace World

open Store

variable {r : Registry} {label : String} {s s' : Store} {w w' : World}

/-! ## Nodes -/

/-- What the loop has checked for one element, and what it goes on with. -/
theorem buildNodes_cons {n : SeedNode} {rest : List SeedNode} {built nodes : List (String × Handle)}
    (h : buildNodes r label (n :: rest) s built = (s', .ok nodes)) :
    lookupKey n.name built = none ∧ ∃ a t x, r.lookup ⟨.node, n.arch⟩ = .ok a ∧
      s.createNode a n.fields = .ok (t, x) ∧
      buildNodes r label rest t (built ++ [(n.name, x.id)]) = (s', .ok nodes) := by
  unfold buildNodes at h
  simp only at h
  split at h
  · cases h
  · rename_i hnew
    split at h
    · cases h
    · rename_i a hl
      split at h
      · cases h
      · rename_i t x hc
        exact ⟨by simpa using hnew, a, t, x, hl, hc, h⟩

/-- A node is created as its element describes it. -/
theorem makes_of_createNode {n : SeedNode} {a : Architype} {t : Store} {x : Node}
    (hl : r.lookup ⟨.node, n.arch⟩ = .ok a) (hc : s.createNode a n.fields = .ok (t, x)) :
    n.Makes r x ∧ t.nodes.live = s.nodes.live + 1 := by
  obtain ⟨hk, fields, hf, -⟩ := createNode_eq hc
  obtain ⟨t', x', hc', rfl, rfl, hlive⟩ := createNode_ok (s := s) hk hf
  cases hc.symm.trans hc'
  exact ⟨⟨hl, Fields.new_spec (initialFields_eq_ok.1 hf)⟩, hlive⟩

/-- **The nodes**: one for each element, under its name. -/
theorem buildNodes_spec (ns : List SeedNode) :
    ∀ {s : Store} {built nodes : List (String × Handle)} {k : Nat}, s.Slots k →
      s.nodes.live + ns.length ≤ UInt32.size → (built.map (·.1)).Nodup →
      buildNodes r label ns s built = (s', .ok nodes) →
        ∃ xs, List.Forall₂ (SeedNode.Makes r) ns xs ∧
          nodes = built ++ (ns.map (·.name)).zip (xs.map Node.id) ∧ (nodes.map (·.1)).Nodup ∧
          NodesAdded (xs.map fun x => (x, x.id)) s s' ∧ s'.Slots (k + ns.length) ∧
          s'.nodes.live = s.nodes.live + ns.length := by
  induction ns with
  | nil =>
    intro s built nodes k hs _ hnd h
    cases h
    exact ⟨[], .nil, (List.append_nil _).symm, hnd, .refl _, hs, rfl⟩
  | cons n ns ih =>
    intro s built nodes k hs hroom hnd h
    obtain ⟨hnew, a, t, x, hl, hc, h⟩ := buildNodes_cons h
    rw [List.length_cons] at hroom
    obtain ⟨ht, ha⟩ := createNode_spec hs (hs.nodes.roomy (by omega)) hc
    obtain ⟨hmakes, hlive⟩ := makes_of_createNode hl hc
    -- the name was not among those of the nodes before, so it can be entered
    have hnd' : ((built ++ [(n.name, x.id)]).map (·.1)).Nodup := by
      rw [List.map_append, List.nodup_append_comm]
      exact List.nodup_cons.2 ⟨lookupKey_eq_none.1 hnew, hnd⟩
    obtain ⟨xs, hxs, rfl, hnodes, hadd, hs', hlive'⟩ := ih ht (by omega) hnd' h
    refine ⟨x :: xs, .cons hmakes hxs, by simp, hnodes, .cons ha ?_ hadd, ?_, ?_⟩
    · rw [Snapshot.nodeCopy, ← ha.alone]
    · rwa [List.length_cons, ← Nat.add_assoc, Nat.add_right_comm]
    · rw [List.length_cons]
      omega

/-! ## Edges -/

/-- What the loop has checked for one element, and what it goes on with. -/
theorem buildEdges_cons {nodes edges edges' : List (String × Handle)} {d : SeedEdge}
    {rest : List SeedEdge}
    (h : buildEdges r label nodes (d :: rest) s edges = (s', .ok edges')) :
    ∃ a source target t e, r.lookup ⟨.edge, d.arch⟩ = .ok a ∧
      lookupKey d.source nodes = some source ∧ lookupKey d.target nodes = some target ∧
      s.createEdge a source target (d.directed.getD a.directed) d.fields = .ok (t, e) ∧
      buildEdges r label nodes rest t
        (if d.name = "" then edges else insertKey d.name e.id edges) = (s', .ok edges') := by
  unfold buildEdges at h
  simp only at h
  split at h
  · cases h
  · rename_i a hl
    split at h
    · cases h
    · cases h
    · rename_i source target hsource htarget
      split at h
      · cases h
      · rename_i t e hc
        exact ⟨a, source, target, t, e, hl, hsource, htarget, hc, h⟩

/-- An edge is created as its element describes it. -/
theorem makes_of_createEdge {nodes : List (String × Handle)} {d : SeedEdge} {a : Architype}
    {t : Store} {e : Edge} (hl : r.lookup ⟨.edge, d.arch⟩ = .ok a)
    (hsource : lookupKey d.source nodes = some e.source)
    (htarget : lookupKey d.target nodes = some e.target)
    (hc : s.createEdge a e.source e.target (d.directed.getD a.directed) d.fields = .ok (t, e)) :
    d.Makes r nodes e ∧ t.edges.live = s.edges.live + 1 := by
  obtain ⟨hk, fields, hf, hs, ht, -⟩ := createEdge_eq hc
  obtain ⟨t', e', hc', harch, hfields, hdirected, hlive⟩ :=
    createEdge_ok (s := s) (d.directed.getD a.directed) hk hf hs ht
  cases hc.symm.trans hc'
  subst harch hfields
  exact ⟨⟨hl, Fields.new_spec (initialFields_eq_ok.1 hf), hsource, htarget, hdirected⟩, hlive⟩

/-- An edge without a name is not entered. -/
theorem lookupKey_entered (key : String) (h : Handle) (name : String)
    (edges : List (String × Handle)) :
    lookupKey name (if key = "" then edges else insertKey key h edges) =
      if name = "" then lookupKey name edges else
        if key = name then some h else lookupKey name edges := by
  by_cases hkey : key = ""
  · subst hkey
    rw [if_pos rfl]
    split
    · rfl
    · rename_i hname
      rw [if_neg (Ne.symm hname)]
  · rw [if_neg hkey, lookupKey_insertKey]
    split
    · rename_i hname
      rw [if_neg (hname ▸ hkey)]
    · exact (ite_self _).symm

/-- **The edges**: one for each element. Those with a name are found under it, the last one if
several share it. -/
theorem buildEdges_spec {nodes : List (String × Handle)} (ds : List SeedEdge) :
    ∀ {s : Store} {edges edges' : List (String × Handle)} {k : Nat}, s.Slots k →
      s.edges.live + ds.length ≤ UInt32.size →
      buildEdges r label nodes ds s edges = (s', .ok edges') →
        ∃ es, List.Forall₂ (SeedEdge.Makes r nodes) ds es ∧
          (∀ name, lookupKey name edges' = if name = "" then lookupKey name edges else
            (lookupKey name ((ds.map (·.name)).zip (es.map Edge.id)).reverse).or
              (lookupKey name edges)) ∧
          EdgesAdded id (es.map fun e => (e, e.id)) s s' ∧
          s'.edges.live = s.edges.live + ds.length ∧ s'.nodes.live = s.nodes.live := by
  induction ds with
  | nil =>
    intro s edges edges' k _ _ h
    cases h
    refine ⟨[], .nil, fun name => ?_, .refl _, rfl, rfl⟩
    split <;> rfl
  | cons d ds ih =>
    intro s edges edges' k hs hroom h
    obtain ⟨a, source, target, t, e, hl, hsource, htarget, hc, h⟩ := buildEdges_cons h
    rw [List.length_cons] at hroom
    obtain ⟨ht, ha, rfl, rfl⟩ := createEdge_spec hs (hs.edges.roomy (by omega)) hc
    obtain ⟨hmakes, hlive⟩ := makes_of_createEdge hl hsource htarget hc
    obtain ⟨es, hes, hnames, hadd, hlive', hlive''⟩ := ih ht (by omega) h
    refine ⟨e :: es, .cons hmakes hes, fun name => ?_, .cons ha rfl hadd, ?_,
      hlive''.trans (createEdge_live hc)⟩
    · rw [hnames, List.map_cons, List.map_cons, List.zip_cons_cons, List.reverse_cons,
        lookupKey_append, Option.or_assoc, lookupKey_entered d.name e.id]
      split
      · rfl
      · rw [lookupKey_cons]
        split <;> rfl
    · rw [List.length_cons]
      omega

/-! ## Walkers -/

/-- **A walker is spawned** as its element describes it. Besides it and its pin nothing changes
but the log. -/
theorem spawn_spec {nodes : List (String × Handle)} {sp : SeedSpawn} {start : Handle} {x : Walker}
    (hstart : lookupKey sp.at_ nodes = some start)
    (h : w.spawn sp.walker start sp.args = .ok (w', x)) :
    sp.Makes w.engine.registry nodes x ∧
      x.id = w.engine.surroundings.walkerId w.engine.named ∧
      w' = { w with engine := { w.engine with
        store := { w.engine.store with pins := x.position :: w.engine.store.pins }
        walkers := w.engine.walkers ++ [x]
        named := w.engine.named + 1
        signals := w'.engine.signals } } := by
  unfold World.spawn at h
  split at h
  · cases h
  · split at h
    · cases h
    · rename_i a hl
      split at h
      · cases h
      · rename_i engine walker hspawn
        cases h
        obtain ⟨fields, t, hf, hp, rfl, rfl⟩ := Engine.spawn_eq_ok hspawn
        obtain ⟨-, rfl⟩ := pin_eq hp
        exact ⟨⟨hl, Fields.new_spec hf, hstart, rfl⟩, rfl, rfl⟩

/-- What has been checked for one element, and what is gone on with. -/
theorem buildSpawns_cons {nodes : List (String × Handle)} {sp : SeedSpawn} {rest : List SeedSpawn}
    {built numbers : List Nat}
    (h : buildSpawns label nodes (sp :: rest) w built = (w', .ok numbers)) :
    ∃ start v x, lookupKey sp.at_ nodes = some start ∧
      w.spawn sp.walker start sp.args = .ok (v, x) ∧
      buildSpawns label nodes rest v (built ++ [w.engine.walkers.length]) = (w', .ok numbers) := by
  unfold buildSpawns at h
  simp only at h
  split at h
  · cases h
  · rename_i start hstart
    split at h
    · cases h
    · rename_i v x hspawn
      exact ⟨start, v, x, hstart, hspawn, h⟩

/-- **The walkers**: one for each element, in order, after those that were there. -/
theorem buildSpawns_spec {nodes : List (String × Handle)} (sps : List SeedSpawn) :
    ∀ {w : World} {built numbers : List Nat},
      buildSpawns label nodes sps w built = (w', .ok numbers) →
        ∃ ws, List.Forall₂ (SeedSpawn.Makes w.engine.registry nodes) sps ws ∧
          ws.map Walker.id =
            (List.range' w.engine.named sps.length).map w.engine.surroundings.walkerId ∧
          numbers = built ++ List.range' w.engine.walkers.length sps.length ∧
          w' = { w with engine := { w.engine with
            store := { w.engine.store with
              pins := (ws.map Walker.position).reverse ++ w.engine.store.pins }
            walkers := w.engine.walkers ++ ws
            named := w.engine.named + sps.length
            signals := w'.engine.signals } } := by
  induction sps with
  | nil =>
    intro w built numbers h
    cases h
    exact ⟨[], .nil, rfl, (List.append_nil _).symm, by simp⟩
  | cons sp sps ih =>
    intro w built numbers h
    obtain ⟨start, v, x, hstart, hspawn, h⟩ := buildSpawns_cons h
    obtain ⟨hmakes, hid, hv⟩ := spawn_spec hstart hspawn
    obtain ⟨ws, hws, hids, rfl, hw'⟩ := ih h
    rw [hv] at hws hids hw' ⊢
    refine ⟨x :: ws, .cons hmakes hws, ?_, ?_, ?_⟩
    · rw [List.map_cons, hid, hids, List.length_cons, List.range'_succ, List.map_cons]
    · simp [List.range'_succ]
    · rw [hw']
      simp [Nat.add_assoc, Nat.add_comm 1]

end World

/-! ## The whole graph -/

/-- There are indices for the nodes and for the edges of the graph, beside those in use. -/
structure SeedGraph.Fits (g : SeedGraph) (s : Store) : Prop where
  nodes : s.allNodes.length + g.nodes.length ≤ 2 ^ 32
  edges : s.allEdges.length + g.edges.length ≤ 2 ^ 32

/-- The indices suffice if the elements of the graph count as calls. -/
theorem SeedGraph.fits_of_calls {g : SeedGraph} (ops : List Store.Operation)
    (h : Store.calls ops + (g.nodes.length + g.edges.length) < 2 ^ 32 - 1) :
    g.Fits (Store.empty.run ops) := by
  obtain ⟨hnodes, hedges⟩ := Store.length_le_calls ops (by omega)
  exact ⟨by omega, by omega⟩

/-- What a seed graph comes to when it is built in `w`: the nodes `xs`, the edges `es` and the
walkers `ws`, one for each element and in their order. -/
structure SeedGraph.Realised (g : SeedGraph) (w w' : World) (seed : Seed) (xs : List Node)
    (es : List Edge) (ws : List Walker) : Prop where
  graph : seed.graph = g
  nodes : List.Forall₂ (SeedNode.Makes w.engine.registry) g.nodes xs
  edges : List.Forall₂ (SeedEdge.Makes w.engine.registry seed.nodes) g.edges es
  walkers : List.Forall₂ (SeedSpawn.Makes w.engine.registry seed.nodes) g.spawns ws
  store : Store.Enlarged xs es w.engine.store w'.engine.store
  pins : w'.engine.store.pins = (ws.map Walker.position).reverse ++ w.engine.store.pins
  /-- The names of the nodes are distinct, and so are their handles (`store`). -/
  names : (g.nodes.map (·.name)).Nodup
  nodeNames : seed.nodes = (g.nodes.map (·.name)).zip (xs.map Node.id)
  /-- An edge is known by its name, if it has one, and the last one if several share it. -/
  edgeNames : ∀ name, lookupKey name seed.edges = if name = "" then none else
    lookupKey name ((g.edges.map (·.name)).zip (es.map Edge.id)).reverse
  numbers : seed.walkers = List.range' w.engine.walkers.length g.spawns.length
  ids : ws.map Walker.id =
    (List.range' w.engine.named g.spawns.length).map w.engine.surroundings.walkerId
  /-- Nothing else changes but the log. -/
  rest : w' = { w with engine := { w.engine with
    store := w'.engine.store
    walkers := w.engine.walkers ++ ws
    named := w.engine.named + g.spawns.length
    signals := w'.engine.signals } }

namespace World

open Store

variable {r : Registry} {w w' : World} {g : SeedGraph} {name : String} {seed : Seed}

/-- The three loops of a graph that is built. -/
theorem build_eq_ok (hg : w.findGraph name = .ok g) (hb : w.build name = (w', .ok seed)) :
    ∃ label s s' v, buildNodes w.engine.registry label g.nodes w.engine.store [] =
        (s, .ok seed.nodes) ∧
      buildEdges w.engine.registry label seed.nodes g.edges s [] = (s', .ok seed.edges) ∧
      buildSpawns label seed.nodes g.spawns (w.withStore s') [] = (v, .ok seed.walkers) ∧
      seed.graph = g ∧ ∃ record, w' = v.logged record := by
  unfold build at hb
  split at hb
  · cases hb
  · rw [hg] at hb
    simp only at hb
    split at hb
    · cases hb
    · rename_i s nodes hnodes
      split at hb
      · cases hb
      · rename_i s' edges hedges
        split at hb
        · cases hb
        · rename_i v walkers hspawns
          cases hb
          exact ⟨_, s, s', v, hnodes, hedges, hspawns, rfl, _, rfl⟩

/-- The ends of the edges are handles that stand for names. -/
theorem ends_of_makes {names : List String} {hs : List Handle} {ds : List SeedEdge}
    {es : List Edge} (h : List.Forall₂ (SeedEdge.Makes r (names.zip hs)) ds es) :
    ∀ e ∈ es, e.source ∈ hs ∧ e.target ∈ hs := by
  -- what is found under a name is one of the handles
  have hmem : ∀ {key k}, lookupKey key (names.zip hs) = some k → k ∈ hs := fun hl =>
    (List.of_mem_zip (mem_of_lookupKey hl)).2
  induction h with
  | nil => exact fun e he => absurd he List.not_mem_nil
  | cons hd _ ih => exact List.forall_mem_cons.2 ⟨⟨hmem hd.source, hmem hd.target⟩, ih⟩

/-- **The nodes and the edges of a graph** that is built into a store with room for them. -/
theorem enlarged_of_build {label : String} {s t t' : Store} {k : Nat}
    {nodes edges : List (String × Handle)} (hs : s.Slots k) (hfits : g.Fits s)
    (hnodes : buildNodes r label g.nodes s [] = (t, .ok nodes))
    (hedges : buildEdges r label nodes g.edges t [] = (t', .ok edges)) :
    ∃ xs es, List.Forall₂ (SeedNode.Makes r) g.nodes xs ∧
      List.Forall₂ (SeedEdge.Makes r nodes) g.edges es ∧ Enlarged xs es s t' ∧
      t'.pins = s.pins ∧ (g.nodes.map (·.name)).Nodup ∧
      nodes = (g.nodes.map (·.name)).zip (xs.map Node.id) ∧
      ∀ name, lookupKey name edges = if name = "" then none else
        lookupKey name ((g.edges.map (·.name)).zip (es.map Edge.id)).reverse := by
  have hlive : s.allNodes.length = s.nodes.live := Arena.length_items hs.nodes
  have hlive' : s.allEdges.length = s.edges.live := Arena.length_items hs.edges
  have hroom : s.nodes.live + g.nodes.length ≤ UInt32.size := by
    rw [← hlive]
    exact hfits.nodes
  obtain ⟨xs, hxs, hnames, hnd, hadd, ht, hcount⟩ :=
    buildNodes_spec g.nodes hs hroom (by exact List.nodup_nil) hnodes
  have hroom' : t.edges.live + g.edges.length ≤ UInt32.size := by
    rw [hadd.edges, ← hlive']
    exact hfits.edges
  obtain ⟨es, hes, hedgeNames, hadd', hcount', hcount''⟩ :=
    buildEdges_spec g.edges ht hroom' hedges
  rw [List.nil_append] at hnames
  have hlength := hxs.length_eq
  have hsize : t'.size = (s.size.1 + xs.length, s.size.2 + es.length) := by
    unfold size
    rw [hcount', hcount'', hcount, hadd.edges, hlength, hes.length_eq]
  have hends : ∀ e ∈ es, e.source ∈ xs.map Node.id ∧ e.target ∈ xs.map Node.id :=
    ends_of_makes (hnames ▸ hes)
  -- the nodes as they stand in the end, with the edges at them
  refine ⟨xs.map (listing es), es, ?_, hes, enlarged_of_added hadd hadd' hends hsize,
    hadd'.pins.trans hadd.pins, ?_, ?_, fun name => ?_⟩
  · exact List.forall₂_map_right_iff.2 (hxs.imp fun n x h => ⟨h.arch, h.fields⟩)
  · rw [hnames, List.map_fst_zip (by simp [hlength])] at hnd
    exact hnd
  · rw [hnames, List.map_map]
    rfl
  · rw [hedgeNames]
    split
    · rfl
    · exact Option.or_none

/-- A graph that is built stands there as it is described, if there are indices for it. -/
theorem realised_of_fits (ops : List Operation) (hcalls : calls ops < 2 ^ 32 - 1)
    (hstore : w.engine.store = empty.run ops) (hg : w.findGraph name = .ok g)
    (hfits : g.Fits w.engine.store) (hb : w.build name = (w', .ok seed)) :
    ∃ xs es ws, g.Realised w w' seed xs es ws := by
  have ok := run_ok ops empty_ok (n := 0) (by rw [Nat.zero_add]; exact hcalls)
  rw [← hstore] at ok
  obtain ⟨label, s, s', v, hnodes, hedges, hspawns, hgraph, record, rfl⟩ := build_eq_ok hg hb
  obtain ⟨xs, es, hxs, hes, hlarge, hpins, hnames, hnodeNames, hedgeNames⟩ :=
    enlarged_of_build ok.slots hfits hnodes hedges
  obtain ⟨ws, hws, hids, hnumbers, hv⟩ := buildSpawns_spec g.spawns hspawns
  -- spawning leaves the graph alone and only pins where the walkers stand
  have hstore' : (v.logged record).engine.store =
      { s' with pins := (ws.map Walker.position).reverse ++ s'.pins } := by
    show v.engine.store = _
    rw [hv]
    rfl
  refine ⟨xs, es, ws, hgraph, hxs, hes, hws, ?_, ?_, hnames, hnodeNames, hedgeNames, hnumbers,
    hids, ?_⟩
  · rw [hstore']
    exact hlarge.withPins _
  · rw [hstore', ← hpins]
  · rw [hstore']
    exact congrArg (·.logged record) hv

/-- **A graph that is built stands there as it is described.** Let the store of `w` be reached
by fewer than `2^32 - 1` calls, whatever they were. What is built counts among the calls, one for
each node and each edge of the graph. -/
theorem realised_of_build (ops : List Operation)
    (hstore : w.engine.store = empty.run ops) (hg : w.findGraph name = .ok g)
    (hcalls : calls ops + (g.nodes.length + g.edges.length) < 2 ^ 32 - 1)
    (hb : w.build name = (w', .ok seed)) : ∃ xs es ws, g.Realised w w' seed xs es ws := by
  have hfits : g.Fits w.engine.store := by
    rw [hstore]
    exact SeedGraph.fits_of_calls ops hcalls
  exact realised_of_fits ops (by omega) hstore hg hfits hb

section Sample

/-- Two houses, a path that is directed like all paths, a loop that is not, and a guide. -/
def town : SeedGraph where
  pos := ⟨"m", 5⟩
  name := "town"
  nodes := [⟨"a", "House", [("name", .string "A")]⟩, ⟨"b", "House", []⟩]
  edges := [⟨"main", "Path", "a", "b", [], none⟩, ⟨"", "Path", "b", "b", [], some false⟩]
  spawns := [⟨"Guide", "b", [("pace", .bool true)]⟩]

/-- A house inherits its name. The pace of a guide is a text. -/
def townModule : Module where
  name := "m"
  path := "m"
  elements := [
    .arch ⟨⟨"m", 1⟩, .node, "Building", [], [⟨"name", .string, some (.string "?")⟩], [], false⟩,
    .arch ⟨⟨"m", 2⟩, .node, "House", ["Building"], [⟨"open", .bool, none⟩], [], false⟩,
    .arch ⟨⟨"m", 3⟩, .edge, "Path", [], [], [], true⟩,
    .arch ⟨⟨"m", 4⟩, .walker, "Guide", [], [⟨"pace", .string, none⟩], [], false⟩,
    .graph town]
  stamp := 0

/-- A slot is free again when the town is built. -/
def townCalls : List Operation :=
  [.edit (.createNode (.new "m" ⟨.node, "Field"⟩) []),
    .edit (.createNode (.new "m" ⟨.node, "Field"⟩) []), .edit (.delete (.node 0 1))]

def townWorld : World :=
  ((World.new false default).load [townModule]).1.withStore (empty.run townCalls)

theorem realised_town : ∃ w' seed xs es ws, townWorld.build "town" = (w', .ok seed) ∧
    seed.nodes = [("a", .node 0 2), ("b", .node 2 1)] ∧
    town.Realised townWorld w' seed xs es ws := by
  have hnodes : (townWorld.build "town").2.toOption.map Seed.nodes =
      some [("a", .node 0 2), ("b", .node 2 1)] := by decide +kernel
  cases hb : townWorld.build "town" with
  | mk w' result =>
    rw [hb] at hnodes
    cases result with
    | error f => cases hnodes
    | ok seed =>
      obtain ⟨xs, es, ws, h⟩ :=
        realised_of_build townCalls rfl (by rfl : _ = Except.ok town) (by decide) hb
      exact ⟨w', seed, xs, es, ws, rfl, Option.some.inj hnodes, h⟩

end Sample

end World

end GraphWalk
