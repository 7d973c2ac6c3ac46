import GraphWalk.Proofs.Snapshot.Copy
import GraphWalk.Proofs.Store.Hops
import GraphWalk.Proofs.Store.Issue
import GraphWalk.Proofs.Walker.Known

/-!
# The order of neighbours in a restored graph

A node lists its edges in the order in which they were created, and a snapshot lists them in
the order of their slots. Restoring creates them in the order of the snapshot, so what was the
order of the slots becomes the order of creation. The two differ where a slot has been used
again: an edge in a fresh slot comes after all that were created before (`InTurn`).

`Mirrored A B m` says what of a restored store `B` depends on the store `A` alone, whatever
values the fields are read back with. `restore_mirrored`: **a restored store mirrors the
captured one**.

Main result: `hops_of_restore`. **The neighbours of a restored node are those of the node, by
the slots of the edges**, and so they come in the same order just if the edges were in the order
of their slots already.
-/

namespace GraphWalk

namespace Store

variable {s : Store} {h k : Handle} {x : Node} {f : HopFilter} {n : Nat} {created : List Handle}

/-! ## Kinds -/

/-- Nodes are of node architypes, and edges of edge architypes. -/
structure Kinds (s : Store) : Prop where
  nodes : s.nodes.Each fun x => x.arch.kind = .node
  edges : s.edges.Each fun e => e.arch.kind = .edge

theorem empty_kinds : empty.Kinds :=
  ⟨fun j slot x h => by simp [empty, Arena.empty] at h,
    fun j slot x h => by simp [empty, Arena.empty] at h⟩

/-- Items that are only changed or removed keep their architypes. -/
theorem Kinds.worn (hk : s.Kinds) {t : Store} (hn : s.nodes.Worn Node.arch t.nodes)
    (he : s.edges.Worn Edge.arch t.edges) : t.Kinds :=
  ⟨hn.each (Q := fun a => a.kind = .node) hk.nodes, he.each (Q := fun a => a.kind = .edge) hk.edges⟩

/-- **Every operation** keeps the kinds, since creation checks them. -/
theorem Kinds.perform (hk : s.Kinds) (op : Operation) : (s.perform op).Kinds := by
  -- an operation that creates nothing only changes and removes items
  have kept : s.returned? op = none → (s.perform op).Kinds := by
    intro hnone
    have hshift := perform_shift s op
    rw [hnone] at hshift
    cases hshift with
    | worn hn he => exact hk.worn hn he
  cases op with
  | edit e =>
    cases e with
    | createNode a init =>
      show (s.orKeep _).Kinds
      cases hc : s.createNode a init with
      | error err => exact hk
      | ok p =>
        obtain ⟨ha, fields, -, hs, -⟩ := createNode_eq hc
        show p.1.Kinds
        rw [hs]
        refine ⟨?_, hk.edges⟩
        dsimp only
        apply hk.nodes.insert
        exact fun _ _ => ha
    | createEdge a source target directed init =>
      show (s.orKeep _).Kinds
      cases hc : s.createEdge a source target directed init with
      | error err => exact hk
      | ok p =>
        obtain ⟨ha, fields, -, -, -, -, hedges, -, -⟩ := createEdge_eq hc
        refine ⟨(createEdge_worn hc).each (Q := fun a => a.kind = .node) hk.nodes, ?_⟩
        show p.1.edges.Each _
        rw [hedges]
        apply hk.edges.insert
        exact fun _ _ => ha
    | deleteNode h => exact kept rfl
    | deleteEdge h => exact kept rfl
    | delete h => exact kept rfl
    | setFields h f => exact kept rfl
  | pin h => exact kept rfl
  | unpin h => exact kept rfl

theorem Kinds.run (ops : List Operation) : ∀ {s : Store}, s.Kinds → (s.run ops).Kinds := by
  induction ops with
  | nil => exact fun hk => hk
  | cons op ops ih => exact fun hk => ih (hk.perform op)

/-! ## Edges by their slots -/

/-- Neighbours over edges in fresh slots come in the order of the slots. -/
theorem InTurn.pairwise_hops (ht : s.InTurn created) (ok : s.OK n created) (hx : s.node? h = some x)
    (hfresh : ∀ p ∈ x.edges.filterMap (s.hopOver h f), p.edge.gen = 1) :
    (x.edges.filterMap (s.hopOver h f)).Pairwise fun a b => a.edge.index ≤ b.edge.index := by
  -- a hop carries the handle of its edge, so the order of the edges is that of the hops
  have hrising : (x.edges.filterMap (s.hopOver h f)).Pairwise fun a b =>
      b.edge.gen = 1 → a.edge.index < b.edge.index := by
    rw [ok.joined.incident hx]
    refine (ht.rising.filter _).filterMap _ fun k k' hlt p hp q hq => ?_
    rw [(hopOver_eq_some ok.slots hp).1, (hopOver_eq_some ok.slots hq).1]
    exact hlt
  exact hrising.imp_of_mem fun _ hb hlt => UInt32.le_of_lt (hlt (hfresh _ hb))

/-- The edges at a node, in the order of their slots. -/
def slotOrder (s : Store) (h : Handle) : List Edge :=
  s.allEdges.filter fun e => e.source = h ∨ e.target = h

theorem slotOrder_sorted (ok : s.Slots n) (h : Handle) :
    (s.slotOrder h).Pairwise fun e d => e.id.index < d.id.index := by
  refine List.Pairwise.filter _ ?_
  unfold allEdges Arena.items
  rw [List.pairwise_filterMap, List.pairwise_iff_getElem]
  intro i j hi hj hij e he d hd
  rw [Array.length_toList] at hi hj
  rw [ok.edge_named i _ e (Array.getElem?_eq_getElem hi) (by simpa using he),
    ok.edge_named j _ d (Array.getElem?_eq_getElem hj) (by simpa using hd)]
  show i.toUInt32 < j.toUInt32
  rw [UInt32.lt_iff_toNat_lt, Arena.toNat_toUInt32 (hi.trans_le ok.edges.size_le),
    Arena.toNat_toUInt32 (hj.trans_le ok.edges.size_le)]
  exact hij

/-- **Both orders have the same edges.** -/
theorem slotOrder_perm {created : List Handle} (ok : s.OK n created) (hx : s.node? h = some x) :
    ((s.slotOrder h).map Edge.id).Perm x.edges := by
  have hnd : ((s.slotOrder h).map Edge.id).Nodup :=
    ok.slots.nodup_allEdges.sublist (List.filter_sublist.map _)
  have hnd' : x.edges.Nodup := by
    rw [ok.joined.incident hx]
    exact ok.joined.nodup.filter _
  -- both lists are without repeats, and hold the live edges that end at the node
  refine (List.perm_ext_iff_of_nodup hnd hnd').2 fun k => ?_
  rw [ok.joined.mem_edges hx, touches_iff, List.mem_map]
  unfold slotOrder
  simp only [List.mem_filter, decide_eq_true_eq, ok.slots.edge?_iff, and_assoc]
  exact exists_congr fun e => and_congr_right fun _ => and_comm

end Store

/-- Whether the slot of the edge of `a` is not behind that of `b`. -/
def Hop.bySlot (a b : Hop) : Bool := a.edge.index ≤ b.edge.index

theorem Hop.pairwise_bySlot (hs : List Hop) :
    (hs.mergeSort Hop.bySlot).Pairwise fun a b => a.bySlot b = true := by
  refine List.pairwise_mergeSort (fun a b c hab hbc => ?_) (fun a b => ?_) hs
  · exact decide_eq_true (UInt32.le_trans (of_decide_eq_true hab) (of_decide_eq_true hbc))
  · unfold Hop.bySlot
    rw [← Bool.decide_or]
    exact decide_eq_true (UInt32.le_total _ _)

namespace Store

variable {s : Store} {h k : Handle} {x : Node} {f : HopFilter} {n : Nat}

/-- **Sorting the neighbours by the slots of the edges** is going through the edges in the order
of their slots. -/
theorem filterMap_slotOrder {created : List Handle} (ok : s.OK n created)
    (hx : s.node? h = some x) :
    ((s.slotOrder h).map Edge.id).filterMap (s.hopOver h f) =
      (x.edges.filterMap (s.hopOver h f)).mergeSort Hop.bySlot := by
  have hperm : (((s.slotOrder h).map Edge.id).filterMap (s.hopOver h f)).Perm
      ((x.edges.filterMap (s.hopOver h f)).mergeSort Hop.bySlot) :=
    ((slotOrder_perm ok hx).filterMap _).trans (List.mergeSort_perm _ _).symm
  refine List.Perm.eq_of_pairwise ?_ ?_ (Hop.pairwise_bySlot _) hperm
  · -- hops over edges of one slot are hops over one edge
    intro p q hp hq hpq hqp
    obtain ⟨k, hk, hp⟩ := List.mem_filterMap.1 hp
    obtain ⟨k', hk', hq⟩ := List.mem_filterMap.1 (hperm.mem_iff.2 hq)
    rw [← (hopOver_eq_some ok.slots hp).1] at hk hp
    rw [← (hopOver_eq_some ok.slots hq).1] at hk' hq
    have hindex : p.edge.index = q.edge.index :=
      UInt32.le_antisymm (of_decide_eq_true hpq) (of_decide_eq_true hqp)
    have hlive : ∀ k ∈ (s.slotOrder h).map Edge.id, ∃ e, s.edge? k = some e := by
      intro k hk
      obtain ⟨e, he, rfl⟩ := List.mem_map.1 hk
      exact ⟨e, ok.slots.mem_allEdges.1 (List.mem_of_mem_filter he)⟩
    obtain ⟨e, he⟩ := hlive _ hk
    obtain ⟨e', he'⟩ := hlive _ hk'
    rw [eq_of_edge_index he he' hindex] at hp
    exact Option.some.inj (hp.symm.trans hq)
  · have hsorted : ((s.slotOrder h).map Edge.id).Pairwise fun k k' => k.index < k'.index :=
      List.pairwise_map.2 (slotOrder_sorted ok.slots h)
    refine hsorted.filterMap _ fun k k' hlt p hp q hq => ?_
    unfold Hop.bySlot
    rw [(hopOver_eq_some ok.slots hp).1, (hopOver_eq_some ok.slots hq).1]
    exact decide_eq_true (UInt32.le_of_lt hlt)

end Store

namespace Snapshot

open Store

variable {A B B' s t s' : Store} {m m' : HandleMap} {r : Registry} {snap : Snapshot}
  {created : List Handle} {σ : Handle → Handle} {n k : Nat}

/-! ## What has been restored -/

/-- A node without the values of its fields. -/
def bareNode (x : Node) : Node := { x with fields := .empty }

/-- An edge without the values of its fields. -/
def bareEdge (e : Edge) : Edge := { e with fields := .empty }

theorem bareNode_inj {x y : Node} (h : bareNode x = bareNode y) :
    x.id = y.id ∧ x.arch = y.arch := by
  cases x
  cases y
  cases h
  exact ⟨rfl, rfl⟩

theorem bareEdge_inj {e d : Edge} (h : bareEdge e = bareEdge d) :
    e.id = d.id ∧ e.arch = d.arch ∧ e.directed = d.directed ∧ e.source = d.source ∧
      e.target = d.target := by
  cases e
  cases d
  cases h
  exact ⟨rfl, rfl, rfl, rfl, rfl⟩

/-- **Nodes that have been restored** are copies, up to the values of their fields. -/
theorem restoreNodes_done {ns : List Node} {cs : List NodeCopy}
    (hcs : List.Forall₂ (fun x c => captureNode x = .ok c) ns cs) :
    ∀ {s : Store} {m : HandleMap} {k : Nat},
      (∀ x ∈ ns, r.lookup ⟨.node, x.arch.name⟩ = .ok x.arch) →
      s.Slots k → s.Joined created → s.nodes.live + ns.length ≤ UInt32.size →
      restoreNodes r cs s m = (s', m', none) →
        ∃ ps, (ps.map (·.1)).map bareNode = ns.map bareNode ∧ m' = enter (nodePairs ps) m ∧
          NodesAdded ps s s' ∧ s'.Slots (k + ns.length) ∧ s'.Joined created := by
  induction hcs with
  | nil =>
    intro s m k _ hs hj _ h
    cases h
    exact ⟨[], rfl, rfl, .refl _, hs, hj⟩
  | @cons x c ns cs hc _ ih =>
    intro s m k hr hs hj hroom h
    obtain ⟨text, -, rfl⟩ := captureNode_eq_ok.1 hc
    rw [List.length_cons] at hroom
    rcases restoreNodes_cons (r := r) ⟨x.id.text, x.arch.name, text⟩ cs s m with
      ⟨stop, hstop⟩ | ⟨a, init, t, y, hl, -, hcreate, hrest⟩
    · rw [hstop] at h
      cases h
    · rw [hrest] at h
      obtain rfl : x.arch = a := by
        rw [hr x List.mem_cons_self] at hl
        exact Except.ok.inj hl
      obtain ⟨ht, ha⟩ := createNode_spec hs (hs.nodes.roomy (by omega)) hcreate
      obtain ⟨-, fields, -, hts, hy⟩ := createNode_eq hcreate
      have hlive : t.nodes.live = s.nodes.live + 1 := by
        simp only [hts, Arena.live_insert]
      obtain ⟨ps, hps, hm, hadd, hs', hj'⟩ := ih (fun x hx => hr x (List.mem_cons_of_mem _ hx)) ht
        (hj.nodeAdded ha) (by omega) h
      -- the values of the fields are whatever they were read back as
      have hcopy : y = nodeCopy ({ x with fields := y.fields }, y.id) := by
        unfold nodeCopy
        rw [hy]
        rfl
      refine ⟨({ x with fields := y.fields }, y.id) :: ps, ?_, hm, .cons ha hcopy hadd, ?_, hj'⟩
      · rw [List.map_cons, List.map_cons, List.map_cons, hps]
        rfl
      · rwa [List.length_cons, ← Nat.add_assoc, Nat.add_right_comm]

/-- **Edges that have been restored** are copies too, between the copies of their ends. -/
theorem restoreEdges_done {es : List Edge} {cs : List EdgeCopy}
    (hcs : List.Forall₂ (fun e c => captureEdge e = .ok c) es cs) :
    ∀ {s : Store} {m : HandleMap} {created : List Handle} {k : Nat},
      (∀ e ∈ es, r.lookup ⟨.edge, e.arch.name⟩ = .ok e.arch) → Ended σ es s m →
      s.Slots k → s.Joined created → s.edges.live + es.length ≤ UInt32.size →
      restoreEdges r cs s m = (s', m', none) →
        ∃ qs, (qs.map (·.1)).map bareEdge = es.map bareEdge ∧ m' = enter (edgePairs qs) m ∧
          EdgesAdded σ qs s s' := by
  induction hcs with
  | nil =>
    intro s m created k _ _ _ _ _ h
    cases h
    exact ⟨[], rfl, rfl, .refl _⟩
  | @cons e c es cs hc _ ih =>
    intro s m created k hr hend hs hj hroom h
    obtain ⟨text, -, rfl⟩ := captureEdge_eq_ok.1 hc
    rw [List.length_cons] at hroom
    rcases restoreEdges_cons (r := r) ⟨e.id.text, e.arch.name, e.source.text, e.target.text,
      e.directed, text⟩ cs s m with
      ⟨stop, hstop⟩ | ⟨a, source, target, init, t, x, hl, hsm, htm, hcreate, hrest⟩
    · rw [hstop] at h
      cases h
    · rw [hrest] at h
      obtain rfl : e.arch = a := by
        rw [hr e List.mem_cons_self] at hl
        exact Except.ok.inj hl
      obtain rfl : σ e.source = source :=
        Option.some.inj ((hend.source e List.mem_cons_self).1.symm.trans hsm)
      obtain rfl : σ e.target = target :=
        Option.some.inj ((hend.target e List.mem_cons_self).1.symm.trans htm)
      obtain ⟨ht, ha, -⟩ := createEdge_spec hs (hs.edges.roomy (by omega)) hcreate
      obtain ⟨-, fields, -, -, -, hx, hedges, -⟩ := createEdge_eq hcreate
      have hlive : t.edges.live = s.edges.live + 1 := by
        rw [hedges, Arena.live_insert]
      obtain ⟨qs, hqs, hm, hadd⟩ := ih (fun e he => hr e (List.mem_cons_of_mem _ he))
        (hend.next ha) ht (hj.edgeAdded ha) (by omega) h
      have hcopy : x = edgeCopy σ ({ e with fields := x.fields }, x.id) := by
        unfold edgeCopy
        rw [hx]
        rfl
      refine ⟨({ e with fields := x.fields }, x.id) :: qs, ?_, hm, .cons ha hcopy hadd⟩
      rw [List.map_cons, List.map_cons, List.map_cons, hqs]
      rfl

/-- The instances of a store are what the registry knows under their kinds and names. -/
structure Listed (r : Registry) (s : Store) : Prop where
  node : ∀ x ∈ s.allNodes, r.lookup ⟨.node, x.arch.name⟩ = .ok x.arch
  edge : ∀ e ∈ s.allEdges, r.lookup ⟨.edge, e.arch.name⟩ = .ok e.arch

theorem listed_of_kinds (hk : A.Kinds)
    (hr : ∀ x ∈ A.instances, r.lookup x.arch.key = .ok x.arch) : Listed r A := by
  refine ⟨fun x hx => ?_, fun e he => ?_⟩
  · obtain ⟨i, slot, hs, hi⟩ := Arena.mem_items.1 hx
    rw [← hk.nodes i slot x hs hi]
    exact hr (.node x) (List.mem_append_left _ (List.mem_map_of_mem hx))
  · obtain ⟨i, slot, hs, hi⟩ := Arena.mem_items.1 he
    rw [← hk.edges i slot e hs hi]
    exact hr (.edge e) (List.mem_append_right _ (List.mem_map_of_mem he))

/-- What a restoring that succeeds has done. -/
theorem restore_eq_done {record : LogRecord} (h : restore snap r B = (B', .done m record)) :
    ∃ t m₁, restoreNodes r snap.nodes B [] = (t, m₁, none) ∧
      restoreEdges r snap.edges t m₁ = (B', m, none) := by
  unfold restore at h
  rcases hn : restoreNodes r snap.nodes B [] with ⟨t, m₁, stop⟩
  rw [hn] at h
  cases stop with
  | some stop => cases stop <;> cases h
  | none =>
    simp only at h
    rcases he : restoreEdges r snap.edges t m₁ with ⟨t', m₂, stop'⟩
    rw [he] at h
    cases stop' with
    | some stop' => cases stop' <;> cases h
    | none =>
      cases h
      exact ⟨t, m₁, rfl, he⟩

/-- Copies of all nodes and edges of `A`, up to the values of their fields, have been added to
`B`. -/
structure Remade (A B B' : Store) (ps : List (Node × Handle)) (qs : List (Edge × Handle)) :
    Prop where
  nodes : (ps.map (·.1)).map bareNode = A.allNodes.map bareNode
  edges : (qs.map (·.1)).map bareEdge = A.allEdges.map bareEdge
  added : ∃ t, NodesAdded ps B t ∧ EdgesAdded (sent ps) qs t B'

theorem map_id_of_bareNode {xs ys : List Node} (h : xs.map bareNode = ys.map bareNode) :
    xs.map Node.id = ys.map Node.id := by
  have := congrArg (List.map Node.id) h
  rwa [List.map_map, List.map_map] at this

theorem map_id_of_bareEdge {xs ys : List Edge} (h : xs.map bareEdge = ys.map bareEdge) :
    xs.map Edge.id = ys.map Edge.id := by
  have := congrArg (List.map Edge.id) h
  rwa [List.map_map, List.map_map] at this

/-- **What a restoring has done**, whatever the fields are read back with. -/
theorem remade_of_restore (okA : A.OK n created) (hr : Listed r A) (hfits : Fits A B)
    {id name : String} {now : Instant} (hc : capture A id name now = .ok snap)
    {old : List Handle} (okB : B.OK k old) {record : LogRecord}
    (h : restore snap r B = (B', .done m record)) :
    ∃ ps qs, Remade A B B' ps qs ∧ m = enter (allPairs ps qs) [] := by
  obtain ⟨hns, hes⟩ := of_capture hc
  obtain ⟨t, m₁, hn, he⟩ := restore_eq_done h
  have hlive : B.allNodes.length = B.nodes.live := Arena.length_items okB.slots.nodes
  have hlive' : B.allEdges.length = B.edges.live := Arena.length_items okB.slots.edges
  have hroom := hfits.nodes
  have hroom' := hfits.edges
  obtain ⟨ps, hps, rfl, hadd, ht, hj⟩ := restoreNodes_done hns hr.node okB.slots okB.joined
    (by rw [UInt32.size]; omega) hn
  obtain ⟨qs, hqs, hm, hadd'⟩ := restoreEdges_done hes hr.edge
    (ended_sent okA (map_id_of_bareNode hps) hadd) ht hj
    (by rw [hadd.edges, UInt32.size]; omega) he
  refine ⟨ps, qs, ⟨hps, hqs, t, hadd, hadd'⟩, ?_⟩
  rw [hm]
  exact List.foldl_append.symm

section Remade

variable {ps : List (Node × Handle)} {qs : List (Edge × Handle)} {h h' v : Handle}

/-- The image of a handle stands with its text. -/
theorem Remade.image_eq (hc : Remade A B B' ps qs) (ok : A.Slots n) {k : Handle}
    (hm : (h.text, k) ∈ allPairs ps qs) : image (enter (allPairs ps qs) []) h = k :=
  Snapshot.image_eq ((lookupKey_allPairs ok (map_id_of_bareNode hc.nodes)
    (map_id_of_bareEdge hc.edges) _ _).2 hm)

/-- Every live handle has been entered. -/
theorem Remade.entry (hc : Remade A B B' ps qs) (ok : A.Slots n) (hh : A.contains h = true) :
    (h.text, image (enter (allPairs ps qs) []) h) ∈ allPairs ps qs := by
  have hm : h.text ∈ (allPairs ps qs).map (·.1) := by
    rw [map_fst_allPairs (map_id_of_bareNode hc.nodes) (map_id_of_bareEdge hc.edges)]
    exact List.mem_map_of_mem ((mem_handles ok).2 hh)
  obtain ⟨⟨text, k⟩, hp, htext⟩ := List.mem_map.1 hm
  obtain rfl : text = h.text := htext
  rwa [hc.image_eq ok hp]

/-- **No two live handles have one image.** -/
theorem Remade.injective (hc : Remade A B B' ps qs) (ok : A.Slots n) (hh : A.contains h = true)
    (hh' : A.contains h' = true)
    (heq : image (enter (allPairs ps qs) []) h = image (enter (allPairs ps qs) []) h') :
    h = h' := by
  obtain ⟨t, hn, he⟩ := hc.added
  have hpair := List.inj_on_of_nodup_map (nodup_snd_allPairs hn he) (hc.entry ok hh)
    (hc.entry ok hh') heq
  exact text_inj_of_contains hh hh' (congrArg Prod.fst hpair)

/-- Ends of edges were looked up among the nodes only, which makes no difference. -/
theorem Remade.sent_eq (hc : Remade A B B' ps qs) (ok : A.Slots n)
    (hv : (A.node? v).isSome = true) : sent ps v = image (enter (allPairs ps qs) []) v := by
  obtain ⟨t, hn, -⟩ := hc.added
  obtain ⟨x, hx⟩ := Option.isSome_iff_exists.1 hv
  have hm := (sent_spec ok (map_id_of_bareNode hc.nodes) hn hx).1
  exact (hc.image_eq ok (List.mem_append_left _ hm)).symm

/-- A copy of an edge is a copy of a live one, between live nodes. -/
theorem Remade.ends (hc : Remade A B B' ps qs) (ok : A.OK n created) {q : Edge × Handle}
    (hq : q ∈ qs) : (A.node? q.1.source).isSome = true ∧ (A.node? q.1.target).isSome = true := by
  have hm : bareEdge q.1 ∈ A.allEdges.map bareEdge := by
    rw [← hc.edges]
    exact List.mem_map_of_mem (List.mem_map_of_mem hq)
  obtain ⟨e, he, heq⟩ := List.mem_map.1 hm
  obtain ⟨-, -, -, hs, ht⟩ := bareEdge_inj heq
  have hlive := ok.slots.mem_allEdges.1 he
  rw [← hs, ← ht]
  exact ⟨ok.joined.source hlive, ok.joined.target hlive⟩

/-- **The copies of the edges at a node** are listed in the order of the slots of the edges. -/
theorem Remade.listed (hc : Remade A B B' ps qs) (ok : A.OK n created)
    (hv : (A.node? v).isSome = true) :
    (qs.filter fun q => image (enter (allPairs ps qs) []) v = sent ps q.1.source ∨
        image (enter (allPairs ps qs) []) v = sent ps q.1.target).map (·.2) =
      (A.slotOrder v).map fun e => image (enter (allPairs ps qs) []) e.id := by
  have hat : ∀ {u}, (A.node? u).isSome = true →
      (image (enter (allPairs ps qs) []) v = sent ps u ↔ u = v) := by
    intro u hu
    rw [hc.sent_eq ok.slots hu]
    exact ⟨fun h => (hc.injective ok.slots (contains_iff.2 (Or.inl hv))
      (contains_iff.2 (Or.inl hu)) h).symm, fun h => by rw [h]⟩
  -- which edges end at the node does not depend on the values of their fields
  calc (qs.filter fun q => image (enter (allPairs ps qs) []) v = sent ps q.1.source ∨
        image (enter (allPairs ps qs) []) v = sent ps q.1.target).map (·.2)
      = (qs.filter fun q => q.1.source = v ∨ q.1.target = v).map (·.2) := by
        congr 1
        refine List.filter_congr fun q hq => decide_eq_decide.2 ?_
        rw [hat (hc.ends ok hq).1, hat (hc.ends ok hq).2]
    _ = (qs.filter fun q => q.1.source = v ∨ q.1.target = v).map
          fun q => image (enter (allPairs ps qs) []) q.1.id :=
        List.map_congr_left fun q hq => (hc.image_eq ok.slots
          (mem_allPairs.2 (Or.inr ⟨q, List.mem_of_mem_filter hq, rfl, rfl⟩))).symm
    _ = (((qs.map (·.1)).map bareEdge).filter fun e => e.source = v ∨ e.target = v).map
          fun e => image (enter (allPairs ps qs) []) e.id := by
        rw [List.map_map, List.filter_map, List.map_map]
        rfl
    _ = (A.slotOrder v).map fun e => image (enter (allPairs ps qs) []) e.id := by
        rw [hc.edges, List.filter_map, List.map_map]
        rfl

end Remade

/-- **`B` mirrors `A`**: every live instance of `A` has a copy under its image, of the same
architype and joined alike. The copy of a node lists the copies of the edges at it in the order
of their slots. -/
structure Mirrored (A B : Store) (m : HandleMap) : Prop where
  entered : ∀ {h}, A.contains h = true → lookupKey h.text m = some (image m h)
  node : ∀ {v x}, A.node? v = some x → ∃ y, B.node? (image m v) = some y ∧ y.id = image m v ∧
    y.arch = x.arch ∧ y.edges = (A.slotOrder v).map fun e => image m e.id
  edge : ∀ {k e}, A.edge? k = some e → ∃ d, B.edge? (image m k) = some d ∧ d.id = image m k ∧
    d.arch = e.arch ∧ d.directed = e.directed ∧ d.source = image m e.source ∧
    d.target = image m e.target
  injective : ∀ {h h'}, A.contains h = true → A.contains h' = true → image m h = image m h' → h = h'

theorem Remade.mirrored {ps : List (Node × Handle)} {qs : List (Edge × Handle)}
    (hc : Remade A B B' ps qs) (ok : A.OK n created) :
    Mirrored A B' (enter (allPairs ps qs) []) := by
  obtain ⟨t, hn, he⟩ := hc.added
  refine ⟨fun {h} hh => ?_, fun {v x} hx => ?_, fun {k e} hk => ?_, hc.injective ok.slots⟩
  · exact (lookupKey_allPairs ok.slots (map_id_of_bareNode hc.nodes)
      (map_id_of_bareEdge hc.edges) _ _).2 (hc.entry ok.slots hh)
  · have hid := ok.slots.node_id hx
    have hm : bareNode x ∈ (ps.map (·.1)).map bareNode := by
      rw [hc.nodes]
      exact List.mem_map_of_mem (ok.slots.mem_allNodes.2 (by rw [hid]; exact hx))
    rw [List.map_map] at hm
    obtain ⟨p, hp, heq⟩ := List.mem_map.1 hm
    obtain ⟨hpid, harch⟩ := bareNode_inj heq
    have himage : image (enter (allPairs ps qs) []) v = p.2 :=
      hc.image_eq ok.slots (mem_allPairs.2 (Or.inl ⟨p, hp, by rw [hpid, hid], rfl⟩))
    have hlist := hc.listed ok (v := v) (by rw [hx]; rfl)
    have hcopy := he.node? p.2
    rw [hn.mem hp, Option.map_some] at hcopy
    rw [← himage] at hcopy
    exact ⟨_, hcopy, himage.symm, harch, (List.nil_append _).trans hlist⟩
  · have hid := ok.slots.edge_id hk
    have hm : bareEdge e ∈ (qs.map (·.1)).map bareEdge := by
      rw [hc.edges]
      exact List.mem_map_of_mem (ok.slots.mem_allEdges.2 (by rw [hid]; exact hk))
    rw [List.map_map] at hm
    obtain ⟨q, hq, heq⟩ := List.mem_map.1 hm
    obtain ⟨hqid, harch, hdirected, hs, ht⟩ := bareEdge_inj heq
    have himage : image (enter (allPairs ps qs) []) k = q.2 :=
      hc.image_eq ok.slots (mem_allPairs.2 (Or.inr ⟨q, hq, by rw [hqid, hid], rfl⟩))
    obtain ⟨hsource, htarget⟩ := hc.ends ok hq
    refine ⟨edgeCopy (sent ps) q, by rw [himage]; exact he.mem hq, himage.symm, harch, hdirected,
      ?_, ?_⟩
    · rw [← hs]
      exact hc.sent_eq ok.slots hsource
    · rw [← ht]
      exact hc.sent_eq ok.slots htarget

/-! ## Neighbours -/

/-- A hop between the images. -/
def sentHop (m : HandleMap) (p : Hop) : Hop := ⟨image m p.edge, image m p.node⟩

/-- **Following the copy of an edge** leads to the copy of where the edge leads. -/
theorem Mirrored.hopOver (hm : Mirrored A B m) (ok : A.OK n created) {v k : Handle}
    (hv : (A.node? v).isSome = true) {e : Edge} (he : A.edge? k = some e) (f : HopFilter) :
    B.hopOver (image m v) f (image m k) = (A.hopOver v f k).map (sentHop m) := by
  obtain ⟨d, hd, hdid, harch, hdirected, hsource, htarget⟩ := hm.edge he
  -- images of live handles differ, so the copy starts at the image just if the edge starts at `v`
  have hstart : d.source = image m v ↔ e.source = v := by
    rw [hsource]
    exact ⟨hm.injective (contains_iff.2 (Or.inl (ok.joined.source he)))
      (contains_iff.2 (Or.inl hv)), fun h => by rw [h]⟩
  have hother : d.other (image m v) = image m (e.other v) := by
    unfold Edge.other
    by_cases h : e.source = v
    · rw [if_pos (hstart.2 h), if_pos h, htarget]
    · rw [if_neg (mt hstart.1 h), if_neg h, hsource]
  -- the other end is live too, and its copy has the same architype
  obtain ⟨x, hx⟩ : ∃ x, A.node? (e.other v) = some x := by
    rw [← Option.isSome_iff_exists]
    unfold Edge.other
    split
    · exact ok.joined.target he
    · exact ok.joined.source he
  obtain ⟨y, hy, hyid, hyarch, -⟩ := hm.node hx
  have hmatch : ∀ dir, matchesHop d y dir f = matchesHop e x dir f := by
    intro dir
    unfold matchesHop
    rw [harch, hyarch, hdirected]
  unfold Store.hopOver nodeHop?
  simp only [hd, he, hother, hx, hy, Option.bind_eq_bind, Option.bind_some, hstart, hmatch]
  generalize (if e.source = v then Direction.out else Direction.into) = dir
  cases matchesHop e x dir f with
  | false => rfl
  | true =>
    simp only [if_true, Option.map_some, sentHop, hdid, hyid, ok.slots.edge_id he,
      ok.slots.node_id hx]

/-- **The neighbours of a copy** are the copies of the neighbours, by the slots of the edges. -/
theorem Mirrored.hops (hm : Mirrored A B m) (ok : A.OK n created) {v : Handle} {x : Node}
    (hx : A.node? v = some x) (f : HopFilter) :
    B.hops (image m v) f =
      .ok (((x.edges.filterMap (A.hopOver v f)).mergeSort Hop.bySlot).map (sentHop m)) := by
  obtain ⟨y, hy, -, -, hedges⟩ := hm.node hx
  rw [hops_node hy, hedges, ← filterMap_slotOrder ok hx, List.map_filterMap, List.filterMap_map,
    List.filterMap_map]
  congr 1
  refine List.filterMap_congr fun e he => ?_
  exact hm.hopOver ok (by rw [hx]; rfl) (ok.slots.mem_allEdges.1 (List.mem_of_mem_filter he)) f

/-- The neighbours come in the same order just if the edges were in the order of their slots. -/
theorem Mirrored.same_order (hm : Mirrored A B m) {hs : List Hop}
    (hlive : ∀ p ∈ hs, A.contains p.edge = true ∧ A.contains p.node = true) :
    (hs.mergeSort Hop.bySlot).map (sentHop m) = hs.map (sentHop m) ↔
      hs.Pairwise fun a b => a.edge.index ≤ b.edge.index := by
  have hinj : ∀ p ∈ hs, ∀ q ∈ hs, sentHop m p = sentHop m q → p = q := by
    intro p hp q hq heq
    obtain ⟨hedge, hnode⟩ := Hop.mk.inj heq
    have hedge := hm.injective (hlive p hp).1 (hlive q hq).1 hedge
    have hnode := hm.injective (hlive p hp).2 (hlive q hq).2 hnode
    cases p
    cases q
    exact congrArg₂ Hop.mk hedge hnode
  -- sorting is stable, so it changes nothing just if the list is sorted already
  have hsorted : hs.mergeSort Hop.bySlot = hs ↔
      hs.Pairwise fun a b => a.edge.index ≤ b.edge.index := by
    constructor
    · intro h
      have := Hop.pairwise_bySlot hs
      rw [h] at this
      exact this.imp of_decide_eq_true
    · intro h
      exact List.mergeSort_of_pairwise (h.imp decide_eq_true)
  rw [← hsorted]
  refine ⟨fun h => List.ext_getElem (List.length_mergeSort _) fun i hi hi' => ?_,
    fun h => by rw [h]⟩
  refine hinj _ (List.mem_mergeSort.1 (List.getElem_mem hi)) _ (List.getElem_mem hi') ?_
  have hat := congrArg (·[i]?) h
  simpa only [List.getElem?_map, List.getElem?_eq_getElem hi, List.getElem?_eq_getElem hi',
    Option.map_some, Option.some.injEq] using hat

/-- **The order of neighbours in a restored graph.** Let a store be reached by fewer than
`2^32 - 1` calls, with instances that belong to the registry. If it can be captured and the
snapshot is restored into a new store, then all live handles are in the handle map, and the
neighbours of the image of a node are the images of its neighbours, by the slots of the edges.
They come in the order they had just if that was the order of the slots, and so whenever all
these edges were created in fresh slots. -/
theorem hops_of_restore (ops : List Operation) (r : Registry) (hcalls : calls ops < 2 ^ 32 - 1)
    (hr : ∀ x ∈ (empty.run ops).instances, r.lookup x.arch.key = .ok x.arch) (id name : String)
    (now : Instant) (hc : capture (empty.run ops) id name now = .ok snap) (record : LogRecord)
    (hrestore : restore snap r empty = (B, .done m record)) (v : Handle) (x : Node)
    (hv : (empty.run ops).node v = .ok x) (f : HopFilter) :
    (∀ h, (empty.run ops).contains h = true → lookupKey h.text m = some (image m h)) ∧
    ∃ hs, (empty.run ops).hops v f = .ok hs ∧
      B.hops (image m v) f = .ok ((hs.mergeSort Hop.bySlot).map (sentHop m)) ∧
      (B.hops (image m v) f = .ok (hs.map (sentHop m)) ↔
        hs.Pairwise fun a b => a.edge.index ≤ b.edge.index) ∧
      ((∀ p ∈ hs, p.edge.gen = 1) → hs.Pairwise fun a b => a.edge.index ≤ b.edge.index) := by
  have hbound : 0 + calls ops < UInt32.size - 1 := by rw [Nat.zero_add]; exact hcalls
  have ok := run_ok ops empty_ok hbound
  have hturn := empty_inTurn.run ops empty_ok hbound
  have hfits : Fits empty (empty.run ops) := fits_of_calls (A := empty) hcalls
  obtain ⟨ps, qs, hmade, rfl⟩ := remade_of_restore ok
    (listed_of_kinds (empty_kinds.run ops) hr) ⟨by have := hfits.nodes; omega,
      by have := hfits.edges; omega⟩ hc empty_ok hrestore
  have hm := hmade.mirrored ok
  have hx := node_eq_ok.1 hv
  have hhops := hm.hops ok hx f
  refine ⟨fun h hh => hm.entered hh, _, hops_node hx, hhops, ?_, hturn.pairwise_hops ok hx⟩
  rw [hhops, Except.ok.injEq]
  refine hm.same_order fun p hp => ?_
  obtain ⟨k, -, hk⟩ := List.mem_filterMap.1 hp
  exact (hopOver_eq_some ok.slots hk).2

section Sample

def town : Architype := .new "m" ⟨.node, "Town"⟩

/-- The architypes of towns and roads. -/
def roadMap : Registry := ⟨[town, road], [], true, 0⟩

/-- Two roads lead from a town, of which the first one is built anew, in the slot that it had. -/
def rebuilt : List Operation :=
  [.edit (.createNode town []), .edit (.createNode town []), .edit (.createNode town []),
    .edit (.createEdge road (.node 0 1) (.node 1 1) true []),
    .edit (.createEdge road (.node 0 1) (.node 2 1) true []),
    .edit (.deleteEdge (.edge 0 1)),
    .edit (.createEdge road (.node 0 1) (.node 1 1) true [])]

theorem rebuilt_known : ∀ x ∈ (empty.run rebuilt).instances,
    roadMap.lookup x.arch.key = .ok x.arch := by
  have harchs : (empty.run rebuilt).instances.map Instance.arch =
      [town, town, town, road, road] := rfl
  have hall : ∀ a ∈ [town, town, town, road, road], roadMap.lookup a.key = .ok a := by
    intro a ha
    simp only [List.mem_cons, List.not_mem_nil, or_false] at ha
    rcases ha with rfl | rfl | rfl | rfl | rfl <;> rfl
  intro x hx
  exact hall _ (by rw [← harchs]; exact List.mem_map_of_mem hx)

def rebuiltSnap : Snapshot :=
  { id := "s1", name := "first", created := ⟨0, 0⟩
    nodes := [⟨"n0.1", "Town", "\x7b\x7d"⟩, ⟨"n1.1", "Town", "\x7b\x7d"⟩,
      ⟨"n2.1", "Town", "\x7b\x7d"⟩]
    edges := [⟨"e0.2", "Road", "n0.1", "n1.1", true, "\x7b\x7d"⟩,
      ⟨"e1.1", "Road", "n0.1", "n2.1", true, "\x7b\x7d"⟩] }

theorem capture_rebuilt : capture (empty.run rebuilt) "s1" "first" ⟨0, 0⟩ = .ok rebuiltSnap := rfl

/-- Where the towns and roads are after restoring. -/
def rebuiltMap : HandleMap :=
  [("e0.2", .edge 0 1), ("e1.1", .edge 1 1), ("n0.1", .node 0 1), ("n1.1", .node 1 1),
    ("n2.1", .node 2 1)]

theorem restore_rebuilt : ∃ record, restore rebuiltSnap roadMap empty =
    ((restore rebuiltSnap roadMap empty).1, .done rebuiltMap record) :=
  ⟨⟨.info, "Snapshot restored.", [("snapshot", .text "s1"), ("nodes", .count 3),
    ("edges", .count 2)]⟩, rfl⟩

theorem hops_rebuilt : ∃ B m record,
    capture (empty.run rebuilt) "s1" "first" ⟨0, 0⟩ = .ok rebuiltSnap ∧
    restore rebuiltSnap roadMap empty = (B, .done m record) ∧
    (∀ h, (empty.run rebuilt).contains h = true → lookupKey h.text m = some (image m h)) ∧
    ∃ hs, (empty.run rebuilt).hops (.node 0 1) ⟨[], [], .any⟩ = .ok hs ∧
      B.hops (image m (.node 0 1)) ⟨[], [], .any⟩ =
        .ok ((hs.mergeSort Hop.bySlot).map (sentHop m)) ∧
      (B.hops (image m (.node 0 1)) ⟨[], [], .any⟩ = .ok (hs.map (sentHop m)) ↔
        hs.Pairwise fun a b => a.edge.index ≤ b.edge.index) ∧
      ((∀ p ∈ hs, p.edge.gen = 1) → hs.Pairwise fun a b => a.edge.index ≤ b.edge.index) := by
  obtain ⟨record, hrestore⟩ := restore_rebuilt
  exact ⟨_, _, record, capture_rebuilt, hrestore, hops_of_restore rebuilt roadMap (by decide)
    rebuilt_known "s1" "first" ⟨0, 0⟩ capture_rebuilt record hrestore (.node 0 1) _ rfl _⟩

/-- The road that was built last is followed first in the restored graph. -/
theorem rebuilt_reordered : ∃ B m record hs, calls rebuilt < 2 ^ 32 - 1 ∧
    (∀ x ∈ (empty.run rebuilt).instances, roadMap.lookup x.arch.key = .ok x.arch) ∧
    capture (empty.run rebuilt) "s1" "first" ⟨0, 0⟩ = .ok rebuiltSnap ∧
    restore rebuiltSnap roadMap empty = (B, .done m record) ∧
    (empty.run rebuilt).hops (.node 0 1) ⟨[], [], .any⟩ = .ok hs ∧
    B.hops (image m (.node 0 1)) ⟨[], [], .any⟩ ≠ .ok (hs.map (sentHop m)) := by
  obtain ⟨record, hrestore⟩ := restore_rebuilt
  refine ⟨_, _, record, [⟨.edge 1 1, .node 2 1⟩, ⟨.edge 0 2, .node 1 1⟩], by decide, rebuilt_known,
    capture_rebuilt, hrestore, rfl, ?_⟩
  have hrestored : (restore rebuiltSnap roadMap empty).1.hops (image rebuiltMap (.node 0 1))
      ⟨[], [], .any⟩ = .ok [⟨.edge 0 1, .node 1 1⟩, ⟨.edge 1 1, .node 2 1⟩] := rfl
  have hmapped : [⟨.edge 1 1, .node 2 1⟩, ⟨.edge 0 2, .node 1 1⟩].map (sentHop rebuiltMap) =
      [⟨.edge 1 1, .node 2 1⟩, ⟨.edge 0 1, .node 1 1⟩] := rfl
  rw [hrestored, hmapped, ne_eq, Except.ok.injEq]
  decide

end Sample

end Snapshot

end GraphWalk
