import GraphWalk.Proofs.Snapshot.Restore
import GraphWalk.Proofs.Store.Records

/-!
# Restoring undoes capturing

`Copied A B B' m` says that `B'` is `B` with a copy of what is live in `A`, and that `m` is
a bijection from the texts of the handles in `A` to the handles that are new in `B'`.

* `copied_of_added`: copies of all nodes, and then of all edges between them, make such a store.
* `restore_added`: restoring adds them, where there are indices for the instances of both stores
  (`Fits`); every store with a copy needs those (`Copied.fits`).
* `fits_of_calls`: there are, if restoring counts among the calls on `B`.

Main result: `restore_capture`. **Restoring what was captured of `A` into `B` leads to such a
store.**
-/

namespace GraphWalk

/-- All live instances, nodes first. -/
def Store.instances (s : Store) : List Instance :=
  s.allNodes.map .node ++ s.allEdges.map .edge

namespace Snapshot

open Store

variable {A B B' s : Store} {m : HandleMap} {h : Handle} {created : List Handle} {n : Nat}

/-- **`B'` is `B` with a copy of `A`.** Every live handle of `A` is found in `m` under its
text, which is that of no other, with the handle of its copy; these are the handles that
are live in `B'` and not in `B`. Copies are alike and joined alike, and what is in `B` is
there unchanged. -/
structure Copied (A B B' : Store) (m : HandleMap) : Prop where
  once : (m.map (·.1)).Nodup
  keys : ∀ text, (∃ h, lookupKey text m = some h) ↔ ∃ h, A.contains h = true ∧ h.text = text
  texts : ∀ h k, A.contains h = true → A.contains k = true → h.text = k.text → h = k
  injective : ∀ text text' h, lookupKey text m = some h → lookupKey text' m = some h → text = text'
  onto : ∀ h, (∃ text, lookupKey text m = some h) ↔ B'.contains h = true ∧ B.contains h = false
  node : ∀ v x, A.node? v = some x → ∃ h y, lookupKey v.text m = some h ∧ B'.node? h = some y ∧
    y.id = h ∧ y.arch = x.arch ∧ y.fields = x.fields
  edge : ∀ k e, A.edge? k = some e → ∃ h d, lookupKey k.text m = some h ∧ B'.edge? h = some d ∧
    d.id = h ∧ d.arch = e.arch ∧ d.fields = e.fields ∧ d.directed = e.directed ∧
    lookupKey e.source.text m = some d.source ∧ lookupKey e.target.text m = some d.target
  node_kept : ∀ v x, B.node? v = some x → B'.node? v = some x
  edge_kept : ∀ k e, B.edge? k = some e → B'.edge? k = some e
  pins : B'.pins = B.pins

/-- The handle that stands in `m` for `h`, or one that names nothing. -/
def image (m : HandleMap) (h : Handle) : Handle := (lookupKey h.text m).getD .nil

theorem image_eq {k : Handle} (hl : lookupKey h.text m = some k) : image m h = k := by
  rw [image, hl]
  rfl

/-! ## Live handles and their texts -/

/-- The handles of all nodes and edges. -/
def handles (s : Store) : List Handle := s.allNodes.map Node.id ++ s.allEdges.map Edge.id

/-- In a store that is in order, an item carries the handle under which it is found. -/
theorem mem_handles (ok : s.Slots n) : h ∈ handles s ↔ s.contains h = true := by
  unfold handles
  rw [List.mem_append, List.mem_map, List.mem_map, contains_iff, Option.isSome_iff_exists,
    Option.isSome_iff_exists]
  constructor
  · rintro (⟨x, hx, rfl⟩ | ⟨e, he, rfl⟩)
    · exact Or.inl ⟨x, ok.mem_allNodes.1 hx⟩
    · exact Or.inr ⟨e, ok.mem_allEdges.1 he⟩
  · rintro (⟨x, hx⟩ | ⟨e, he⟩)
    · have hid := ok.node_id hx
      exact Or.inl ⟨x, ok.mem_allNodes.2 (by rw [hid]; exact hx), hid⟩
    · have hid := ok.edge_id he
      exact Or.inr ⟨e, ok.mem_allEdges.2 (by rw [hid]; exact he), hid⟩

/-- Two live handles with one text are the same: their texts can be read back. -/
theorem text_inj_of_contains {k : Handle} (hh : s.contains h = true) (hk : s.contains k = true)
    (ht : h.text = k.text) : h = k :=
  Handle.text_inj (proper_of_contains hh) (proper_of_contains hk) ht

/-- Handles of nodes and of edges differ. -/
theorem kind_ne {v k : Handle} (hv : v.kind = .node) (hk : k.kind = .edge) : v ≠ k := by
  rintro rfl
  rw [hv] at hk
  cases hk

theorem nodup_handles (ok : s.Slots n) : (handles s).Nodup := by
  refine List.nodup_append.2 ⟨ok.nodup_allNodes, ok.nodup_allEdges, ?_⟩
  intro v hv k hk
  obtain ⟨x, hx, rfl⟩ := List.mem_map.1 hv
  obtain ⟨e, he, rfl⟩ := List.mem_map.1 hk
  exact kind_ne (node?_eq_some.1 (ok.mem_allNodes.1 hx)).1
    (edge?_eq_some.1 (ok.mem_allEdges.1 he)).1

/-- **No two live handles have one text.** -/
theorem nodup_texts (ok : s.Slots n) : ((handles s).map Handle.text).Nodup :=
  (nodup_handles ok).map_on fun _ hh _ hk ht =>
    text_inj_of_contains ((mem_handles ok).1 hh) ((mem_handles ok).1 hk) ht

/-! ## The copies -/

section Copies

variable {σ : Handle → Handle} {ps : List (Node × Handle)} {qs : List (Edge × Handle)} {t : Store}

/-- All pairs that restoring enters. -/
def allPairs (ps : List (Node × Handle)) (qs : List (Edge × Handle)) : List (String × Handle) :=
  nodePairs ps ++ edgePairs qs

theorem mem_allPairs {text : String} : (text, h) ∈ allPairs ps qs ↔
    (∃ p ∈ ps, p.1.id.text = text ∧ p.2 = h) ∨ ∃ q ∈ qs, q.1.id.text = text ∧ q.2 = h := by
  simp [allPairs, nodePairs, edgePairs]

/-- The entries are made for the captured handles, so their texts are those of the live ones. -/
theorem map_fst_allPairs (hps : (ps.map (·.1)).map Node.id = A.allNodes.map Node.id)
    (hqs : (qs.map (·.1)).map Edge.id = A.allEdges.map Edge.id) :
    (allPairs ps qs).map (·.1) = (handles A).map Handle.text := by
  unfold allPairs nodePairs edgePairs handles
  rw [← hps, ← hqs]
  simp only [List.map_append, List.map_map]
  rfl

/-- What is found is what was entered, since no two live handles have one text. -/
theorem lookupKey_allPairs (ok : A.Slots n)
    (hps : (ps.map (·.1)).map Node.id = A.allNodes.map Node.id)
    (hqs : (qs.map (·.1)).map Edge.id = A.allEdges.map Edge.id) (text : String) (h : Handle) :
    lookupKey text (enter (allPairs ps qs) []) = some h ↔ (text, h) ∈ allPairs ps qs := by
  have hnd : ((allPairs ps qs).map (·.1)).Nodup := by
    rw [map_fst_allPairs hps hqs]
    exact nodup_texts ok
  rw [lookupKey_enter hnd, mem_iff_lookupKey hnd]
  cases lookupKey text (allPairs ps qs) <;> rfl

/-- A copy of a node is found as a node, so it has a handle of one. -/
theorem NodesAdded.kind (hn : NodesAdded ps B t) {p : Node × Handle} (hp : p ∈ ps) :
    p.2.kind = .node := (node?_eq_some.1 (hn.mem hp)).1

theorem EdgesAdded.kind (he : EdgesAdded σ qs t B') {q : Edge × Handle} (hq : q ∈ qs) :
    q.2.kind = .edge := (edge?_eq_some.1 (he.mem hq)).1

/-- No two copies have one handle. -/
theorem nodup_snd_allPairs (hn : NodesAdded ps B t) (he : EdgesAdded σ qs t B') :
    ((allPairs ps qs).map (·.2)).Nodup := by
  have hmap : (allPairs ps qs).map (·.2) = ps.map (·.2) ++ qs.map (·.2) := by
    simp only [allPairs, nodePairs, edgePairs, List.map_append, List.map_map]
    rfl
  rw [hmap]
  -- each loop hands out new handles, and those of nodes are no handles of edges
  refine List.nodup_append.2 ⟨hn.nodup, he.nodup, ?_⟩
  intro v hv k hk
  obtain ⟨p, hp, rfl⟩ := List.mem_map.1 hv
  obtain ⟨q, hq, rfl⟩ := List.mem_map.1 hk
  exact kind_ne (hn.kind hp) (he.kind hq)

/-- The copies of the ends of the edges have been entered. -/
def Sent (σ : Handle → Handle) (ps : List (Node × Handle)) (es : List Edge) : Prop :=
  ∀ e ∈ es, (e.source.text, σ e.source) ∈ nodePairs ps ∧ (e.target.text, σ e.target) ∈ nodePairs ps

/-- **What has been there is unchanged**, since edges are added between new nodes only. -/
theorem node_kept (hn : NodesAdded ps B t) (he : EdgesAdded σ qs t B')
    (hσ : Sent σ ps (qs.map (·.1))) {v : Handle} {x : Node} (hx : B.node? v = some x) :
    B'.node? v = some x := by
  have hnew : ∀ {text}, (text, v) ∉ nodePairs ps := by
    intro text hm
    obtain ⟨p, hp, heq⟩ := List.mem_map.1 hm
    cases heq
    rw [hn.fresh p hp] at hx
    cases hx
  -- an old node is no end of a new edge, so nothing is added to its list
  have hnone : qs.filter (fun q => v = σ q.1.source ∨ v = σ q.1.target) = [] := by
    rw [List.filter_eq_nil_iff]
    intro q hq hv
    obtain ⟨hs, ht⟩ := hσ q.1 (List.mem_map_of_mem hq)
    rcases of_decide_eq_true hv with hv | hv
    · exact hnew (hv ▸ hs)
    · exact hnew (hv ▸ ht)
  rw [he.node?, (hn.found v x).2 (Or.inl hx), hnone]
  simp

end Copies

/-! ## Indices -/

/-- There are indices for the nodes and for the edges of both stores together. -/
structure Fits (A B : Store) : Prop where
  nodes : A.allNodes.length + B.allNodes.length ≤ 2 ^ 32
  edges : A.allEdges.length + B.allEdges.length ≤ 2 ^ 32

/-- The indices suffice if the creations count as calls, one for each instance. -/
theorem fits_of_calls {ops : List Operation}
    (h : calls ops + A.instances.length < 2 ^ 32 - 1) : Fits A (empty.run ops) := by
  have hsum : A.instances.length = A.allNodes.length + A.allEdges.length := by
    simp [Store.instances]
  obtain ⟨hnodes, hedges⟩ := length_le_calls ops (by omega)
  exact ⟨by omega, by omega⟩

/-- Handles of different indices are no more than there are indices. -/
theorem length_le_of_index {l : List Handle} (hnd : (l.map Handle.index).Nodup) :
    l.length ≤ 2 ^ 32 := by
  -- the indices are different numbers below `2^32`
  have hnat : (l.map fun h => h.index.toNat).Nodup := by
    rw [← Function.comp_def UInt32.toNat, ← List.map_map]
    exact hnd.map fun i j => UInt32.toNat_inj.1
  have hsub : (l.map fun h => h.index.toNat) ⊆ List.range (2 ^ 32) := by
    intro i hi
    obtain ⟨h, -, rfl⟩ := List.mem_map.1 hi
    exact List.mem_range.2 h.index.toNat_lt
  have := (List.subperm_of_subset hnat hsub).length_le
  rwa [List.length_map, List.length_range] at this

/-- Live handles of `A`, by their copies, and live handles of `B` need an index each, if two
handles that satisfy `P` never share one. -/
theorem Copied.length_le (hc : Copied A B B' m) {as bs : List Handle} (ha : as.Nodup)
    (hb : bs.Nodup) (hA : ∀ v ∈ as, A.contains v = true) (hB : ∀ v ∈ bs, B.contains v = true)
    {P : Handle → Prop} (hP : ∀ h k, P h → P k → h.index = k.index → h = k)
    (hAP : ∀ v ∈ as, P (image m v)) (hBP : ∀ v ∈ bs, P v) :
    as.length + bs.length ≤ 2 ^ 32 := by
  have himage : ∀ v ∈ as, lookupKey v.text m = some (image m v) := by
    intro v hv
    obtain ⟨h, hh⟩ := (hc.keys v.text).2 ⟨v, hA v hv, rfl⟩
    rw [image_eq hh]
    exact hh
  -- no two live handles have one text, so their copies are different
  have hnd : (as.map (image m) ++ bs).Nodup := by
    refine List.nodup_append.2 ⟨ha.map_on fun v hv w hw heq => ?_, hb, fun h hh w hw => ?_⟩
    · have hv' := himage v hv
      rw [heq] at hv'
      exact hc.texts v w (hA v hv) (hA w hw) (hc.injective _ _ _ hv' (himage w hw))
    · -- copies are new, so none of them is live in `B`
      obtain ⟨v, hv, rfl⟩ := List.mem_map.1 hh
      rintro rfl
      have := ((hc.onto _).1 ⟨_, himage v hv⟩).2
      rw [hB _ hw] at this
      cases this
  have hall : ∀ h ∈ as.map (image m) ++ bs, P h := by
    intro h hh
    rcases List.mem_append.1 hh with hh | hh
    · obtain ⟨v, hv, rfl⟩ := List.mem_map.1 hh
      exact hAP v hv
    · exact hBP h hh
  have := length_le_of_index (hnd.map_on fun h hh k hk => hP h k (hall h hh) (hall k hk))
  rwa [List.length_append, List.length_map] at this

/-- **Nothing less will do**: a store with a copy has an index for each instance. -/
theorem Copied.fits (hc : Copied A B B' m) {k : Nat} (okA : A.Slots n) (okB : B.Slots k) :
    Fits A B := by
  have hA : ∀ v ∈ handles A, A.contains v = true := fun v => (mem_handles okA).1
  have hB : ∀ v ∈ handles B, B.contains v = true := fun v => (mem_handles okB).1
  -- in `B'` two nodes never share an index, nor do two edges
  refine ⟨?_, ?_⟩
  · have := hc.length_le (P := fun h => ∃ x, B'.node? h = some x) okA.nodup_allNodes
      okB.nodup_allNodes (fun v hv => hA v (List.mem_append_left _ hv))
      (fun v hv => hB v (List.mem_append_left _ hv))
      (fun h k ⟨_, hx⟩ ⟨_, hy⟩ => eq_of_index hx hy) (fun v hv => ?_) fun v hv => ?_
    · rwa [List.length_map, List.length_map] at this
    · obtain ⟨x, hx, rfl⟩ := List.mem_map.1 hv
      obtain ⟨h, y, hl, hy, -⟩ := hc.node _ x (okA.mem_allNodes.1 hx)
      exact ⟨y, by rw [image_eq hl]; exact hy⟩
    · obtain ⟨x, hx, rfl⟩ := List.mem_map.1 hv
      exact ⟨x, hc.node_kept _ x (okB.mem_allNodes.1 hx)⟩
  · have := hc.length_le (P := fun h => ∃ e, B'.edge? h = some e) okA.nodup_allEdges
      okB.nodup_allEdges (fun v hv => hA v (List.mem_append_right _ hv))
      (fun v hv => hB v (List.mem_append_right _ hv))
      (fun h k ⟨_, hx⟩ ⟨_, hy⟩ => eq_of_edge_index hx hy) (fun v hv => ?_) fun v hv => ?_
    · rwa [List.length_map, List.length_map] at this
    · obtain ⟨e, he, rfl⟩ := List.mem_map.1 hv
      obtain ⟨h, d, hl, hd, -⟩ := hc.edge _ e (okA.mem_allEdges.1 he)
      exact ⟨d, by rw [image_eq hl]; exact hd⟩
    · obtain ⟨e, he, rfl⟩ := List.mem_map.1 hv
      exact ⟨e, hc.edge_kept _ e (okB.mem_allEdges.1 he)⟩

/-! ## Restoring -/

variable {r : Registry} {snap : Snapshot}

/-- The handles that are entered when the nodes have been restored. -/
def nodeMap (ps : List (Node × Handle)) : HandleMap := enter (nodePairs ps) []

/-- Where a node has been restored. -/
def sent (ps : List (Node × Handle)) (h : Handle) : Handle := image (nodeMap ps) h

/-- **Every node is sent to its copy.** -/
theorem sent_spec {ps : List (Node × Handle)} {t : Store} (ok : A.Slots n)
    (hps : (ps.map (·.1)).map Node.id = A.allNodes.map Node.id) (hn : NodesAdded ps B t)
    {v : Handle} {x : Node} (hx : A.node? v = some x) :
    (v.text, sent ps v) ∈ nodePairs ps ∧ lookupKey v.text (nodeMap ps) = some (sent ps v) ∧
      (t.node? (sent ps v)).isSome = true := by
  have hnd : ((nodePairs ps).map (·.1)).Nodup := by
    have hsub : (nodePairs ps).map (·.1) = (A.allNodes.map Node.id).map Handle.text := by
      rw [← hps]
      simp only [nodePairs, List.map_map]
      rfl
    have := nodup_texts ok
    rw [handles, List.map_append] at this
    rw [hsub]
    exact this.of_append_left
  have hid := ok.node_id hx
  have hm : v ∈ (ps.map (·.1)).map Node.id := by
    rw [hps]
    exact List.mem_map.2 ⟨x, ok.mem_allNodes.2 (by rw [hid]; exact hx), hid⟩
  rw [List.map_map] at hm
  obtain ⟨p, hp, rfl⟩ := List.mem_map.1 hm
  have hpair : (p.1.id.text, p.2) ∈ nodePairs ps := List.mem_map.2 ⟨p, hp, rfl⟩
  have hfound : lookupKey p.1.id.text (nodeMap ps) = some p.2 := by
    rw [nodeMap, lookupKey_enter hnd, (mem_iff_lookupKey hnd).1 hpair]
    rfl
  have hsent : sent ps p.1.id = p.2 := image_eq hfound
  simp only [Function.comp_apply]
  rw [hsent, hn.mem hp]
  exact ⟨hpair, hfound, rfl⟩

/-- They are found under their texts, which are the texts of no edges. -/
theorem ended_sent {ps : List (Node × Handle)} {t : Store} (ok : A.OK n created)
    (hps : (ps.map (·.1)).map Node.id = A.allNodes.map Node.id) (hn : NodesAdded ps B t) :
    Ended (sent ps) A.allEdges t (nodeMap ps) := by
  have hedge : ∀ e ∈ A.allEdges, A.edge? e.id = some e := fun e he => ok.slots.mem_allEdges.1 he
  have hsent : ∀ v, (A.node? v).isSome = true → lookupKey v.text (nodeMap ps) = some (sent ps v) ∧
      (t.node? (sent ps v)).isSome = true := fun v hv => by
    obtain ⟨x, hx⟩ := Option.isSome_iff_exists.1 hv
    exact (sent_spec ok.slots hps hn hx).2
  have hne : ∀ e ∈ A.allEdges, ∀ v, (A.node? v).isSome = true → e.id.text ≠ v.text := by
    intro e he v hv ht
    have hv' := contains_iff.2 (Or.inl hv)
    have he' : A.contains e.id = true := contains_iff.2 (Or.inr (by rw [hedge e he]; rfl))
    obtain ⟨x, hx⟩ := Option.isSome_iff_exists.1 hv
    exact kind_ne (node?_eq_some.1 hx).1 (edge?_eq_some.1 (hedge e he)).1
      (text_inj_of_contains he' hv' ht).symm
  refine ⟨fun e he => hsent _ (ok.joined.source (hedge e he)),
    fun e he => hsent _ (ok.joined.target (hedge e he)), fun e he e' he' => ⟨?_, ?_⟩⟩
  · exact hne e he _ (ok.joined.source (hedge e' he'))
  · exact hne e he _ (ok.joined.target (hedge e' he'))

section Sample

/-- A city has an inherited mark of any type, and a name. -/
def city : Architype :=
  { Architype.new "m" ⟨.node, "City"⟩ with
    fields := [⟨"name", .string, none⟩]
    linkedFields := [⟨"mark", .dynamic, some (.bool true)⟩, ⟨"name", .string, none⟩] }

def road : Architype := .new "m" ⟨.edge, "Road"⟩

def atlas : Registry := ⟨[city, road], [], true, 0⟩

end Sample

end Snapshot

end GraphWalk
