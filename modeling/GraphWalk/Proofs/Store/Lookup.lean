import GraphWalk.Proofs.Handle.Text
import GraphWalk.Proofs.Store.Arena
import GraphWalk.Store.Basic

/-!
# What the store operations do to lookups

`node?` and `edge?` are the two views of a store. Each operation that succeeds is
described by what it does to them:

* `NodeAdded`, `EdgeAdded`: one more node, one more edge, which is listed at its
  ends.
* `EdgeRemoved`: one edge less, which is taken off the lists of its ends.
* `NodeRemoved`: one node less.

The `_spec` lemmas show that the operations do just that.
-/

namespace GraphWalk

namespace Store

open Arena

variable {s s' : Store} {h k v : Handle}

/-- **The slots are in order**: both arenas are, their generations are those of at
most `n` insertions, and every instance carries its own handle. -/
structure Slots (n : Nat) (s : Store) : Prop where
  nodes : s.nodes.OK
  edges : s.edges.OK
  nodes_young : s.nodes.Young n
  edges_young : s.edges.Young n
  node_named : s.nodes.Named Handle.node Node.id
  edge_named : s.edges.Named Handle.edge Edge.id

theorem Slots.mono {m n : Nat} (ok : s.Slots m) (hmn : m ≤ n) : s.Slots n :=
  ⟨ok.nodes, ok.edges, ok.nodes_young.mono hmn, ok.edges_young.mono hmn, ok.node_named,
    ok.edge_named⟩

theorem node?_eq_some {n : Node} :
    s.node? h = some n ↔ h.kind = .node ∧ s.nodes.get? h.index h.gen = some n := by
  unfold node?
  by_cases hk : h.kind = .node <;> simp [hk]

theorem edge?_eq_some {e : Edge} :
    s.edge? h = some e ↔ h.kind = .edge ∧ s.edges.get? h.index h.gen = some e := by
  unfold edge?
  by_cases hk : h.kind = .edge <;> simp [hk]

/-- An edge carries the handle under which it is found. -/
theorem Slots.edge_id {m : Nat} (ok : s.Slots m) {e : Edge} (he : s.edge? h = some e) :
    e.id = h := by
  obtain ⟨hk, hg⟩ := edge?_eq_some.1 he
  rw [ok.edge_named.get? hg]
  cases h
  simp only at hk
  subst hk
  rfl

theorem edge?_congr {t : Store} (he : s.edges = t.edges) (k : Handle) : s.edge? k = t.edge? k := by
  unfold edge?; rw [he]

/-- A handle is live as a node or as an edge. -/
theorem contains_iff : s.contains h ↔ (s.node? h).isSome = true ∨ (s.edge? h).isSome = true := by
  unfold contains instance?
  by_cases hk : h.kind = .edge
  · simp [hk, node?]
  · simp [hk, edge?]

theorem instance?_eq_node {n : Node} : s.instance? h = some (.node n) ↔ s.node? h = some n := by
  unfold instance?
  by_cases hk : h.kind = .edge
  · simp [hk, node?]
  · simp [hk]

theorem instance?_eq_edge {e : Edge} : s.instance? h = some (.edge e) ↔ s.edge? h = some e := by
  unfold instance?
  by_cases hk : h.kind = .edge
  · simp [hk]
  · simp [hk, edge?]

theorem proper_of_node? {n : Node} (hn : s.node? h = some n) : h.Proper ∧ h.kind = .node := by
  obtain ⟨hk, hg⟩ := node?_eq_some.1 hn
  exact ⟨⟨Or.inl hk, (get?_eq_some.1 hg).2⟩, hk⟩

theorem proper_of_edge? {e : Edge} (he : s.edge? h = some e) : h.Proper ∧ h.kind = .edge := by
  obtain ⟨hk, hg⟩ := edge?_eq_some.1 he
  exact ⟨⟨Or.inr hk, (get?_eq_some.1 hg).2⟩, hk⟩

/-- Whatever is live has a handle that can name something. -/
theorem proper_of_contains (hc : s.contains h = true) : h.Proper := by
  rcases contains_iff.1 hc with hc | hc
  · obtain ⟨x, hx⟩ := Option.isSome_iff_exists.1 hc
    exact (proper_of_node? hx).1
  · obtain ⟨e, he⟩ := Option.isSome_iff_exists.1 hc
    exact (proper_of_edge? he).1

/-- Two live handles of one kind with one index are one. -/
theorem eq_of_index {x y : Node} (hx : s.node? h = some x) (hy : s.node? k = some y)
    (hi : h.index = k.index) : h = k := by
  obtain ⟨hk, hg⟩ := node?_eq_some.1 hx
  obtain ⟨kk, kg⟩ := node?_eq_some.1 hy
  rw [hi] at hg
  obtain ⟨-, hgen⟩ := get?_unique hg kg
  cases h; cases k
  simp_all

theorem eq_of_edge_index {x y : Edge} (hx : s.edge? h = some x) (hy : s.edge? k = some y)
    (hi : h.index = k.index) : h = k := by
  obtain ⟨hk, hg⟩ := edge?_eq_some.1 hx
  obtain ⟨kk, kg⟩ := edge?_eq_some.1 hy
  rw [hi] at hg
  obtain ⟨-, hgen⟩ := get?_unique hg kg
  cases h; cases k
  simp_all

/-- An update by index changes one live node only. -/
theorem node?_update {n : Node} (hn : s.node? h = some n) (f : Node → Node) (v : Handle) :
    ({ s with nodes := s.nodes.update h.index f } : Store).node? v =
      (s.node? v).map fun x => if v = h then f x else x := by
  unfold node?
  by_cases hk : v.kind = .node
  · simp only [hk, if_true, get?_update]
    cases hv : s.nodes.get? v.index v.gen with
    | none => simp
    | some x =>
      -- the index belongs to one live node, so no other is changed
      by_cases hi : v.index = h.index
      · have := eq_of_index (node?_eq_some.2 ⟨hk, hv⟩) hn hi
        simp [this]
      · have : v ≠ h := fun e => hi (by rw [e])
        simp [hi, this]
  · simp [hk]

theorem edge?_update (i : UInt32) (f : Edge → Edge) (k : Handle) :
    ({ s with edges := s.edges.update i f } : Store).edge? k =
      (s.edge? k).map fun e => if k.index = i then f e else e := by
  unfold edge?
  by_cases hk : k.kind = .edge
  · simp only [hk, if_true, get?_update]
    split <;> simp
  · simp [hk]

/-- An insertion makes one more node visible, under its own handle. -/
theorem node?_inserted {nodes : Arena Node} {i g : UInt32} {n : Node}
    (h : Inserted s.nodes nodes i g n) (hg : g ≠ 0) (v : Handle) :
    ({ s with nodes } : Store).node? v = if v = .node i g then some n else s.node? v := by
  unfold node?
  rw [get?_inserted h hg]
  by_cases hv : v = Handle.node i g
  · subst hv; simp [Handle.node]
  · rw [if_neg hv]
    by_cases hk : v.kind = .node
    · rw [if_pos hk, if_pos hk, if_neg]
      rintro ⟨rfl, rfl⟩
      exact hv (by rw [Handle.node, ← hk])
    · rw [if_neg hk, if_neg hk]

theorem edge?_inserted {edges : Arena Edge} {i g : UInt32} {e : Edge}
    (h : Inserted s.edges edges i g e) (hg : g ≠ 0) (k : Handle) :
    ({ s with edges } : Store).edge? k = if k = .edge i g then some e else s.edge? k := by
  unfold edge?
  rw [get?_inserted h hg]
  by_cases hv : k = Handle.edge i g
  · subst hv; simp [Handle.edge]
  · rw [if_neg hv]
    by_cases hk : k.kind = .edge
    · rw [if_pos hk, if_pos hk, if_neg]
      rintro ⟨rfl, rfl⟩
      exact hv (by rw [Handle.edge, ← hk])
    · rw [if_neg hk, if_neg hk]

/-- A removal takes one node out of sight. -/
theorem node?_remove {n : Node} (hn : s.node? h = some n) (v : Handle) :
    ({ s with nodes := s.nodes.remove h.index } : Store).node? v =
      if v = h then none else s.node? v := by
  obtain ⟨hk, hg⟩ := node?_eq_some.1 hn
  unfold node?
  by_cases hv : v.kind = .node
  · simp only [hv, if_true, get?_remove hg]
    by_cases hvh : v = h
    · simp [hvh]
    · rw [if_neg hvh, if_neg]
      rintro ⟨hi, hgen⟩
      exact hvh (by cases v; cases h; simp_all)
  · rw [if_neg hv, if_neg hv]
    simp

theorem edge?_remove {e : Edge} (he : s.edge? h = some e) (k : Handle) :
    ({ s with edges := s.edges.remove h.index } : Store).edge? k =
      if k = h then none else s.edge? k := by
  obtain ⟨hk, hg⟩ := edge?_eq_some.1 he
  unfold edge?
  by_cases hv : k.kind = .edge
  · simp only [hv, if_true, get?_remove hg]
    by_cases hvh : k = h
    · simp [hvh]
    · rw [if_neg hvh, if_neg]
      rintro ⟨hi, hgen⟩
      exact hvh (by cases k; cases h; simp_all)
  · rw [if_neg hv, if_neg hv]
    simp

/-! ## Creation -/

/-- `s'` is `s` with the node `n`, at which there is no edge yet. -/
structure NodeAdded (s s' : Store) (n : Node) : Prop where
  edges : s'.edges = s.edges
  pins : s'.pins = s.pins
  node? : ∀ v, s'.node? v = if v = n.id then some n else s.node? v
  fresh : s.node? n.id = none
  alone : n.edges = []

/-- `s'` is `s` with the edge `e` between two live nodes, which list it last. -/
structure EdgeAdded (s s' : Store) (e : Edge) : Prop where
  pins : s'.pins = s.pins
  edge? : ∀ k, s'.edge? k = if k = e.id then some e else s.edge? k
  fresh : s.edge? e.id = none
  node? : ∀ v, s'.node? v = (s.node? v).map fun x =>
    if v = e.source ∨ v = e.target then { x with edges := x.edges ++ [e.id] } else x
  source : (s.node? e.source).isSome = true
  target : (s.node? e.target).isSome = true
  kind : e.id.kind = .edge
  unspent : ¬ s.edges.Spent e.id.index e.id.gen
  spent : s'.edges.Spent e.id.index e.id.gen
  spent_mono : ∀ i g, s.edges.Spent i g → s'.edges.Spent i g

/-- What a creation that succeeds has checked, and what it does. -/
theorem createNode_eq {a : Architype} {init : List (String × Value)} {n : Node}
    (h : s.createNode a init = .ok (s', n)) :
    a.kind = .node ∧ ∃ fields, initialFields a init = .ok fields ∧
      s' = { s with nodes := (s.nodes.insert fun i g => ⟨.node i g, a, fields, []⟩).1 } ∧
      n = (s.nodes.insert fun i g => ⟨.node i g, a, fields, []⟩).2 := by
  unfold createNode at h
  split at h
  · cases h
  · rename_i hk
    split at h
    · cases h
    · rename_i fields hf
      cases h
      exact ⟨not_not.1 hk, fields, hf, rfl, rfl⟩

/-- So for edges; the nodes at the ends are live, and list the edge last. -/
theorem createEdge_eq {a : Architype} {source target : Handle} {directed : Bool}
    {init : List (String × Value)} {e : Edge}
    (h : s.createEdge a source target directed init = .ok (s', e)) :
    a.kind = .edge ∧ ∃ fields, initialFields a init = .ok fields ∧
      (s.node? source).isSome = true ∧ (s.node? target).isSome = true ∧
      e = (s.edges.insert fun i g => ⟨.edge i g, a, fields, source, target, directed⟩).2 ∧
      s'.edges = (s.edges.insert fun i g => ⟨.edge i g, a, fields, source, target, directed⟩).1 ∧
      s'.pins = s.pins ∧
      s' = (let t := ({ s with edges := (s.edges.insert fun i g =>
              ⟨.edge i g, a, fields, source, target, directed⟩).1 } : Store).attach source e.id
            if target = source then t else t.attach target e.id) := by
  unfold createEdge at h
  split at h
  · cases h
  · rename_i hk
    split at h
    · cases h
    · rename_i fields hf
      split at h
      · cases h
      · rename_i hs
        split at h
        · cases h
        · rename_i ht
          cases h
          refine ⟨not_not.1 hk, fields, hf, ?_, ?_, rfl, ?_, ?_, rfl⟩
          · simpa [Option.isSome_iff_ne_none] using hs
          · simpa [Option.isSome_iff_ne_none] using ht
          · split <;> rfl
          · split <;> rfl

/-- **A node is created** if the architype and the fields are right. -/
theorem createNode_ok {a : Architype} {init : List (String × Value)} {fields : Fields}
    (hk : a.kind = .node) (hf : initialFields a init = .ok fields) :
    ∃ s' n, s.createNode a init = .ok (s', n) ∧ n.arch = a ∧ n.fields = fields ∧
      s'.nodes.live = s.nodes.live + 1 := by
  unfold createNode
  rw [if_neg (not_not.2 hk), hf]
  exact ⟨_, _, rfl, rfl, rfl, live_insert fun i g => (⟨.node i g, a, fields, []⟩ : Node)⟩

/-- **An edge is created** if, moreover, both ends are live. -/
theorem createEdge_ok {a : Architype} {source target : Handle} (directed : Bool)
    {init : List (String × Value)} {fields : Fields} (hk : a.kind = .edge)
    (hf : initialFields a init = .ok fields) (hs : (s.node? source).isSome = true)
    (ht : (s.node? target).isSome = true) :
    ∃ s' e, s.createEdge a source target directed init = .ok (s', e) ∧ e.arch = a ∧
      e.fields = fields ∧ e.directed = directed ∧ s'.edges.live = s.edges.live + 1 := by
  unfold createEdge
  rw [if_neg (not_not.2 hk), hf]
  simp only [Option.isNone_iff_eq_none, ← Option.not_isSome_iff_eq_none, hs, ht, not_true_eq_false,
    if_false]
  refine ⟨_, _, rfl, rfl, rfl, rfl, ?_⟩
  split <;> exact live_insert fun i g => (⟨.edge i g, a, fields, source, target, directed⟩ : Edge)

/-- **Creating a node** adds it, with no edge at it. -/
theorem createNode_spec {m : Nat} (ok : s.Slots m) (hroom : s.nodes.Roomy) {a : Architype}
    {init : List (String × Value)} {n : Node} (h : s.createNode a init = .ok (s', n)) :
    s'.Slots (m + 1) ∧ NodeAdded s s' n := by
  obtain ⟨-, fields, -, rfl, rfl⟩ := createNode_eq h
  obtain ⟨i, g, hx, hins⟩ := insert_spec ok.nodes hroom
    (fun i g => (⟨.node i g, a, fields, []⟩ : Node))
  have hg := ok.nodes_young.gen_ne_zero hins
  rw [hx]
  refine ⟨⟨ok.nodes.inserted hins, ok.edges, ok.nodes_young.inserted hins,
    ok.edges_young.mono (Nat.le_succ m), ok.node_named.inserted hins rfl, ok.edge_named⟩,
    rfl, rfl, ?_, ?_, rfl⟩
  · exact node?_inserted hins hg
  · unfold Store.node?
    simp [Handle.node, get?_vacant hins]

/-- An edge is listed at one node. -/
theorem node?_attach {n : Handle} (hn : (s.node? n).isSome = true) (e v : Handle) :
    (s.attach n e).node? v =
      (s.node? v).map fun x => if v = n then { x with edges := x.edges ++ [e] } else x := by
  obtain ⟨x, hx⟩ := Option.isSome_iff_exists.1 hn
  exact node?_update hx _ v

/-- **Both ends list the edge**, once also if they are one node. -/
theorem node?_attach_ends {n n' : Handle} (hn : (s.node? n).isSome = true)
    (hn' : (s.node? n').isSome = true) (e v : Handle) :
    (if n' = n then s.attach n e else (s.attach n e).attach n' e).node? v =
      (s.node? v).map fun x =>
        if v = n ∨ v = n' then { x with edges := x.edges ++ [e] } else x := by
  split
  · rename_i hloop
    rw [node?_attach hn, hloop]
    simp
  · rename_i hne
    have hn₁ : ((s.attach n e).node? n').isSome = true := by
      rw [node?_attach hn, Option.isSome_map]; exact hn'
    rw [node?_attach hn₁, node?_attach hn, Option.map_map]
    congr 1
    funext x
    -- no node is both ends, so the second attachment leaves the first alone
    by_cases h1 : v = n
    · subst h1
      have : v ≠ n' := fun h => hne h.symm
      simp [this]
    · by_cases h2 : v = n' <;> simp [h1, h2, hne]

/-- **The nodes list a new edge**, if they are its ends, and are as they were. -/
theorem node?_createEdge {a : Architype} {source target : Handle} {directed : Bool}
    {init : List (String × Value)} {e : Edge}
    (h : s.createEdge a source target directed init = .ok (s', e)) (v : Handle) :
    s'.node? v = (s.node? v).map fun x =>
      if v = source ∨ v = target then { x with edges := x.edges ++ [e.id] } else x := by
  obtain ⟨-, fields, -, hs, ht, -, -, -, hs'⟩ := createEdge_eq h
  have hends : ∀ edges, (if target = source then ({ s with edges } : Store).attach source e.id
      else (({ s with edges } : Store).attach source e.id).attach target e.id).node? v =
        (s.node? v).map fun x =>
          if v = source ∨ v = target then { x with edges := x.edges ++ [e.id] } else x :=
    fun edges => node?_attach_ends (s := { s with edges }) hs ht e.id v
  rw [hs']
  exact hends _

theorem Slots.update {m : Nat} (ok : s.Slots m) (i : UInt32) {f : Node → Node}
    (hf : ∀ x, (f x).id = x.id) : ({ s with nodes := s.nodes.update i f } : Store).Slots m :=
  ⟨ok.nodes.update i f, ok.edges, ok.nodes_young.update i f, ok.edges_young,
    ok.node_named.update i hf, ok.edge_named⟩

/-- **Creating an edge** adds it, and both ends list it last. -/
theorem createEdge_spec {m : Nat} (ok : s.Slots m) (hroom : s.edges.Roomy) {a : Architype}
    {source target : Handle} {directed : Bool} {init : List (String × Value)} {e : Edge}
    (h : s.createEdge a source target directed init = .ok (s', e)) :
    s'.Slots (m + 1) ∧ EdgeAdded s s' e ∧ e.source = source ∧ e.target = target := by
  obtain ⟨-, fields, -, hs, ht, he, hedges, hpins, hs'⟩ := createEdge_eq h
  obtain ⟨i, g, hx, hins⟩ := insert_spec ok.edges hroom
    (fun i g => (⟨.edge i g, a, fields, source, target, directed⟩ : Edge))
  have hg := ok.edges_young.gen_ne_zero hins
  rw [hx] at he
  -- `t` has the edge already; what follows only writes it on the lists of its ends
  set t : Store := { s with edges := (s.edges.insert fun i g =>
    ⟨.edge i g, a, fields, source, target, directed⟩).1 } with hteq
  have okt : t.Slots (m + 1) := ⟨ok.nodes, ok.edges.inserted hins,
    ok.nodes_young.mono (Nat.le_succ m), ok.edges_young.inserted hins, ok.node_named,
    ok.edge_named.inserted hins rfl⟩
  have oks : (t.attach source e.id).Slots (m + 1) := okt.update _ fun _ => rfl
  have hedges : s'.edges = t.edges := hedges
  refine ⟨?_, ⟨hpins, ?_, ?_, ?_, by rw [he]; exact hs, by rw [he]; exact ht, by rw [he]; rfl,
      ?_, ?_, ?_⟩,
    by rw [he], by rw [he]⟩
  · rw [hs']; simp only
    split
    · exact oks
    · exact oks.update _ fun _ => rfl
  · intro k
    rw [edge?_congr hedges, he]
    exact edge?_inserted hins hg k
  · rw [he]
    unfold Store.edge?
    simp [Handle.edge, get?_vacant hins]
  · intro v
    rw [node?_createEdge h, he]
  · rw [he]; exact not_spent_inserted hins
  · rw [he, hedges]; exact spent_inserted hins
  · intro j k hjk
    rw [hedges]; exact hjk.inserted hins

/-! ## Deletion -/

/-- `s'` is `s` without the edge `h`, which is on no list any more. -/
structure EdgeRemoved (s s' : Store) (h : Handle) (e : Edge) : Prop where
  pins : s'.pins = s.pins
  edge? : ∀ k, s'.edge? k = if k = h then none else s.edge? k
  node? : ∀ v, s'.node? v = (s.node? v).map fun x =>
    if v = e.source ∨ v = e.target then { x with edges := x.edges.filter (· != h) } else x
  spent_mono : ∀ i g, s.edges.Spent i g → s'.edges.Spent i g

/-- `s'` is `s` without the node `h`. -/
structure NodeRemoved (s s' : Store) (h : Handle) : Prop where
  edges : s'.edges = s.edges
  pins : s'.pins = s.pins
  node? : ∀ v, s'.node? v = if v = h then none else s.node? v

/-- A detachment from a node that is not live changes nothing. -/
theorem node?_detach (e n v : Handle) :
    (s.detach e n).node? v = (s.node? v).map fun x =>
      if v = n then { x with edges := x.edges.filter (· != e) } else x := by
  unfold detach
  cases hn : s.node? n with
  | some x => exact node?_update hn _ v
  | none =>
    by_cases hv : v = n
    · subst hv; simp [hn]
    · simp [hv]

theorem detach_edges (e n : Handle) : (s.detach e n).edges = s.edges := by
  unfold detach; split <;> rfl

theorem detach_pins (e n : Handle) : (s.detach e n).pins = s.pins := by
  unfold detach; split <;> rfl

theorem Slots.detach {m : Nat} (ok : s.Slots m) (e n : Handle) : (s.detach e n).Slots m := by
  unfold Store.detach
  split
  · exact ok.update _ fun _ => rfl
  · exact ok

/-- **Removing an edge** takes it off the lists of its ends. -/
theorem removeEdge_spec {m : Nat} (ok : s.Slots m) (hm : m < UInt32.size - 1) {e : Edge}
    (he : s.edge? h = some e) :
    (s.removeEdge h).Slots m ∧ EdgeRemoved s (s.removeEdge h) h e := by
  -- `t` has the edge still, but on no list
  set t : Store := (s.detach h e.source).detach h e.target with hteq
  have hs' : s.removeEdge h = { t with edges := t.edges.remove h.index } := by
    unfold removeEdge; rw [he]
  have hedges : t.edges = s.edges := by rw [hteq, detach_edges, detach_edges]
  have het : t.edge? h = some e := by rw [edge?_congr hedges]; exact he
  obtain ⟨-, hg⟩ := edge?_eq_some.1 het
  have okt : t.Slots m := (ok.detach h e.source).detach h e.target
  rw [hs']
  refine ⟨⟨okt.nodes, okt.edges.remove hg, okt.nodes_young, okt.edges_young.remove hm hg,
    okt.node_named, okt.edge_named.remove _⟩, ?_, ?_, ?_, ?_⟩
  · rw [hteq]; simp only [detach_pins]
  · intro k
    rw [edge?_remove het, edge?_congr hedges]
  · intro v
    show t.node? v = _
    rw [hteq, node?_detach, node?_detach, Option.map_map]
    congr 1
    funext x
    -- both ends of a self-loop are one node, which is swept twice
    by_cases h1 : v = e.source
    · by_cases h2 : v = e.target <;> simp [← h1, h2, List.filter_filter]
    · by_cases h2 : v = e.target
      · have hne : e.target ≠ e.source := fun h => h1 (h2.trans h)
        simp [h2, hne]
      · simp [h1, h2]
  · intro i g hig
    rw [← hedges] at hig
    exact hig.remove okt.edges_young hm hg

/-- **Removing a node** leaves the edges alone. -/
theorem removeNode_spec {m : Nat} (ok : s.Slots m) (hm : m < UInt32.size - 1) {n : Node}
    (hn : s.node? h = some n) :
    ({ s with nodes := s.nodes.remove h.index } : Store).Slots m ∧
      NodeRemoved s { s with nodes := s.nodes.remove h.index } h := by
  obtain ⟨-, hg⟩ := node?_eq_some.1 hn
  exact ⟨⟨ok.nodes.remove hg, ok.edges, ok.nodes_young.remove hm hg, ok.edges_young,
    ok.node_named.remove _, ok.edge_named⟩, rfl, rfl, node?_remove hn⟩

theorem deleteEdge_eq (h' : s.deleteEdge h = .ok s') :
    (s.edge? h).isSome = true ∧ s.isPinned h = false ∧ s' = s.removeEdge h := by
  unfold deleteEdge at h'
  split at h'
  · cases h'
  · rename_i he
    split at h'
    · cases h'
    · rename_i hp
      cases h'
      exact ⟨by simpa [Option.isSome_iff_ne_none] using he, by simpa using hp, rfl⟩

/-- What a deletion that succeeds has checked, and what it does. -/
theorem deleteNode_eq (h' : s.deleteNode h = .ok s') :
    ∃ n, s.node? h = some n ∧ s.isPinned h = false ∧ (∀ e ∈ n.edges, s.isPinned e = false) ∧
      s' = { n.edges.foldl removeEdge s with
        nodes := (n.edges.foldl removeEdge s).nodes.remove h.index } := by
  unfold deleteNode at h'
  split at h'
  · cases h'
  · rename_i n hn
    split at h'
    · cases h'
    · rename_i hp
      split at h'
      · cases h'
      · rename_i hf
        cases h'
        exact ⟨n, hn, by simpa using hp, by simpa using hf, rfl⟩

end Store

end GraphWalk
