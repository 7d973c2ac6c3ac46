import GraphWalk.Proofs.Store.Lookup

/-!
# Edges and the lists of their ends

`Joined created`: both ends of every live edge are live, and the list at a node is
what is left of `created`, the handles of all edges ever created in their order,
when only the live edges at the node are kept. Adding and removing nodes and edges
keeps it; removing a node does so because the edges at it were removed before
(`removeEdges_spec`).

`Anchored`: whatever is pinned is live.
-/

namespace GraphWalk

namespace Store

variable {s s' : Store} {h k v : Handle} {created : List Handle}

/-- Whether `k` names a live edge with an end at `v`. -/
def touches (s : Store) (v k : Handle) : Bool :=
  (s.edge? k).any fun e => e.source == v || e.target == v

/-- **Edges and lists agree.** -/
structure Joined (created : List Handle) (s : Store) : Prop where
  source : ∀ {k e}, s.edge? k = some e → (s.node? e.source).isSome = true
  target : ∀ {k e}, s.edge? k = some e → (s.node? e.target).isSome = true
  incident : ∀ {v n}, s.node? v = some n → n.edges = created.filter (s.touches v)
  nodup : created.Nodup
  known : ∀ {k e}, s.edge? k = some e → k ∈ created
  kind : ∀ k ∈ created, k.kind = .edge
  spent : ∀ k ∈ created, s.edges.Spent k.index k.gen

/-- Whatever is pinned is live. -/
def Anchored (s : Store) : Prop := ∀ h ∈ s.pins, s.contains h = true

theorem touches_iff :
    s.touches v k = true ↔ ∃ e, s.edge? k = some e ∧ (e.source = v ∨ e.target = v) := by
  unfold touches
  cases s.edge? k <;> simp

/-- The live edges at a node are those on its list. -/
theorem Joined.mem_edges (hj : s.Joined created) {n : Node} (hn : s.node? v = some n) :
    k ∈ n.edges ↔ s.touches v k = true := by
  rw [hj.incident hn, List.mem_filter, and_iff_right_iff_imp]
  intro ht
  obtain ⟨e, he, -⟩ := touches_iff.1 ht
  exact hj.known he

/-- An edge that is not at a node is not on its list. -/
theorem Joined.filter_edges (hj : s.Joined created) {n : Node} (hn : s.node? v = some n)
    (ht : s.touches v h = false) : n.edges.filter (· != h) = n.edges := by
  rw [List.filter_eq_self]
  intro k hk
  rw [bne_iff_ne]
  rintro rfl
  rw [hj.mem_edges hn, ht] at hk
  cases hk

/-- Nothing touches a handle that names no node. -/
theorem Joined.not_touches (hj : s.Joined created) (hv : s.node? v = none) :
    s.touches v k = false := by
  rw [Bool.eq_false_iff]
  intro ht
  obtain ⟨e, he, rfl | rfl⟩ := touches_iff.1 ht
  · simpa [hv] using hj.source he
  · simpa [hv] using hj.target he

/-- Only the ends and the lists count. -/
theorem Joined.congr (hj : s.Joined created)
    (hn : ∀ v, (s'.node? v).map Node.edges = (s.node? v).map Node.edges)
    (he : ∀ k, (s'.edge? k).map (fun e => (e.source, e.target)) =
      (s.edge? k).map fun e => (e.source, e.target))
    (hspent : ∀ i g, s.edges.Spent i g → s'.edges.Spent i g) : s'.Joined created := by
  have hlive : ∀ v, (s'.node? v).isSome = (s.node? v).isSome := fun v => by
    rw [← Option.isSome_map (f := Node.edges), hn, Option.isSome_map]
  have hedge : ∀ {k e'}, s'.edge? k = some e' →
      ∃ e, s.edge? k = some e ∧ e.source = e'.source ∧ e.target = e'.target := by
    intro k e' h'
    have := he k
    rw [h', Option.map_some] at this
    obtain ⟨e, h, hee⟩ := Option.map_eq_some_iff.1 this.symm
    exact ⟨e, h, (Prod.ext_iff.1 hee).1, (Prod.ext_iff.1 hee).2⟩
  -- where an edge is depends on its ends only
  have htouch : ∀ v k, s'.touches v k = s.touches v k := by
    intro v k
    have := congrArg
      (fun o : Option (Handle × Handle) => o.any fun p => p.1 == v || p.2 == v) (he k)
    simpa only [touches, Option.any_map] using this
  refine ⟨?_, ?_, ?_, hj.nodup, ?_, hj.kind, fun k hk => hspent _ _ (hj.spent k hk)⟩
  · intro k e' h'
    obtain ⟨e, h, hs, -⟩ := hedge h'
    rw [hlive, ← hs]; exact hj.source h
  · intro k e' h'
    obtain ⟨e, h, -, ht⟩ := hedge h'
    rw [hlive, ← ht]; exact hj.target h
  · intro v n' h'
    have := hn v
    rw [h', Option.map_some] at this
    obtain ⟨n, h, hnn⟩ := Option.map_eq_some_iff.1 this.symm
    rw [← hnn, hj.incident h]
    exact List.filter_congr fun k _ => (htouch v k).symm
  · intro k e' h'
    obtain ⟨e, h, -⟩ := hedge h'
    exact hj.known h

/-- **A new node** has an empty list, and no edge is at it. -/
theorem Joined.nodeAdded (hj : s.Joined created) {n : Node} (ha : NodeAdded s s' n) :
    s'.Joined created := by
  have hedge : ∀ k, s'.edge? k = s.edge? k := edge?_congr ha.edges
  have hlive : ∀ v, (s.node? v).isSome = true → (s'.node? v).isSome = true := by
    intro v hv
    rw [ha.node?]
    split
    · rfl
    · exact hv
  have htouch : ∀ v k, s'.touches v k = s.touches v k := fun v k => by
    unfold touches; rw [hedge]
  refine ⟨?_, ?_, ?_, hj.nodup, ?_, hj.kind, ?_⟩
  · intro k e he
    rw [hedge] at he
    exact hlive _ (hj.source he)
  · intro k e he
    rw [hedge] at he
    exact hlive _ (hj.target he)
  · intro v x hx
    rw [ha.node?] at hx
    rw [List.filter_congr fun k _ => htouch v k]
    split at hx
    · rename_i hv
      cases hx
      rw [ha.alone, eq_comm, List.filter_eq_nil_iff]
      intro k _
      rw [hv, hj.not_touches ha.fresh]
      exact Bool.false_ne_true
    · exact hj.incident hx
  · intro k e he
    rw [hedge] at he
    exact hj.known he
  · rw [ha.edges]; exact hj.spent

/-- **A new edge** comes last in the order and on the lists of its ends. -/
theorem Joined.edgeAdded (hj : s.Joined created) {e : Edge} (ha : EdgeAdded s s' e) :
    s'.Joined (created ++ [e.id]) := by
  have hnew : e.id ∉ created := fun hm => ha.unspent (hj.spent _ hm)
  have hlive : ∀ v, (s'.node? v).isSome = (s.node? v).isSome := fun v => by
    rw [ha.node?, Option.isSome_map]
  have hself : ∀ v, s'.touches v e.id = (e.source == v || e.target == v) := fun v => by
    unfold touches; rw [ha.edge?, if_pos rfl]; rfl
  -- the new handle is none of the old ones, so old edges are where they were
  have hold : ∀ v, ∀ k ∈ created, s'.touches v k = s.touches v k := by
    intro v k hk
    unfold touches
    rw [ha.edge?, if_neg]
    rintro rfl
    exact hnew hk
  refine ⟨?_, ?_, ?_, ?_, ?_, ?_, ?_⟩
  · intro k e' he'
    rw [hlive]
    rw [ha.edge?] at he'
    split at he'
    · cases he'; exact ha.source
    · exact hj.source he'
  · intro k e' he'
    rw [hlive]
    rw [ha.edge?] at he'
    split at he'
    · cases he'; exact ha.target
    · exact hj.target he'
  · intro v n' hn'
    rw [ha.node?] at hn'
    obtain ⟨n, hn, rfl⟩ := Option.map_eq_some_iff.1 hn'
    rw [List.filter_append, List.filter_congr (hold v), ← hj.incident hn, List.filter_singleton,
      hself]
    by_cases hv : v = e.source ∨ v = e.target
    · have hb : (e.source == v || e.target == v) = true := by
        rcases hv with rfl | rfl <;> simp
      rw [if_pos hv, hb]; rfl
    · have hb : (e.source == v || e.target == v) = false := by
        rw [not_or] at hv
        simp [Ne.symm hv.1, Ne.symm hv.2]
      rw [if_neg hv, hb]; simp
  · exact List.nodup_append.2 ⟨hj.nodup, List.nodup_singleton _, by
      intro a ha' b hb
      rw [List.mem_singleton] at hb
      rintro rfl
      exact hnew (hb ▸ ha')⟩
  · intro k e' he'
    rw [ha.edge?] at he'
    rw [List.mem_append, List.mem_singleton]
    split at he'
    · rename_i hk; exact Or.inr hk
    · exact Or.inl (hj.known he')
  · intro k hk
    rw [List.mem_append, List.mem_singleton] at hk
    rcases hk with hk | rfl
    · exact hj.kind k hk
    · exact ha.kind
  · intro k hk
    rw [List.mem_append, List.mem_singleton] at hk
    rcases hk with hk | rfl
    · exact ha.spent_mono _ _ (hj.spent k hk)
    · exact ha.spent

/-- **Removing an edge** sweeps it off all lists, since only its ends list it. -/
theorem Joined.edgeRemoved (hj : s.Joined created) {e : Edge} (he : s.edge? h = some e)
    (hr : EdgeRemoved s s' h e) :
    s'.Joined created ∧ ∀ v, s'.node? v =
      (s.node? v).map fun x => { x with edges := x.edges.filter (· != h) } := by
  -- a node that is no end of the edge does not list it
  have hnode : ∀ v, s'.node? v =
      (s.node? v).map fun x => { x with edges := x.edges.filter (· != h) } := by
    intro v
    rw [hr.node?]
    cases hv : s.node? v with
    | none => rfl
    | some x =>
      simp only [Option.map_some]
      split
      · rfl
      · rename_i hne
        have ht : s.touches v h = false := by
          rw [Bool.eq_false_iff]
          intro ht
          obtain ⟨e', he', hend⟩ := touches_iff.1 ht
          rw [he] at he'
          cases he'
          exact hne (hend.imp Eq.symm Eq.symm)
        rw [hj.filter_edges hv ht]
  have hlive : ∀ v, (s'.node? v).isSome = (s.node? v).isSome := fun v => by
    rw [hnode, Option.isSome_map]
  have hedge : ∀ {k e'}, s'.edge? k = some e' → s.edge? k = some e' := by
    intro k e' he'
    rw [hr.edge?] at he'
    split at he'
    · cases he'
    · exact he'
  have htouch : ∀ v k, s'.touches v k = (k != h && s.touches v k) := by
    intro v k
    unfold touches
    rw [hr.edge?]
    by_cases hk : k = h <;> simp [hk]
  refine ⟨⟨?_, ?_, ?_, hj.nodup, fun h' => hj.known (hedge h'), hj.kind,
    fun k hk => hr.spent_mono _ _ (hj.spent k hk)⟩, hnode⟩
  · intro k e' he'
    rw [hlive]; exact hj.source (hedge he')
  · intro k e' he'
    rw [hlive]; exact hj.target (hedge he')
  · intro v n' hn'
    rw [hnode] at hn'
    obtain ⟨n, hn, rfl⟩ := Option.map_eq_some_iff.1 hn'
    simp only
    rw [hj.incident hn, List.filter_filter]
    exact List.filter_congr fun k _ => (htouch v k).symm

/-- `s'` is `s` without the edges `hs`, which are on no list any more. -/
structure EdgesRemoved (s s' : Store) (hs : List Handle) : Prop where
  pins : s'.pins = s.pins
  edge? : ∀ k, s'.edge? k = if k ∈ hs then none else s.edge? k
  node? : ∀ v, s'.node? v = (s.node? v).map fun x => { x with edges := x.edges.filter (· ∉ hs) }

theorem EdgesRemoved.refl (s : Store) : EdgesRemoved s s [] :=
  ⟨rfl, fun k => by simp, fun v => by simp⟩

theorem EdgesRemoved.trans {s t u : Store} {hs ks : List Handle} (h : EdgesRemoved s t hs)
    (h' : EdgesRemoved t u ks) : EdgesRemoved s u (hs ++ ks) := by
  refine ⟨h'.pins.trans h.pins, fun k => ?_, fun v => ?_⟩
  · rw [h'.edge?, h.edge?]
    by_cases hk : k ∈ ks <;> simp [hk]
  · rw [h'.node?, h.node?, Option.map_map]
    congr 1
    funext x
    simp only [Function.comp, List.filter_filter]
    congr 1
    apply List.filter_congr
    intro k _
    by_cases hk : k ∈ hs <;> simp [hk]

theorem removeEdge_dead (hd : s.edge? h = none) : s.removeEdge h = s := by
  unfold removeEdge; rw [hd]

/-- **Removing an edge**, live or not. -/
theorem removeEdge_joined {m : Nat} (hm : m < UInt32.size - 1) (ok : s.Slots m)
    (hj : s.Joined created) (h : Handle) :
    (s.removeEdge h).Slots m ∧ (s.removeEdge h).Joined created ∧
      EdgesRemoved s (s.removeEdge h) [h] := by
  have hone : ∀ l : List Handle, l.filter (· ∉ [h]) = l.filter (· != h) := fun l =>
    List.filter_congr fun k _ => by by_cases hk : k = h <;> simp [hk]
  cases he : s.edge? h with
  | none =>
    rw [removeEdge_dead he]
    refine ⟨ok, hj, rfl, fun k => ?_, fun v => ?_⟩
    · by_cases hk : k = h <;> simp [hk, he]
    · cases hv : s.node? v with
      | none => rfl
      | some n =>
        have ht : s.touches v h = false := by unfold touches; rw [he]; rfl
        rw [Option.map_some, hone, hj.filter_edges hv ht]
  | some e =>
    obtain ⟨ok', hr⟩ := removeEdge_spec ok hm he
    obtain ⟨hj', hnode⟩ := hj.edgeRemoved he hr
    refine ⟨ok', hj', hr.pins, fun k => ?_, fun v => ?_⟩
    · rw [hr.edge?]; simp
    · simp only [hone]
      exact hnode v

/-- **Removing a list of edges**, live or not. -/
theorem removeEdges_spec {m : Nat} (hm : m < UInt32.size - 1) (hs : List Handle) :
    ∀ {s : Store}, s.Slots m → s.Joined created →
      (hs.foldl removeEdge s).Slots m ∧ (hs.foldl removeEdge s).Joined created ∧
        EdgesRemoved s (hs.foldl removeEdge s) hs := by
  induction hs with
  | nil => exact fun ok hj => ⟨ok, hj, .refl _⟩
  | cons h hs ih =>
    intro s ok hj
    obtain ⟨ok₁, hj₁, hr₁⟩ := removeEdge_joined hm ok hj h
    obtain ⟨ok₂, hj₂, hr₂⟩ := ih ok₁ hj₁
    exact ⟨ok₂, hj₂, hr₁.trans hr₂⟩

/-- **A node can be removed** if no edge is at it. -/
theorem Joined.nodeRemoved (hj : s.Joined created) (hr : NodeRemoved s s' h)
    (hfree : ∀ k, s.touches h k = false) : s'.Joined created := by
  have hedge : ∀ k, s'.edge? k = s.edge? k := edge?_congr hr.edges
  have hlive : ∀ {v}, v ≠ h → (s.node? v).isSome = true → (s'.node? v).isSome = true := by
    intro v hv hs
    rw [hr.node?, if_neg hv]; exact hs
  refine ⟨?_, ?_, ?_, hj.nodup, ?_, hj.kind, by rw [hr.edges]; exact hj.spent⟩
  · intro k e he
    rw [hedge] at he
    refine hlive ?_ (hj.source he)
    rintro rfl
    exact absurd (touches_iff.2 ⟨e, he, Or.inl rfl⟩) (by rw [hfree]; exact Bool.false_ne_true)
  · intro k e he
    rw [hedge] at he
    refine hlive ?_ (hj.target he)
    rintro rfl
    exact absurd (touches_iff.2 ⟨e, he, Or.inr rfl⟩) (by rw [hfree]; exact Bool.false_ne_true)
  · intro v n hn
    rw [hr.node?] at hn
    split at hn
    · cases hn
    · rw [hj.incident hn]
      exact List.filter_congr fun k _ => by unfold touches; rw [hedge]
  · intro k e he
    rw [hedge] at he
    exact hj.known he

theorem isPinned_eq_false : s.isPinned h = false ↔ h ∉ s.pins := by
  simp [isPinned, pinCount]

/-- **Deleting a node** removes the edges on its list, then the node. -/
theorem deleteNode_spec {m : Nat} (hm : m < UInt32.size - 1) (ok : s.Slots m)
    (hj : s.Joined created) (hd : s.deleteNode h = .ok s') :
    s'.Slots m ∧ s'.Joined created ∧ ∃ n t, s.node? h = some n ∧ h ∉ s.pins ∧
      (∀ k ∈ n.edges, k ∉ s.pins) ∧ EdgesRemoved s t n.edges ∧ NodeRemoved t s' h := by
  obtain ⟨n, hn, hp, hps, rfl⟩ := deleteNode_eq hd
  obtain ⟨ok₁, hj₁, hr₁⟩ := removeEdges_spec hm n.edges ok hj
  set t := n.edges.foldl removeEdge s
  have ht : t.node? h = some { n with edges := n.edges.filter (· ∉ n.edges) } := by
    rw [hr₁.node?, hn]; rfl
  obtain ⟨ok₂, hr₂⟩ := removeNode_spec ok₁ hm ht
  refine ⟨ok₂, hj₁.nodeRemoved hr₂ ?_, n, t, hn, isPinned_eq_false.1 hp,
    fun k hk => isPinned_eq_false.1 (hps k hk), hr₁, hr₂⟩
  -- the list of the node is empty by now, so no edge is left at it
  intro k
  rw [Bool.eq_false_iff]
  intro hk
  have := (hj₁.mem_edges ht).2 hk
  simp at this

/-! ## Pins -/

theorem Anchored.mono (ha : s.Anchored) (hp : s'.pins = s.pins)
    (hl : ∀ v ∈ s.pins, s.contains v = true → s'.contains v = true) : s'.Anchored := by
  intro v hv
  rw [hp] at hv
  exact hl v hv (ha v hv)

end Store

end GraphWalk
