import GraphWalk.Proofs.Registry.Visit
import GraphWalk.Proofs.Store.Records
import GraphWalk.Store.Basic

/-!
# Neighbours by a scan of all edges

A query from a node follows the list of the node, which creations and deletions have written.
What it answers can be said of all edges of the store, without any list: `mem_hops`. A query from
an edge answers with its ends: `hops_edge`.

Main results:
* `hops_of_run`: **the neighbours of a node** are over those edges at it which pass the filter,
  each edge once, in the order in which the edges were created.
* `duality_of_run`: **an edge is followed both ways**, out to its target and in to its source,
  but a directed loop is only followed out.
-/

namespace GraphWalk

/-- **A list of names admits an architype** if it is empty, or it has the name of the architype
or of an ancestor. -/
def Admits (names : List String) (a : Architype) : Prop :=
  names = [] ∨ ∃ n ∈ names, n = a.name ∨ n ∈ a.ancestry

theorem matchesAny_iff {names : List String} {a : Architype} :
    a.matchesAny names = true ↔ Admits names a := by
  unfold Architype.matchesAny Architype.isA Admits
  simp only [Bool.or_eq_true, List.isEmpty_iff, List.any_eq_true, decide_eq_true_eq,
    List.contains_iff_mem, @eq_comm _ a.name]

/-- The edge has `v` at one end and `w` at the other; a loop has its node at both. -/
def Edge.Joins (e : Edge) (v w : Handle) : Prop :=
  e.source = v ∧ e.target = w ∨ e.target = v ∧ e.source = w

theorem Edge.joins_iff {e : Edge} {v w : Handle} :
    e.Joins v w ↔ (e.source = v ∨ e.target = v) ∧ e.other v = w := by
  unfold Joins other
  by_cases hs : e.source = v
  · rw [if_pos hs]
    constructor
    · rintro (⟨-, ht⟩ | ⟨ht, hs'⟩)
      · exact ⟨Or.inl hs, ht⟩
      · exact ⟨Or.inl hs, ht.trans (hs.symm.trans hs')⟩
    · exact fun ⟨_, ht⟩ => Or.inl ⟨hs, ht⟩
  · rw [if_neg hs]
    simp [hs]

namespace Store

open Relation

variable {s : Store} {h k v : Handle} {x y : Node} {e : Edge} {f : HopFilter}
  {d dir : Direction} {p : Hop} {created : List Handle} {n : Nat}

/-! ## Filters -/

/-- A filter lets pass the way over `e` to `y`, which is a way in this direction. -/
structure Passes (f : HopFilter) (e : Edge) (y : Node) (dir : Direction) : Prop where
  edge : Admits f.edge e.arch
  node : Admits f.node y.arch
  direction : f.direction = .any ∨ e.directed = false ∨ f.direction = dir

theorem matchesHop_iff : matchesHop e y dir f = true ↔ Passes f e y dir := by
  unfold matchesHop
  rw [Bool.and_eq_true, Bool.and_eq_true, matchesAny_iff, matchesAny_iff]
  simp only [Bool.or_eq_true, beq_iff_eq, Bool.not_eq_true', or_assoc]
  constructor
  · rintro ⟨⟨he, hy⟩, hd⟩
    exact ⟨he, hy, hd⟩
  · rintro ⟨he, hy, hd⟩
    exact ⟨⟨he, hy⟩, hd⟩

/-- A filter without names is on the direction alone. -/
theorem passes_unnamed :
    Passes ⟨[], [], d⟩ e y dir ↔ d = .any ∨ e.directed = false ∨ d = dir :=
  ⟨fun h => h.direction, fun h => ⟨Or.inl rfl, Or.inl rfl, h⟩⟩

/-- Where one leaves `v` in any direction or outwards, directed edges have to start there. -/
theorem outward_iff (h : f.direction ≠ .into) :
    (f.direction = .any ∨ e.directed = false ∨
      f.direction = if e.source = v then .out else .into) ↔
        (f.direction = .out → e.directed = false ∨ e.source = v) := by
  cases hd : f.direction with
  | any => simp
  | out => by_cases hs : e.source = v <;> simp [hs]
  | into => exact absurd hd h

/-! ## Neighbours of a node -/

/-- What following one edge of a node leads to. -/
def hopOver (s : Store) (h : Handle) (f : HopFilter) (k : Handle) : Option Hop :=
  (s.nodeHop? h f k).map fun (e, n) => ⟨e.id, n.id⟩

/-- The neighbours of a node come in the order of its list. -/
theorem hops_node (hx : s.node? h = some x) :
    s.hops h f = .ok (x.edges.filterMap (s.hopOver h f)) := by
  obtain ⟨hk, -⟩ := node?_eq_some.1 hx
  have hi : s.instance? h = some (.node x) := instance?_eq_node.2 hx
  have ha : s.instanceAt h = .ok (.node x) := by
    unfold instanceAt Store.node
    rw [if_neg (by rw [hk]; exact nofun), hx]
    rfl
  unfold hops neighbors
  rw [ha, hi]
  simp only [List.map_filterMap]
  rfl

theorem nodeHop?_iff : s.nodeHop? v f k = some (e, y) ↔ s.edge? k = some e ∧
    s.node? (e.other v) = some y ∧ Passes f e y (if e.source = v then .out else .into) := by
  unfold nodeHop?
  constructor
  · intro hy
    obtain ⟨e', he, hy⟩ := Option.bind_eq_some_iff.1 hy
    obtain ⟨y', hother, hy⟩ := Option.bind_eq_some_iff.1 hy
    obtain ⟨hpass, hy⟩ := Option.ite_none_right_eq_some.1 hy
    cases hy
    exact ⟨he, hother, matchesHop_iff.1 hpass⟩
  · rintro ⟨he, hother, hpass⟩
    rw [he, Option.bind_eq_bind, Option.bind_some, hother, Option.bind_eq_bind, Option.bind_some]
    exact if_pos (matchesHop_iff.2 hpass)

theorem hopOver_iff : s.hopOver v f k = some p ↔ ∃ e y, s.edge? k = some e ∧
    s.node? (e.other v) = some y ∧ p = ⟨e.id, y.id⟩ ∧
      Passes f e y (if e.source = v then .out else .into) := by
  unfold hopOver
  rw [Option.map_eq_some_iff]
  constructor
  · rintro ⟨⟨e, y⟩, hy, rfl⟩
    obtain ⟨he, hother, hpass⟩ := nodeHop?_iff.1 hy
    exact ⟨e, y, he, hother, rfl, hpass⟩
  · rintro ⟨e, y, he, hother, rfl, hpass⟩
    exact ⟨(e, y), nodeHop?_iff.2 ⟨he, hother, hpass⟩, rfl⟩

/-- A hop tells the edge that it is over and the node at its end. -/
theorem hopOver_eq_some (ok : s.Slots n) (hp : s.hopOver h f k = some p) :
    p.edge = k ∧ s.contains p.edge = true ∧ s.contains p.node = true := by
  obtain ⟨e, y, he, hy, rfl, -⟩ := hopOver_iff.1 hp
  have hedge := ok.edge_id he
  have hnode := ok.node_id hy
  refine ⟨hedge, contains_iff.2 (Or.inr ?_), contains_iff.2 (Or.inl ?_)⟩
  · show (s.edge? e.id).isSome = true
    rw [hedge, he]
    rfl
  · show (s.node? y.id).isSome = true
    rw [hnode, hy]
    rfl

/-- The edges of the neighbours are edges of the list, in its order. -/
theorem hopOver_sublist (ok : s.Slots n) (ks : List Handle) :
    ((ks.filterMap (s.hopOver v f)).map Hop.edge).Sublist ks := by
  induction ks with
  | nil => exact List.Sublist.refl _
  | cons k ks ih =>
    cases hk : s.hopOver v f k with
    | none =>
      rw [List.filterMap_cons_none hk]
      exact ih.cons k
    | some p =>
      rw [List.filterMap_cons_some hk, List.map_cons, (hopOver_eq_some ok hk).1]
      exact ih.cons_cons k

/-- **The neighbours of a node**, by a scan of all edges. -/
theorem mem_hops (ok : s.OK n created) (hx : s.node? v = some x) :
    p ∈ x.edges.filterMap (s.hopOver v f) ↔ ∃ e ∈ s.allEdges, ∃ y ∈ s.allNodes,
      p = ⟨e.id, y.id⟩ ∧ e.Joins v y.id ∧
        Passes f e y (if e.source = v then .out else .into) := by
  rw [List.mem_filterMap]
  constructor
  · rintro ⟨k, hk, hp⟩
    obtain ⟨e, y, he, hy, hpq, hpass⟩ := hopOver_iff.1 hp
    obtain ⟨e', he', hend⟩ := touches_iff.1 ((ok.joined.mem_edges hx).1 hk)
    obtain rfl : e = e' := Option.some.inj (he.symm.trans he')
    obtain ⟨hlive, -⟩ := ok.slots.edge?_iff.1 he
    obtain ⟨hother, hid⟩ := ok.slots.node?_iff.1 hy
    exact ⟨e, hlive, y, hother, hpq, Edge.joins_iff.2 ⟨hend, hid.symm⟩, hpass⟩
  · rintro ⟨e, he, y, hy, hpq, hjoins, hpass⟩
    obtain ⟨hend, hother⟩ := Edge.joins_iff.1 hjoins
    have he := ok.slots.mem_allEdges.1 he
    refine ⟨e.id, (ok.joined.mem_edges hx).2 (touches_iff.2 ⟨e, he, hend⟩), ?_⟩
    exact hopOver_iff.2 ⟨e, y, he, ok.slots.node?_iff.2 ⟨hy, hother.symm⟩, hpq, hpass⟩

/-- **Neighbours by a scan.** In every store that is reached by fewer than `2^32 - 1` calls, a
query from a node, in any direction or outwards, answers with just the edges at the node that
pass the filter, each with its other end, in the order in which the edges were created. Names
match what they admit; and the ancestors of a record, once its registry is linked, are what is
reached over the bases that are declared. -/
theorem hops_of_run (ops : List Operation) (h : calls ops < 2 ^ 32 - 1) :
    (empty.createdEdges ops).Nodup ∧
      (∀ v x f, (empty.run ops).node v = .ok x → f.direction ≠ .into →
        ∃ hs, (empty.run ops).hops v f = .ok hs ∧ (hs.map Hop.edge).Nodup ∧
          (hs.map Hop.edge).Sublist (empty.createdEdges ops) ∧
          ∀ p, p ∈ hs ↔ ∃ e ∈ (empty.run ops).allEdges, ∃ y ∈ (empty.run ops).allNodes,
            p = ⟨e.id, y.id⟩ ∧ e.Joins v y.id ∧ Admits f.edge e.arch ∧ Admits f.node y.arch ∧
              (f.direction = .out → e.directed = false ∨ e.source = v)) ∧
      (∀ names a, a.matchesAny names = true ↔ Admits names a) ∧
      ∀ cs : List Registry.Call, (Registry.empty.performs cs).frozen = false →
        (Registry.empty.performs cs).link.2 = [] →
          ∀ a ∈ (Registry.empty.performs cs).link.1.archs, ∀ n, n ∈ a.ancestry ↔
            ∃ c ∈ (Registry.empty.performs cs).link.1.archs, c.name = n ∧
              TransGen (Registry.empty.performs cs).HasBase a.key c.key := by
  have ok := run_ok ops empty_ok (n := 0) (by rw [Nat.zero_add]; exact h)
  rw [List.nil_append] at ok
  refine ⟨ok.joined.nodup, fun v x f hx hdir => ?_, fun _ _ => matchesAny_iff,
    fun cs hf hl a ha n => ?_⟩
  · have hx := node_eq_ok.1 hx
    have hlisted : x.edges.Sublist (empty.createdEdges ops) := by
      rw [ok.joined.incident hx]
      exact List.filter_sublist
    have hsub := (hopOver_sublist (v := v) (f := f) ok.slots x.edges).trans hlisted
    refine ⟨_, hops_node hx, ok.joined.nodup.sublist hsub, hsub, fun p => ?_⟩
    rw [mem_hops ok hx]
    refine exists_congr fun e => and_congr_right fun _ => exists_congr fun y =>
      and_congr_right fun _ => and_congr_right fun _ => and_congr_right fun _ => ?_
    rw [← outward_iff hdir]
    exact ⟨fun hp => ⟨hp.edge, hp.node, hp.direction⟩, fun ⟨he, hy, hd⟩ => ⟨he, hy, hd⟩⟩
  · obtain ⟨hlinked, hsteps⟩ := Registry.linked_of_link (Registry.tidy_of_calls cs) hf hl
    rw [hlinked.mem_ancestry a ha, hsteps]

/-- A plaza with a street that has been built anew, a way around it, and a one-way and a two-way
street that come from elsewhere. -/
def plaza : List Operation :=
  let town := Architype.new "m" ⟨.node, "Town"⟩
  let way := Architype.new "m" ⟨.edge, "Way"⟩
  let street := (Architype.new "m" ⟨.edge, "Street"⟩).link [way]
  [.edit (.createNode town []), .edit (.createNode town []),
    .edit (.createEdge street (.node 0 1) (.node 1 1) true []),
    .edit (.createEdge way (.node 0 1) (.node 0 1) true []),
    .edit (.createEdge street (.node 1 1) (.node 0 1) true []),
    .edit (.createEdge street (.node 1 1) (.node 0 1) false []),
    .edit (.deleteEdge (.edge 0 1)),
    .edit (.createEdge street (.node 0 1) (.node 1 1) true [])]

theorem hops_plaza : calls plaza < 2 ^ 32 - 1 ∧
    (∃ x hs, (empty.run plaza).node (.node 0 1) = .ok x ∧
      hs = [⟨.edge 1 1, .node 0 1⟩, ⟨.edge 3 1, .node 1 1⟩, ⟨.edge 0 2, .node 1 1⟩] ∧
      (empty.run plaza).hops (.node 0 1) ⟨["Way"], ["Town"], .out⟩ = .ok hs ∧
      (hs.map Hop.edge).Sublist (empty.createdEdges plaza) ∧
      ∀ p ∈ hs, ∃ e ∈ (empty.run plaza).allEdges, ∃ y ∈ (empty.run plaza).allNodes,
        p = ⟨e.id, y.id⟩ ∧ e.Joins (.node 0 1) y.id ∧ Admits ["Way"] e.arch ∧
          (e.directed = false ∨ e.source = .node 0 1)) ∧
    (Registry.empty.performs Registry.family).frozen = false ∧
    (Registry.empty.performs Registry.family).link.2 = [] ∧
    ∀ a ∈ (Registry.empty.performs Registry.family).link.1.archs, "Base" ∈ a.ancestry ↔
      ∃ c ∈ (Registry.empty.performs Registry.family).link.1.archs, c.name = "Base" ∧
        TransGen (Registry.empty.performs Registry.family).HasBase a.key c.key := by
  obtain ⟨-, hnode, -, hlink⟩ := hops_of_run plaza (by decide)
  obtain ⟨hs, hhops, -, hsub, hmem⟩ :=
    hnode (.node 0 1) _ ⟨["Way"], ["Town"], .out⟩ rfl (by decide)
  have hlist := Except.ok.inj (hhops.symm.trans rfl)
  refine ⟨by decide, ⟨_, hs, rfl, hlist, hhops, hsub, fun p hp => ?_⟩,
    rfl, rfl, fun a ha => hlink Registry.family rfl rfl a ha "Base"⟩
  obtain ⟨e, he, y, hy, hpq, hjoins, hedge, -, hout⟩ := (hmem p).1 hp
  exact ⟨e, he, y, hy, hpq, hjoins, hedge, hout rfl⟩

/-! ## The ends of an edge -/

theorem mem_edgeHop? {q : Edge × Node} :
    q ∈ (s.edgeHop? e dir f v).toList ↔
      ∃ y, s.node? v = some y ∧ q = (e, y) ∧ Passes f e y dir := by
  unfold edgeHop?
  rw [Option.mem_toList, Option.bind_eq_bind, Option.bind_eq_some_iff]
  simp only [Option.ite_none_right_eq_some, Option.some.injEq, matchesHop_iff]
  exact exists_congr fun y => and_congr_right fun _ => ⟨fun ⟨h, hq⟩ => ⟨hq.symm, h⟩,
    fun ⟨hq, h⟩ => ⟨h, hq.symm⟩⟩

theorem neighbors_edge (he : s.edge? k = some e) : s.neighbors k f =
    (s.edgeHop? e .out f e.target).toList ++
      if e.source = e.target then [] else (s.edgeHop? e .into f e.source).toList := by
  unfold neighbors instance?
  rw [if_pos (edge?_eq_some.1 he).1, he]
  rfl

/-- **The neighbours of an edge** are its target, which is outward, and its source, which is
inward, unless they are one node. -/
theorem hops_edge (ok : s.Slots n) (he : s.edge? k = some e) : ∃ hs, s.hops k f = .ok hs ∧
    ∀ p, p ∈ hs ↔ ∃ y ∈ s.allNodes, p = ⟨e.id, y.id⟩ ∧
      (y.id = e.target ∧ Passes f e y .out ∨
        y.id = e.source ∧ e.source ≠ e.target ∧ Passes f e y .into) := by
  have ha : s.instanceAt k = .ok (.edge e) := by
    unfold instanceAt Store.edge
    rw [if_pos (edge?_eq_some.1 he).1, he]
    rfl
  unfold hops
  rw [ha, neighbors_edge he]
  refine ⟨_, rfl, fun p => ?_⟩
  rw [List.mem_map]
  constructor
  · rintro ⟨q, hq, rfl⟩
    rcases List.mem_append.1 hq with hq | hq
    · obtain ⟨y, hy, rfl, hpass⟩ := mem_edgeHop?.1 hq
      obtain ⟨hlive, hid⟩ := ok.node?_iff.1 hy
      exact ⟨y, hlive, rfl, Or.inl ⟨hid, hpass⟩⟩
    · split at hq
      · cases hq
      · rename_i hne
        obtain ⟨y, hy, rfl, hpass⟩ := mem_edgeHop?.1 hq
        obtain ⟨hlive, hid⟩ := ok.node?_iff.1 hy
        exact ⟨y, hlive, rfl, Or.inr ⟨hid, hne, hpass⟩⟩
  · rintro ⟨y, hlive, rfl, ⟨hid, hpass⟩ | ⟨hid, hne, hpass⟩⟩
    · have hq := mem_edgeHop?.2 ⟨y, ok.node?_iff.2 ⟨hlive, hid⟩, rfl, hpass⟩
      exact ⟨(e, y), List.mem_append_left _ hq, rfl⟩
    · have hq := mem_edgeHop?.2 ⟨y, ok.node?_iff.2 ⟨hlive, hid⟩, rfl, hpass⟩
      rw [if_neg hne]
      exact ⟨(e, y), List.mem_append_right _ hq, rfl⟩

/-! ## Both ways -/

/-- The nodes at the ends of an edge. -/
theorem OK.ends (ok : s.OK n created) (he : e ∈ s.allEdges) :
    ∃ x ∈ s.allNodes, ∃ y ∈ s.allNodes, x.id = e.source ∧ y.id = e.target := by
  have hk := ok.slots.mem_allEdges.1 he
  obtain ⟨x, hx⟩ := Option.isSome_iff_exists.1 (ok.joined.source hk)
  obtain ⟨y, hy⟩ := Option.isSome_iff_exists.1 (ok.joined.target hk)
  obtain ⟨hx, hxid⟩ := ok.slots.node?_iff.1 hx
  obtain ⟨hy, hyid⟩ := ok.slots.node?_iff.1 hy
  exact ⟨x, hx, y, hy, hxid, hyid⟩

/-- **From its ends** an edge is followed out and in, but in only if it is no directed loop. -/
theorem hops_from_ends (ok : s.OK n created) (he : e ∈ s.allEdges) :
    ∃ fromSource fromTarget, s.hops e.source ⟨[], [], .out⟩ = .ok fromSource ∧
      s.hops e.target ⟨[], [], .into⟩ = .ok fromTarget ∧ ⟨e.id, e.target⟩ ∈ fromSource ∧
      (⟨e.id, e.source⟩ ∈ fromTarget ↔ ¬(e.directed = true ∧ e.source = e.target)) := by
  obtain ⟨x, hx, y, hy, hxid, hyid⟩ := ok.ends he
  have hx' := ok.slots.node?_iff.2 ⟨hx, hxid⟩
  have hy' := ok.slots.node?_iff.2 ⟨hy, hyid⟩
  refine ⟨_, _, hops_node hx', hops_node hy', ?_, ?_⟩
  · refine (mem_hops ok hx').2 ⟨e, he, y, hy, by rw [hyid], Or.inl ⟨rfl, hyid.symm⟩, ?_⟩
    rw [if_pos rfl, passes_unnamed]
    exact Or.inr (Or.inr rfl)
  · rw [mem_hops ok hy']
    constructor
    · rintro ⟨e', he', z, -, hp, -, hpass⟩ ⟨hdir, hloop⟩
      obtain rfl := List.inj_on_of_nodup_map ok.slots.nodup_allEdges he he' (congrArg Hop.edge hp)
      rw [if_pos hloop, passes_unnamed, hdir] at hpass
      simp at hpass
    · intro hno
      refine ⟨e, he, x, hx, by rw [hxid], Or.inr ⟨rfl, hxid.symm⟩, passes_unnamed.2 (Or.inr ?_)⟩
      cases hdir : e.directed with
      | false => exact Or.inl rfl
      | true => exact Or.inr (if_neg fun hloop => hno ⟨hdir, hloop⟩).symm

/-- **From itself** an edge leads out to its target, and in to its source if it is no directed
loop. -/
theorem hops_from_edge (ok : s.OK n created) (he : e ∈ s.allEdges) :
    ∃ outward inward, s.hops e.id ⟨[], [], .out⟩ = .ok outward ∧
      s.hops e.id ⟨[], [], .into⟩ = .ok inward ∧ ⟨e.id, e.target⟩ ∈ outward ∧
      (⟨e.id, e.source⟩ ∈ inward ↔ ¬(e.directed = true ∧ e.source = e.target)) := by
  obtain ⟨x, hx, y, hy, hxid, hyid⟩ := ok.ends he
  have hk := ok.slots.mem_allEdges.1 he
  obtain ⟨outward, hout, hmemout⟩ := hops_edge (f := ⟨[], [], .out⟩) ok.slots hk
  obtain ⟨inward, hin, hmemin⟩ := hops_edge (f := ⟨[], [], .into⟩) ok.slots hk
  refine ⟨outward, inward, hout, hin, ?_, ?_⟩
  · refine (hmemout _).2 ⟨y, hy, by rw [hyid], Or.inl ⟨hyid, passes_unnamed.2 ?_⟩⟩
    exact Or.inr (Or.inr rfl)
  · rw [hmemin]
    constructor
    · rintro ⟨z, -, -, ⟨-, hpass⟩ | ⟨-, hne, -⟩⟩ ⟨hdir, hloop⟩
      · rw [passes_unnamed, hdir] at hpass
        simp at hpass
      · exact hne hloop
    · intro hno
      refine ⟨x, hx, by rw [hxid], ?_⟩
      by_cases hloop : e.source = e.target
      · -- the node of a loop is a neighbour as the target, which only undirected edges have inward
        have hdir : e.directed = false := Bool.eq_false_iff.2 fun hdir => hno ⟨hdir, hloop⟩
        exact Or.inl ⟨hxid.trans hloop, passes_unnamed.2 (Or.inr (Or.inl hdir))⟩
      · exact Or.inr ⟨hxid, hloop, passes_unnamed.2 (Or.inr (Or.inr rfl))⟩

/-- **An edge is followed both ways**, in every store that is reached by fewer than `2^32 - 1`
calls. From its source it is followed out to its target, and from the edge itself the target is
outward. From its target it is followed in to its source, and from the edge itself the source is
inward, except for a directed loop: that is only followed out. -/
theorem duality_of_run (ops : List Operation) (h : calls ops < 2 ^ 32 - 1) (e : Edge)
    (he : e ∈ (empty.run ops).allEdges) :
    ∃ fromSource fromTarget outward inward,
      (empty.run ops).hops e.source ⟨[], [], .out⟩ = .ok fromSource ∧
      (empty.run ops).hops e.target ⟨[], [], .into⟩ = .ok fromTarget ∧
      (empty.run ops).hops e.id ⟨[], [], .out⟩ = .ok outward ∧
      (empty.run ops).hops e.id ⟨[], [], .into⟩ = .ok inward ∧
      ⟨e.id, e.target⟩ ∈ fromSource ∧ ⟨e.id, e.target⟩ ∈ outward ∧
      (⟨e.id, e.source⟩ ∈ fromTarget ↔ ¬(e.directed = true ∧ e.source = e.target)) ∧
      (⟨e.id, e.source⟩ ∈ inward ↔ ¬(e.directed = true ∧ e.source = e.target)) := by
  have ok := run_ok ops empty_ok (n := 0) (by rw [Nat.zero_add]; exact h)
  obtain ⟨fromSource, fromTarget, hsource, htarget, hmemsource, hmemtarget⟩ := hops_from_ends ok he
  obtain ⟨outward, inward, hout, hin, hmemout, hmemin⟩ := hops_from_edge ok he
  exact ⟨fromSource, fromTarget, outward, inward, hsource, htarget, hout, hin, hmemsource, hmemout,
    hmemtarget, hmemin⟩

/-- A roundabout: a directed road from a town to itself, and one from there to another town. -/
def roundabout : List Operation :=
  let town := Architype.new "m" ⟨.node, "Town"⟩
  let road := Architype.new "m" ⟨.edge, "Road"⟩
  [.edit (.createNode town []), .edit (.createNode town []),
    .edit (.createEdge road (.node 0 1) (.node 0 1) true []),
    .edit (.createEdge road (.node 0 1) (.node 1 1) true [])]

theorem duality_roundabout : ∃ e, calls roundabout < 2 ^ 32 - 1 ∧
    e ∈ (empty.run roundabout).allEdges ∧ e.source = .node 0 1 ∧ e.target = .node 1 1 ∧
    ∃ fromSource fromTarget,
      (empty.run roundabout).hops e.source ⟨[], [], .out⟩ = .ok fromSource ∧
      (empty.run roundabout).hops e.target ⟨[], [], .into⟩ = .ok fromTarget ∧
      ⟨e.id, e.target⟩ ∈ fromSource ∧ ⟨e.id, e.source⟩ ∈ fromTarget := by
  have he : (empty.run roundabout).allEdges[1] ∈ (empty.run roundabout).allEdges :=
    List.getElem_mem (by decide)
  obtain ⟨fromSource, fromTarget, -, -, hsource, htarget, -, -, hmemsource, -, hmemtarget, -⟩ :=
    duality_of_run roundabout (by decide) _ he
  exact ⟨_, by decide, he, rfl, rfl, fromSource, fromTarget, hsource, htarget, hmemsource,
    hmemtarget.2 fun ⟨_, hloop⟩ => absurd hloop (by decide)⟩

/-- The road around is not followed in, neither from the town nor from the road. -/
theorem roundabout_one_way : ∃ e, calls roundabout < 2 ^ 32 - 1 ∧
    e ∈ (empty.run roundabout).allEdges ∧ e.id = .edge 0 1 ∧ e.source = .node 0 1 ∧
    e.target = .node 0 1 ∧ (empty.run roundabout).hops (.node 0 1) ⟨[], [], .into⟩ = .ok [] ∧
    (empty.run roundabout).hops (.edge 0 1) ⟨[], [], .into⟩ = .ok [] :=
  ⟨_, by decide, List.mem_cons_self, rfl, rfl, rfl, rfl, rfl⟩

end Store

end GraphWalk
