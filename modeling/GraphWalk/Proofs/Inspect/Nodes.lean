import GraphWalk.Inspect
import GraphWalk.Proofs.Handle.Text
import GraphWalk.Proofs.List.Related
import GraphWalk.Proofs.Store.Hops
import GraphWalk.Proofs.Web.Target
import GraphWalk.Proofs.World.Operations

/-!
# The views of nodes agree

Four requests show the same nodes: the list, a single node, its neighbours, and a node that is not
there. They reach them in ways of their own, over the slots, over the text of a handle, and over
the list of edges at a node.

* A handle's text is a segment of a path (`segment_text`), so the path of a node is read as it
  stands and leads to its view (`ask_node`, `ask_neighbors`).
* The text is read as the handle again, and the node is looked up (`findNode_text`).
* Every edge at a node is a hop, as long as edges and lists agree (`filterMap_nodeHop?`).

Main result: `views_agree`. **What is listed is what there is**, and each of the other views shows
the same, in every world that was reached with fewer than `2 ^ 32 - 1` operations of its store.
-/

namespace GraphWalk

namespace Inspect

open Store (Operation calls proper_of_node?)

variable {w : World} {h : Handle} {t : String} {x : Node} {v : Json} {created : List Handle}
  {n : Nat}

/-! ## Paths -/

/-- A text that can stand between two slashes of a path as it is. -/
structure Segment (t : String) : Prop where
  plain : ∀ c ∈ t.toList, Url.Plain c
  whole : ∀ c ∈ t.toList, decide (c = '/') = false
  ne_empty : t ≠ ""

/-- **The text of a handle** is letters, digits and a point. -/
theorem segment_text (hp : h.Proper) : Segment h.text := by
  have hletter : h.kind.letter = 'n' ∨ h.kind.letter = 'e' :=
    hp.kind.imp (fun hk => by rw [hk]; rfl) fun hk => by rw [hk]; rfl
  have hchars : ∀ c ∈ h.text.toList, c.isAlphanum = true ∨ c = '.' := by
    intro c hc
    rw [Handle.toList_text hp, List.mem_cons, List.mem_append, List.mem_cons] at hc
    have hdigit : ∀ n, c ∈ Nat.toDigits 10 n → c.isAlphanum = true := fun n hm => by
      rw [Char.isAlphanum, Handle.isDigit_toDigits n c hm, Bool.or_true]
    rcases hc with rfl | hc | hc | hc
    · rcases hletter with hl | hl <;> rw [hl] <;> exact .inl (by decide)
    · exact .inl (hdigit _ hc)
    · exact .inr hc
    · exact .inl (hdigit _ hc)
  refine ⟨fun c hc => ?_, fun c hc => decide_eq_false ?_, fun he => ?_⟩
  · rcases hchars c hc with hc | rfl
    · exact Url.plain_of_isAlphanum hc
    · decide
  · rintro rfl
    rcases hchars _ hc with hc | hc <;> exact absurd hc (by decide)
  · have := Handle.toList_text hp
    rw [he] at this
    cases this

theorem route?_node (ht : Segment t) : route? ("/nodes/" ++ t) = some (.node t) := by
  have hpieces : Text.splitWhere (· = '/') ("/nodes/" ++ t).toList =
      [[], "nodes".toList, t.toList] := by
    rw [show ("/nodes/" ++ t).toList = [] ++ '/' :: ("nodes".toList ++ '/' :: t.toList) by
        simp [String.toList_append],
      Text.splitWhere_append (by simp) (by decide), Text.splitWhere_append (by simp) (by decide),
      Text.splitWhere_of_no_mark ht.whole]
  unfold route?
  rw [hpieces]
  simp only [List.map_cons, List.map_nil, String.ofList_toList]
  have hne := ht.ne_empty
  split <;> simp_all

theorem route?_neighbors (ht : Segment t) :
    route? ("/nodes/" ++ t ++ "/neighbors") = some (.neighbors t) := by
  have hpieces : Text.splitWhere (· = '/') ("/nodes/" ++ t ++ "/neighbors").toList =
      [[], "nodes".toList, t.toList, "neighbors".toList] := by
    rw [show ("/nodes/" ++ t ++ "/neighbors").toList =
        [] ++ '/' :: ("nodes".toList ++ '/' :: (t.toList ++ '/' :: "neighbors".toList)) by
        simp [String.toList_append],
      Text.splitWhere_append (by simp) (by decide), Text.splitWhere_append (by simp) (by decide),
      Text.splitWhere_append ht.whole (by decide), Text.splitWhere_of_no_mark (by simp)]
  unfold route?
  rw [hpieces]
  simp only [List.map_cons, List.map_nil, String.ofList_toList]

/-- **A plain path is answered by the view it stands for**, without parameters. -/
theorem ask_of_plain {path : String} {route : Route} (h : ∀ c ∈ path.toList, Url.Plain c)
    (hhead : path.toList.head? = some '/') (hroute : route? path = some route) :
    ask w "GET" path = .ok (answerRoute w { Url.empty with path } route) := by
  have hne : path ≠ "" := by
    rintro rfl
    cases hhead
  unfold ask
  rw [RequestLine.read_of_plain (by decide) h hhead]
  unfold Except.map respond
  simp only [Url.empty]
  rw [if_neg (by decide), if_neg (by simp), if_neg hne, hroute]
  rfl

theorem ask_nodes (w : World) : ask w "GET" "/nodes" = .ok (listNodes w "") :=
  ask_of_plain (Url.plain_of_all (by decide)) (by decide)
    (show route? "/nodes" = some .nodes by decide)

theorem ask_node (w : World) (ht : Segment t) :
    ask w "GET" ("/nodes/" ++ t) = .ok (getNode w t) := by
  refine ask_of_plain (fun c hc => ?_) ?_ (route?_node ht)
  · rw [String.toList_append, List.mem_append] at hc
    rcases hc with hc | hc
    · exact Url.plain_of_all (by decide) c hc
    · exact ht.plain c hc
  · simp [String.toList_append]

theorem ask_neighbors (w : World) (ht : Segment t) :
    ∃ path, ask w "GET" ("/nodes/" ++ t ++ "/neighbors") =
      .ok (getNeighbors w t { Url.empty with path }) := by
  refine ⟨"/nodes/" ++ t ++ "/neighbors",
    ask_of_plain (fun c hc => ?_) ?_ (route?_neighbors ht)⟩
  · rw [String.toList_append, String.toList_append, List.mem_append, List.mem_append] at hc
    rcases hc with (hc | hc) | hc
    · exact Url.plain_of_all (by decide) c hc
    · exact ht.plain c hc
    · exact Url.plain_of_all (by decide) c hc
  · simp [String.toList_append]

/-! ## Views -/

/-- The text under a key of an object. -/
def textAt? (key : String) (j : Json) : Option String :=
  match j.get? key with
  | some (.str s) => some s
  | _ => none

/-- The texts that an object lists under `edges`; none, if it has no such list. -/
def edgesOf (j : Json) : List (Option String) :=
  match j.get? "edges" with
  | some (.arr items) => items.map fun
    | .str s => some s
    | _ => none
  | _ => []

/-- **The view of a node** tells its handle and the edges at it. -/
theorem nodeView_shows (h : nodeView x = .ok v) :
    textAt? "handle" v = some x.id.text ∧ edgesOf v = x.edges.map fun k => some k.text := by
  obtain ⟨fields, -, h⟩ := of_bind_ok h
  cases h
  unfold textAt? edgesOf Json.get? texts
  cases x.edges with
  | nil => exact ⟨rfl, rfl⟩
  | cons k ks =>
    refine ⟨rfl, ?_⟩
    simp [unlessEmpty]

/-- **The text of a handle is read back**, and the node is looked up. -/
theorem findNode_text (hp : h.Proper) (hk : h.kind = .node) : findNode w h.text =
    match w.engine.store.node h with
    | .ok x => .ok x
    | .error e => .error (plain 404 e.message) := by
  unfold findNode
  rw [Handle.parse_text hp]
  cases hfound : w.engine.store.node h <;>
    simp only [hp.isNode hk, hfound, Bool.not_true, Bool.false_eq_true, if_false]

/-! ## Neighbours -/

/-- An edge on the list of a node is a hop to a node. -/
theorem nodeHop?_listed {s : Store} {k : Handle} (ok : s.OK n created) (hx : s.node? h = some x)
    (hk : k ∈ x.edges) : ∃ p, s.nodeHop? h ⟨[], [], .any⟩ k = some p := by
  obtain ⟨e, he, hends⟩ := Store.touches_iff.1 ((ok.joined.mem_edges hx).1 hk)
  have hlive : (s.node? (e.other h)).isSome = true := by
    unfold Edge.other
    split
    · exact ok.joined.target he
    · exact ok.joined.source he
  obtain ⟨y, hy⟩ := Option.isSome_iff_exists.1 hlive
  exact ⟨(e, y), Store.nodeHop?_iff.2 ⟨he, hy, Store.passes_unnamed.2 (.inl rfl)⟩⟩

/-- **Without a filter every edge at a node is a hop**, in the order of its list. -/
theorem neighbors_node {s : Store} (ok : s.OK n created) (hx : s.node? h = some x) :
    x.edges = (s.neighbors h ⟨[], [], .any⟩).map (fun p => p.1.id) ∧
      ∀ p ∈ s.neighbors h ⟨[], [], .any⟩, s.node? p.2.id = some p.2 := by
  have hneighbors : s.neighbors h ⟨[], [], .any⟩ =
      x.edges.filterMap (s.nodeHop? h ⟨[], [], .any⟩) := by
    unfold Store.neighbors
    rw [Store.instance?_eq_node.2 hx]
  have hhops := forall₂_filterMap fun k hk => nodeHop?_listed ok hx hk
  rw [hneighbors]
  refine ⟨?_, fun p hp => ?_⟩
  · have hids := map_eq_of_forall₂ (f := id) hhops fun k p hp =>
      (ok.slots.edge_id (Store.nodeHop?_iff.1 hp).1).symm
    rwa [List.map_id] at hids
  · obtain ⟨k, -, hk⟩ := exists_of_mem_right hhops hp
    have hy := (Store.nodeHop?_iff.1 hk).2.1
    rw [ok.slots.node_id hy, hy]

/-- The answer about the neighbours of a node. -/
def neighborsDocument (handle : String) (hops : List Json) : WebAnswer :=
  document (.obj [("count", .ofNat hops.length), ("direction", .str "any"),
    ("neighbors", .arr hops), ("node", .str handle)])

/-- **The view of the neighbours** shows a hop for each edge at the node. -/
theorem getNeighbors_text (ok : w.engine.store.OK n created)
    (hx : w.engine.store.node? h = some x) (path : String) :
    ∃ hops, getNeighbors w h.text { Url.empty with path } = neighborsDocument h.text hops ∧
      x.edges.map (fun k => some k.text) = hops.map (textAt? "edge") ∧
      ∀ hop ∈ hops, ∃ y, w.engine.store.node? y.id = some y ∧
        textAt? "node" hop = some y.id.text := by
  obtain ⟨hp, hk⟩ := proper_of_node? hx
  obtain ⟨hids, hlive⟩ := neighbors_node ok hx
  refine ⟨(w.engine.store.neighbors h ⟨[], [], .any⟩).map fun p => hopView p.1 p.2, ?_, ?_, ?_⟩
  · unfold getNeighbors
    rw [findNode_text hp hk, Store.node_eq_ok.2 hx]
    simp only [Url.queryValue_empty, ok.slots.node_id hx]
    rfl
  · rw [hids, List.map_map, List.map_map]
    rfl
  · intro hop hm
    obtain ⟨p, hp, rfl⟩ := List.mem_map.1 hm
    exact ⟨p.2, hlive p hp, rfl⟩

/-! ## Agreement -/

/-- **The views of the nodes of a world agree** with each other; the list shows these objects. -/
structure Agree (w : World) (listed : List Json) : Prop where
  /-- Each live node is listed once, under a text of its own. -/
  once : ∃ hs : List Handle, (∀ h, h ∈ hs ↔ ∃ x, w.engine.store.node h = .ok x) ∧
    listed.map (textAt? "handle") = hs.map (fun h => some h.text) ∧ (hs.map Handle.text).Nodup
  /-- Under its text there is the same object. -/
  single : ∀ v ∈ listed, ∀ t, textAt? "handle" v = some t →
    ask w "GET" ("/nodes/" ++ t) = .ok (document v)
  /-- Its edges are those of its neighbours, and the neighbours are listed. -/
  hops : ∀ v ∈ listed, ∀ t, textAt? "handle" v = some t → ∃ hops,
    ask w "GET" ("/nodes/" ++ t ++ "/neighbors") = .ok (neighborsDocument t hops) ∧
    edgesOf v = hops.map (textAt? "edge") ∧
    ∀ hop ∈ hops, ∃ u ∈ listed, ∃ t', textAt? "node" hop = some t' ∧ textAt? "handle" u = some t'
  /-- What is not listed is not there. -/
  missing : ∀ h : Handle, h.kind = .node → 0 < h.gen →
    (∀ v ∈ listed, textAt? "handle" v ≠ some h.text) →
    ∃ answer, ask w "GET" ("/nodes/" ++ h.text) = .ok answer ∧ answer.status = 404

/-- **The views agree** where the slots are in order, and edges and lists agree. -/
theorem agree_of_ok (ok : w.engine.store.OK n created) {listed : List Json}
    (hviews : List.Forall₂ (fun x v => nodeView x = .ok v) w.engine.store.allNodes listed) :
    Agree w listed := by
  -- what is listed shows a live node, under the text of its handle
  have hshown : ∀ v ∈ listed, ∀ t, textAt? "handle" v = some t → ∃ x,
      w.engine.store.node? x.id = some x ∧ nodeView x = .ok v ∧ x.id.text = t := by
    intro v hv t ht
    obtain ⟨x, hx, hview⟩ := exists_of_mem_right hviews hv
    exact ⟨x, ok.slots.mem_allNodes.1 hx, hview,
      Option.some.inj ((nodeView_shows hview).1.symm.trans ht)⟩
  have hall : ∀ h x, w.engine.store.node? h = some x → ∃ v ∈ listed, nodeView x = .ok v :=
    fun h x hx => exists_of_mem_left hviews (ok.slots.node?_iff.1 hx).1
  refine ⟨⟨w.engine.store.allNodes.map Node.id, fun h => ?_, ?_, ?_⟩, fun v hv t ht => ?_,
    fun v hv t ht => ?_, fun h hk hg hnone => ?_⟩
  · simp only [List.mem_map, Store.node_eq_ok, ok.slots.node?_iff]
  · rw [List.map_map]
    exact (map_eq_of_forall₂ hviews fun x v hview => (nodeView_shows hview).1.symm).symm
  · refine (List.nodup_map_iff_inj_on ok.slots.nodup_allNodes).2 fun h hh k hk heq => ?_
    obtain ⟨x, hx, rfl⟩ := List.mem_map.1 hh
    obtain ⟨y, hy, rfl⟩ := List.mem_map.1 hk
    exact Handle.text_inj (proper_of_node? (ok.slots.mem_allNodes.1 hx)).1
      (proper_of_node? (ok.slots.mem_allNodes.1 hy)).1 heq
  · obtain ⟨x, hx, hview, rfl⟩ := hshown v hv t ht
    obtain ⟨hp, hk⟩ := proper_of_node? hx
    rw [ask_node w (segment_text hp), getNode, findNode_text hp hk, Store.node_eq_ok.2 hx]
    simp only [hview]
  · obtain ⟨x, hx, hview, rfl⟩ := hshown v hv t ht
    obtain ⟨path, hask⟩ := ask_neighbors w (segment_text (proper_of_node? hx).1)
    obtain ⟨hops, hanswer, hedges, hends⟩ := getNeighbors_text ok hx path
    refine ⟨hops, hask.trans (congrArg _ hanswer), (nodeView_shows hview).2.trans hedges,
      fun hop hm => ?_⟩
    obtain ⟨y, hy, hnode⟩ := hends hop hm
    obtain ⟨u, hu, huview⟩ := hall _ y hy
    exact ⟨u, hu, _, hnode, (nodeView_shows huview).1⟩
  · have hp : h.Proper := ⟨.inl hk, fun h0 => by rw [h0] at hg; exact absurd hg (by decide)⟩
    have hdead : ∀ x, w.engine.store.node? h ≠ some x := by
      intro x hx
      obtain ⟨v, hv, hview⟩ := hall h x hx
      exact hnone v hv (ok.slots.node_id hx ▸ (nodeView_shows hview).1)
    refine ⟨_, ask_node w (segment_text hp), ?_⟩
    rw [getNode, findNode_text hp hk]
    unfold Store.node
    rw [Option.eq_none_iff_forall_ne_some.2 hdead]
    rfl

/-- **The views of nodes agree.** In a world that deeds lead to from a new one, with operations
that come to fewer than `2 ^ 32 - 1` calls of the store, let the list of nodes be answered. Then it
shows each live node once, the view of a node shows the object of the list, the edges of this
object are those that the view of its neighbours shows, in the same order, with nodes of the list
at their ends, and a handle of a node that the list does not show is answered with 404. -/
theorem views_agree {haltOnError : Bool} {surroundings : Surroundings} {ops : List Operation}
    (hw : World.Reaches (World.new haltOnError surroundings) ops w)
    (hcalls : calls ops < 2 ^ 32 - 1)
    {answer : WebAnswer} (hask : ask w "GET" "/nodes" = .ok answer) (hok : answer.status = 200) :
    ∃ listed : List Json, answer = document (.obj [("count", .ofNat listed.length),
      ("nodes", .arr listed)]) ∧ Agree w listed := by
  have ok := Store.run_ok ops Store.empty_ok (n := 0) (by rw [Nat.zero_add]; exact hcalls)
  rw [show Store.empty.run ops = w.engine.store from hw.store] at ok
  have hanswer : listNodes w "" = answer := Except.ok.inj ((ask_nodes w).symm.trans hask)
  unfold listNodes at hanswer
  simp only [decide_true, Bool.true_or, List.filter_true] at hanswer
  split at hanswer
  next views hviews => exact ⟨views, hanswer.symm, agree_of_ok ok (forall₂_of_mapM hviews)⟩
  next e _ =>
    rw [← hanswer] at hok
    exact absurd hok (by simp [plain])

/-- A module with nodes and edges. -/
def harbour : Module where
  name := "m"
  path := "m"
  elements := [.arch ⟨⟨"m", 1⟩, .node, "Quay", [], [], [], false⟩,
    .arch ⟨⟨"m", 2⟩, .edge, "Lane", [], [], [], false⟩]
  stamp := 0

def harbourWorld : World := ((World.new false default).load [harbour]).1

/-- The architype that is registered under a key. -/
def harbourArch (key : ArchKey) : Architype :=
  (harbourWorld.engine.registry.find? key).getD default

/-- Three quays with a lane between two of them and one in a circle; then the third one goes. -/
def moorings : List Operation :=
  let quay := harbourArch ⟨.node, "Quay"⟩
  let lane := harbourArch ⟨.edge, "Lane"⟩
  [.edit (.createNode quay []), .edit (.createNode quay []), .edit (.createNode quay []),
    .edit (.createEdge lane (.node 0 1) (.node 1 1) true []),
    .edit (.createEdge lane (.node 1 1) (.node 1 1) false []), .edit (.deleteNode (.node 2 1))]

def mooredWorld : World := harbourWorld.withStore (harbourWorld.engine.store.run moorings)

theorem reaches_moorings :
    World.Reaches (World.new false default) moorings mooredWorld := by
  have hkept : (World.new false default).engine.store.run [] = harbourWorld.engine.store :=
    (World.load_engine _ _).1.symm
  have hloaded : World.Reaches (World.new false default) [] harbourWorld :=
    .tail .refl (.load _ [harbour]) hkept
  have hfound : ∀ key, ((harbourWorld.engine.registry.find? key).map Architype.key) = some key →
      harbourWorld.engine.registry.lookup (harbourArch key).key = .ok (harbourArch key) := by
    intro key hkey
    obtain ⟨a, ha, hak⟩ := Option.map_eq_some_iff.1 hkey
    unfold harbourArch Registry.lookup
    rw [ha, Option.getD_some, hak, ha]
  refine hloaded.graph fun op hop a ha => ?_
  simp only [List.mem_cons, List.not_mem_nil, or_false] at hop
  have hquay := hfound ⟨.node, "Quay"⟩ (by decide +kernel)
  have hlane := hfound ⟨.edge, "Lane"⟩ (by decide +kernel)
  rcases hop with rfl | rfl | rfl | rfl | rfl | rfl
  all_goals
    simp only [Operation.archs, Store.Edit.archs, List.mem_singleton, List.not_mem_nil] at ha
  all_goals rw [ha]; assumption

theorem views_agree_moorings : ∃ listed, mooredWorld.engine.store.size = (2, 2) ∧
    ask mooredWorld "GET" "/nodes" = .ok (document (.obj
      [("count", .ofNat listed.length), ("nodes", .arr listed)])) ∧ Agree mooredWorld listed := by
  have hok : (listNodes mooredWorld "").status = 200 := by decide +kernel
  have hask := ask_nodes mooredWorld
  obtain ⟨listed, hanswer, hagree⟩ := views_agree reaches_moorings (by decide) hask hok
  exact ⟨listed, by decide +kernel, hask.trans (congrArg _ hanswer), hagree⟩

end Inspect

end GraphWalk
