import GraphWalk.Proofs.Script.Breakdown
import GraphWalk.Proofs.Store.Formed
import GraphWalk.Proofs.Store.Removal
import GraphWalk.Proofs.Walker.Underway

/-!
# Statements that change the graph

A deletion looks the neighbours up once, and then deletes what it has found one after the other,
each once (`run_deleteAll`). What is deleted first leaves the others as they were, so what the
whole statement does can be said of the graph that it finds. `cleared_of_run`: **it deletes all its
targets**, or those before the first one that is occupied.

A statement that connects evaluates all its values before it does anything (`link`,
`run_connect`). Then it creates a node, an edge to it, and sends the walker there.
`exists_creates` and `exists_links` say when the first two can be done; the third always can.
`connected_of_run`: **it does all or nothing**, but for a node that it creates and then cannot
connect, which stays (`stranded_colony`).
-/

namespace GraphWalk

/-! ## Deleting neighbours -/

namespace Script

open Store (Edit Sweeps Cleared)
open Engine (Underway)

variable {file : String} {o : Occasion} {side : Side} {u v : Visit} {st : Statement}
  {f : HopFilter}

/-- **The targets are deleted each once**, in the order in which they are listed first. -/
theorem run_deleteAll (hs : List Handle) : ∀ (seen : List Handle) (v : Visit),
    v.run o side (deleteAll seen hs) =
      (v.withStore (v.engine.store.deleteEach (hs.filter fun h => !seen.contains h).eraseDups).1,
        match (v.engine.store.deleteEach (hs.filter fun h => !seen.contains h).eraseDups).2 with
        | none => .ok ()
        | some err => .error (.store err)) := by
  induction hs with
  | nil => exact fun _ _ => rfl
  | cons h hs ih =>
    intro seen v
    unfold deleteAll
    cases hseen : seen.contains h with
    | true =>
      rw [if_pos rfl, ih, List.filter_cons_of_neg (by simp only [hseen]; decide)]
    | false =>
      -- from now on this neighbour counts as seen
      have hrest : (hs.filter fun h => !seen.contains h).filter (fun k => !(k == h)) =
          hs.filter fun k => !(h :: seen).contains k := by
        rw [List.filter_filter]
        refine List.filter_congr fun k _ => ?_
        rw [List.contains_cons, Bool.not_or]
      rw [if_neg Bool.false_ne_true, List.filter_cons_of_pos (by simp only [hseen]; decide),
        List.eraseDups_cons, hrest, Visit.run_bind, Visit.run_delete]
      simp only [Visit.answer, Store.deleteEach]
      cases v.engine.store.delete h with
      | error err => rfl
      | ok t => exact ih (h :: seen) (v.withStore t)

/-- A statement that deletes neighbours, where the filter and the kind of its targets are known. -/
theorem run_delete {s : Scope} {sel : Selection} {edges : Option Expr} {b : Bool} {hops : List Hop}
    (hf : filter file s sel = .done f) (hb : truth file s edges false = .ok b)
    (hhops : v.engine.store.hops o.position f = .ok hops) :
    v.run o side (perform file o s (.delete sel edges)) =
      (v.withStore (v.engine.store.deleteEach (Store.targets b hops)).1,
        match (v.engine.store.deleteEach (Store.targets b hops)).2 with
        | none => .ok true
        | some err => .error (.store err)) := by
  -- nothing is seen yet, so the targets are those of the whole list
  have htargets : ((hops.map fun p => if b then p.edge else p.node).filter
      fun h => !([] : List Handle).contains h).eraseDups = Store.targets b hops := by
    unfold Store.targets
    congr 1
    exact List.filter_eq_self.2 fun _ _ => rfl
  simp only [perform]
  rw [hf, Program.done_bind, Visit.run_bind, Visit.run_ofExcept_within, hb]
  simp only [Except.mapError]
  rw [Visit.run_bind, Visit.run_hops]
  simp only [Visit.answer, hhops, Except.mapError]
  rw [Visit.run_bind, run_deleteAll, htargets]
  cases (v.engine.store.deleteEach (Store.targets b hops)).2 <;> rfl

/-- **Deleting the neighbours** of the position, in any visit that a step of a walker comes by, up
to `2^32 - 1` calls of the store. The targets are the neighbours that pass the filter when the
statement begins, or the edges to them, each once. If none of them is occupied they all go, with
the edges at them; otherwise those before the first one that is, and the fault is that a walker
stands there. Everything else is as it was. -/
theorem cleared_of_run (registry : Registry) (globals : Option GlobalTable) (haltOnError : Bool)
    (surroundings : Surroundings) (cs : List Engine.Command) {w : Walker} {es : List Edit}
    (hw : w ∈ ((Engine.new registry globals haltOnError surroundings).acts cs).walkers)
    (ha : w.state.isTerminal = false)
    (hv : Underway ((Engine.new registry globals haltOnError surroundings).acts cs) w es v)
    (hcalls : (Engine.new registry globals haltOnError surroundings).calls cs +
      es.countP Edit.isCall < 2 ^ 32 - 1)
    (ho : o.position = w.position) {sel : Selection} {edges : Option Expr} {b : Bool}
    (hdeed : st.deed = .delete sel edges)
    (hguard : truth file (v.context o side) st.guard true = .ok true)
    (hf : filter file (v.context o side) sel = .done f)
    (hb : truth file (v.context o side) edges false = .ok b) :
    ∃ hops t err, v.engine.store.hops w.position f = .ok hops ∧
      Sweeps v.engine.store (Store.targets b hops) t err ∧
      v.run o side (step file o st) = (v.withStore t, match err with
        | none => .ok true
        | some err => .error (.within (st.span.text file) (.store err))) ∧
      ∀ h k, (Fault.within (st.span.text file) (.store (.pinned h k))).kinds =
        [.referencedByActiveWalker] := by
  obtain ⟨⟨created, hok⟩, hlive⟩ := hv.reached hw ha hcalls
  obtain ⟨hops, hhops, hsweeps⟩ := hok.sweeps_hops (f := f) hcalls hlive b
  refine ⟨hops, _, _, hhops, hsweeps, ?_, fun h k => rfl⟩
  -- the filter was read, so its names are no reason to break down
  have hcalm : ¬v.Panics o side (perform file o (v.context o side) st.deed) := by
    rw [hdeed, panics_perform]
    rintro ⟨_, heq, hno⟩
    cases heq
    refine Program.calm_done f o side v ?_
    rw [← hf]
    exact panics_filter.2 hno
  rw [run_step, hguard]
  simp only
  rw [Visit.run_within_of_calm hcalm, hdeed, run_delete hf hb (by rw [ho]; exact hhops)]
  cases (v.engine.store.deleteEach (Store.targets b hops)).2 <;> rfl

/-- Two roads to one town and one to another, with a walker where they begin. -/
def fork : List Engine.Command :=
  let town := Architype.new "m" ⟨.node, "Town"⟩
  let road := Architype.new "m" ⟨.edge, "Road"⟩
  [.edit (.createNode town []), .edit (.createNode town []), .edit (.createNode town []),
    .edit (.createEdge road (.node 0 1) (.node 1 1) true []),
    .edit (.createEdge road (.node 0 1) (.node 1 1) true []),
    .edit (.createEdge road (.node 0 1) (.node 2 1) true []),
    .spawn (Architype.new "m" ⟨.walker, "W"⟩) (.node 0 1) []]

/-- The walker's script deletes the towns. -/
def raze : Statement := ⟨default, none, .delete ⟨none, none, none⟩ none⟩

theorem cleared_fork :
    ∃ w v, w ∈ ((Engine.new .empty none false default).acts fork).walkers ∧
      w.state.isTerminal = false ∧
      Underway ((Engine.new .empty none false default).acts fork) w [] v ∧
      (Engine.new .empty none false default).calls fork +
        ([] : List Edit).countP Edit.isCall < 2 ^ 32 - 1 ∧
      w.position = .node 0 1 ∧
      ∃ t, Cleared v.engine.store t [.node 1 1, .node 2 1] ∧
        v.run { (default : Occasion) with position := .node 0 1 } .walker
          (step "w.hcl" { (default : Occasion) with position := .node 0 1 } raze) =
            (v.withStore t, .ok true) := by
  obtain ⟨w, hws⟩ : ∃ w, ((Engine.new .empty none false default).acts fork).walkers = [w] :=
    List.length_eq_one_iff.1 (by decide +kernel)
  have hw : w ∈ ((Engine.new .empty none false default).acts fork).walkers := by
    rw [hws]
    exact List.mem_singleton.2 rfl
  have hready : ∀ w ∈ ((Engine.new .empty none false default).acts fork).walkers,
      w.state.isTerminal = false ∧ w.position = .node 0 1 := by decide +kernel
  obtain ⟨ha, hposition⟩ := hready w hw
  obtain ⟨inst, hinst⟩ : ∃ inst, ((Engine.new .empty none false default).acts fork).store.instanceAt
      w.position = .ok inst := by
    rw [hposition]
    exact Store.contains_instanceAt (by decide +kernel)
  have hcalls : (Engine.new .empty none false default).calls fork +
      ([] : List Edit).countP Edit.isCall < 2 ^ 32 - 1 := by decide +kernel
  have hv := Underway.start hinst
  let o : Occasion := { (default : Occasion) with position := .node 0 1 }
  have hguard : truth "w.hcl" ((((Engine.new .empty none false default).acts fork).start w
      inst).context o .walker) raze.guard true = .ok true := rfl
  obtain ⟨hops, t, err, hhops, hsweeps, hrun, -⟩ := cleared_of_run .empty none false default fork
    hw ha hv hcalls hposition.symm rfl hguard rfl rfl
  obtain rfl : hops = [⟨.edge 0 1, .node 1 1⟩, ⟨.edge 1 1, .node 1 1⟩, ⟨.edge 2 1, .node 2 1⟩] := by
    rw [hposition] at hhops
    exact Except.ok.inj (hhops.symm.trans rfl)
  -- nobody stands where the roads lead
  have hfree : ∀ h ∈ [Handle.node 1 1, .node 2 1],
      ∀ k ∈ ((Engine.new .empty none false default).acts fork).store.pins,
        ¬(k = h ∨ ((Engine.new .empty none false default).acts fork).store.touches h k = true) := by
    decide +kernel
  obtain ⟨rfl, hcleared⟩ := hsweeps.done fun h hm ⟨k, hk, hheld⟩ => hfree h hm k hk hheld
  exact ⟨w, _, hw, ha, hv, hcalls, hposition, t, hcleared, hrun⟩

end Script

/-! ## Connecting the position with a new node -/

open Store (NodeAdded EdgeAdded Edit)
open Engine (Underway)

namespace Visit

variable (o : Occasion) (side : Side) {v : Visit} {arch : String} {source target : Handle}
  {init : List (String × Value)} {s t : Store} {x : Node} {e : Edge} {n : Nat}

/-- `s` is the graph with the new node `x`. -/
def Creates (v : Visit) (arch : String) (init : List (String × Value)) (s : Store) (x : Node) :
    Prop :=
  ∃ a, v.engine.registry.lookup ⟨.node, arch⟩ = .ok a ∧
    v.engine.store.createNode a init = .ok (s, x)

/-- `t` is the graph with the new edge `e`. -/
def Links (v : Visit) (arch : String) (init : List (String × Value)) (source target : Handle)
    (t : Store) (e : Edge) : Prop :=
  ∃ a, v.engine.registry.lookup ⟨.edge, arch⟩ = .ok a ∧
    v.engine.store.createEdge a source target a.directed init = .ok (t, e)

/-- Instances can be created: the architype is there, and takes the fields. -/
def Takes (v : Visit) (kind : Kind) (arch : String) (init : List (String × Value)) : Prop :=
  ∃ a f, v.engine.registry.lookup ⟨kind, arch⟩ = .ok a ∧ a.kind = kind ∧
    Fields.new a.effectiveFields init = .ok f

theorem exists_creates : (∃ s x, v.Creates arch init s x) ↔ v.Takes .node arch init := by
  constructor
  · rintro ⟨s, x, a, hl, hc⟩
    obtain ⟨hk, f, hf, -⟩ := Store.createNode_eq hc
    exact ⟨a, f, hl, hk, Store.initialFields_eq_ok.1 hf⟩
  · rintro ⟨a, f, hl, hk, hf⟩
    obtain ⟨s, x, hc, -⟩ := Store.createNode_ok (s := v.engine.store) hk
      (Store.initialFields_eq_ok.2 hf)
    exact ⟨s, x, a, hl, hc⟩

/-- An edge moreover needs two live ends. -/
theorem exists_links : (∃ t e, v.Links arch init source target t e) ↔ v.Takes .edge arch init ∧
    (v.engine.store.node? source).isSome = true ∧ (v.engine.store.node? target).isSome = true := by
  constructor
  · rintro ⟨t, e, a, hl, hc⟩
    obtain ⟨hk, f, hf, hs, ht, -⟩ := Store.createEdge_eq hc
    exact ⟨⟨a, f, hl, hk, Store.initialFields_eq_ok.1 hf⟩, hs, ht⟩
  · rintro ⟨⟨a, f, hl, hk, hf⟩, hs, ht⟩
    obtain ⟨t, e, hc, -⟩ := Store.createEdge_ok (s := v.engine.store) a.directed hk
      (Store.initialFields_eq_ok.2 hf) hs ht
    exact ⟨t, e, a, hl, hc⟩

theorem answer_createNode (h : v.Creates arch init s x) :
    v.answer o side (.createNode arch init) = (v.withStore s, .ok x.id) := by
  obtain ⟨a, hl, hc⟩ := h
  simp only [answer, createdBy, hl, hc, Except.map]
  rfl

theorem answer_connect (h : v.Links arch init source target t e) :
    v.answer o side (.connect arch source target init) = (v.withStore t, .ok e.id) := by
  obtain ⟨a, hl, hc⟩ := h
  simp only [answer, createdBy, hl, hc, Except.map]
  rfl

/-- Where no node can be created, nothing has changed. -/
theorem answer_createNode_unfit (h : ¬v.Takes .node arch init) :
    ∃ f, v.answer o side (.createNode arch init) = (v, .error f) := by
  rw [← exists_creates] at h
  simp only [answer, createdBy]
  cases hl : v.engine.registry.lookup ⟨.node, arch⟩ with
  | error e => exact ⟨_, rfl⟩
  | ok a =>
    dsimp only
    cases hc : v.engine.store.createNode a init with
    | error e => exact ⟨_, rfl⟩
    | ok p => exact (h ⟨p.1, p.2, a, hl, hc⟩).elim

theorem answer_connect_unfit (h : ¬∃ t e, v.Links arch init source target t e) :
    ∃ f, v.answer o side (.connect arch source target init) = (v, .error f) := by
  simp only [answer, createdBy]
  cases hl : v.engine.registry.lookup ⟨.edge, arch⟩ with
  | error e => exact ⟨_, rfl⟩
  | ok a =>
    dsimp only
    cases hc : v.engine.store.createEdge a source target a.directed init with
    | error e => exact ⟨_, rfl⟩
    | ok p => exact (h ⟨p.1, p.2, a, hl, hc⟩).elim

/-- **A new node** is one more, and there is no other edge. -/
theorem Creates.size (h : v.Creates arch init s x) :
    s.edges = v.engine.store.edges ∧ s.pins = v.engine.store.pins ∧
      s.nodes.live = v.engine.store.nodes.live + 1 := by
  obtain ⟨a, -, hc⟩ := h
  obtain ⟨hk, f, hf, -⟩ := Store.createNode_eq hc
  obtain ⟨s', x', hc', -, -, hlive⟩ := Store.createNode_ok (s := v.engine.store) hk hf
  cases hc.symm.trans hc'
  obtain ⟨-, _, -, rfl, -⟩ := Store.createNode_eq hc
  exact ⟨rfl, rfl, hlive⟩

/-- A node to which an edge leads is live. -/
theorem Links.target_live (h : v.Links arch init source target t e) :
    t.contains target = true := by
  obtain ⟨a, -, hc⟩ := h
  obtain ⟨-, f, -, -, ht, -⟩ := Store.createEdge_eq hc
  rw [Store.contains_iff, Store.node?_createEdge hc, Option.isSome_map]
  exact Or.inl ht

/-- What a new node `x` in `s` is to a position, as long as no handle has been used up. -/
structure Newcomer (v : Visit) (position : Handle) (s : Store) (x : Node) : Prop where
  added : NodeAdded v.engine.store s x
  /-- An edge to it can be created just if the position is a live node. -/
  fits : ∀ arch init, (∃ t e, (v.withStore s).Links arch init position x.id t e) ↔
    v.Takes .edge arch init ∧ (v.engine.store.node? position).isSome = true
  linked : ∀ arch init t e, (v.withStore s).Links arch init position x.id t e →
    EdgeAdded s t e ∧ e.source = position ∧ e.target = x.id

/-- **A new node** is not where anything live is. -/
theorem Creates.newcomer {created : List Handle} (ok : v.engine.store.OK n created)
    (hn : n < UInt32.size - 1) (hlive : v.engine.store.contains source = true)
    (h : v.Creates arch init s x) : v.Newcomer source s x := by
  obtain ⟨a, -, hc⟩ := h
  obtain ⟨oks, ha⟩ := Store.createNode_spec ok.slots (ok.slots.nodes_young.roomy (by omega)) hc
  have hx : (s.node? x.id).isSome = true := by
    rw [ha.node?, if_pos rfl]
    rfl
  -- the position is live, and the handle of the new node was not
  have hne : source ≠ x.id := by
    rintro rfl
    have hk : x.id.kind = .node := by
      obtain ⟨y, hy⟩ := Option.isSome_iff_exists.1 hx
      exact (Store.node?_eq_some.1 hy).1
    rcases Store.contains_iff.1 hlive with hnode | hedge
    · rw [ha.fresh] at hnode
      cases hnode
    · obtain ⟨e, he⟩ := Option.isSome_iff_exists.1 hedge
      cases hk.symm.trans (Store.edge?_eq_some.1 he).1
  refine ⟨ha, fun arch' init' => ?_, fun arch' init' t e hlinks => ?_⟩
  · have hsource : s.node? source = v.engine.store.node? source := by rw [ha.node?, if_neg hne]
    rw [exists_links]
    refine and_congr Iff.rfl ?_
    show (s.node? source).isSome = true ∧ (s.node? x.id).isSome = true ↔ _
    rw [hsource, and_iff_left hx]
  · obtain ⟨b, -, hb⟩ := hlinks
    have hroom : s.edges.Roomy := by
      rw [ha.edges]
      exact ok.slots.edges_young.roomy (by omega)
    exact (Store.createEdge_spec oks hroom hb).2

end Visit

namespace Script

variable {file : String} {o : Occasion} {side : Side} {s : Scope} {v : Visit} {st : Statement}

/-- The values of a statement that connects. -/
structure Link where
  arch : String
  fields : List (String × Value)
  edgeFields : List (String × Value)
  visit : Bool

/-- They are evaluated one after the other. -/
def link (file : String) (s : Scope) (edge : Expr) (fields edgeFields visit : Option Expr) :
    Except Fault Link := do
  let arch ← (text file s edge).mapError (.within "edge")
  let fields ← (entries file s fields).mapError (.within "fields")
  let edgeFields ← (entries file s edgeFields).mapError (.within "edge_fields")
  let visit ← (truth file s visit false).mapError (.within "visit")
  return ⟨arch, fields, edgeFields, visit⟩

variable {node : String} {edge : Expr} {fields edgeFields visit : Option Expr} {l : Link}

/-- **All is evaluated** before anything is done. -/
theorem run_connect : v.run o side (perform file o s (.connect node edge fields edgeFields visit)) =
    match link file s edge fields edgeFields visit with
    | .error f => (v, .error f)
    | .ok l => v.run o side (do
        let h ← Program.createNode node l.fields
        let _ ← Program.connect l.arch o.position h l.edgeFields
        if l.visit then Program.visit false [h]
        return true) := by
  simp only [perform, link, Visit.run_bind, Visit.run_ofExcept_within]
  cases text file s edge with
  | error f => rfl
  | ok arch =>
    cases entries file s fields with
    | error f => rfl
    | ok fields =>
      cases entries file s edgeFields with
      | error f => rfl
      | ok edgeFields =>
        cases truth file s visit false <;> rfl

/-- What becomes of a statement that connects `position`, by what is left of a visit and how it
ends. -/
structure Connects (v : Visit) (position : Handle) (node : String) (values : Except Fault Link)
    (r : Visit × Except Fault Bool) : Prop where
  /-- There are no values or no node can be created: nothing has changed. -/
  refused : (∀ l, values = .ok l → ¬v.Takes .node node l.fields) → ∃ f, r = (v, .error f)
  /-- Otherwise there is one node more. -/
  created : ∀ l, values = .ok l → v.Takes .node node l.fields →
    ∃ s x, v.Creates node l.fields s x ∧ s.edges = v.engine.store.edges ∧
      s.pins = v.engine.store.pins ∧ s.nodes.live = v.engine.store.nodes.live + 1
  /-- All is there: a node, an edge to it, and the walker is sent on if it should. -/
  connected : ∀ l s x, values = .ok l → v.Creates node l.fields s x → ∀ t e,
    (v.withStore s).Links l.arch l.edgeFields position x.id t e →
      r = (if l.visit then { v.withStore t with walker := v.walker.enqueue false [x.id] }
        else v.withStore t, .ok true)
  /-- No edge can be created: the node has come about all the same, and nothing else. -/
  stranded : ∀ l s x, values = .ok l → v.Creates node l.fields s x →
    (¬∃ t e, (v.withStore s).Links l.arch l.edgeFields position x.id t e) →
      ∃ f, r = (v.withStore s, .error f)

theorem connects : Connects v o.position node (link file s edge fields edgeFields visit)
    (v.run o side (perform file o s (.connect node edge fields edgeFields visit))) := by
  rw [run_connect]
  refine ⟨fun hno => ?_, fun l _ htakes => ?_, fun l s' x hl hcreates t e hlinks => ?_,
    fun l s' x hl hcreates hno => ?_⟩
  · cases hl : link file s edge fields edgeFields visit with
    | error f => exact ⟨f, rfl⟩
    | ok l =>
      obtain ⟨f, hcreate⟩ := Visit.answer_createNode_unfit o side (hno l hl)
      refine ⟨f, ?_⟩
      dsimp only
      rw [Visit.run_bind, Visit.run_createNode, hcreate]
  · obtain ⟨s', x, hcreates⟩ := Visit.exists_creates.2 htakes
    exact ⟨s', x, hcreates, hcreates.size⟩
  · rw [hl]
    dsimp only
    rw [Visit.run_bind, Visit.run_createNode, Visit.answer_createNode o side hcreates]
    dsimp only
    rw [Visit.run_bind, Visit.run_connect, Visit.answer_connect o side hlinks]
    dsimp only
    cases l.visit with
    | false => rfl
    | true =>
      have hnone : [x.id].find? (fun h => !t.contains h) = none := by
        rw [List.find?_singleton, hlinks.target_live]
        rfl
      simp only [if_true, Visit.run_bind, Visit.run_visit, Visit.answer]
      rw [show ((v.withStore s').withStore t).engine.store = t from rfl, hnone]
      rfl
  · obtain ⟨f, hconnect⟩ := Visit.answer_connect_unfit o side hno
    refine ⟨f, ?_⟩
    rw [hl]
    dsimp only
    rw [Visit.run_bind, Visit.run_createNode, Visit.answer_createNode o side hcreates]
    dsimp only
    rw [Visit.run_bind, Visit.run_connect, hconnect]

/-- A label changes nothing but faults. -/
theorem Connects.labelled {position : Handle} {values : Except Fault Link}
    {r : Visit × Except Fault Bool} (h : Connects v position node values r) (label : String) :
    Connects v position node values (r.1, r.2.mapError (.within label)) := by
  refine ⟨fun hno => ?_, h.created, fun l s x hl hcreates t e hlinks => ?_,
    fun l s x hl hcreates hno => ?_⟩
  · obtain ⟨f, hr⟩ := h.refused hno
    exact ⟨_, by rw [hr]; rfl⟩
  · rw [h.connected l s x hl hcreates t e hlinks]
    rfl
  · obtain ⟨f, hr⟩ := h.stranded l s x hl hcreates hno
    exact ⟨_, by rw [hr]; rfl⟩

/-- **Connecting the position with a new node**, in any visit that a step of a walker comes by.
Either nothing changes, or a node is created; then the edge to it is created too and the walker sent
on, or the statement fails and the node stays without it. Up to `2^32 - 1` calls of the store the
node is new, and the edge cannot be created just if its architype is missing or does not take the
fields, or the position is no node. -/
theorem connected_of_run (registry : Registry) (globals : Option GlobalTable) (haltOnError : Bool)
    (surroundings : Surroundings) (cs : List Engine.Command) {w : Walker} {es : List Edit}
    (hw : w ∈ ((Engine.new registry globals haltOnError surroundings).acts cs).walkers)
    (ha : w.state.isTerminal = false)
    (hv : Underway ((Engine.new registry globals haltOnError surroundings).acts cs) w es v)
    (ho : o.position = w.position) (hdeed : st.deed = .connect node edge fields edgeFields visit) :
    (∀ f, truth file (v.context o side) st.guard true = .error f →
      ∃ f', v.run o side (step file o st) = (v, .error f')) ∧
    (truth file (v.context o side) st.guard true = .ok true →
      Connects v w.position node (link file (v.context o side) edge fields edgeFields visit)
        (v.run o side (step file o st))) ∧
    ((Engine.new registry globals haltOnError surroundings).calls cs +
      es.countP Edit.isCall < 2 ^ 32 - 1 → ∀ init s x, v.Creates node init s x →
        v.Newcomer w.position s x) := by
  refine ⟨fun f hguard => ?_, fun hguard => ?_, fun hcalls init s x hcreates => ?_⟩
  · rw [run_step, hguard]
    exact ⟨_, rfl⟩
  · have hcalm : ¬v.Panics o side (perform file o (v.context o side) st.deed) := by
      rw [hdeed, panics_perform]
      rintro ⟨sel, hsel, -⟩
      cases hsel
    rw [run_step, hguard]
    simp only
    rw [Visit.run_within_of_calm hcalm, hdeed, ← ho]
    exact connects.labelled _
  · obtain ⟨⟨created, hok⟩, hlive⟩ := hv.reached hw ha hcalls
    exact hcreates.newcomer hok hcalls hlive

/-- The records of towns and of roads. -/
def atlas : Registry :=
  { Registry.empty with
    archs := [Architype.new "m" ⟨.node, "Town"⟩, Architype.new "m" ⟨.edge, "Road"⟩] }

/-- A walker comes to a town. -/
def colony : List Engine.Command :=
  [.edit (.createNode (Architype.new "m" ⟨.node, "Town"⟩) []),
    .spawn (Architype.new "m" ⟨.walker, "W"⟩) (.node 0 1) []]

/-- Its script connects the town with another one. -/
def settle (edge : String) : Statement :=
  ⟨default, none, .connect "Town" (.literal (.string edge) 1) none none none⟩

theorem start_colony :
    ∃ w inst, w ∈ ((Engine.new atlas none false default).acts colony).walkers ∧
      w.state.isTerminal = false ∧ w.position = .node 0 1 ∧
      ((Engine.new atlas none false default).acts colony).store.instanceAt w.position =
        .ok inst := by
  obtain ⟨w, hws⟩ : ∃ w, ((Engine.new atlas none false default).acts colony).walkers = [w] :=
    List.length_eq_one_iff.1 (by decide +kernel)
  have hw : w ∈ ((Engine.new atlas none false default).acts colony).walkers := by
    rw [hws]
    exact List.mem_singleton.2 rfl
  have hready : ∀ w ∈ ((Engine.new atlas none false default).acts colony).walkers,
      w.state.isTerminal = false ∧ w.position = .node 0 1 := by decide +kernel
  obtain ⟨ha, hposition⟩ := hready w hw
  obtain ⟨inst, hinst⟩ : ∃ inst, ((Engine.new atlas none false default).acts
      colony).store.instanceAt w.position = .ok inst := by
    rw [hposition]
    exact Store.contains_instanceAt (by decide +kernel)
  exact ⟨w, inst, hw, ha, hposition, hinst⟩

theorem calls_colony : (Engine.new atlas none false default).calls colony +
    ([] : List Edit).countP Edit.isCall < 2 ^ 32 - 1 := by decide +kernel

theorem connected_colony :
    ∃ w v, w ∈ ((Engine.new atlas none false default).acts colony).walkers ∧
      w.state.isTerminal = false ∧
      Underway ((Engine.new atlas none false default).acts colony) w [] v ∧
      w.position = .node 0 1 ∧
      truth "w.hcl" (v.context { (default : Occasion) with position := .node 0 1 } .walker)
        (settle "Road").guard true = .ok true ∧
      ∃ s t x e, NodeAdded v.engine.store s x ∧ EdgeAdded s t e ∧ e.target = x.id ∧
        v.run { (default : Occasion) with position := .node 0 1 } .walker
          (step "w.hcl" { (default : Occasion) with position := .node 0 1 } (settle "Road")) =
            (v.withStore t, .ok true) := by
  obtain ⟨w, inst, hw, ha, hposition, hinst⟩ := start_colony
  have hv := Underway.start hinst
  let o : Occasion := { (default : Occasion) with position := .node 0 1 }
  have hguard : truth "w.hcl" ((((Engine.new atlas none false default).acts colony).start w
      inst).context o .walker) (settle "Road").guard true = .ok true := rfl
  obtain ⟨hconnects, hnew⟩ := (connected_of_run (o := o) atlas none false default colony hw ha hv
    hposition.symm rfl).2.imp_left fun h => h hguard
  obtain ⟨s, x, hcreates, -⟩ := hconnects.created ⟨"Road", [], [], false⟩ rfl
    ⟨_, _, rfl, rfl, rfl⟩
  have hx := hnew calls_colony _ s x hcreates
  have hsource : (((Engine.new atlas none false default).acts colony).store.node?
      (.node 0 1)).isSome = true := by decide +kernel
  obtain ⟨t, e, hlinks⟩ := (hx.fits "Road" []).2
    ⟨⟨_, _, rfl, rfl, rfl⟩, by rw [hposition]; exact hsource⟩
  obtain ⟨he, -, htarget⟩ := hx.linked _ _ t e hlinks
  exact ⟨w, _, hw, ha, hv, hposition, hguard, s, t, x, e, hx.added, he, htarget,
    hconnects.connected _ s x rfl hcreates t e hlinks⟩

/-- **A node is stranded** where there is no such road: the statement fails, and the town has come
about. -/
theorem stranded_colony :
    ∃ w v u f h, w ∈ ((Engine.new atlas none false default).acts colony).walkers ∧
      w.state.isTerminal = false ∧
      Underway ((Engine.new atlas none false default).acts colony) w [] v ∧
      w.position = .node 0 1 ∧
      v.run { (default : Occasion) with position := .node 0 1 } .walker
        (perform "w.hcl" { (default : Occasion) with position := .node 0 1 }
          (v.context { (default : Occasion) with position := .node 0 1 } .walker)
          (settle "Path").deed) = (u, .error f) ∧
      v.engine.store.node? h = none ∧ (u.engine.store.node? h).isSome = true := by
  obtain ⟨w, inst, hw, ha, hposition, hinst⟩ := start_colony
  have hv := Underway.start hinst
  let o : Occasion := { (default : Occasion) with position := .node 0 1 }
  obtain ⟨⟨created, hok⟩, hlive⟩ := hv.reached hw ha calls_colony
  rw [hposition] at hlive
  let v := ((Engine.new atlas none false default).acts colony).start w inst
  have hconnects : Connects v o.position "Town" (link "w.hcl" (v.context o .walker)
      (.literal (.string "Path") 1) none none none) (v.run o .walker
        (perform "w.hcl" o (v.context o .walker) (settle "Path").deed)) := connects
  obtain ⟨s, x, hcreates, -⟩ := hconnects.created ⟨"Path", [], [], false⟩ rfl
    ⟨_, _, rfl, rfl, rfl⟩
  have hx := hcreates.newcomer hok calls_colony hlive
  have hno : ¬∃ t e, (v.withStore s).Links "Path" [] o.position x.id t e := by
    rw [Visit.exists_links]
    rintro ⟨⟨a, f, hl, -⟩, -⟩
    cases hl
  obtain ⟨f, hrun⟩ := hconnects.stranded _ s x rfl hcreates hno
  exact ⟨w, v, v.withStore s, f, x.id, hw, ha, hv, hposition, hrun, hx.added.fresh, by
    show (s.node? x.id).isSome = true
    rw [hx.added.node?, if_pos rfl]
    rfl⟩

end Script

end GraphWalk
