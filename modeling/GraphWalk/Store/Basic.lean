import GraphWalk.Architype.Basic
import GraphWalk.Store.Arena

/-!
# The graph store

Nodes and edges in two arenas, and the pins that walkers hold on them. An edge
joins two live nodes and is listed at both, in the order of creation. A pinned
instance cannot be deleted, nor can a node with a pinned edge.

The neighbours of a node are the opposite ends of its edges, in the order the
edges were created. The neighbours of an edge are its ends: the target is
outgoing, the source incoming. An undirected edge can be followed either way.
-/

namespace GraphWalk

structure Node where
  id : Handle
  arch : Architype
  fields : Fields
  /-- The edges at this node, in the order of creation. -/
  edges : List Handle
deriving Inhabited

structure Edge where
  id : Handle
  arch : Architype
  fields : Fields
  source : Handle
  target : Handle
  directed : Bool
deriving Inhabited

/-- The end opposite to `h`. -/
def Edge.other (e : Edge) (h : Handle) : Handle := if e.source = h then e.target else e.source

/-- A node or an edge. -/
inductive Instance where
  | node (n : Node)
  | edge (e : Edge)
deriving Inhabited

def Instance.arch : Instance → Architype
  | .node n => n.arch
  | .edge e => e.arch

def Instance.fields : Instance → Fields
  | .node n => n.fields
  | .edge e => e.fields

structure Store where
  nodes : Arena Node
  edges : Arena Edge
  /-- A handle for every pin. -/
  pins : List Handle
deriving Inhabited

namespace Store

def empty : Store := ⟨.empty, .empty, []⟩

def node? (s : Store) (h : Handle) : Option Node :=
  if h.kind = .node then s.nodes.get? h.index h.gen else none

def edge? (s : Store) (h : Handle) : Option Edge :=
  if h.kind = .edge then s.edges.get? h.index h.gen else none

def node (s : Store) (h : Handle) : Except StoreError Node :=
  match s.node? h with
  | some n => .ok n
  | none => .error (.dangling false h)

def edge (s : Store) (h : Handle) : Except StoreError Edge :=
  match s.edge? h with
  | some e => .ok e
  | none => .error (.dangling true h)

def instance? (s : Store) (h : Handle) : Option Instance :=
  if h.kind = .edge then (s.edge? h).map .edge else (s.node? h).map .node

def instanceAt (s : Store) (h : Handle) : Except StoreError Instance :=
  if h.kind = .edge then (s.edge h).map .edge else (s.node h).map .node

/-- Whether a handle names a live instance. -/
def contains (s : Store) (h : Handle) : Bool := (s.instance? h).isSome

/-- The fields of a new instance. -/
def initialFields (a : Architype) (init : List (String × Value)) : Except StoreError Fields :=
  match Fields.new a.effectiveFields init with
  | .ok f => .ok f
  | .error e => .error (.badFields a.key e)

/-- Adds a node; `init` overrides the defaults of the fields. -/
def createNode (s : Store) (a : Architype) (init : List (String × Value)) :
    Except StoreError (Store × Node) :=
  if a.kind ≠ .node then .error (.kindMismatch a.key false)
  else match initialFields a init with
    | .error e => .error e
    | .ok fields =>
      let (nodes, n) := s.nodes.insert fun i g => ⟨.node i g, a, fields, []⟩
      .ok ({ s with nodes }, n)

/-- Lists an edge at a node. -/
def attach (s : Store) (n e : Handle) : Store :=
  { s with nodes := s.nodes.update n.index fun x => { x with edges := x.edges ++ [e] } }

/-- Takes an edge off the list of a node, if the node is there. -/
def detach (s : Store) (e n : Handle) : Store :=
  match s.node? n with
  | some _ =>
    { s with nodes := s.nodes.update n.index fun x =>
      { x with edges := x.edges.filter (· != e) } }
  | none => s

/-- Connects two live nodes. -/
def createEdge (s : Store) (a : Architype) (source target : Handle) (directed : Bool)
    (init : List (String × Value)) : Except StoreError (Store × Edge) :=
  if a.kind ≠ .edge then .error (.kindMismatch a.key true)
  else match initialFields a init with
    | .error e => .error e
    | .ok fields =>
      if (s.node? source).isNone then .error (.danglingEnd .source source)
      else if (s.node? target).isNone then .error (.danglingEnd .target target)
      else
        let (edges, e) := s.edges.insert fun i g => ⟨.edge i g, a, fields, source, target, directed⟩
        let s' := { s with edges }.attach source e.id
        .ok (if target = source then s' else s'.attach target e.id, e)

def pinCount (s : Store) (h : Handle) : Nat := s.pins.count h

def isPinned (s : Store) (h : Handle) : Bool := 0 < s.pinCount h

/-- Records that a walker stands on an instance. -/
def pin (s : Store) (h : Handle) : Except StoreError Store :=
  match s.instanceAt h with
  | .ok _ => .ok { s with pins := h :: s.pins }
  | .error e => .error e

/-- Takes one pin off. -/
def unpin (s : Store) (h : Handle) : Store := { s with pins := s.pins.erase h }

/-- Takes an edge away from its ends and empties its slot. -/
def removeEdge (s : Store) (h : Handle) : Store :=
  match s.edge? h with
  | none => s
  | some e =>
    let s' := (s.detach h e.source).detach h e.target
    { s' with edges := s'.edges.remove h.index }

/-- Removes a single edge. -/
def deleteEdge (s : Store) (h : Handle) : Except StoreError Store :=
  if (s.edge? h).isNone then .error (.dangling true h)
  else if s.isPinned h then .error (.pinned h none)
  else .ok (s.removeEdge h)

/-- Removes a node and all edges at it. -/
def deleteNode (s : Store) (h : Handle) : Except StoreError Store :=
  match s.node? h with
  | none => .error (.dangling false h)
  | some n =>
    if s.isPinned h then .error (.pinned h none)
    else match n.edges.find? s.isPinned with
      | some e => .error (.pinned h (some e))
      | none =>
        let s' := n.edges.foldl removeEdge s
        .ok { s' with nodes := s'.nodes.remove h.index }

/-- Removes a node or an edge. -/
def delete (s : Store) (h : Handle) : Except StoreError Store :=
  if h.kind = .edge then s.deleteEdge h else s.deleteNode h

/-- Replaces the fields of a live instance. -/
def setFields (s : Store) (h : Handle) (f : Fields) : Store :=
  match s.instance? h with
  | some (.node _) => { s with nodes := s.nodes.update h.index fun n => { n with fields := f } }
  | some (.edge _) => { s with edges := s.edges.update h.index fun e => { e with fields := f } }
  | none => s

/-- All live nodes in the order of their slots. -/
def allNodes (s : Store) : List Node := s.nodes.items

/-- All live edges in the order of their slots. -/
def allEdges (s : Store) : List Edge := s.edges.items

/-- The numbers of live nodes and edges. -/
def size (s : Store) : Nat × Nat := (s.nodes.live, s.edges.live)

/-- The edges at a node, in the order of creation. -/
def incident (s : Store) (h : Handle) : Except StoreError (List Handle) :=
  (s.node h).map (·.edges)

/-! ### Neighbours -/

/-- Whether following `e` in direction `dir` to `other` satisfies a filter. -/
def matchesHop (e : Edge) (other : Node) (dir : Direction) (f : HopFilter) : Bool :=
  e.arch.matchesAny f.edge && other.arch.matchesAny f.node
    && (f.direction == .any || !e.directed || f.direction == dir)

/-- The hop over one edge of node `h`. -/
def nodeHop? (s : Store) (h : Handle) (f : HopFilter) (eh : Handle) : Option (Edge × Node) := do
  let e ← s.edge? eh
  let other ← s.node? (e.other h)
  let dir : Direction := if e.source = h then .out else .into
  if matchesHop e other dir f then some (e, other) else none

/-- The hop from an edge to one of its ends. -/
def edgeHop? (s : Store) (e : Edge) (dir : Direction) (f : HopFilter) (n : Handle) :
    Option (Edge × Node) := do
  let other ← s.node? n
  if matchesHop e other dir f then some (e, other) else none

/-- The neighbours of a live instance that pass a filter; none of a dead one. -/
def neighbors (s : Store) (h : Handle) (f : HopFilter) : List (Edge × Node) :=
  match s.instance? h with
  | none => []
  | some (.node n) => n.edges.filterMap (s.nodeHop? h f)
  | some (.edge e) =>
    (s.edgeHop? e .out f e.target).toList
      ++ (if e.source = e.target then [] else (s.edgeHop? e .into f e.source).toList)

/-- The neighbours as handles, or why there are none to speak of. -/
def hops (s : Store) (h : Handle) (f : HopFilter) : Except StoreError (List Hop) :=
  match s.instanceAt h with
  | .error e => .error e
  | .ok _ => .ok ((s.neighbors h f).map fun (e, n) => ⟨e.id, n.id⟩)

end Store

end GraphWalk
