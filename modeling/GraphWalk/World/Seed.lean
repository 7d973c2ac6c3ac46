import GraphWalk.World.Basic

/-!
# Seed graphs

Building a seed graph creates its nodes, then its edges, and spawns its walkers.
Nothing is run. If something fails, what was built before stays.
-/

namespace GraphWalk

/-- What was built, by the names used in the graph. -/
structure Seed where
  graph : SeedGraph
  nodes : List (String × Handle)
  edges : List (String × Handle)
  /-- The numbers of the new walkers. -/
  walkers : List Nat
deriving Inhabited

namespace World

/-- The names of all seed graphs, sorted. -/
def graphNames (w : World) : List String :=
  (w.modules.flatMap fun m => m.graphs.map (·.name)).mergeSort (· ≤ ·)

/-- The seed graph of a name, which exactly one module must have. -/
def findGraph (w : World) (name : String) : Except Fault SeedGraph :=
  match w.modules.filterMap fun m => (m.graph? name).map fun g => (m.name, g) with
  | [] => .error (.unknownGraph name)
  | [(_, g)] => .ok g
  | found => .error (.graphConflict name (found.map (·.1)))

/-- Creates the nodes of a graph. -/
def buildNodes (r : Registry) (label : String) :
    List SeedNode → Store → List (String × Handle) →
      Store × Except Fault (List (String × Handle))
  | [], s, built => (s, .ok built)
  | n :: rest, s, built =>
    let label' := label ++ ": node " ++ Text.quote n.name
    if (lookupKey n.name built).isSome then (s, .error (.text (label' ++ " defined twice")))
    else match r.lookup ⟨.node, n.arch⟩ with
      | .error e => (s, .error (.within label' (.registry e)))
      | .ok a => match s.createNode a n.fields with
        | .error e => (s, .error (.within label' (.store e)))
        | .ok (s', node) => buildNodes r label rest s' (built ++ [(n.name, node.id)])

/-- Creates the edges of a graph between its nodes. -/
def buildEdges (r : Registry) (label : String) (nodes : List (String × Handle)) :
    List SeedEdge → Store → List (String × Handle) →
      Store × Except Fault (List (String × Handle))
  | [], s, built => (s, .ok built)
  | e :: rest, s, built =>
    let label' := label ++ ": edge " ++ Text.quote e.name
    match r.lookup ⟨.edge, e.arch⟩ with
    | .error err => (s, .error (.within label' (.registry err)))
    | .ok a => match lookupKey e.source nodes, lookupKey e.target nodes with
      | none, _ => (s, .error (.within label' (.unknownSeed e.source)))
      | some _, none => (s, .error (.within label' (.unknownSeed e.target)))
      | some src, some dst =>
        match s.createEdge a src dst (e.directed.getD a.directed) e.fields with
        | .error err => (s, .error (.within label' (.store err)))
        | .ok (s', edge) =>
          buildEdges r label nodes rest s'
            (if e.name = "" then built else insertKey e.name edge.id built)

/-- Spawns the walkers of a graph. -/
def buildSpawns (label : String) (nodes : List (String × Handle)) :
    List SeedSpawn → World → List Nat → World × Except Fault (List Nat)
  | [], w, built => (w, .ok built)
  | sp :: rest, w, built =>
    let label' := label ++ ": spawn " ++ Text.quote sp.walker
    match lookupKey sp.at_ nodes with
    | none => (w, .error (.within label' (.unknownSeed sp.at_)))
    | some h => match w.spawn sp.walker h sp.args with
      | .error f => (w, .error (.within label' f))
      | .ok (w', _) => buildSpawns label nodes rest w' (built ++ [w.engine.walkers.length])

/-- Builds the seed graph of a name. -/
def build (w : World) (name : String) : World × Except Fault Seed :=
  if w.loaded.isNone then (w, .error .notLoaded)
  else match w.findGraph name with
    | .error f => (w, .error f)
    | .ok g =>
      let label := "graph " ++ Text.quote name
      match buildNodes w.engine.registry label g.nodes w.engine.store [] with
      | (s, .error f) => (w.withStore s, .error f)
      | (s, .ok nodes) =>
        match buildEdges w.engine.registry label nodes g.edges s [] with
        | (s', .error f) => (w.withStore s', .error f)
        | (s', .ok edges) => match buildSpawns label nodes g.spawns (w.withStore s') [] with
          | (w', .error f) => (w', .error f)
          | (w', .ok walkers) =>
            (w'.logged ⟨.info, "Seed graph built.", [("graph", .text name),
              ("nodes", .count nodes.length), ("edges", .count g.edges.length),
              ("walkers", .count walkers.length)]⟩, .ok ⟨g, nodes, edges, walkers⟩)

end World

end GraphWalk
