import GraphWalk.Proofs.Walker.Group
import GraphWalk.Proofs.World.Load
import GraphWalk.Snapshot.Basic
import GraphWalk.World.Seed

/-!
# What is done with a world

`Deed` lists all that is done with a world from outside, and `Later` is whatever any number of
deeds lead to. No deed touches a walker that has ended (`Deed.ended`, `Later.ended`).

The step that ends a walker comes to an outcome, and the steps after it answer from what the
walker has on record. `again_of_stepWalker`: the record keeps the kind and the position of that
outcome, and its fault only if the walker failed.

Main result: `final_of_finish`. **A walker that has ended answers every later step alike**,
cancelled or not and whatever else was done, and the step changes nothing. The answer has the
fault of the last step exactly if that failed or had none: what a walker met that completed or
disengaged in its last step is not told again (`quitter_forgets`).
-/

namespace GraphWalk

/-! ## The last step of a walker -/

/-- What is told again of the outcome that a walker ended with. -/
def StepOutcome.again (o : StepOutcome) : StepOutcome :=
  { o with invocations := 0, fault := if o.kind = .failed then o.fault else none }

/-- The fault is told again if there is none to tell, or the walker failed by it. -/
theorem StepOutcome.again_fault (o : StepOutcome) :
    o.again.fault = o.fault ↔ o.kind = .failed ∨ o.fault = none := by
  unfold again
  by_cases hk : o.kind = .failed
  · simp [hk]
  · simp [hk, eq_comm]

namespace Visit

open Engine (settled?)

variable {v : Visit}

/-- A walker that ends has its outcome on record, if the fault it fails by is its last one. -/
theorem finish_again {ending : Ending} {cause : Option Fault} (invoked : Nat)
    (h : ending = .failed → v.walker.faults.getLast? = cause) :
    settled? (v.finish ending invoked cause).1.walker =
      some (v.finish ending invoked cause).2.again := by
  cases ending with
  | completed => rfl
  | disengaged => rfl
  | failed =>
    obtain rfl := h rfl
    rfl

/-- A walker that has nowhere to go has completed. -/
theorem conclude_again (ha : v.walker.state.isTerminal = false) (invoked : Nat)
    (cause : Option Fault)
    (ht : (v.conclude invoked cause).1.walker.state.isTerminal = true) :
    settled? (v.conclude invoked cause).1.walker = some (v.conclude invoked cause).2.again := by
  have hstate := advance_state v.walker.queue v
  unfold conclude at ht ⊢
  cases hadv : advance v.walker.queue v with
  | mk v' found =>
    rw [hadv] at hstate ht
    cases found with
    | true =>
      -- the walker has moved on, so it has not ended
      simp only at hstate ht
      rw [hstate, ha] at ht
      cases ht
    | false => exact finish_again invoked fun h => by cases h

/-- **What comes after the bodies** ends the walker with its outcome on record. -/
theorem close_again (ha : v.walker.state.isTerminal = false) (invoked : Nat)
    (cause : Option (Event × Fault))
    (ht : (v.close invoked cause).1.walker.state.isTerminal = true) :
    settled? (v.close invoked cause).1.walker = some (v.close invoked cause).2.again := by
  unfold close at ht ⊢
  split at ht
  · rename_i hd
    rw [if_pos hd]
    exact finish_again invoked fun h => by cases h
  · rename_i hd
    rw [if_neg hd]
    cases cause with
    | none => exact conclude_again ha invoked none ht
    | some p =>
      obtain ⟨event, f⟩ := p
      simp only at ht ⊢
      unfold afterFault at ht ⊢
      simp only at ht ⊢
      split at ht
      · rename_i hh
        rw [if_pos hh]
        -- the fault has just been noted
        exact finish_again invoked fun _ => List.getLast?_concat
      · rename_i hh
        rw [if_neg hh]
        refine conclude_again ?_ invoked (some f) ht
        exact ha

end Visit

namespace Engine

variable {e e' : Engine} {w : Walker} {i : Nat} {cancelled : Bool} {outcome : StepOutcome}

/-- **The step that ends a walker** leaves its outcome on record, but for faults that it did not
fail by. -/
theorem again_of_stepWalker (ha : w.state.isTerminal = false)
    (ht : (e.stepWalker cancelled w).1.walker.state.isTerminal = true) :
    settled? (e.stepWalker cancelled w).1.walker = some (e.stepWalker cancelled w).2.again := by
  cases cancelled with
  | true =>
    rw [(stepWalker_rests (Or.inr rfl)).1, ha] at ht
    cases ht
  | false =>
    cases hi : e.store.instanceAt w.position with
    | error err =>
      rw [stepWalker_eq_finish ha hi]
      refine Visit.finish_again 0 fun _ => ?_
      unfold worked
      rw [hi]
      exact List.getLast?_concat
    | ok inst =>
      obtain ⟨invoked, cause, hclose⟩ := stepWalker_eq_close ha hi
      have hactive : (e.worked w).walker.state.isTerminal = false := by
        unfold worked
        rw [hi, (Visit.bodies_stays inst.arch [.entry, .exit] (e.start w inst)).state]
        rfl
      rw [hclose] at ht ⊢
      exact Visit.close_again hactive invoked cause ht

/-- A walker that has ended answers from its record, and nothing changes. -/
theorem step_of_settled (hw : e.walkers[i]? = some w) (hs : settled? w = some outcome)
    (cancelled : Bool) : e.step cancelled i = some (e, outcome) := by
  obtain ⟨hi, rfl⟩ := List.getElem?_eq_some_iff.1 hw
  unfold step stepWalker
  rw [hw, Option.map_some, hs]
  simp only [List.set_getElem_self]

end Engine

namespace World

variable {w w' w'' : World} {x : Walker} {i : Nat}

/-! ## Deeds -/

/-- One thing that is done with a world. Who changes the graph from outside has the architypes
from the registry. -/
inductive Deed : World → World → Prop where
  | load (w : World) (mods : List Module) : Deed w (w.load mods).1
  | build (w : World) (name : String) : Deed w (w.build name).1
  | spawn {w w' : World} {x : Walker} {arch : String} {start : Handle}
      {args : List (String × Value)} (h : w.spawn arch start args = .ok (w', x)) : Deed w w'
  | step {w : World} {cancelled : Bool} {i : Nat} {e : Engine} {outcome : StepOutcome}
      (h : w.engine.step cancelled i = some (e, outcome)) : Deed w { w with engine := e }
  | graph (w : World) (op : Store.Operation)
      (h : ∀ a ∈ op.archs, w.engine.registry.lookup a.key = .ok a) :
      Deed w (w.withStore (w.engine.store.perform op))
  | restore (w : World) (snap : Snapshot) :
      Deed w (w.withStore (snap.restore w.engine.registry w.engine.store).1)
  | globals (w : World) (t : GlobalTable) : Deed w (w.withGlobals t)
  | told (w : World) (s : Signal) : Deed w { w with engine := w.engine.emit s }

/-- What deeds, of any number and in any order, lead to. -/
abbrev Later : World → World → Prop := Relation.ReflTransGen Deed

/-- What a load leaves of an engine: its registry and its globals may change, and it has told
something. -/
theorem load_engine (w : World) (mods : List Module) :
    (w.load mods).1.engine.store = w.engine.store ∧
      (w.load mods).1.engine.table = w.engine.table ∧
      (w.load mods).1.engine.walkers = w.engine.walkers := by
  have told : ∀ (logs : List LogRecord) (e : Engine),
      (logs.foldl Engine.logged e).store = e.store ∧
        (logs.foldl Engine.logged e).table = e.table ∧
        (logs.foldl Engine.logged e).walkers = e.walkers := by
    intro logs
    induction logs with
    | nil => exact fun e => ⟨rfl, rfl, rfl⟩
    | cons l logs ih => exact fun e => ih (e.logged l)
  have htold := told (resolve w.engine.registry mods).logs
    { w.engine with registry := (resolve w.engine.registry mods).registry }
  unfold load
  cases w.loaded with
  | none =>
    simp only [List.isEmpty_nil, Bool.not_true, Bool.false_eq_true, if_false]
    split
    · exact htold
    · exact htold
    · split <;> exact htold
  | some g =>
    simp only
    split
    · exact ⟨rfl, rfl, rfl⟩
    · split
      · exact htold
      · exact htold
      · split <;> exact htold

/-- Spawning the walkers of a graph preserves what spawning one does. -/
theorem buildSpawns_preserves {P : World → Prop}
    (hspawn : ∀ {w w' arch start args x}, P w → World.spawn w arch start args = .ok (w', x) → P w')
    (label : String) (nodes : List (String × Handle)) (sps : List SeedSpawn) :
    ∀ {w : World} (built : List Nat), P w → P (buildSpawns label nodes sps w built).1 := by
  induction sps with
  | nil => exact fun _ hw => hw
  | cons sp sps ih =>
    intro w built hw
    unfold buildSpawns
    simp only
    split
    · exact hw
    · split
      · exact hw
      · rename_i hs
        exact ih _ (hspawn hw hs)

/-- **Building a graph** preserves what creating its nodes and edges and spawning its walkers
do. -/
theorem build_preserves {P : World → Prop}
    (hnodes : ∀ w label ns, P w →
      P (w.withStore (buildNodes w.engine.registry label ns w.engine.store []).1))
    (hedges : ∀ w label nodes es, P w →
      P (w.withStore (buildEdges w.engine.registry label nodes es w.engine.store []).1))
    (hspawn : ∀ {w w' arch start args x}, P w → World.spawn w arch start args = .ok (w', x) → P w')
    (htold : ∀ w r, P w → P (World.logged w r)) (hw : P w) (name : String) :
    P (w.build name).1 := by
  unfold build
  split
  · exact hw
  · split
    · exact hw
    · rename_i g _
      simp only
      have hn := hnodes w ("graph " ++ Text.quote name) g.nodes hw
      cases hb : buildNodes w.engine.registry ("graph " ++ Text.quote name) g.nodes w.engine.store
          [] with
      | mk s r =>
        rw [hb] at hn
        cases r with
        | error f => exact hn
        | ok nodes =>
          simp only
          have he := hedges _ ("graph " ++ Text.quote name) nodes g.edges hn
          change P (w.withStore (buildEdges w.engine.registry _ nodes g.edges s []).1) at he
          cases hb' : buildEdges w.engine.registry ("graph " ++ Text.quote name) nodes g.edges s
              [] with
          | mk s' r' =>
            rw [hb'] at he
            cases r' with
            | error f => exact he
            | ok edges =>
              simp only
              have hs := buildSpawns_preserves (P := P) hspawn ("graph " ++ Text.quote name) nodes
                g.spawns [] he
              cases hb'' : buildSpawns ("graph " ++ Text.quote name) nodes g.spawns
                  (w.withStore s') [] with
              | mk w' r'' =>
                rw [hb''] at hs
                cases r'' with
                | error f => exact hs
                | ok walkers => exact htold w' _ hs

/-! ## Walkers that have ended -/

/-- Spawning adds a walker behind those that are there. -/
theorem spawn_walkers {arch : String} {start : Handle} {args : List (String × Value)}
    (h : w.spawn arch start args = .ok (w', x)) :
    w'.engine.walkers = w.engine.walkers ++ [x] := by
  unfold World.spawn at h
  split at h
  · cases h
  · split at h
    · cases h
    · split at h
      · cases h
      · rename_i hs
        cases h
        exact (Engine.spawn_eq hs).choose_spec.2.2.1

/-- **No deed touches a walker that has ended.** -/
theorem Deed.ended (h : Deed w w') (hx : w.engine.walkers[i]? = some x)
    (ht : x.state.isTerminal = true) : w'.engine.walkers[i]? = some x := by
  have spawned : ∀ {w w' : World} {arch start args y}, w.engine.walkers[i]? = some x →
      World.spawn w arch start args = .ok (w', y) → w'.engine.walkers[i]? = some x := by
    intro w w' arch start args y hx hs
    obtain ⟨hi, -⟩ := List.getElem?_eq_some_iff.1 hx
    rw [spawn_walkers hs, List.getElem?_append_left hi, hx]
  cases h with
  | load mods => rw [(load_engine w mods).2.2]; exact hx
  | build name =>
    exact build_preserves (P := fun w => w.engine.walkers[i]? = some x) (fun _ _ _ hx => hx)
      (fun _ _ _ _ hx => hx) spawned (fun _ _ hx => hx) hx name
  | spawn hs => exact spawned hx hs
  | step hs =>
    obtain ⟨-, -, rfl, -⟩ := Engine.step_eq_some hs
    exact Engine.act_ended hx ht _
  | graph op _ => exact hx
  | restore snap => exact hx
  | globals t => exact hx
  | told s => exact hx

theorem Later.ended (h : Later w w') (hx : w.engine.walkers[i]? = some x)
    (ht : x.state.isTerminal = true) : w'.engine.walkers[i]? = some x := by
  induction h with
  | refl => exact hx
  | tail _ hd ih => exact hd.ended ih ht

/-- **Final outcomes.** Let a step end a walker, in whatever world. Then every later step of it,
with a context that is cancelled or not and after whatever deeds, comes to an outcome of the same
kind and position and leaves the engine as it is. It has the same fault if and only if the walker
failed or there was no fault; otherwise it has none. -/
theorem final_of_finish {e : Engine} {cancelled : Bool} {outcome : StepOutcome} {y : Walker}
    (hx : w.engine.walkers[i]? = some x) (ha : x.state.isTerminal = false)
    (hs : w.engine.step cancelled i = some (e, outcome)) (hy : e.walkers[i]? = some y)
    (ht : y.state.isTerminal = true) (hl : Later { w with engine := e } w') (cancelled' : Bool) :
    ∃ outcome', w'.engine.step cancelled' i = some (w'.engine, outcome') ∧
      outcome'.kind = outcome.kind ∧ outcome'.position = outcome.position ∧
      (outcome'.fault = outcome.fault ↔ outcome.kind = .failed ∨ outcome.fault = none) ∧
      (outcome.kind ≠ .failed → outcome'.fault = none) := by
  obtain ⟨x', hx', -, rfl, hafter⟩ := Engine.step_eq_some hs
  cases hx.symm.trans hx'
  cases hy.symm.trans hafter
  have hsettled := Engine.again_of_stepWalker ha ht
  refine ⟨_, Engine.step_of_settled (hl.ended hy ht) hsettled cancelled', rfl, rfl,
    StepOutcome.again_fault _, fun hk => if_neg hk⟩

/-- A walker whose only body fails, with an engine that goes on after faults. -/
def quitter : World :=
  let quit : Ability :=
    { name := "quit", signature := ⟨[], .entry, []⟩, isAbstract := false,
      bound := some (⟨.native, fun _ => .fail (.text "lost")⟩, "m"),
      declModule := "m", order := 0, owner := ⟨.walker, "W"⟩ }
  let walker := { Architype.new "m" ⟨.walker, "W"⟩ with linkedAbilities := [quit] }
  { engine := (Engine.new .empty none false default).acts
      [.edit (.createNode (.new "m" ⟨.node, "N"⟩) []), .spawn walker (.node 0 1) []]
    loaded := none }

theorem final_quitter : ∃ e outcome x y, quitter.engine.walkers[0]? = some x ∧
    x.state.isTerminal = false ∧ quitter.engine.step false 0 = some (e, outcome) ∧
    e.walkers[0]? = some y ∧ y.state.isTerminal = true ∧ outcome.kind = .completed ∧
    ∀ w', Later { quitter with engine := e } w' → ∀ cancelled,
      ∃ outcome', w'.engine.step cancelled 0 = some (w'.engine, outcome') ∧
        outcome'.kind = .completed ∧ outcome'.fault = none := by
  refine ⟨_, _, _, _, rfl, rfl, rfl, rfl, rfl, rfl, fun w' hl cancelled => ?_⟩
  obtain ⟨outcome', hs, hk, -, -, hf⟩ :=
    @final_of_finish quitter w' _ 0 _ false _ _ rfl rfl rfl rfl rfl hl cancelled
  exact ⟨outcome', hs, hk, hf (by decide)⟩

/-- **A fault that a walker did not fail by is not told again.** -/
theorem quitter_forgets : ¬∀ (w : World) (i : Nat) (e e' : Engine) (o o' : StepOutcome) (y : Walker),
    w.engine.step false i = some (e, o) → e.walkers[i]? = some y → y.state.isTerminal = true →
      e.step false i = some (e', o') → o'.kind = o.kind ∧ o'.position = o.position ∧
        o'.fault = o.fault := by
  intro h
  have hsame := h quitter 0 _ _ _ _ _ rfl rfl rfl rfl
  cases hsame.2.2

end World

end GraphWalk
