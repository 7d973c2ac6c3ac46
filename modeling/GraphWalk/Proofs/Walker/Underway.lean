import GraphWalk.Proofs.Walker.Bodies

/-!
# On the way through a step

`Engine.Underway e w es v` says that a step of the walker `w` comes by the visit `v`, after the
changes `es`: it lists what can happen in a step between the first body and the last, and leaves
open which bodies there are and what they ask for. `Underway.run` says that programs keep to it,
`Underway.turn` that all bodies of a step are run on the way.

What a step is known to keep holds on the way. `Underway.store_ok`: **the graph is in order**, and
`Underway.position_live`: **the walker stands on a live instance**, whatever was deleted.
-/

namespace GraphWalk

open Store (Edit)

namespace Engine

/-- On the way through a step of `w` from the engine `e`, after the changes `es`. -/
inductive Underway (e : Engine) (w : Walker) : List Edit → Visit → Prop
  | start {inst : Instance} (h : e.store.instanceAt w.position = .ok inst) :
      Underway e w [] (e.start w inst)
  | follows {es : List Edit} {v v' : Visit} (h : Underway e w es v) (hf : v.Follows v') :
      Underway e w es v'
  | announced {es : List Edit} {v : Visit} (h : Underway e w es v) (position : Handle)
      (path : Path) (event : Event) (side : Side) :
      Underway e w es (v.observed position (.ability path event side))
  | answer {es : List Edit} {v : Visit} (h : Underway e w es v) (o : Occasion) (side : Side)
      (r : Request) : Underway e w (es ++ v.requestEdits o side r) (v.answer o side r).1

variable {e : Engine} {w : Walker} {es : List Edit} {v v' : Visit} {n : Nat}

/-- **A program keeps to the way**, with the changes that it asks for. -/
theorem Underway.run {α : Type} (o : Occasion) (side : Side) (p : Program α) :
    ∀ {es : List Edit} {v : Visit}, Underway e w es v →
      Underway e w (es ++ Visit.programEdits o side p v) (v.run o side p).1 := by
  induction p with
  | ask r next ih =>
    intro es v h
    simp only [Visit.programEdits, ← List.append_assoc]
    exact ih _ (h.answer o side r)
  | _ =>
    intro es v h
    simp only [Visit.programEdits, List.append_nil]
    exact h

/-- **The bodies of a step** are run on the way. -/
theorem Underway.turn {here : ArchKey} {dues : List (Event × Invocation)} {ts : List Turn}
    (hr : Visit.Runs here dues v ts v') : ∀ {es : List Edit}, Underway e w es v →
      ∀ t ∈ ts, ∃ es', Underway e w es' t.before := by
  induction hr with
  | done hf => exact fun _ t ht => absurd ht List.not_mem_nil
  | last t hf took hl hf' =>
    intro es h t' ht'
    obtain rfl := List.mem_singleton.1 ht'
    exact ⟨es, h.follows hf⟩
  | next t hf took hl hr ih =>
    intro es h t' ht'
    rcases List.mem_cons.1 ht' with rfl | ht'
    · exact ⟨es, h.follows hf⟩
    · have hafter := ((h.follows hf).announced t.before.walker.position
        t.invocation.ability.path t.event t.invocation.side).run
        (t.before.occasion here t.event t.invocation) t.invocation.side
        (t.body.run (t.before.occasion here t.event t.invocation))
      rw [← Visit.invoke_fst, took.run] at hafter
      exact ih hafter t' ht'

/-- What was changed on the way. -/
theorem Underway.store (h : Underway e w es v) : v.engine.store = e.store.editAll es := by
  induction h with
  | start => rfl
  | follows h hf ih => rw [hf.engine, ← ih]
  | announced h position path event side ih => exact ih
  | answer h o side r ih => rw [Visit.answer_store, ih, Store.editAll_append]

theorem Underway.position (h : Underway e w es v) : v.walker.position = w.position := by
  induction h with
  | start => rfl
  | follows h hf ih => rw [hf.walker, ih]
  | announced h position path event side ih => exact ih
  | answer h o side r ih => rw [(Visit.answer_stays r).position, ih]

/-- **The graph is in order** on the way. -/
theorem Underway.store_ok (h : Underway e w es v) (ok : e.OK n)
    (hn : n + es.countP Edit.isCall < UInt32.size - 1) :
    ∃ created, v.engine.store.OK (n + es.countP Edit.isCall) created := by
  obtain ⟨created, hok⟩ := ok.store
  rw [h.store]
  exact editAll_ok hok es hn

/-- **The walker stands on a live instance** on the way. -/
theorem Underway.position_live (h : Underway e w es v) (ok : e.OK n) (hw : w ∈ e.walkers)
    (ha : w.state.isTerminal = false) (hn : n + es.countP Edit.isCall < UInt32.size - 1) :
    v.engine.store.contains w.position = true := by
  obtain ⟨created, hok⟩ := h.store_ok ok hn
  refine hok.anchored w.position (List.count_pos_iff.1 ?_)
  have hcount : v.engine.store.pinCount w.position = e.store.pinCount w.position := by
    rw [h.store, pinCount_editAll]
  exact Nat.lt_of_lt_of_eq (List.count_pos_iff.2 (ok.pinned hw ha)) hcount.symm

/-- **In every visit that a run comes by**, with fewer than `2^32 - 1` calls of the store, the
graph is in order and the walker stands on a live instance. -/
theorem Underway.reached {registry : Registry} {globals : Option GlobalTable} {haltOnError : Bool}
    {surroundings : Surroundings} {cs : List Command}
    (hv : Underway ((new registry globals haltOnError surroundings).acts cs) w es v)
    (hw : w ∈ ((new registry globals haltOnError surroundings).acts cs).walkers)
    (ha : w.state.isTerminal = false)
    (hcalls : (new registry globals haltOnError surroundings).calls cs + es.countP Edit.isCall <
      UInt32.size - 1) :
    (∃ created, v.engine.store.OK ((new registry globals haltOnError surroundings).calls cs +
      es.countP Edit.isCall) created) ∧ v.engine.store.contains w.position = true := by
  have ok : ((new registry globals haltOnError surroundings).acts cs).OK
      (0 + (new registry globals haltOnError surroundings).calls cs) := acts_ok cs new_ok (by omega)
  rw [Nat.zero_add] at ok
  exact ⟨hv.store_ok ok hcalls, hv.position_live ok hw ha hcalls⟩

end Engine

end GraphWalk
