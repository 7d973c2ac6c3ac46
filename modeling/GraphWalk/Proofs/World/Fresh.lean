import GraphWalk.Proofs.World.Operations
import GraphWalk.Proofs.World.Reload

/-!
# The dispatch table is never stale

The table remembers what it once found for two architypes and an event, and forgets nothing.
So what it has found has to stay right: `Table.Fresh r` says that every entry is what the records
that `r` has now would give. `stepCalls` are the questions that a step puts to the table.

* `Table.Fresh.lookup`: a fresh table answers as if nothing were remembered, and stays fresh.
* `phasesCalls_fresh`, `Serves.stepCalls`: so it does for the questions of a step, one after the
  other. They are all that a step does to the table (`stepWalker_table`).
* `Serves`: all that an engine meets is of records of its registry. A load only ever replaces an
  empty registry (`Serves.load`), and whatever is not a load leaves the registry alone.

Main result: `fresh_of_later`. **Whatever was done with a world**, its table is fresh, and every
question that the next step of a walker puts to it is answered as the records stand.
-/

namespace GraphWalk

namespace Registry

variable {r : Registry} {key : ArchKey} {a : Architype}

/-- Records of different keys are found under them. -/
theorem lookup_of_mem (hk : (r.archs.map Architype.key).Nodup) (ha : a ∈ r.archs) :
    r.lookup a.key = .ok a := by
  have hf : r.find? a.key = some a := (find?_eq_some_of_nodup hk).2 ⟨ha, rfl⟩
  unfold lookup
  rw [hf]

/-- A key names one record. -/
theorem oneRecord (hk : (r.archs.map Architype.key).Nodup) : OneRecord r.archs :=
  fun _ ha _ hb h => List.inj_on_of_nodup_map hk ha hb h

end Registry

/-! ## Entries and answers -/

namespace Dispatch

/-- A question that is put to a table. -/
structure Call where
  table : Table
  epoch : Nat
  walker : Architype
  position : Architype
  event : Event

/-- The table that is left, and the answer. -/
def Call.answer (c : Call) : Table × List Invocation :=
  c.table.lookup c.epoch c.walker c.position c.event

/-- Every entry is what the records of the registry give. -/
def Table.Fresh (r : Registry) (t : Table) : Prop :=
  ∀ entry ∈ t, ∃ w p, r.lookup entry.1.walker = .ok w ∧ r.lookup entry.1.position = .ok p ∧
    entry.1.epoch = r.epoch ∧ entry.2 = invocations w p entry.1.event

/-- The question is about records of the registry, and answered as they stand. -/
structure Call.Fresh (r : Registry) (c : Call) : Prop where
  walker : r.lookup c.walker.key = .ok c.walker
  position : r.lookup c.position.key = .ok c.position
  epoch : c.epoch = r.epoch
  answer : c.answer.2 = invocations c.walker c.position c.event
  table : c.answer.1.Fresh r

variable {r : Registry} {t : Table} {w p : Architype}

/-- **A fresh table answers** as the records stand, and stays fresh. -/
theorem Table.Fresh.lookup (ht : t.Fresh r) (hw : r.lookup w.key = .ok w)
    (hp : r.lookup p.key = .ok p) (event : Event) :
    (t.lookup r.epoch w p event).1.Fresh r ∧
      (t.lookup r.epoch w p event).2 = invocations w p event := by
  unfold Table.lookup
  simp only
  split
  · rename_i entry hf
    refine ⟨ht, ?_⟩
    have hkey : entry.1 = ⟨r.epoch, w.key, p.key, event⟩ := by simpa using List.find?_some hf
    obtain ⟨w', p', hw', hp', -, hinv⟩ := ht entry (List.mem_of_find?_eq_some hf)
    rw [hkey] at hw' hp' hinv
    -- the entry was made for the records that stand under these keys now
    cases hw'.symm.trans hw
    cases hp'.symm.trans hp
    exact hinv
  · refine ⟨fun entry hm => ?_, rfl⟩
    rcases List.mem_cons.1 hm with rfl | hm
    · exact ⟨w, p, hw, hp, rfl, rfl⟩
    · exact ht entry hm

/-- What is found for records of the registry is right for the architypes that are known. -/
theorem Table.Fresh.faithful (ht : t.Fresh r) : t.Faithful r.archs := by
  intro entry hm
  obtain ⟨w, p, hw, hp, -, hinv⟩ := ht entry hm
  obtain ⟨hwm, hwk⟩ := Registry.mem_of_lookup hw
  obtain ⟨hpm, hpk⟩ := Registry.mem_of_lookup hp
  exact ⟨w, hwm, p, hpm, hwk.symm, hpk.symm, hinv⟩

end Dispatch

open Dispatch (Call)

namespace Visit

/-- The questions of the phases that are left. -/
def phasesCalls (here : Architype) : List Event → Visit → List Call
  | [], _ => []
  | event :: rest, v =>
    let (table, invs) :=
      v.engine.table.lookup v.engine.registry.epoch v.walker.arch here event
    ⟨v.engine.table, v.engine.registry.epoch, v.walker.arch, here, event⟩ ::
      match dispatch here.key event invs { v with engine := { v.engine with table } } with
      | (_, _, some _) => []
      | (v', _, none) => if v'.walker.isDisengaged then [] else phasesCalls here rest v'

/-- The phases leave the table that their last question left. -/
theorem phases_table (here : Architype) (events : List Event) : ∀ (v : Visit) (invoked : Nat),
    (phases here events v invoked).1.engine.table =
      (((phasesCalls here events v).getLast?).map (·.answer.1)).getD v.engine.table := by
  induction events with
  | nil => exact fun v invoked => (conclude_settles v invoked none).table
  | cons event rest ih =>
    intro v invoked
    unfold phases phasesCalls
    cases hl : v.engine.table.lookup v.engine.registry.epoch v.walker.arch here event with
    | mk table invs =>
      have hanswer : (Call.mk v.engine.table v.engine.registry.epoch v.walker.arch here event).answer.1
          = table := congrArg Prod.fst hl
      have hkeeps := (dispatch_keeps here.key event invs
        { v with engine := { v.engine with table } }).table
      simp only [List.getLast?_cons, Option.map_some, Option.getD_some]
      cases hd : dispatch here.key event invs { v with engine := { v.engine with table } } with
      | mk v' r =>
        rw [hd] at hkeeps
        obtain ⟨n, cause⟩ := r
        cases cause with
        | some f =>
          -- a fault leaves no further question
          simp only [List.getLast?_nil, Option.getD_none, hanswer]
          split
          · exact (finish_settles v' _ _ _).table.trans hkeeps
          · exact (afterFault_settles v' event _ f).table.trans hkeeps
        | none =>
          by_cases hdis : v'.walker.isDisengaged = true
          · simp only [hdis, if_true, List.getLast?_nil, Option.getD_none, hanswer]
            exact (finish_settles v' _ _ _).table.trans hkeeps
          · simp only [if_neg hdis]
            rw [ih, hkeeps]
            cases (phasesCalls here rest v').getLast? with
            | none => exact hanswer.symm
            | some c => rfl

variable {r : Registry}

/-- **The questions of the phases** are about records, and are answered as they stand. -/
theorem phasesCalls_fresh {here : Architype} (hhere : r.lookup here.key = .ok here)
    (events : List Event) : ∀ v : Visit, v.engine.registry = r →
      r.lookup v.walker.arch.key = .ok v.walker.arch → v.engine.table.Fresh r →
        ∀ c ∈ phasesCalls here events v, c.Fresh r := by
  induction events with
  | nil => exact fun v _ _ _ c hc => by cases hc
  | cons event rest ih =>
    intro v hr hw ht
    obtain ⟨hremembered, hanswer⟩ := ht.lookup hw hhere event
    rw [← hr] at hremembered hanswer
    -- the question for this event; the others are put after it, to the table that it leaves
    have hcall : (Call.mk v.engine.table v.engine.registry.epoch v.walker.arch here event).Fresh r :=
      ⟨hw, hhere, by rw [hr], hanswer, hr ▸ hremembered⟩
    unfold phasesCalls
    cases hl : v.engine.table.lookup v.engine.registry.epoch v.walker.arch here event with
    | mk table invs =>
      rw [hl] at hremembered
      have hkeeps := dispatch_keeps here.key event invs
        { v with engine := { v.engine with table } }
      simp only [List.mem_cons, forall_eq_or_imp]
      refine ⟨hcall, ?_⟩
      cases hd : dispatch here.key event invs { v with engine := { v.engine with table } } with
      | mk v' r' =>
        rw [hd] at hkeeps
        obtain ⟨n, cause⟩ := r'
        cases cause with
        | some f => exact fun c hc => by cases hc
        | none =>
          simp only
          split
          · exact fun c hc => by cases hc
          · -- what was dispatched changed neither the registry nor the table
            refine ih v' (hkeeps.registry.trans hr) (by rw [hkeeps.arch]; exact hw) ?_
            rw [hkeeps.table, ← hr]
            exact hremembered

end Visit

namespace Engine

variable {e e' : Engine} {w x : Walker} {i : Nat} {cancelled : Bool}

/-- The questions that a step puts to the table. -/
def stepCalls (e : Engine) (cancelled : Bool) (w : Walker) : List Call :=
  match settled? w with
  | some _ => []
  | none =>
    if cancelled then []
    else match e.store.instanceAt w.position with
      | .ok inst => Visit.phasesCalls inst.arch [.entry, .exit] (e.start w inst)
      | .error _ => []

/-- A step leaves the table that its last question left. -/
theorem stepWalker_table (e : Engine) (cancelled : Bool) (w : Walker) :
    (e.stepWalker cancelled w).1.engine.table =
      (((e.stepCalls cancelled w).getLast?).map (·.answer.1)).getD e.table := by
  unfold stepWalker stepCalls
  cases settled? w with
  | some outcome => rfl
  | none =>
    cases cancelled with
    | true => rfl
    | false =>
      cases e.store.instanceAt w.position with
      | error err => rfl
      | ok inst => exact Visit.phases_table inst.arch [.entry, .exit] (e.start w inst) 0

/-- All that an engine meets is of records of its registry, which have keys of their own. -/
structure Serves (e : Engine) : Prop where
  keys : (e.registry.archs.map Architype.key).Nodup
  coherent : e.Coherent e.registry.archs
  table : e.table.Fresh e.registry

/-- **The questions of a step** are about records, and are answered as they stand. -/
theorem Serves.stepCalls (h : e.Serves) (hx : x ∈ e.walkers) :
    ∀ c ∈ e.stepCalls cancelled x, c.Fresh e.registry := by
  unfold Engine.stepCalls
  split
  · exact fun c hc => by cases hc
  · split
    · exact fun c hc => by cases hc
    · split
      · rename_i inst hi
        have hhere := Registry.lookup_of_mem h.keys (h.coherent.store.instanceAt hi)
        have hwalker := Registry.lookup_of_mem h.keys (h.coherent.arch x hx)
        exact Visit.phasesCalls_fresh hhere [.entry, .exit] (e.start x inst) rfl hwalker h.table
      · exact fun c hc => by cases hc

/-- A step leaves the registry as it is. -/
theorem Serves.stepWalker_registry (h : e.Serves) (hx : x ∈ e.walkers) :
    (e.stepWalker cancelled x).1.engine.registry = e.registry := by
  by_cases hr : x.state.isTerminal = true ∨ cancelled = true
  · rw [(stepWalker_rests hr).1]
  · obtain ⟨ha, hc⟩ := not_or.1 hr
    rw [Bool.not_eq_true] at ha hc
    subst hc
    exact (stepWalker_coherent h.coherent (Registry.oneRecord h.keys) hx ha).1

/-- **A step** keeps all this, with the table that its last question leaves. -/
theorem Serves.step (h : e.Serves) {outcome : StepOutcome}
    (hs : e.step cancelled i = some (e', outcome)) :
    e'.Serves ∧ e'.registry = e.registry := by
  obtain ⟨x, hx, he, -, -⟩ := step_eq_some hs
  have hm := List.mem_of_getElem? hx
  have hcoherent := act_coherent h.coherent (Registry.oneRecord h.keys) (.step cancelled i)
    fun a ha => by cases ha
  rw [← he] at hcoherent
  rw [act_step, hx] at he
  have hregistry : e'.registry = e.registry := by
    rw [he]
    exact h.stepWalker_registry hm
  refine ⟨⟨by rw [hregistry]; exact h.keys, by rw [hregistry]; exact hcoherent, ?_⟩, hregistry⟩
  have htable : e'.table = (e.stepWalker cancelled x).1.engine.table := by rw [he]
  rw [hregistry, htable, stepWalker_table]
  cases hl : (e.stepCalls cancelled x).getLast? with
  | none => exact h.table
  | some c => exact (h.stepCalls hm c (List.mem_of_getLast? hl)).table

/-- What is neither a store nor a walker, nor the table or the registry, does not count. -/
theorem Serves.congr (h : e.Serves) (hr : e'.registry = e.registry)
    (hs : e'.store.Within e.registry.archs) (ht : e'.table = e.table)
    (hw : e'.walkers = e.walkers) : e'.Serves := by
  have htable : e'.table.Fresh e'.registry := by
    rw [hr, ht]
    exact h.table
  refine ⟨hr ▸ h.keys, ?_, htable⟩
  have hfaithful := htable.faithful
  rw [hr] at hfaithful ⊢
  exact ⟨fun a ha => hr ▸ ha, hs, fun w hm => h.coherent.arch w (hw ▸ hm),
    fun w hm => h.coherent.engaged w (hw ▸ hm), hfaithful⟩

/-- Where no record is, an engine has nothing that another registry could make stale. -/
theorem Serves.renewed (h : e.Serves) (hnil : e.registry.archs = [])
    (hk : (e'.registry.archs.map Architype.key).Nodup) (hs : e'.store = e.store)
    (ht : e'.table = e.table) (hw : e'.walkers = e.walkers) : e'.Serves := by
  -- without records there are no walkers, no instances and no entries
  have hnone : ∀ w, w ∉ e'.walkers := by
    intro w hm
    have := h.coherent.arch w (hw ▸ hm)
    rw [hnil] at this
    cases this
  have hempty : ∀ entry, entry ∉ e'.table := by
    intro entry hm
    obtain ⟨w, p, hlw, -⟩ := h.table entry (ht ▸ hm)
    have := (Registry.mem_of_lookup hlw).1
    rw [hnil] at this
    cases this
  have hstore := h.coherent.store
  rw [hnil, ← hs] at hstore
  have htable : e'.table.Fresh e'.registry := fun entry hm => absurd hm (hempty entry)
  refine ⟨hk, ⟨fun a ha => ha, ⟨?_, ?_⟩, fun w hm => absurd hm (hnone w),
    fun w hm => absurd hm (hnone w), htable.faithful⟩, htable⟩
  · exact fun j slot n hj hn => absurd (hstore.nodes j slot n hj hn) List.not_mem_nil
  · exact fun j slot n hj hn => absurd (hstore.edges j slot n hj hn) List.not_mem_nil

theorem Serves.spawn (h : e.Serves) {a : Architype} {start : Handle}
    {args : List (String × Value)} (ha : a ∈ e.registry.archs)
    (hs : e.spawn a start args = .ok (e', w)) : e'.Serves ∧ e'.registry = e.registry := by
  have hcoherent := h.coherent.spawn ha hs
  obtain ⟨fields, s, -, -, -, rfl⟩ := spawn_eq_ok hs
  exact ⟨⟨h.keys, hcoherent, h.table⟩, rfl⟩

end Engine

/-! ## What is created is of records -/

/-- Operations on known architypes keep to them. -/
theorem Store.Within.leads {s t : Store} {known : List Architype} (hs : s.Within known)
    (h : s.Leads (· ∈ known) t) : t.Within known := by
  obtain ⟨ops, hops, rfl⟩ := h
  induction ops generalizing s with
  | nil => exact hs
  | cons op ops ih =>
    obtain ⟨hop, hops⟩ := List.forall_mem_cons.1 hops
    exact ih (hs.perform op hop) hops

namespace World

open Registry (emptied)

variable {w w' : World} {r : Registry} {label : String}

/-! ## The invariant of a world -/

/-- The engine serves its registry, which is empty or is replaced no more. -/
structure Serves (w : World) : Prop where
  engine : w.engine.Serves
  registry : (∃ n, w.engine.registry = emptied n) ∧ w.loaded = none ∨
    w.engine.registry.frozen = true

/-- A new world has no records yet. -/
theorem new_serves (haltOnError : Bool) (surroundings : Surroundings) :
    (World.new haltOnError surroundings).Serves :=
  ⟨⟨List.nodup_nil, Engine.new_coherent fun _ ha => ha, fun _ hm => absurd hm List.not_mem_nil⟩,
    Or.inl ⟨⟨0, rfl⟩, rfl⟩⟩

/-- **A load leaves a frozen registry** as it is, whether it succeeds or not. -/
theorem load_registry (hf : w.engine.registry.frozen = true) (mods : List Module) :
    (w.load mods).1.engine.registry = w.engine.registry := by
  have hresolve := resolve_of_frozen hf mods
  cases hl : w.loaded with
  | none =>
    cases ho : (resolve w.engine.registry mods).outcome with
    | error f => exact (load_unresolved hl ho).2.1.trans hresolve
    | ok g => exact (load_resolved hl ho).2.1.trans hresolve
  | some g =>
    obtain ⟨⟨logs, hw⟩, -⟩ := load_again hl hf mods
    rw [hw]
    exact (foldl_logged logs w.engine).1

/-- The records that a load puts into an empty registry have keys of their own. -/
theorem load_keys {n : Nat} (hr : w.engine.registry = emptied n) (hl : w.loaded = none)
    (mods : List Module) : ((w.load mods).1.engine.registry.archs.map Architype.key).Nodup := by
  cases ho : (resolve w.engine.registry mods).outcome with
  | error f =>
    rw [(load_unresolved hl ho).2.1]
    rw [hr] at ho ⊢
    obtain ⟨k, hk⟩ := resolve_failed ho
    rw [hk]
    exact List.nodup_nil
  | ok g =>
    rw [(load_resolved hl ho).2.1]
    rw [hr] at ho ⊢
    obtain ⟨-, -, -, -, hregistry⟩ := resolve_eq_ok ho
    rw [linked_emptied_frozen, if_neg Bool.false_ne_true] at hregistry
    rw [hregistry]
    exact (linked_emptied_tidy n g).bindAll.keys

/-- **A load** fills an empty registry, in which nothing can have been found yet, or leaves it
alone. -/
theorem Serves.load (h : w.Serves) (mods : List Module) : (w.load mods).1.Serves := by
  obtain ⟨hstore, htable, hwalkers⟩ := load_engine w mods
  rcases h.registry with ⟨⟨n, hr⟩, hl⟩ | hf
  · refine ⟨h.engine.renewed (by rw [hr]; rfl) (load_keys hr hl mods) hstore htable hwalkers, ?_⟩
    rcases load_emptied hr hl mods with hempty | hsettled
    · exact Or.inl hempty
    · exact Or.inr hsettled.frozen
  · have hr := load_registry hf mods
    refine ⟨h.engine.congr hr ?_ htable hwalkers, Or.inr (by rw [hr]; exact hf)⟩
    rw [hstore]
    exact h.engine.coherent.store

/-- What changes nothing but the graph, and creates instances of records only. -/
theorem Serves.withStore (h : w.Serves) {s : Store} (hs : s.Within w.engine.registry.archs) :
    (w.withStore s).Serves :=
  ⟨h.engine.congr rfl hs rfl rfl, h.registry⟩

theorem Serves.spawn (h : w.Serves) {arch : String} {start : Handle}
    {args : List (String × Value)} {x : Walker} (hs : w.spawn arch start args = .ok (w', x)) :
    w'.Serves := by
  unfold World.spawn at hs
  split at hs
  · cases hs
  · split at hs
    · cases hs
    · rename_i a hl
      split at hs
      · cases hs
      · rename_i e x hspawn
        cases hs
        obtain ⟨hserves, hr⟩ := h.engine.spawn (Registry.mem_of_lookup hl).1 hspawn
        exact ⟨hserves, by rw [hr]; exact h.registry⟩

/-- **Every deed keeps the invariant.** -/
theorem Deed.serves (hd : Deed w w') (h : w.Serves) : w'.Serves := by
  cases hd with
  | load mods => exact h.load mods
  | build name =>
    refine build_preserves (P := Serves) (fun w label ns h => ?_) (fun w label nodes es h => ?_)
      (fun h hs => h.spawn hs) (fun w r h => ?_) h name
    · exact h.withStore (h.engine.coherent.store.leads (buildNodes_leads ns _ []))
    · exact h.withStore (h.engine.coherent.store.leads (buildEdges_leads es _ []))
    · exact ⟨h.engine.congr rfl h.engine.coherent.store rfl rfl, h.registry⟩
  | spawn hs => exact h.spawn hs
  | step hs =>
    obtain ⟨hserves, hr⟩ := h.engine.step hs
    exact ⟨hserves, by rw [hr]; exact h.registry⟩
  | graph op ha =>
    exact h.withStore (h.engine.coherent.store.perform op fun a hm =>
      (Registry.mem_of_lookup (ha a hm)).1)
  | restore snap => exact h.withStore (h.engine.coherent.store.leads (snap.restore_leads _))
  | globals t => exact ⟨h.engine.congr rfl h.engine.coherent.store rfl rfl, h.registry⟩
  | told s => exact ⟨h.engine.congr rfl h.engine.coherent.store rfl rfl, h.registry⟩

theorem Later.serves (hl : Later w w') (h : w.Serves) : w'.Serves := by
  induction hl with
  | refl => exact h
  | tail _ hd ih => exact hd.serves ih

/-- **The table is never stale.** Whatever was done with a new world, each entry of the table is
what is found, from scratch, for the records that the registry has under its keys now; and each
question of each step that could come next is about records of the registry, and the table gives
the answer that they give. -/
theorem fresh_of_later {haltOnError : Bool} {surroundings : Surroundings}
    (h : Later (World.new haltOnError surroundings) w) :
    (∀ entry ∈ w.engine.table, ∃ a p, w.engine.registry.lookup entry.1.walker = .ok a ∧
      w.engine.registry.lookup entry.1.position = .ok p ∧
      entry.1.epoch = w.engine.registry.epoch ∧
      entry.2 = Dispatch.invocations a p entry.1.event) ∧
    ∀ x ∈ w.engine.walkers, ∀ cancelled, ∀ c ∈ w.engine.stepCalls cancelled x,
      w.engine.registry.lookup c.walker.key = .ok c.walker ∧
      w.engine.registry.lookup c.position.key = .ok c.position ∧
      c.epoch = w.engine.registry.epoch ∧
      (c.table.lookup c.epoch c.walker c.position c.event).2 =
        Dispatch.invocations c.walker c.position c.event := by
  have hserves := (h.serves (new_serves haltOnError surroundings)).engine
  refine ⟨hserves.table, fun x hx cancelled c hc => ?_⟩
  have hfresh := hserves.stepCalls hx c hc
  exact ⟨hfresh.walker, hfresh.position, hfresh.epoch, hfresh.answer⟩

/-- A walker that is greeted where it is spawned, and leaves an abstract ability alone. -/
def patrol : Module where
  name := "m"
  path := "m"
  elements := [
    .arch ⟨⟨"m", 1⟩, .node, "Post", [], [],
      [⟨⟨"m", 2⟩, "greet", ⟨[], .entry, []⟩, false, some default⟩], false⟩,
    .arch ⟨⟨"m", 3⟩, .walker, "Guard", [], [],
      [⟨⟨"m", 4⟩, "rest", ⟨[], .exit, []⟩, true, none⟩], false⟩,
    .graph ⟨⟨"m", 5⟩, "g", [⟨"a", "Post", []⟩], [], [⟨"Guard", "a", []⟩]⟩]
  stamp := 0

/-- The graph of the module, after modules that do not load. -/
def patrolWorld : World :=
  ((((World.new false default).load lost).1.load [patrol]).1.build "g").1

theorem fresh_patrol : ∃ w, Later (World.new false default) w ∧
    w.engine.table.map (fun entry => entry.2.map (·.ability.name)) = [["rest"], ["greet"]] ∧
    ∀ entry ∈ w.engine.table, ∃ a p, w.engine.registry.lookup entry.1.walker = .ok a ∧
      w.engine.registry.lookup entry.1.position = .ok p ∧
      entry.2 = Dispatch.invocations a p entry.1.event := by
  have hbuilt : Later (World.new false default) patrolWorld :=
    ((Relation.ReflTransGen.single (.load _ lost)).tail (.load _ [patrol])).tail (.build _ "g")
  have htable : (patrolWorld.engine.step false 0).map
      (fun r => r.1.table.map fun entry => entry.2.map (·.ability.name)) =
        some [["rest"], ["greet"]] := by decide +kernel
  obtain ⟨⟨e, outcome⟩, hs, hnames⟩ := Option.map_eq_some_iff.1 htable
  have hlater := hbuilt.tail (.step hs)
  refine ⟨_, hlater, hnames, fun entry hm => ?_⟩
  obtain ⟨a, p, ha, hp, -, hfound⟩ := (fresh_of_later hlater).1 entry hm
  exact ⟨a, p, ha, hp, hfound⟩

end World

end GraphWalk
