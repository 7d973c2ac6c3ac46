import GraphWalk.Proofs.Store.Records
import GraphWalk.Proofs.Store.Shift
import GraphWalk.Proofs.Walker.Pins

/-!
# Known architypes

What a body creates is of an architype of the registry (`stepEdits_bring`), and what is
given from outside is of an architype that is given with it. So the instances of a store
are of architypes that are known (`Within`).

The dispatch table is searched by keys. If no two known architypes have one key
(`OneRecord`), it answers for the architypes themselves (`Faithful.lookup`).

`Keeps` says what of a visit a body cannot change: the architype of the walker, the
registry and the dispatch table. A body announces nothing that looks like an ability
(`run_quiet`), so what is announced tells which bodies were run (`invoke_announced`).
-/

namespace GraphWalk

namespace Arena

variable {α β : Type} {kept : α → β} {a b : Arena α} {P : α → Prop}

/-- All items satisfy `P`. -/
def Each (P : α → Prop) (a : Arena α) : Prop :=
  ∀ (j : Nat) (slot : Slot α) (x : α), a.slots[j]? = some slot → slot.item = some x → P x

theorem Each.get? (h : a.Each P) {i g : UInt32} {x : α} (hx : a.get? i g = some x) : P x :=
  h _ _ x (get?_eq_some.1 hx).1 rfl

/-- An insertion puts one item somewhere and leaves the others, if it does not replace one. -/
theorem Each.insert (h : a.Each P) {make : UInt32 → UInt32 → α} (hm : ∀ i g, P (make i g)) :
    (a.insert make).1.Each P := by
  have hreserve : a.reserve.1.Each P := by
    unfold reserve
    split
    · exact h
    · intro j slot x hs hx
      rw [Array.getElem?_push] at hs
      split at hs
      · cases hs
        cases hx
      · exact h j slot x hs hx
  intro j slot x hs hx
  simp only [Arena.insert, fill, Array.getElem?_modify] at hs
  split at hs
  · obtain ⟨old, -, rfl⟩ := Option.map_eq_some_iff.1 hs
    cases hx
    exact hm _ _
  · exact hreserve j slot x hs hx

/-- What depends on nothing but what is kept holds of what is left. -/
theorem Worn.each {Q : β → Prop} (h : a.Worn kept b) (ha : a.Each fun x => Q (kept x)) :
    b.Each fun x => Q (kept x) := by
  induction h with
  | refl => exact ha
  | update i hf _ ih =>
    intro j slot x hs hx
    obtain ⟨old, ho, -, hi⟩ := slot_update hs
    rcases hi with hi | hi
    · exact ih j old x ho (hi ▸ hx)
    · rw [hi] at hx
      obtain ⟨y, hy, rfl⟩ := Option.map_eq_some_iff.1 hx
      rw [hf]
      exact ih j old y ho hy
  | remove _ _ ih =>
    intro j slot x hs hx
    simp only [Arena.remove, Array.getElem?_modify] at hs
    split at hs
    · obtain ⟨old, -, rfl⟩ := Option.map_eq_some_iff.1 hs
      cases hx
    · exact ih j slot x hs hx

end Arena

namespace Store

variable {s s' : Store} {h : Handle} {known : List Architype}

/-- All instances are of known architypes. -/
structure Within (known : List Architype) (s : Store) : Prop where
  nodes : s.nodes.Each fun x => x.arch ∈ known
  edges : s.edges.Each fun x => x.arch ∈ known

theorem empty_within : empty.Within known :=
  ⟨fun j slot x h => by simp [empty, Arena.empty] at h,
    fun j slot x h => by simp [empty, Arena.empty] at h⟩

/-- What is found under a handle is of a known architype. -/
theorem Within.instanceAt (hs : s.Within known) {inst : Instance}
    (hi : s.instanceAt h = .ok inst) : inst.arch ∈ known := by
  unfold Store.instanceAt at hi
  split at hi
  · cases he : s.edge h with
    | error err => rw [he] at hi; cases hi
    | ok e =>
      rw [he] at hi
      cases hi
      exact hs.edges.get? (edge?_eq_some.1 (edge_eq_ok.1 he)).2
  · cases hn : s.node h with
    | error err => rw [hn] at hi; cases hi
    | ok n =>
      rw [hn] at hi
      cases hi
      exact hs.nodes.get? (node?_eq_some.1 (node_eq_ok.1 hn)).2

/-- **An operation** brings known architypes along, and keeps those that are there. -/
theorem Within.perform (hs : s.Within known) (op : Operation) (ha : ∀ a ∈ op.archs, a ∈ known) :
    (s.perform op).Within known := by
  have hshift := perform_shift s op
  generalize s.perform op = s' at hshift
  generalize s.returned? op = r at hshift
  cases hshift with
  | worn hn he => exact ⟨hn.each hs.nodes, he.each hs.edges⟩
  | node make _ harch hn he =>
    refine ⟨?_, he ▸ hs.edges⟩
    rw [hn]
    exact hs.nodes.insert fun i g => ha _ (harch i g)
  | edge make _ harch hn he =>
    refine ⟨hn.each hs.nodes, ?_⟩
    rw [he]
    exact hs.edges.insert fun i g => ha _ (harch i g)

theorem Within.editAll {es : List Edit} :
    ∀ {s : Store}, s.Within known → (∀ ed ∈ es, ∀ a ∈ ed.archs, a ∈ known) →
      (s.editAll es).Within known := by
  induction es with
  | nil => exact fun hs _ => hs
  | cons ed es ih =>
    intro s hs ha
    exact ih (hs.perform (.edit ed) (ha ed List.mem_cons_self))
      fun ed' hm => ha ed' (List.mem_cons_of_mem ed hm)

end Store

/-- No two architypes of the list have one key. -/
def OneRecord (known : List Architype) : Prop :=
  ∀ a ∈ known, ∀ b ∈ known, a.key = b.key → a = b

namespace Dispatch.Table

variable {t : Table} {known : List Architype} {w p : Architype}

/-- Every entry was found for two known architypes. -/
def Faithful (known : List Architype) (t : Table) : Prop :=
  ∀ entry ∈ t, ∃ w ∈ known, ∃ p ∈ known, entry.1.walker = w.key ∧ entry.1.position = p.key ∧
    entry.2 = invocations w p entry.1.event

/-- **A faithful table answers** as if nothing were remembered, and stays faithful. -/
theorem Faithful.lookup (ht : t.Faithful known) (one : OneRecord known) (hw : w ∈ known)
    (hp : p ∈ known) (epoch : Nat) (event : Event) :
    (t.lookup epoch w p event).1.Faithful known ∧
      (t.lookup epoch w p event).2 = invocations w p event := by
  unfold Table.lookup
  simp only
  split
  · rename_i entry hf
    refine ⟨ht, ?_⟩
    have hkey : entry.1 = ⟨epoch, w.key, p.key, event⟩ := by simpa using List.find?_some hf
    obtain ⟨w', hw', p', hp', hwk, hpk, hinv⟩ := ht entry (List.mem_of_find?_eq_some hf)
    rw [hkey] at hwk hpk hinv
    -- the entry was made for architypes with these keys, and there is one of each
    rw [hinv, one w' hw' w hw hwk.symm, one p' hp' p hp hpk.symm]
  · -- nothing is remembered yet, so the new entry is what was asked for
    refine ⟨fun entry hm => ?_, rfl⟩
    rcases List.mem_cons.1 hm with rfl | hm
    · exact ⟨w, hw, p, hp, rfl, rfl, rfl⟩
    · exact ht entry hm

end Dispatch.Table

/-- What a signal announces of an ability that is about to run. -/
def Signal.ability? : Signal → Option (Path × Event × Side × Handle)
  | .trace ⟨_, _, position, _, .ability path event side⟩ => some (path, event, side, position)
  | _ => none

namespace Visit

open Store (Edit)

variable {v v' v'' : Visit} {o : Occasion} {side : Side}

/-- The abilities announced so far, in order. -/
def announced (v : Visit) : List (Path × Event × Side × Handle) :=
  v.engine.signals.toList.filterMap Signal.ability?

/-- What of a visit a body cannot change. -/
structure Keeps (v v' : Visit) : Prop where
  arch : v'.walker.arch = v.walker.arch
  registry : v'.engine.registry = v.engine.registry
  haltOnError : v'.engine.haltOnError = v.engine.haltOnError
  table : v'.engine.table = v.engine.table

/-- Nor is an ability announced. -/
structure Quiet (v v' : Visit) : Prop extends Keeps v v' where
  announced : v'.announced = v.announced

theorem Keeps.refl (v : Visit) : v.Keeps v := ⟨rfl, rfl, rfl, rfl⟩

theorem Keeps.trans (h : v.Keeps v') (h' : v'.Keeps v'') : v.Keeps v'' :=
  ⟨h'.arch.trans h.arch, h'.registry.trans h.registry, h'.haltOnError.trans h.haltOnError,
    h'.table.trans h.table⟩

theorem Quiet.refl (v : Visit) : v.Quiet v := ⟨Keeps.refl v, rfl⟩

theorem Quiet.trans (h : v.Quiet v') (h' : v'.Quiet v'') : v.Quiet v'' :=
  ⟨h.toKeeps.trans h'.toKeeps, h'.announced.trans h.announced⟩

/-- A signal announces the ability that it names, if it names one. -/
theorem announced_emit (v : Visit) (s : Signal) :
    ({ v with engine := v.engine.emit s } : Visit).announced =
      v.announced ++ s.ability?.toList := by
  unfold announced Engine.emit
  rw [Array.toList_push, List.filterMap_append]
  cases h : s.ability? <;> simp [h]

theorem emit_quiet (v : Visit) {s : Signal} (hs : s.ability? = none) :
    v.Quiet { v with engine := v.engine.emit s } :=
  ⟨⟨rfl, rfl, rfl, rfl⟩, by rw [announced_emit, hs, Option.toList_none, List.append_nil]⟩

theorem logged_quiet (v : Visit) (r : LogRecord) : v.Quiet (v.logged r) := emit_quiet v rfl

/-- No request changes what a body cannot change. -/
theorem answer_quiet (r : Request) : v.Quiet (v.answer o side r).1 := by
  -- a new instance goes to the store, which is no part of what is kept
  have created : ∀ key create, v.Quiet (v.createdBy key create).1 := by
    intro key create
    unfold createdBy
    split
    · exact Quiet.refl v
    · split
      · exact Quiet.refl v
      · exact ⟨⟨rfl, rfl, rfl, rfl⟩, rfl⟩
  cases r with
  | setField t name value =>
    simp only [answer]
    split
    · unfold withFields
      split <;> exact ⟨⟨rfl, rfl, rfl, rfl⟩, rfl⟩
    · exact Quiet.refl v
  | visit first targets =>
    simp only [answer]
    split <;> exact ⟨⟨rfl, rfl, rfl, rfl⟩, rfl⟩
  | report value =>
    have h : v.Quiet { v with walker := { v.walker with
        reports := v.walker.reports ++ [value] } } := ⟨⟨rfl, rfl, rfl, rfl⟩, rfl⟩
    exact h.trans (emit_quiet _ rfl)
  | createNode arch init => exact created _ _
  | connect arch source target init => exact created _ _
  | delete h =>
    simp only [answer]
    split <;> exact ⟨⟨rfl, rfl, rfl, rfl⟩, rfl⟩
  | global name =>
    simp only [answer]
    split <;> exact Quiet.refl v
  | setGlobal name value =>
    simp only [answer]
    split
    · exact Quiet.refl v
    · split <;> exact ⟨⟨rfl, rfl, rfl, rfl⟩, rfl⟩
  | log r => exact logged_quiet v r
  | print text => exact emit_quiet v rfl
  | _ => exact ⟨⟨rfl, rfl, rfl, rfl⟩, rfl⟩

/-- Nor does a program. -/
theorem run_quiet {α : Type} (p : Program α) : ∀ v : Visit, v.Quiet (v.run o side p).1 := by
  induction p with
  | ask r next ih => exact fun v => (answer_quiet r).trans (ih _ _)
  | _ => exact fun v => Quiet.refl v

section Phase

variable (here : ArchKey) (event : Event)

/-- A body that is invoked keeps what no body can change. -/
theorem invoke_keeps (v : Visit) (inv : Invocation) (body : Body) :
    v.Keeps (v.invoke here event inv body).1 := by
  rw [invoke_fst]
  -- announcing the ability changes the signals only
  have h : v.Keeps (v.observed v.walker.position (.ability inv.ability.path event inv.side)) :=
    ⟨rfl, rfl, rfl, rfl⟩
  exact h.trans (run_quiet _ _).toKeeps

/-- **A body that is invoked is announced**, and its program announces no other. -/
theorem invoke_announced (v : Visit) (inv : Invocation) (body : Body) :
    (v.invoke here event inv body).1.announced =
      v.announced ++ [(inv.ability.path, event, inv.side, v.walker.position)] := by
  rw [invoke_fst, (run_quiet _ _).announced]
  exact announced_emit v _

/-- **A phase** keeps it too, whichever bodies it runs. -/
theorem dispatch_keeps (invs : List Invocation) :
    ∀ v : Visit, v.Keeps (dispatch here event invs v).1 := by
  induction invs with
  | nil => exact fun v => Keeps.refl v
  | cons inv rest ih =>
    intro v
    unfold dispatch
    cases inv.ability.bound with
    | none => exact (logged_quiet v _).toKeeps.trans (ih _)
    | some bound =>
      have := v.invoke_keeps here event inv bound.1
      simp only
      cases h : v.invoke here event inv bound.1 with
      | mk v' fault =>
        rw [h] at this
        cases fault with
        | some f => exact this
        | none =>
          simp only
          split
          · exact this
          · exact this.trans (ih _)

end Phase

/-! ## What bodies create -/

/-- The changes bring only architypes of the list along. -/
def Bring (as : List Architype) (es : List Edit) : Prop := ∀ ed ∈ es, ∀ a ∈ ed.archs, a ∈ as

theorem Bring.append {as : List Architype} {es es' : List Edit} (h : Bring as es)
    (h' : Bring as es') : Bring as (es ++ es') := fun ed hm =>
  (List.mem_append.1 hm).elim (h ed) (h' ed)

theorem bring_nil {as : List Architype} : Bring as [] := fun _ hm => by cases hm

/-- Bodies find what they create in the registry. -/
theorem requestEdits_bring (r : Request) :
    Bring v.engine.registry.archs (v.requestEdits o side r) := by
  -- what is created is of the one architype that was found
  have found : ∀ {key a} {ed : Edit}, v.engine.registry.lookup key = .ok a → ed.archs = [a] →
      Bring v.engine.registry.archs [ed] := by
    intro key a ed hl ha ed' hm b hb
    cases List.mem_singleton.1 hm
    rw [ha] at hb
    cases List.mem_singleton.1 hb
    unfold Registry.lookup at hl
    split at hl
    · rename_i hf
      cases hl
      exact List.mem_of_find?_eq_some hf
    · cases hl
  -- every other change brings none along
  have free : ∀ {ed : Edit}, ed.archs = [] → Bring v.engine.registry.archs [ed] := by
    intro ed ha ed' hm b hb
    cases List.mem_singleton.1 hm
    rw [ha] at hb
    cases hb
  cases r with
  | setField t name value =>
    simp only [requestEdits]
    split
    · exact bring_nil
    · split
      · exact free rfl
      · exact bring_nil
  | createNode arch init =>
    simp only [requestEdits]
    split
    · rename_i hl
      exact found hl rfl
    · exact bring_nil
  | connect arch source target init =>
    simp only [requestEdits]
    split
    · rename_i hl
      exact found hl rfl
    · exact bring_nil
  | delete h => exact free rfl
  | _ => exact bring_nil

/-- A program asks for one change after the other, and none changes the registry. -/
theorem programEdits_bring {α : Type} (p : Program α) :
    ∀ v : Visit, Bring v.engine.registry.archs (programEdits o side p v) := by
  induction p with
  | ask r next ih =>
    intro v
    have := ih (v.answer o side r).2 (v.answer o side r).1
    rw [(answer_quiet r).registry] at this
    exact (requestEdits_bring r).append this
  | _ => exact fun v => bring_nil

variable (here : ArchKey) (event : Event)

theorem dispatchEdits_bring (invs : List Invocation) :
    ∀ v : Visit, Bring v.engine.registry.archs (dispatchEdits here event invs v) := by
  induction invs with
  | nil => exact fun v => bring_nil
  | cons inv rest ih =>
    intro v
    unfold dispatchEdits
    cases inv.ability.bound with
    | none => exact ih _
    | some bound =>
      have hreg := (v.invoke_keeps here event inv bound.1).registry
      simp only
      refine (programEdits_bring _ _).append ?_
      cases h : v.invoke here event inv bound.1 with
      | mk v' fault =>
        rw [h] at hreg
        cases fault with
        | some f => exact bring_nil
        | none =>
          simp only
          split
          · exact bring_nil
          · exact hreg ▸ ih v'

/-- All phases of a visit, in which the registry stays the same. -/
theorem phasesEdits_bring (here : Architype) (events : List Event) :
    ∀ v : Visit, Bring v.engine.registry.archs (phasesEdits here events v) := by
  induction events with
  | nil => exact fun v => bring_nil
  | cons event rest ih =>
    intro v
    unfold phasesEdits
    cases v.engine.table.lookup v.engine.registry.epoch v.walker.arch here event with
    | mk table invs =>
      let u : Visit := { v with engine := { v.engine with table } }
      have hreg := (dispatch_keeps here.key event invs u).registry
      simp only
      refine (dispatchEdits_bring here.key event invs u).append ?_
      cases hd : dispatch here.key event invs u with
      | mk v' r =>
        rw [hd] at hreg
        obtain ⟨n, cause⟩ := r
        cases cause with
        | some f => exact bring_nil
        | none =>
          simp only
          split
          · exact bring_nil
          · have := ih v'
            rw [hreg] at this
            exact this

end Visit

namespace Engine

variable {e : Engine} {w : Walker} {cancelled : Bool}

/-- **A step creates instances of architypes of the registry only.** -/
theorem stepEdits_bring : Visit.Bring e.registry.archs (e.stepEdits cancelled w) := by
  unfold stepEdits
  split
  · exact Visit.bring_nil
  · split
    · exact Visit.bring_nil
    · simp only
      split
      · exact Visit.bring_nil
      · exact Visit.phasesEdits_bring _ _ _

end Engine

end GraphWalk
