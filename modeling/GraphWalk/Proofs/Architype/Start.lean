import GraphWalk.Proofs.Architype.Fields
import GraphWalk.Proofs.Value.Conversion

/-!
# What the fields of a new instance hold

A new instance starts with the defaults of its fields and with the values it is given,
each converted to the type of its field. `Begun defs init f` says this of a field set: a
name stands for the last value it is given in `init`, if any, and else for its default
(`FieldDef.first`).

Main result: `new_spec`. **A field set that can be made has begun so.** It rests on
`setAll_spec`: after several values are set, a name stands for the last of its own, and
where it has none for what it stood for.
-/

namespace GraphWalk

/-- What a field holds before it is given a value: its default, unless that is null. -/
def FieldDef.first (d : FieldDef) : Value :=
  match d.default with
  | some v => if v.isNull then .null d.type else v
  | none => .null d.type

namespace Fields

variable {f g e : Fields} {defs : List FieldDef} {writes init : List (String × Value)}
  {k : String} {s : FieldSlot} {v : Value}

/-- The field set of an instance that starts with the defaults of its fields and is given
`init`: every name in `init` is that of a field, and what a name stands for is the value it
is given last, or else the default, converted to the declared type. -/
structure Begun (defs : List FieldDef) (init : List (String × Value)) (f : Fields) : Prop where
  fields : f.slots.map (·.field) = defs
  known : ∀ p ∈ init, ∃ d ∈ defs, d.name = p.1
  value : ∀ name s, f.slot? name = some s →
    ((lookupKey name init.reverse).getD s.field.first).convert s.field.type = .ok s.value

/-- The fields of `g` are those of `f` after `writes`. -/
structure Overwritten (writes : List (String × Value)) (f g : Fields) : Prop where
  fields : g.slots.map (·.field) = f.slots.map (·.field)
  known : ∀ p ∈ writes, ∃ s ∈ f.slots, s.field.name = p.1
  written : ∀ name v s, lookupKey name writes.reverse = some v → g.slot? name = some s →
    v.convert s.field.type = .ok s.value
  kept : ∀ name, lookupKey name writes.reverse = none → g.slot? name = f.slot? name

/-- Setting a field changes what its name stands for, and no other name. -/
theorem slot?_set (h : f.set k v = .ok g) :
    ∃ s w, f.slot? k = some s ∧ v.convert s.field.type = .ok w ∧
      g.slots.map (·.field) = f.slots.map (·.field) ∧
      ∀ name, g.slot? name = if k = name then some ⟨s.field, w⟩ else f.slot? name := by
  obtain ⟨s, w, hs, hw⟩ := of_set h
  obtain ⟨g', hg, hfields, hslots⟩ := set_spec hs hw
  cases h.symm.trans hg
  refine ⟨s, w, hs, hw, hfields, fun name => ?_⟩
  rw [slot?_eq_place g, place_congr hfields, hslots]
  by_cases hk : k = name
  · rw [if_pos hk, if_pos (by rw [hk])]
  · rw [if_neg hk, slot?_eq_place f]
    -- two names that stand for one slot are both the name of its field
    have hplace : f.place k ≠ f.place name := by
      intro heq
      have hname : f.slot? name = some s := by rw [slot?_eq_place, ← heq, ← slot?_eq_place, hs]
      exact hk ((mem_of_slot? hs).2.symm.trans (mem_of_slot? hname).2)
    rw [if_neg hplace]

/-- One more value at the end. -/
theorem Overwritten.snoc (h : f.Overwritten writes g) (hset : g.set k v = .ok e) :
    f.Overwritten (writes ++ [(k, v)]) e := by
  obtain ⟨s, w, hs, hw, hfields, hslot⟩ := slot?_set hset
  have hlast : ∀ name, lookupKey name (writes ++ [(k, v)]).reverse =
      if k = name then some v else lookupKey name writes.reverse := by
    intro name
    rw [List.reverse_append, List.reverse_singleton, List.singleton_append, lookupKey_cons]
  refine ⟨hfields.trans h.fields, fun p hp => ?_, fun name u t hu ht => ?_, fun name hn => ?_⟩
  · rcases List.mem_append.1 hp with hp | hp
    · exact h.known p hp
    · cases List.mem_singleton.1 hp
      have hmem : s.field ∈ f.slots.map (·.field) := by
        rw [← h.fields]
        exact List.mem_map_of_mem (mem_of_slot? hs).1
      obtain ⟨s', hs', heq⟩ := List.mem_map.1 hmem
      exact ⟨s', hs', by rw [heq, (mem_of_slot? hs).2]⟩
  · rw [hlast] at hu
    rw [hslot] at ht
    split at hu
    · rename_i hk
      rw [if_pos hk] at ht
      cases hu
      cases ht
      exact hw
    · rename_i hk
      rw [if_neg hk] at ht
      exact h.written name u t hu ht
  · rw [hlast] at hn
    rw [hslot]
    split at hn
    · cases hn
    · rename_i hk
      rw [if_neg hk]
      exact h.kept name hn

/-- **Setting values one after the other.** -/
theorem setAll_spec (writes : List (String × Value)) :
    ∀ {g : Fields}, f.setAll writes = .ok g → f.Overwritten writes g := by
  induction writes using List.reverseRecOn with
  | nil =>
    intro g h
    cases h
    exact ⟨rfl, fun p hp => absurd hp List.not_mem_nil, fun _ _ _ hl => (by cases hl),
      fun _ _ => rfl⟩
  | append_singleton writes p ih =>
    intro g h
    obtain ⟨k, v⟩ := p
    rw [setAll_append] at h
    obtain ⟨f', hf', h⟩ := of_bind_ok h
    obtain ⟨g', hg', h⟩ := of_bind_ok h
    cases h
    exact (ih hf').snoc hg'

theorem initial_eq_ok {d : FieldDef} : initial d = .ok s ↔
    s.field = d ∧ d.first.convert d.type = .ok s.value := by
  have hinitial : initial d =
      ((d.first.convert d.type).mapError (.badDefault d.name)).map (⟨d, ·⟩) := by
    unfold initial
    simp only
    split
    · rename_i v hv
      rw [show d.first.convert d.type = .ok v from hv]
      rfl
    · rename_i err herr
      rw [show d.first.convert d.type = .error err from herr]
      rfl
  obtain ⟨field, value⟩ := s
  rw [hinitial]
  cases d.first.convert d.type <;> simp [Except.mapError, Except.map, eq_comm]

/-- Before any value is set, every field holds its first one. -/
theorem initial_slots {slots : List FieldSlot} (h : defs.mapM initial = .ok slots) :
    slots.map (·.field) = defs ∧
      ∀ s ∈ slots, s.field.first.convert s.field.type = .ok s.value := by
  have hall := forall₂_of_mapM h
  clear h
  induction hall with
  | nil => exact ⟨rfl, fun s hs => absurd hs List.not_mem_nil⟩
  | cons hd _ ih =>
    obtain ⟨rfl, hv⟩ := initial_eq_ok.1 hd
    exact ⟨by rw [List.map_cons, ih.1], List.forall_mem_cons.2 ⟨hv, ih.2⟩⟩

/-- **What a new field set holds.** -/
theorem new_spec (h : Fields.new defs init = .ok f) : f.Begun defs init := by
  obtain ⟨slots, hslots, hset⟩ := of_bind_ok h
  obtain ⟨hdefs, hfirst⟩ := initial_slots hslots
  have hover := setAll_spec init hset
  refine ⟨hover.fields.trans hdefs, fun p hp => ?_, fun name s hs => ?_⟩
  · obtain ⟨s, hs, hname⟩ := hover.known p hp
    exact ⟨s.field, by rw [← hdefs]; exact List.mem_map_of_mem hs, hname⟩
  · cases hl : lookupKey name init.reverse with
    | some v => exact hover.written name v s hl hs
    | none =>
      -- a field that is given no value has kept its first one
      rw [hover.kept name hl] at hs
      exact hfirst s (mem_of_slot? hs).1

end Fields

end GraphWalk
