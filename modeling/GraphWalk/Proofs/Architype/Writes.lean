import GraphWalk.Proofs.Architype.Start
import GraphWalk.Proofs.List.Distinct
import GraphWalk.Proofs.Value.Conformance
import GraphWalk.Proofs.Value.Merged

/-!
# Fields that are written over and over

A write converts its value to the type of the field or is refused, and a write that is refused
leaves everything as it is (`takes`). So whatever is written in whatever order, the fields stay
those that were declared, and every one of them holds a value of the shape of its type
(`Typed.performs`). This is as good as the conversions are: `Suits` says of a value and a type
that the one is brought to the shape of the other, which holds of all values whose parts have the
types that they should have (`suits_of_sound`).

An instance is given its first values in no particular order. `new_of_perm`: **their order makes
no difference**, neither to whether they can be set nor to what is held afterwards.

Main result: `kept_of_writes`. What single fields, all fields and the object of all fields report
are the same values (`reports`), but for fields whose names are composed alike: an object has room
for one of them only (`hidden_twins`).
-/

namespace GraphWalk

namespace Fields

variable {f g e : Fields} {defs : List FieldDef} {init init' writes : List (String × Value)}
  {k name : String} {s : FieldSlot} {v w : Value} {err : FieldError}

/-! ## One write -/

/-- The fields after a write: one that is refused leaves them as they are. -/
def perform (f : Fields) (write : String × Value) : Fields :=
  match f.set write.1 write.2 with
  | .ok g => g
  | .error _ => f

/-- The fields after one write after the other. -/
def performs (f : Fields) (writes : List (String × Value)) : Fields := writes.foldl perform f

/-- Every field holds a value that has the shape of its type. -/
def Typed (f : Fields) : Prop := ∀ s ∈ f.slots, s.value.type.conforms s.field.type = true

/-- A write changes what its name stands for, and no other name. -/
theorem get_set (h : f.set k v = .ok g) : ∃ s w, f.slot? k = some s ∧
    v.convert s.field.type = .ok w ∧ g.slots.map (·.field) = f.slots.map (·.field) ∧
    ∀ name, g.get name = if name = k then .ok w else f.get name := by
  obtain ⟨s, w, hs, hw, hfields, hslot⟩ := slot?_set h
  refine ⟨s, w, hs, hw, hfields, fun name => ?_⟩
  unfold get
  rw [hslot]
  by_cases hk : k = name
  · rw [if_pos hk, if_pos hk.symm]
  · rw [if_neg hk, if_neg (Ne.symm hk)]

/-- **A write keeps the types**, if what is written suits the type of its field. -/
theorem Typed.set (hf : f.Typed) (h : f.set k v = .ok g)
    (hv : ∀ s, f.slot? k = some s → Suits s.field.type v) : g.Typed := by
  obtain ⟨s, w, hs, hw⟩ := of_set h
  obtain ⟨g', hg, -, hslots⟩ := set_spec hs hw
  obtain rfl : g = g' := Except.ok.inj (h.symm.trans hg)
  intro t ht
  obtain ⟨i, hi⟩ := List.mem_iff_getElem?.1 (List.mem_reverse.2 ht)
  rw [hslots] at hi
  -- the slot is the one that was written, or one of before
  split at hi
  · obtain rfl : ⟨s.field, w⟩ = t := Option.some.inj hi
    exact hv s hs w hw
  · have ht' : t ∈ f.slots := List.mem_reverse.1 (List.mem_of_getElem? hi)
    exact hf t ht'

theorem mem_fields_of_slot? (h : f.slot? k = some s) :
    s.field ∈ f.slots.map (·.field) ∧ s.field.name = k :=
  ⟨List.mem_map_of_mem (mem_of_slot? h).1, (mem_of_slot? h).2⟩

theorem slot?_eq_none : f.slot? k = none ↔ k ∉ f.names := by
  unfold slot? names
  simp [List.find?_eq_none]

/-- What becomes of a field set with the fields `defs` when `v` is written under the name `k`. -/
inductive Takes (defs : List FieldDef) (f : Fields) (k : String) (v : Value) : Prop
  | unknown : k ∉ defs.map (·.name) → f.set k v = .error (.unknown k) → f.perform (k, v) = f →
    Takes defs f k v
  | wrongType (d : FieldDef) (why : ConversionError) : d ∈ defs → d.name = k →
    v.convert d.type = .error why → f.set k v = .error (.wrongType k d.type why) →
    f.perform (k, v) = f → Takes defs f k v
  | done (d : FieldDef) (w : Value) (g : Fields) : d ∈ defs → d.name = k →
    v.convert d.type = .ok w → f.set k v = .ok g → f.perform (k, v) = g →
    (∀ name, g.get name = if name = k then .ok w else f.get name) → Takes defs f k v

/-- **A write is refused or done**, and changes nothing or what its name stands for. -/
theorem takes (f : Fields) (k : String) (v : Value) : f.Takes (f.slots.map (·.field)) k v := by
  cases hs : f.slot? k with
  | none =>
    have hset : f.set k v = .error (.unknown k) := by
      unfold set
      rw [hs]
    refine .unknown ?_ hset (by unfold perform; rw [hset])
    rw [List.map_map]
    exact slot?_eq_none.1 hs
  | some s =>
    obtain ⟨hmem, hname⟩ := mem_fields_of_slot? hs
    cases hc : v.convert s.field.type with
    | error why =>
      have hset : f.set k v = .error (.wrongType k s.field.type why) := by
        unfold set
        rw [hs]
        simp only [hc]
      exact .wrongType s.field why hmem hname hc hset (by unfold perform; rw [hset])
    | ok w =>
      obtain ⟨g, hset, -⟩ := set_spec hs hc
      obtain ⟨s', w', hs', hw', -, hget⟩ := get_set hset
      cases hs.symm.trans hs'
      cases hc.symm.trans hw'
      exact .done s.field w g hmem hname hc hset (by unfold perform; rw [hset]) hget

/-! ## Runs of writes -/

/-- No write changes which fields there are. -/
theorem fields_perform (f : Fields) (write : String × Value) :
    (f.perform write).slots.map (·.field) = f.slots.map (·.field) := by
  unfold perform
  split
  · rename_i g hg
    obtain ⟨-, -, -, -, hfields, -⟩ := get_set hg
    exact hfields
  · rfl

theorem fields_performs (f : Fields) (writes : List (String × Value)) :
    (f.performs writes).slots.map (·.field) = f.slots.map (·.field) := by
  induction writes generalizing f with
  | nil => rfl
  | cons write writes ih => exact (ih (f.perform write)).trans (fields_perform f write)

/-- What is written under the name of a field suits the type of the field. -/
def Fit (defs : List FieldDef) (writes : List (String × Value)) : Prop :=
  ∀ d ∈ defs, ∀ p ∈ writes, p.1 = d.name → Suits d.type p.2

theorem Typed.perform (hf : f.Typed) {write : String × Value}
    (hfit : Fit (f.slots.map (·.field)) [write]) : (f.perform write).Typed := by
  unfold Fields.perform
  split
  · rename_i g hg
    refine hf.set hg fun s hs => ?_
    obtain ⟨hmem, hname⟩ := mem_fields_of_slot? hs
    exact hfit s.field hmem write List.mem_cons_self hname.symm
  · exact hf

/-- **A run of writes keeps the types.** -/
theorem Typed.performs (writes : List (String × Value)) : ∀ {f : Fields}, f.Typed →
    Fit (f.slots.map (·.field)) writes → (f.performs writes).Typed := by
  induction writes with
  | nil => exact fun hf _ => hf
  | cons write writes ih =>
    intro f hf hfit
    refine ih (hf.perform fun d hd p hp => ?_) ?_
    · rw [List.mem_singleton] at hp
      exact hfit d hd p (hp ▸ List.mem_cons_self)
    · rw [fields_perform]
      exact fun d hd p hp => hfit d hd p (List.mem_cons_of_mem _ hp)

/-- Values that are all set are set by a run of writes. -/
theorem performs_of_setAll (writes : List (String × Value)) : ∀ {f : Fields},
    f.setAll writes = .ok g → f.performs writes = g := by
  induction writes with
  | nil =>
    intro f h
    exact Except.ok.inj h
  | cons write writes ih =>
    intro f h
    obtain ⟨k, v⟩ := write
    obtain ⟨f', hf', h⟩ := of_bind_ok h
    have hstep : f.perform (k, v) = f' := by
      unfold perform
      rw [hf']
    have hrun := ih h
    rw [← hstep] at hrun
    exact hrun

/-- A new field set is typed, if its defaults and the values it is given suit the types. -/
theorem typed_new (hfirst : ∀ d ∈ defs, Suits d.type d.first) (hfit : Fit defs init)
    (h : Fields.new defs init = .ok f) : f.Typed := by
  obtain ⟨slots, hslots, hset⟩ := of_bind_ok h
  obtain ⟨hdefs, hvalues⟩ := initial_slots hslots
  have hstart : Typed ⟨slots⟩ := by
    intro s hs
    have hd : s.field ∈ defs := hdefs ▸ List.mem_map_of_mem hs
    exact hfirst s.field hd s.value (hvalues s hs)
  rw [← performs_of_setAll init hset]
  exact hstart.performs init (hdefs.symm ▸ hfit)

/-! ## The order of the given values -/

/-- A list of values can be set just if each of them can. -/
theorem isOk_setAll_iff (writes : List (String × Value)) : ∀ {f : Fields},
    (∃ g, f.setAll writes = .ok g) ↔ ∀ p ∈ writes, ∃ s w, f.slot? p.1 = some s ∧
      p.2.convert s.field.type = .ok w := by
  induction writes with
  | nil =>
    intro f
    exact iff_of_true ⟨f, rfl⟩ fun p hp => absurd hp List.not_mem_nil
  | cons write writes ih =>
    intro f
    obtain ⟨k, v⟩ := write
    constructor
    · rintro ⟨g, h⟩
      obtain ⟨f', hf', h⟩ := of_bind_ok h
      obtain ⟨-, -, -, -, hfields, -⟩ := get_set hf'
      refine List.forall_mem_cons.2 ⟨of_set hf', fun p hp => ?_⟩
      obtain ⟨s, w, hs, hw⟩ := ih.1 ⟨g, h⟩ p hp
      obtain ⟨s', hs', hfield⟩ := slot?_of_fields hfields.symm hs
      rw [← hfield] at hw
      exact ⟨s', w, hs', hw⟩
    · intro h
      obtain ⟨⟨s, w, hs, hw⟩, hrest⟩ := List.forall_mem_cons.1 h
      obtain ⟨f', hf', hfields, -⟩ := set_spec hs hw
      -- the others are judged by the types of the fields, which are still the same
      have hg : ∃ g, f'.setAll writes = .ok g := by
        refine ih.2 fun p hp => ?_
        obtain ⟨s, w, hs, hw⟩ := hrest p hp
        obtain ⟨s', hs', hfield⟩ := slot?_of_fields hfields hs
        rw [← hfield] at hw
        exact ⟨s', w, hs', hw⟩
      obtain ⟨g, hg⟩ := hg
      refine ⟨g, ?_⟩
      unfold setAll
      rw [hf']
      exact hg

theorem names_eq (f : Fields) : f.names = (f.slots.map (·.field)).map (·.name) := by
  rw [List.map_map]
  rfl

/-- Where no two fields have one name, a name stands for the field that has it. -/
theorem slot?_eq_some_iff (hnd : f.names.Nodup) :
    f.slot? k = some s ↔ s ∈ f.slots ∧ s.field.name = k := by
  have hnd' : (f.slots.reverse.map fun s => s.field.name).Nodup := by
    rw [List.map_reverse, List.nodup_reverse]
    exact hnd
  unfold slot?
  rw [find?_eq_some_of_nodup hnd', List.mem_reverse]

/-- Field sets of the same fields with distinct names are the same if their names stand for
the same. -/
theorem eq_of_slot? (hfields : f.slots.map (·.field) = g.slots.map (·.field))
    (hnd : f.names.Nodup) (h : ∀ name, f.slot? name = g.slot? name) : f = g := by
  have hlen : f.slots.length = g.slots.length := by
    have := congrArg List.length hfields
    rwa [List.length_map, List.length_map] at this
  have hslots : f.slots = g.slots := by
    refine List.ext_getElem hlen fun i hi hi' => ?_
    have hfield : f.slots[i].field = g.slots[i].field := by
      have := List.getElem_of_eq hfields (i := i) (by rwa [List.length_map])
      rwa [List.getElem_map, List.getElem_map] at this
    have hnames : f.names = g.names := by rw [names_eq, names_eq, hfields]
    have hf : f.slot? f.slots[i].field.name = some f.slots[i] :=
      (slot?_eq_some_iff hnd).2 ⟨List.getElem_mem hi, rfl⟩
    have hg : g.slot? g.slots[i].field.name = some g.slots[i] :=
      (slot?_eq_some_iff (hnames ▸ hnd)).2 ⟨List.getElem_mem hi', rfl⟩
    rw [h, hfield, hg] at hf
    exact (Option.some.inj hf).symm
  cases f
  cases g
  exact congrArg Fields.mk hslots

/-- **Writes that end alike** for every name have the same outcome. -/
theorem Overwritten.unique (hf : e.Overwritten init f) (hg : e.Overwritten init' g)
    (hnd : e.names.Nodup)
    (hlast : ∀ name, lookupKey name init'.reverse = lookupKey name init.reverse) : g = f := by
  have hfields : g.slots.map (·.field) = f.slots.map (·.field) := hg.fields.trans hf.fields.symm
  have hnames : g.names = e.names := by rw [names_eq, names_eq, hg.fields]
  have hnd' : g.names.Nodup := by
    rw [hnames]
    exact hnd
  refine eq_of_slot? hfields hnd' fun name => ?_
  cases hl : lookupKey name init.reverse with
  | none =>
    have hl' : lookupKey name init'.reverse = none := (hlast name).trans hl
    rw [hg.kept name hl', hf.kept name hl]
  | some v =>
    have hl' : lookupKey name init'.reverse = some v := (hlast name).trans hl
    cases hs : f.slot? name with
    | none =>
      rw [slot?_eq_none, names_eq, ← hfields, ← names_eq, ← slot?_eq_none] at hs
      exact hs
    | some s =>
      -- both stand for `v`, converted to the type of the one field of this name
      obtain ⟨t, ht, hfield⟩ := slot?_of_fields hfields hs
      have hvalue : v.convert s.field.type = .ok t.value := by
        rw [← hfield]
        exact hg.written name v t hl' ht
      rw [hf.written name v s hl hs] at hvalue
      rw [ht]
      cases s
      cases t
      cases hfield
      cases hvalue
      rfl

/-- **The order of the given values** makes no difference. -/
theorem new_of_perm (hdefs : (defs.map (·.name)).Nodup) (hinit : (init.map (·.1)).Nodup)
    (hperm : init'.Perm init) (h : Fields.new defs init = .ok f) :
    Fields.new defs init' = .ok f := by
  obtain ⟨slots, hslots, hset⟩ := of_bind_ok h
  obtain ⟨hfields, -⟩ := initial_slots hslots
  have hok := (isOk_setAll_iff init).1 ⟨f, hset⟩
  obtain ⟨g, hset'⟩ : ∃ g, Fields.setAll ⟨slots⟩ init' = .ok g :=
    (isOk_setAll_iff init').2 fun p hp => hok p (hperm.mem_iff.1 hp)
  have hnd : (Fields.mk slots).names.Nodup := by
    rw [names_eq, hfields]
    exact hdefs
  have hsame : g = f := (setAll_spec init hset).unique (setAll_spec init' hset') hnd
    (lookupKey_perm hinit hperm)
  unfold Fields.new
  rw [hslots]
  exact hsame ▸ hset'

/-! ## What a field set reports -/

/-- A single field, all fields, and all fields as an object are the same values. An object has the
composed names only; it shows every field just if no different values stand under names that are
composed alike. -/
structure Reports (f : Fields) : Prop where
  field : ∀ name, (∃ v, f.get name = .ok v) ↔ name ∈ f.names
  unknown : ∀ name, name ∉ f.names → f.get name = .error (.unknown name)
  entries : ∀ name v, f.get name = .ok v ↔ (name, v) ∈ f.toEntries
  object : ∀ name v line, f.object.attributeAt name line = .ok v →
    ∃ name', Text.canonical name' = Text.canonical name ∧ f.get name' = .ok v
  total : ∀ name ∈ f.names, ∀ line, ∃ v, f.object.attributeAt name line = .ok v
  shown_iff : ∀ line, (∀ name v, f.get name = .ok v → f.object.attributeAt name line = .ok v) ↔
    Unmixed f.toEntries

theorem reports (f : Fields) : f.Reports := by
  have hentries : ∀ name v, f.get name = .ok v ↔ (name, v) ∈ f.toEntries := by
    intro name v
    have hord : Ordered f.toEntries := ordered_sortKeys _
    rw [get_eq_ok, mem_iff_lookupKey hord.nodup]
  have hunknown : ∀ name, name ∉ f.names → f.get name = .error (.unknown name) := by
    intro name hname
    unfold get
    rw [slot?_eq_none.2 hname]
  have hfield : ∀ name ∈ f.names, ∃ v, f.get name = .ok v := by
    intro name hname
    cases hs : f.slot? name with
    | none => exact absurd hname (slot?_eq_none.1 hs)
    | some s => exact ⟨s.value, by unfold get; rw [hs]⟩
  refine ⟨fun name => ⟨?_, hfield name⟩, hunknown, hentries, fun name v line h => ?_,
    fun name hname line => ?_, fun line => ?_⟩
  · rintro ⟨v, hv⟩
    by_contra hname
    rw [hunknown name hname] at hv
    cases hv
  · have hmem := mem_of_lookupKey (attributeAt_ofAttrs.1 h)
    obtain ⟨⟨name', v'⟩, hp, heq⟩ := List.mem_map.1 (List.mem_reverse.1 hmem)
    obtain ⟨hname, rfl⟩ := Prod.mk.inj heq
    exact ⟨name', hname, (hentries name' v').2 hp⟩
  · -- what stands under the name when all names are composed, be it from this field or another
    obtain ⟨v, hv⟩ := hfield name hname
    have hmem : (Text.canonical name, v) ∈
        (f.toEntries.map fun p => (Text.canonical p.1, p.2)).reverse :=
      List.mem_reverse.2 (List.mem_map_of_mem (f := fun p : String × Value =>
        (Text.canonical p.1, p.2)) ((hentries name v).1 hv))
    obtain ⟨x, hx⟩ := exists_lookupKey (List.mem_map_of_mem (f := (·.1)) hmem)
    exact ⟨x, attributeAt_ofAttrs.2 hx⟩
  · simp only [get_eq_ok]
    exact shown_iff_unmixed (ordered_sortKeys _)

/-- Fields of which no two names are composed alike are all shown. -/
theorem unmixed_of_names (hnames : ∀ n ∈ f.names, ∀ n' ∈ f.names,
    Text.canonical n = Text.canonical n' → n = n') : Unmixed f.toEntries := by
  intro n n' x x' hn hn' heq
  have hmem : ∀ {n x}, lookupKey n f.toEntries = some x → n ∈ f.names := fun hx =>
    (f.reports.field _).1 ⟨_, get_eq_ok.2 hx⟩
  obtain rfl := hnames n (hmem hn) n' (hmem hn') heq
  exact Option.some.inj (hn.symm.trans hn')

/-! ## What is kept -/

/-- **Fields stay typed, and their first values may come in any order.** For fields with distinct
names and one first value for a name:

* the first values can be set in one order just if they can in any other, with the same outcome;
* after any run of writes, refused ones included, the fields are the declared ones, and each holds
  a value of the shape of its type if all that is given and written suits the types;
* every further write is refused and changes nothing, or changes the field that it names and no
  other;
* a single field, all fields and the object of all fields report the same values, if no two names
  are composed alike. -/
theorem kept_of_writes (hdefs : (defs.map (·.name)).Nodup) (hinit : (init.map (·.1)).Nodup) :
    (∀ init', init'.Perm init → ∀ f, Fields.new defs init' = .ok f ↔ Fields.new defs init = .ok f) ∧
    ∀ f, Fields.new defs init = .ok f → ∀ writes,
      (f.performs writes).slots.map (·.field) = defs ∧
      ((∀ d ∈ defs, Suits d.type d.first) → Fit defs (init ++ writes) →
        (f.performs writes).Typed) ∧
      (∀ k v, (f.performs writes).Takes defs k v) ∧
      (f.performs writes).Reports ∧
      ((∀ d ∈ defs, ∀ d' ∈ defs, Text.canonical d.name = Text.canonical d'.name → d = d') →
        Unmixed (f.performs writes).toEntries) := by
  refine ⟨fun init' hperm f => ⟨fun h => ?_, new_of_perm hdefs hinit hperm⟩, fun f h writes => ?_⟩
  · have hinit' : (init'.map (·.1)).Nodup := (hperm.map _).nodup_iff.2 hinit
    exact new_of_perm hdefs hinit' hperm.symm h
  have hbegun : f.slots.map (·.field) = defs := (new_spec h).fields
  have hfields : (f.performs writes).slots.map (·.field) = defs :=
    (fields_performs f writes).trans hbegun
  refine ⟨hfields, fun hfirst hfit => ?_, fun k v => ?_, reports _, fun hplain => ?_⟩
  · have hstart : Fit defs init := fun d hd p hp => hfit d hd p (List.mem_append_left _ hp)
    have hrun : Fit (f.slots.map (·.field)) writes := by
      rw [hbegun]
      exact fun d hd p hp => hfit d hd p (List.mem_append_right _ hp)
    exact (typed_new hfirst hstart h).performs writes hrun
  · have htakes := (f.performs writes).takes k v
    rwa [hfields] at htakes
  · refine unmixed_of_names fun n hn n' hn' heq => ?_
    rw [names_eq, hfields] at hn hn'
    obtain ⟨d, hd, rfl⟩ := List.mem_map.1 hn
    obtain ⟨d', hd', rfl⟩ := List.mem_map.1 hn'
    rw [hplain d hd d' hd' heq]

/-- A number, a text and a list of texts. -/
def profile : List FieldDef :=
  [⟨"count", .number, some (.number (.ofNat 0))⟩, ⟨"name", .string, none⟩,
    ⟨"tags", .list .string, none⟩]

/-- Texts that spell numbers and one that does not, a name that is no field, and a list. -/
def profileWrites : List (String × Value) :=
  [("count", .string "41"), ("count", .string "many"), ("nope", .bool true),
    ("tags", .tuple [.string "a", .bool true])]

theorem kept_of_writes_profile : (profile.map (·.name)).Nodup ∧
    ([("name", Value.string "n1")].map (·.1)).Nodup ∧
    ∃ f, Fields.new profile [("name", .string "n1")] = .ok f ∧
      (f.performs profileWrites).slots.map (·.field) = profile ∧
      (f.performs profileWrites).Typed ∧
      (f.performs profileWrites).get "count" = .ok (.number ((Number.read? "41").getD (.ofNat 0))) ∧
      (f.performs profileWrites).get "name" = .ok (.string "n1") ∧
      (f.performs profileWrites).get "tags" =
        .ok (.list .string [.string "a", .string "true"]) ∧
      (f.performs profileWrites).Takes profile "count" (.bool true) ∧
      (f.performs profileWrites).Reports := by
  have hdefs : (profile.map (·.name)).Nodup := by decide
  have hinit : ([("name", Value.string "n1")].map (·.1)).Nodup := by decide
  have hsound : ∀ p ∈ [("name", Value.string "n1")] ++ profileWrites, p.2.Sound := by
    simp only [profileWrites, List.singleton_append, List.forall_mem_cons, List.not_mem_nil,
      false_imp_iff, implies_true, and_true]
    refine ⟨.string _, .string _, .string _, .bool _, .tuple ?_⟩
    simp only [List.forall_mem_cons, List.not_mem_nil, false_imp_iff, implies_true, and_true]
    exact ⟨.string _, .bool _⟩
  have hfirst : ∀ d ∈ profile, d.first.Sound ∧ d.type.Definite := by
    simp only [profile, List.forall_mem_cons, List.not_mem_nil, false_imp_iff, implies_true,
      and_true]
    exact ⟨⟨.number _, .number⟩, ⟨.null _, .string⟩, .null _, .list (Or.inr rfl) .string⟩
  have hfit : Fit profile ([("name", .string "n1")] ++ profileWrites) := fun d hd p hp _ =>
    suits_of_sound (hsound p hp) (hfirst d hd).2
  obtain ⟨f, hf⟩ : ∃ f, Fields.new profile [("name", .string "n1")] = .ok f := ⟨_, rfl⟩
  obtain ⟨hfields, htyped, htakes, hreports, -⟩ :=
    (kept_of_writes hdefs hinit).2 f hf profileWrites
  refine ⟨hdefs, hinit, f, hf, hfields,
    htyped (fun d hd => suits_of_sound (hfirst d hd).1 (hfirst d hd).2) hfit, ?_, ?_, ?_,
    htakes _ _, hreports⟩
  all_goals
    cases hf
    rfl

/-- Two fields whose names are composed alike. -/
def twins : List FieldDef :=
  [⟨"K", .number, some (.number (.ofNat 1))⟩, ⟨"\u212a", .number, some (.number (.ofNat 2))⟩]

/-- **Of two fields whose names are composed alike**, the object shows one. -/
theorem hidden_twins : ¬∀ (defs : List FieldDef) (init writes : List (String × Value)) (f : Fields)
    (name : String) (v : Value) (line : Nat), (defs.map (·.name)).Nodup → (init.map (·.1)).Nodup →
      Fields.new defs init = .ok f → (f.performs writes).get name = .ok v →
      (f.performs writes).object.attributeAt name line = .ok v := by
  intro hshown
  let f : Fields := ⟨[⟨⟨"K", .number, some (.number (.ofNat 1))⟩, .number (.ofNat 1)⟩,
    ⟨⟨"\u212a", .number, some (.number (.ofNat 2))⟩, .number (.ofNat 2)⟩]⟩
  have hread := hshown twins [] [] f "K" (.number (.ofNat 1)) 1 (by decide) (by decide) rfl rfl
  have hentries : (f.performs []).toEntries =
      [("K", .number (.ofNat 1)), ("\u212a", .number (.ofNat 2))] := rfl
  -- the value of the second field stands under the composed name
  rw [Fields.object, hentries, attributeAt_ofAttrs, List.map_cons, List.map_singleton,
    Text.canonical_kelvin, List.reverse_cons, List.reverse_singleton, List.singleton_append,
    lookupKey_cons, if_pos rfl] at hread
  have hne : Number.ofNat 2 ≠ Number.ofNat 1 := by decide
  exact hne (Value.number.inj (Option.some.inj hread))

end Fields

end GraphWalk
