import GraphWalk.Proofs.Value.Conversion
import GraphWalk.Proofs.Value.Shape

/-!
# What values are brought to

A conversion depends on the type of a value, but is made from its parts. `Value.Sound` are the
values whose parts have the types that the type of the whole promises. A conversion `Brings` such
values to a shape: this is shown for each kind of conversion, where the engine for the parts is
`Exact`, and so for all engines by induction on the depth of the types (`exact_typeEngine`).

Main result: `conforms_convert`. **What a value is brought to has the shape of the type**, for
types without elements that are left open in part.
-/

namespace GraphWalk

open TypeEngine

/-! ## Sound values -/

/-- The elements of a collection have its type, the keys of maps and objects are in order, and it
is known how many elements a set has. -/
inductive Value.Sound : Value → Prop
  | null (t : Ty) : Sound (.null t)
  | unknown (t : Ty) (hint : Option Hint) : Sound (.unknown t hint)
  | bool (b : Bool) : Sound (.bool b)
  | number (n : Number) : Sound (.number n)
  | string (s : String) : Sound (.string s)
  | list {t : Ty} {vs : List Value} : (∀ v ∈ vs, v.type = t) → (∀ v ∈ vs, v.Sound) →
    Sound (.list t vs)
  | set {t : Ty} {vs : List Value} : (∀ v ∈ vs, v.type = t) → (∀ v ∈ vs, v.Sound) →
    (vs.length = 1 || vs.all Value.isWhollyKnown) = true → Sound (.set t vs)
  | map {t : Ty} {kvs : List (String × Value)} : Ordered kvs → (∀ p ∈ kvs, p.2.type = t) →
    (∀ p ∈ kvs, p.2.Sound) → Sound (.map t kvs)
  | object {kvs : List (String × Value)} : Ordered kvs → (∀ p ∈ kvs, p.2.Sound) →
    Sound (.object kvs)
  | tuple {vs : List Value} : (∀ v ∈ vs, v.Sound) → Sound (.tuple vs)

namespace Value.Sound

variable {v : Value} {src : Ty} {attrs : List (String × Ty)} {parts : List Ty}

/-! A value that is known and not null is made in the way that its type says. -/

/-- A list or a set, and of a set the number of elements is known. -/
theorem of_collection {s : Ty} (hv : v.Sound) (hs : s = .list src ∨ s = .set src)
    (htype : v.type = s) (hnull : v.isNull = false) (hknown : v.isKnown = true) :
    ∃ vs, (∀ u ∈ vs, u.type = src) ∧ (∀ u ∈ vs, u.Sound) ∧ (v = .list src vs ∨
      v = .set src vs ∧ (vs.length = 1 || vs.all Value.isWhollyKnown) = true) := by
  cases hv with
  | null | unknown => cases hnull <;> cases hknown
  | bool | number | string | map | object | tuple => rcases hs with rfl | rfl <;> cases htype
  | list htypes hsound =>
    rcases hs with rfl | rfl <;> cases htype
    exact ⟨_, htypes, hsound, Or.inl rfl⟩
  | set htypes hsound hsize =>
    rcases hs with rfl | rfl <;> cases htype
    exact ⟨_, htypes, hsound, Or.inr ⟨rfl, hsize⟩⟩

theorem of_map (hv : v.Sound) (htype : v.type = .map src) (hnull : v.isNull = false)
    (hknown : v.isKnown = true) : ∃ kvs, v = .map src kvs ∧ Ordered kvs ∧
      (∀ p ∈ kvs, p.2.type = src) ∧ ∀ p ∈ kvs, p.2.Sound := by
  cases hv with
  | null | unknown => cases hnull <;> cases hknown
  | bool | number | string | list | set | object | tuple => cases htype
  | map hord htypes hsound =>
    cases htype
    exact ⟨_, rfl, hord, htypes, hsound⟩

theorem of_object (hv : v.Sound) (htype : v.type = .object attrs) (hnull : v.isNull = false)
    (hknown : v.isKnown = true) : ∃ kvs, v = .object kvs ∧
      attrs = kvs.map (fun p => (p.1, p.2.type)) ∧ Ordered kvs ∧ ∀ p ∈ kvs, p.2.Sound := by
  cases hv with
  | null | unknown => cases hnull <;> cases hknown
  | bool | number | string | list | set | map | tuple => cases htype
  | @object kvs hord hsound =>
    refine ⟨kvs, rfl, ?_, hord, hsound⟩
    rw [← typeAttrs_eq_map]
    exact (Ty.object.inj htype).symm

theorem of_tuple (hv : v.Sound) (htype : v.type = .tuple parts) (hnull : v.isNull = false)
    (hknown : v.isKnown = true) : ∃ vs, v = .tuple vs ∧ parts = vs.map Value.type ∧
      ∀ u ∈ vs, u.Sound := by
  cases hv with
  | null | unknown => cases hnull <;> cases hknown
  | bool | number | string | list | set | map | object => cases htype
  | @tuple vs hsound =>
    refine ⟨vs, rfl, ?_, hsound⟩
    rw [← typeList_eq_map]
    exact (Ty.tuple.inj htype).symm

end Value.Sound

/-- What the conversion makes of a value of type `src` has the shape of `out`. -/
def Conversion.Brings (conv : Conversion) (src out : Ty) : Prop :=
  ∀ v w, v.Sound → v.type = src → conv v = .ok w → w.type.conforms out = true

/-- As `Brings`, for values that are known and not null. -/
def Conversion.BringsKnown (conv : Conversion) (src out : Ty) : Prop :=
  ∀ v w, v.Sound → v.type = src → v.isNull = false → v.isKnown = true → conv v = .ok w →
    w.type.conforms out = true

/-- What the engine makes of values, and of types that are the same. -/
structure TypeEngine.Exact (e : TypeEngine) : Prop where
  conversion : ∀ safe src out conv, out.Definite → e.conversion safe src out = some conv →
    conv.Brings src out
  settles : e.Settles

section Brings

variable {e : TypeEngine} {conv : Conversion} {safe : Bool} {src out want : Ty} {v w : Value}
  {vs ws : List Value} {kvs : List (String × Value)} {parts : List Ty} {attrs : List (String × Ty)}

/-! ## Conversions of the parts -/

theorem brings_identity (h : src.conforms out = true) : identityConversion.Brings src out := by
  intro v w _ htype hw
  cases hw
  rw [htype]
  exact h

/-- **The conversion for a part** brings it to the shape of its type. -/
theorem brings_convTo (he : e.Exact) (hout : out.Definite)
    (h : e.convTo safe out src = some conv) : conv.Brings src out := by
  unfold convTo at h
  split at h
  · rename_i heq
    cases h
    exact brings_identity (eq_of_beq heq ▸ Ty.conforms_refl src)
  · exact he.conversion safe src out conv hout h

/-! ## Collections

A collection takes its type from its elements, so it has a shape if all of them have that of the
element. An empty one has no elements to take it from (`emptyElem`). -/

/-- The type found for a collection is that of an element, or the one it was started with. -/
theorem mem_of_elementType {elem : Ty} : ∀ {vs : List Value} {t : Ty},
    Value.elementType t vs = .ok elem → elem = t ∨ ∃ v ∈ vs, v.type = elem
  | [], t, h => by
    cases h
    exact Or.inl rfl
  | v :: vs, t, h => by
    rw [Value.elementType] at h
    split at h
    · rcases mem_of_elementType h with rfl | ⟨u, hu, heq⟩
      · exact Or.inr ⟨v, List.mem_cons_self, rfl⟩
      · exact Or.inr ⟨u, List.mem_cons_of_mem _ hu, heq⟩
    · split at h
      · exact (mem_of_elementType h).imp id fun ⟨u, hu, heq⟩ =>
          ⟨u, List.mem_cons_of_mem _ hu, heq⟩
      · cases h

/-- The type that the elements have in common is one of theirs. -/
theorem conforms_elementType {elem : Ty} (hne : vs ≠ [])
    (hvs : ∀ v ∈ vs, v.type.conforms out = true)
    (h : Value.elementType .dynamic vs = .ok elem) : elem.conforms out = true := by
  cases vs with
  | nil => exact absurd rfl hne
  | cons v vs =>
    have h : Value.elementType v.type vs = .ok elem := h
    rcases mem_of_elementType h with rfl | ⟨u, hu, rfl⟩
    · exact hvs v List.mem_cons_self
    · exact hvs u (List.mem_cons_of_mem _ hu)

theorem conforms_listFrom (hne : vs ≠ []) (hvs : ∀ v ∈ vs, v.type.conforms out = true)
    (h : listFrom vs = .ok w) : w.type.conforms (.list out) = true := by
  obtain ⟨elem, helem, hw⟩ := of_bind_ok (of_mapError_ok h)
  cases hw
  have hconforms : elem.conforms out = true := conforms_elementType hne hvs helem
  exact hconforms

theorem conforms_setFrom (hne : vs ≠ []) (hvs : ∀ v ∈ vs, v.type.conforms out = true)
    (h : setFrom vs = .ok w) : w.type.conforms (.set out) = true := by
  obtain ⟨elem, helem, hw⟩ := of_bind_ok (of_mapError_ok h)
  cases hw
  have hconforms : elem.conforms out = true := conforms_elementType hne hvs helem
  exact hconforms

theorem conforms_mapOf (hne : kvs ≠ []) (hvs : ∀ p ∈ kvs, p.2.type.conforms out = true)
    (h : Value.mapOf kvs = .ok w) : w.type.conforms (.map out) = true := by
  obtain ⟨elem, helem, hw⟩ := of_bind_ok h
  cases hw
  have hconforms : elem.conforms out = true := by
    refine conforms_elementType (List.map_eq_nil_iff.not.2 hne) (fun v hv => ?_) helem
    obtain ⟨p, hp, rfl⟩ := List.mem_map.1 hv
    exact hvs p hp
  exact hconforms

/-- The element type of an empty collection has the wanted shape. -/
theorem conforms_emptyElem (out src : Ty) : (emptyElem out src).conforms out = true := by
  unfold emptyElem
  split
  · rename_i hdyn
    cases out <;> first | exact Ty.conforms_dynamic _ | cases hdyn
  · exact Ty.conforms_refl out

/-- Values that are converted one by one. -/
theorem conforms_of_mapM (hconv : conv.Brings src out) (hvs : ∀ v ∈ vs, v.Sound)
    (htype : ∀ v ∈ vs, v.type = src) (h : vs.mapM conv = .ok ws) :
    ∀ w ∈ ws, w.type.conforms out = true := by
  intro w hw
  have hall := forall₂_of_mapM h
  obtain ⟨v, hv, hconverted⟩ := exists_of_mem_right hall hw
  exact hconv v w (hvs v hv) (htype v hv) hconverted

/-- Members that are converted one by one make a list of the wanted shape. -/
theorem conforms_run (hconv : conv.Brings src out) (hvs : ∀ v ∈ vs, v.Sound)
    (htype : ∀ v ∈ vs, v.type = src) (h : collectionToList.run src out conv vs = .ok w) :
    w.type.conforms (.list out) = true := by
  obtain ⟨vs', hvs', hw⟩ := of_bind_ok h
  split at hw
  · cases hw
    exact conforms_emptyElem out _
  · rename_i hne
    exact conforms_listFrom (by simpa using hne) (conforms_of_mapM hconv hvs htype hvs') hw

theorem brings_collectionToList (hconv : conv.Brings src out) {s : Ty}
    (hs : s = .list src ∨ s = .set src) :
    (collectionToList src out conv).BringsKnown s (.list out) := by
  intro v w hv htype hnull hknown h
  obtain ⟨vs, htypes, hvs, rfl | ⟨rfl, hsize⟩⟩ := hv.of_collection hs htype hnull hknown
  · exact conforms_run hconv hvs htypes h
  · -- only a set that may be smaller than it looks becomes an unknown list
    unfold collectionToList at h
    simp only at h
    rw [if_pos (by simpa using hsize)] at h
    exact conforms_run hconv hvs htypes h

theorem brings_collectionToSet (hconv : conv.Brings src out) {s : Ty}
    (hs : s = .list src ∨ s = .set src) :
    (collectionToSet src out conv).BringsKnown s (.set out) := by
  have hrun : ∀ {vs w}, (∀ v ∈ vs, v.Sound) → (∀ v ∈ vs, v.type = src) →
      collectionToSet src out conv (.list src vs) = .ok w → w.type.conforms (.set out) = true := by
    intro vs w hvs htypes h
    obtain ⟨vs', hvs', hw⟩ := of_bind_ok h
    split at hw
    · cases hw
      exact conforms_emptyElem out _
    · rename_i hne
      exact conforms_setFrom (by simpa using hne) (conforms_of_mapM hconv hvs htypes hvs') hw
  intro v w hv htype hnull hknown h
  obtain ⟨vs, htypes, hvs, rfl | ⟨rfl, -⟩⟩ := hv.of_collection hs htype hnull hknown
  · exact hrun hvs htypes h
  · exact hrun hvs htypes h

/-! Elements of a map and items of a tuple are made alike once more when they have been converted.
Where the wanted type leaves nothing open, they all have it already. -/

theorem alike_same (he : e.Exact) (hwant : want.Definite) (hclosed : want.hasDynamic = false)
    (hvs : ∀ v ∈ vs, v.type = want) (h : e.alike safe vs = .ok ws) : ws = vs := by
  have htypes : vs.map Value.type = List.replicate vs.length want :=
    List.eq_replicate_iff.2 ⟨List.length_map .., fun t ht => by
      obtain ⟨v, hv, rfl⟩ := List.mem_map.1 ht
      exact hvs v hv⟩
  unfold alike at h
  rw [htypes] at h
  split at h
  · cases h
  · rename_i t ht
    obtain rfl := he.settles safe vs.length want t hwant hclosed ht
    have hall := forall₂_of_mapM h
    have hsame : List.Forall₂ Eq vs ws := by
      refine ((List.forall₂_and_left vs ws).2 ⟨hvs, hall⟩).imp ?_
      rintro v u ⟨htype, hu⟩
      rw [htype, convTo, if_pos (beq_self_eq_true t)] at hu
      exact Except.ok.inj hu
    exact (List.forall₂_eq_eq_eq ▸ hsame : vs = ws).symm

theorem length_alike (h : e.alike safe vs = .ok ws) : ws.length = vs.length := by
  unfold alike at h
  split at h
  · cases h
  · exact (forall₂_of_mapM h).length_eq.symm

theorem length_alikeEntries {kvs' : List (String × Value)} {elem : Ty}
    (h : e.alikeEntries safe elem kvs = .ok kvs') : kvs'.length = kvs.length := by
  unfold alikeEntries at h
  split at h
  · obtain ⟨ws, hws, h⟩ := of_bind_ok h
    cases h
    simp [length_alike hws]
  · cases h
    rfl

theorem alikeEntries_same (he : e.Exact) (hwant : want.Definite)
    (hopen : want = .dynamic ∨ want.hasDynamic = false) {kvs' : List (String × Value)}
    (hvs : want.hasDynamic = false → ∀ p ∈ kvs, p.2.type = want)
    (h : e.alikeEntries safe want kvs = .ok kvs') : kvs' = kvs := by
  unfold alikeEntries at h
  split at h
  · rename_i hcollection
    have hclosed : want.hasDynamic = false := by
      rcases hopen with rfl | hclosed
      · cases hcollection
      · exact hclosed
    obtain ⟨ws, hws, h⟩ := of_bind_ok h
    cases h
    rw [alike_same he hwant hclosed (fun v hv => ?_) hws]
    · rw [← List.unzip_fst, ← List.unzip_snd, List.zip_unzip]
    · obtain ⟨p, hp, rfl⟩ := List.mem_map.1 hv
      exact hvs hclosed p hp
  · exact (Except.ok.inj h).symm

theorem brings_mapToMap (he : e.Exact) (hwant : want.Definite)
    (hopen : want = .dynamic ∨ want.hasDynamic = false) (hconv : conv.Brings src want) :
    (e.mapToMap src want conv).BringsKnown (.map src) (.map want) := by
  intro v w hv htype hnull hknown h
  obtain ⟨kvs, rfl, -, htypes, hvs⟩ := hv.of_map htype hnull hknown
  obtain ⟨kvs', hkvs', hw⟩ := of_bind_ok h
  split at hw
  · cases hw
    exact conforms_emptyElem want _
  rename_i hne
  have hconverted : ∀ p ∈ kvs', p.2.type.conforms want = true := by
    intro p hp
    obtain ⟨q, hq, hstep⟩ := exists_of_mem_right (forall₂_of_mapM hkvs') hp
    obtain ⟨u, hu, hstep⟩ := of_bind_ok hstep
    cases hstep
    exact hconv q.2 u (hvs q hq) (htypes q hq) hu
  -- entries of the wanted shape have one type already, so making them alike changes nothing
  obtain ⟨kvs'', hkvs'', hw⟩ := of_bind_ok hw
  have hsame := alikeEntries_same he hwant hopen
    (fun hclosed p hp => Ty.eq_of_conforms (hconverted p hp) hclosed) hkvs''
  rw [hsame] at hw
  exact conforms_mapOf (by simpa using hne) hconverted (of_mapError_ok hw)

/-! ## Tuples -/

theorem forall₂_convertItems {R : Value → Value → Prop} {convs : List Conversion}
    (hall : List.Forall₂ (fun v conv => ∀ w, conv v = .ok w → R v w) vs convs) :
    ∀ {ws}, convertItems convs vs = .ok ws → List.Forall₂ R vs ws := by
  induction hall with
  | nil =>
    intro ws h
    cases h
    exact .nil
  | cons hstep _ ih =>
    intro ws h
    obtain ⟨w, hw, h⟩ := of_bind_ok h
    obtain ⟨ws', hws', h⟩ := of_bind_ok h
    cases h
    exact .cons (hstep w hw) (ih hws')

/-- The type that the parts are brought to, if it is not left open. -/
theorem commonPart_closed {elem : Ty} (hclosed : want.hasDynamic = false)
    (h : e.commonPart safe want parts = some elem) : elem = want := by
  unfold commonPart at h
  split at h
  · rename_i hdyn
    cases want with
    | dynamic => cases hclosed
    | _ => cases hdyn
  · exact (Option.some.inj h).symm

theorem commonElem_closed {elem : Ty} (hclosed : want.hasDynamic = false)
    (h : e.commonElem safe want parts = some elem) : elem = want := by
  obtain ⟨elem', helem', h⟩ := Option.bind_eq_some_iff.1 h
  split at h
  · cases h
  · cases h
    exact commonPart_closed hclosed helem'

/-- The items of a tuple that becomes a collection, converted. -/
theorem conforms_items (he : e.Exact) (hwant : want.Definite)
    (hopen : want = .dynamic ∨ want.hasDynamic = false) {elem : Ty} {convs : List Conversion}
    (hvs : ∀ v ∈ vs, v.Sound) (helem : e.commonElem safe want (vs.map Value.type) = some elem)
    (hconvs : (vs.map Value.type).mapM (e.convTo safe elem) = some convs)
    (h : convertItems convs vs = .ok ws) :
    ws.length = vs.length ∧ ∀ w ∈ ws, w.type.conforms want = true := by
  have hall := forall₂_of_mapM_some hconvs
  rw [List.forall₂_map_left_iff] at hall
  have hitems : List.Forall₂ (fun v conv => ∀ w, conv v = .ok w → w.type.conforms want = true)
      vs convs := by
    refine ((List.forall₂_and_left vs convs).2 ⟨hvs, hall⟩).imp ?_
    rintro v conv ⟨hv, hconv⟩ w hw
    refine Ty.conforms_of_open hopen fun hclosed => ?_
    obtain rfl := commonElem_closed hclosed helem
    exact brings_convTo he hwant hconv v w hv rfl hw
  have hws := forall₂_convertItems (R := fun _ w => w.type.conforms want = true) hitems h
  refine ⟨hws.length_eq.symm, fun w hw => ?_⟩
  obtain ⟨v, -, hconforms⟩ := exists_of_mem_right hws hw
  exact hconforms

theorem brings_tupleToList (he : e.Exact) (hwant : want.Definite)
    (hopen : want = .dynamic ∨ want.hasDynamic = false)
    (hconv : e.tupleToList safe parts want = some conv) :
    conv.BringsKnown (.tuple parts) (.list want) := by
  intro v w hv htype hnull hknown h
  obtain ⟨vs, rfl, rfl, hvs⟩ := hv.of_tuple htype hnull hknown
  unfold tupleToList at hconv
  split at hconv
  · cases hconv
    cases h
    exact Ty.conforms_refl (.list want)
  rename_i hne
  obtain ⟨elem, helem, hconv⟩ := Option.bind_eq_some_iff.1 hconv
  obtain ⟨convs, hconvs, hconv⟩ := Option.bind_eq_some_iff.1 hconv
  cases hconv
  obtain ⟨ws, hws, h⟩ := of_bind_ok h
  obtain ⟨ws', hws', h⟩ := of_bind_ok h
  obtain ⟨hlen, hconforms⟩ := conforms_items he hwant hopen hvs helem hconvs hws
  have hlen' : ws'.length = ws.length := length_alike hws'
  have hws_ne : ws' ≠ [] := by
    rintro rfl
    rw [← hlen', List.length_nil, eq_comm, List.length_eq_zero_iff] at hlen
    rw [hlen] at hne
    exact hne rfl
  refine conforms_listFrom hws_ne (fun u hu => Ty.conforms_of_open hopen fun hclosed => ?_) h
  -- the items have the wanted type already, so making them alike changes nothing
  have hsame : ws' = ws :=
    alike_same he hwant hclosed (fun u hu => Ty.eq_of_conforms (hconforms u hu) hclosed) hws'
  rw [hsame] at hu
  exact hconforms u hu

theorem brings_tupleToSet (he : e.Exact) (hwant : want.Definite)
    (hopen : want = .dynamic ∨ want.hasDynamic = false)
    (hconv : e.tupleToSet safe parts want = some conv) :
    conv.BringsKnown (.tuple parts) (.set want) := by
  intro v w hv htype hnull hknown h
  obtain ⟨vs, rfl, rfl, hvs⟩ := hv.of_tuple htype hnull hknown
  unfold tupleToSet at hconv
  split at hconv
  · cases hconv
    cases h
    exact Ty.conforms_refl (.set want)
  rename_i hne
  obtain ⟨elem, helem, hconv⟩ := Option.bind_eq_some_iff.1 hconv
  obtain ⟨convs, hconvs, hconv⟩ := Option.bind_eq_some_iff.1 hconv
  cases hconv
  obtain ⟨ws, hws, h⟩ := of_bind_ok h
  obtain ⟨hlen, hconforms⟩ := conforms_items he hwant hopen hvs helem hconvs hws
  refine conforms_setFrom ?_ hconforms h
  rintro rfl
  rw [List.length_nil, eq_comm, List.length_eq_zero_iff] at hlen
  rw [hlen] at hne
  exact hne rfl

/-! ## Entries of maps and objects -/

/-- What converting entries makes of them: each that has a conversion is kept under its key. -/
structure Converted (convs : List (String × Conversion)) (kvs ws : List (String × Value)) :
    Prop where
  keys : (ws.map (·.1)).Sublist (kvs.map (·.1))
  source : ∀ k w, (k, w) ∈ ws →
    ∃ v conv, (k, v) ∈ kvs ∧ lookupKey k convs = some conv ∧ conv v = .ok w
  kept : ∀ k v conv, (k, v) ∈ kvs → lookupKey k convs = some conv → k ∈ ws.map (·.1)

/-- Entries without a conversion are dropped, and the others converted in place. -/
theorem converted {convs : List (String × Conversion)} : ∀ {kvs ws : List (String × Value)},
    convertEntries convs kvs = .ok ws → Converted convs kvs ws
  | [], ws, h => by
    cases h
    exact ⟨.slnil, fun _ _ hw => absurd hw List.not_mem_nil,
      fun _ _ _ hv => absurd hv List.not_mem_nil⟩
  | (k, v) :: kvs, ws, h => by
    rw [convertEntries] at h
    split at h
    · rename_i hnone
      obtain ⟨hkeys, hfrom, hkept⟩ := converted h
      refine ⟨hkeys.cons k, fun k' w hw => ?_, fun k' v' conv hv hconv => ?_⟩
      · obtain ⟨v', conv, hv', hconv⟩ := hfrom k' w hw
        exact ⟨v', conv, List.mem_cons_of_mem _ hv', hconv⟩
      · rcases List.mem_cons.1 hv with heq | hv
        · cases heq
          rw [hnone] at hconv
          cases hconv
        · exact hkept k' v' conv hv hconv
    · rename_i conv hconv
      obtain ⟨w, hw, h⟩ := of_bind_ok h
      obtain ⟨ws', hws', h⟩ := of_bind_ok h
      cases h
      obtain ⟨hkeys, hfrom, hkept⟩ := converted hws'
      refine ⟨hkeys.cons_cons k, fun k' w' hw' => ?_, fun k' v' conv' hv hconv' => ?_⟩
      · rcases List.mem_cons.1 hw' with heq | hw'
        · cases heq
          exact ⟨v, conv, List.mem_cons_self, hconv, hw⟩
        · obtain ⟨v', conv', hv', hconv'⟩ := hfrom k' w' hw'
          exact ⟨v', conv', List.mem_cons_of_mem _ hv', hconv'⟩
      · rcases List.mem_cons.1 hv with heq | hv
        · cases heq
          exact List.mem_cons_self
        · exact List.mem_cons_of_mem _ (hkept k' v' conv' hv hconv')

theorem Converted.ordered {convs : List (String × Conversion)} {ws : List (String × Value)}
    (h : Converted convs kvs ws) (hord : Ordered kvs) : Ordered ws :=
  List.pairwise_map.1 ((List.pairwise_map.2 hord).sublist h.keys)

/-- The conversions of the attributes that an object has to have, and those of a map or object. -/
theorem mem_convs {f : String × Ty → Option (String × Conversion)}
    {convs : List (String × Conversion)} (hf : ∀ p q, f p = some q → q.1 = p.1)
    (h : attrs.mapM f = some convs) :
    convs.map (·.1) = attrs.map (·.1) ∧ ∀ k conv, lookupKey k convs = some conv →
      ∃ t, (k, t) ∈ attrs ∧ f (k, t) = some (k, conv) := by
  have hall := forall₂_of_mapM_some h
  refine ⟨(map_eq_of_forall₂ hall fun p q hpq => (hf p q hpq).symm).symm, fun k conv hk => ?_⟩
  obtain ⟨⟨k', t⟩, ht, hft⟩ := exists_of_mem_right hall (mem_of_lookupKey hk)
  obtain rfl : k = k' := hf _ _ hft
  exact ⟨t, ht, hft⟩

/-- **Entries that are all there**, each converted to its type, make an object of that shape. -/
theorem conforms_object {ts : List (String × Ty)} {convs : List (String × Conversion)}
    {ws : List (String × Value)} (hts : Ordered ts) (hkvs : Ordered kvs)
    (hconverted : Converted convs kvs ws) (hkeys : convs.map (·.1) = ts.map (·.1))
    (hall : ∀ k ∈ ts.map (·.1), k ∈ ws.map (·.1))
    (hstep : ∀ k v t conv w, (k, v) ∈ kvs → (k, t) ∈ ts → lookupKey k convs = some conv →
      conv v = .ok w → w.type.conforms t = true) :
    (Value.object ws).type.conforms (.object ts) = true := by
  -- an entry of another name would have had no conversion
  have hws : ∀ k ∈ ws.map (·.1), k ∈ ts.map (·.1) := by
    intro k hk
    obtain ⟨⟨k', w⟩, hw, rfl⟩ := List.mem_map.1 hk
    obtain ⟨v, conv, -, hconv, -⟩ := hconverted.source k' w hw
    rw [← hkeys]
    exact List.mem_map_of_mem (f := (·.1)) (mem_of_lookupKey hconv)
  have hrel := forall₂_of_ordered (R := fun (w : Value) t => w.type.conforms t = true)
    (hconverted.ordered hkvs) hts (fun k => ⟨hws k, hall k⟩) fun k w t hw ht => by
      obtain ⟨v, conv, hv, hconv, hvw⟩ := hconverted.source k w hw
      exact hstep k v t conv w hv ht hconv hvw
  have hattrs : Ty.conformsAttrs (Value.typeAttrs ws) ts = true := by
    rw [Value.typeAttrs_eq_map, Ty.conformsAttrs_iff, List.forall₂_map_left_iff]
    exact hrel
  exact hattrs

theorem brings_objectToObject (he : e.Exact) {ss ts : List (String × Ty)}
    {convs : List (String × Conversion)} (hord : Ordered ts) (hts : ∀ p ∈ ts, p.2.Definite)
    (hconvs : (ts.mapM fun (k, t) => do
      let s ← lookupKey k ss
      let conv ← e.convTo safe t s
      return (k, conv)) = some convs) :
    Conversion.BringsKnown (fun
      | .object kvs => do return .object (← convertEntries convs kvs)
      | v => .ok v) (.object ss) (.object ts) := by
  intro v w hv htype hnull hknown h
  obtain ⟨kvs, rfl, rfl, hkvs, hsound⟩ := hv.of_object htype hnull hknown
  obtain ⟨ws, hws, h⟩ := of_bind_ok h
  cases h
  have hss : ∀ k, lookupKey k (kvs.map fun p => (p.1, p.2.type)) =
      (lookupKey k kvs).map Value.type := by
    intro k
    rw [← Value.typeAttrs_eq_map, lookupKey_typeAttrs]
  obtain ⟨hkeys, hfound⟩ := mem_convs (fun p q hpq => by
    obtain ⟨s, -, hpq⟩ := Option.bind_eq_some_iff.1 hpq
    obtain ⟨conv, -, hpq⟩ := Option.bind_eq_some_iff.1 hpq
    cases hpq
    rfl) hconvs
  -- the conversion of an entry is one from its type to that of the attribute
  have hconv : ∀ k conv, lookupKey k convs = some conv → ∃ t v, (k, t) ∈ ts ∧ (k, v) ∈ kvs ∧
      e.convTo safe t v.type = some conv := by
    intro k conv hk
    obtain ⟨t, ht, hf⟩ := hfound k conv hk
    obtain ⟨s, hs, hf⟩ := Option.bind_eq_some_iff.1 hf
    obtain ⟨conv', hconv', hf⟩ := Option.bind_eq_some_iff.1 hf
    cases hf
    rw [hss] at hs
    obtain ⟨v, hv, rfl⟩ := Option.map_eq_some_iff.1 hs
    exact ⟨t, v, ht, mem_of_lookupKey hv, hconv'⟩
  have hconverted := converted hws
  refine conforms_object hord hkvs hconverted hkeys (fun k hk => ?_) ?_
  · rw [← hkeys] at hk
    obtain ⟨conv, hlook⟩ := exists_lookupKey hk
    obtain ⟨t, v, -, hv, -⟩ := hconv k conv hlook
    exact hconverted.kept k v conv hv hlook
  · intro k v t conv w hv ht hlook hw
    obtain ⟨t', v', ht', hv', hto⟩ := hconv k conv hlook
    obtain rfl : t = t' := hord.eq_of_mem ht ht'
    obtain rfl : v = v' := hkvs.eq_of_mem hv hv'
    exact brings_convTo he (hts _ ht) hto v w (hsound _ hv) rfl hw

theorem brings_mapToObject (he : e.Exact) (hord : Ordered attrs)
    (hts : ∀ p ∈ attrs, p.2.Definite) (hconv : e.mapToObject src attrs = some conv) :
    conv.BringsKnown (.map src) (.object attrs) := by
  intro v w hv htype hnull hknown h
  obtain ⟨kvs, rfl, hkvs, htypes, hsound⟩ := hv.of_map htype hnull hknown
  obtain ⟨convs, hconvs, hconv⟩ := Option.bind_eq_some_iff.1 hconv
  cases hconv
  obtain ⟨ws, hws, h⟩ := of_bind_ok h
  split at h
  · cases h
  rename_i hmissing
  cases h
  obtain ⟨hkeys, hfound⟩ := mem_convs (fun p q hpq => by
    obtain ⟨conv, -, hpq⟩ := Option.bind_eq_some_iff.1 hpq
    cases hpq
    rfl) hconvs
  refine conforms_object hord hkvs (converted hws) hkeys (fun k hk => ?_) ?_
  · obtain ⟨p, hp, rfl⟩ := List.mem_map.1 hk
    have hthere := List.find?_eq_none.1 hmissing p hp
    simpa using hthere
  · intro k v t' conv w hv ht hlook hw
    obtain ⟨t'', ht'', hf⟩ := hfound k conv hlook
    obtain rfl : t' = t'' := hord.eq_of_mem ht ht''
    obtain ⟨conv', hconv', hf⟩ := Option.bind_eq_some_iff.1 hf
    cases hf
    exact brings_convTo he (hts _ ht) hconv' v w (hsound _ hv) (htypes _ hv) hw

theorem brings_objectToMap (he : e.Exact) (hwant : want.Definite)
    (hopen : want = .dynamic ∨ want.hasDynamic = false)
    (hconv : e.objectToMap safe attrs want = some conv) :
    conv.BringsKnown (.object attrs) (.map want) := by
  intro v w hv htype hnull hknown h
  obtain ⟨kvs, rfl, rfl, hkvs, hsound⟩ := hv.of_object htype hnull hknown
  unfold objectToMap at hconv
  split at hconv
  · cases hconv
    cases h
    exact Ty.conforms_refl (.map want)
  rename_i hne
  obtain ⟨elem, helem, hconv⟩ := Option.bind_eq_some_iff.1 hconv
  obtain ⟨convs, hconvs, hconv⟩ := Option.bind_eq_some_iff.1 hconv
  cases hconv
  obtain ⟨ws, hws, h⟩ := of_bind_ok h
  obtain ⟨ws', hws', h⟩ := of_bind_ok h
  obtain ⟨hkeys, hfound⟩ := mem_convs (fun p q hpq => by
    obtain ⟨conv, -, hpq⟩ := Option.bind_eq_some_iff.1 hpq
    cases hpq
    rfl) hconvs
  have hconverted := converted hws
  have hconforms : ∀ p ∈ ws, p.2.type.conforms want = true := by
    rintro ⟨k, w⟩ hw
    refine Ty.conforms_of_open hopen fun hclosed => ?_
    obtain rfl := commonPart_closed hclosed helem
    obtain ⟨v, conv, hv, hlook, hvw⟩ := hconverted.source k w hw
    obtain ⟨t, ht, hf⟩ := hfound k conv hlook
    obtain ⟨conv', hconv', hf⟩ := Option.bind_eq_some_iff.1 hf
    cases hf
    obtain ⟨⟨k', v'⟩, hv', heq⟩ := List.mem_map.1 ht
    cases heq
    obtain rfl : v = v' := hkvs.eq_of_mem hv hv'
    exact brings_convTo he hwant hconv' v w (hsound _ hv) rfl hvw
  -- every entry has a conversion, so none is dropped
  have hws_ne : ws ≠ [] := by
    rintro rfl
    cases kvs with
    | nil => exact hne rfl
    | cons p kvs =>
      obtain ⟨k, v⟩ := p
      have hk : k ∈ convs.map (·.1) := by
        rw [hkeys]
        exact List.mem_cons_self
      obtain ⟨conv, hlook⟩ := exists_lookupKey hk
      exact List.not_mem_nil (hconverted.kept k v conv List.mem_cons_self hlook)
  have hws'_ne : ws' ≠ [] := by
    rintro rfl
    exact hws_ne (List.length_eq_zero_iff.1 (length_alikeEntries hws').symm)
  refine conforms_mapOf hws'_ne (fun p hp => Ty.conforms_of_open hopen fun hclosed => ?_)
    (of_mapError_ok h)
  obtain rfl := commonPart_closed hclosed helem
  have hsame : ws' = ws := alikeEntries_same he hwant (Or.inr hclosed)
    (fun _ p hp => Ty.eq_of_conforms (hconforms p hp) hclosed) hws'
  rw [hsame] at hp
  exact hconforms p hp

/-- The items of a tuple, each converted to the type at its place. -/
theorem conforms_convertItems (he : e.Exact) : ∀ {ts : List Ty} {vs ws : List Value}
    {convs : List Conversion}, (∀ t ∈ ts, t.Definite) → (∀ v ∈ vs, v.Sound) →
      vs.length = ts.length →
      ((ts.zip (vs.map Value.type)).mapM fun (t, s) => e.convTo safe t s) = some convs →
      convertItems convs vs = .ok ws → Ty.conformsList (Value.typeList ws) ts = true
  | [], [], ws, convs, _, _, _, hconvs, h => by
    cases hconvs
    cases h
    rfl
  | [], _ :: _, _, _, _, _, hlen, _, _ | _ :: _, [], _, _, _, _, hlen, _, _ => by cases hlen
  | t :: ts, v :: vs, ws, convs, hts, hvs, hlen, hconvs, h => by
    rw [List.map_cons, List.zip_cons_cons, List.mapM_cons] at hconvs
    obtain ⟨conv, hconv, hconvs⟩ := Option.bind_eq_some_iff.1 hconvs
    obtain ⟨convs', hconvs', hconvs⟩ := Option.bind_eq_some_iff.1 hconvs
    cases hconvs
    obtain ⟨w, hw, h⟩ := of_bind_ok h
    obtain ⟨ws', hws', h⟩ := of_bind_ok h
    cases h
    obtain ⟨ht, hts⟩ := List.forall_mem_cons.1 hts
    obtain ⟨hv, hvs⟩ := List.forall_mem_cons.1 hvs
    have hhead := brings_convTo he ht hconv v w hv rfl hw
    have htail := conforms_convertItems he hts hvs (Nat.succ.inj hlen) hconvs' hws'
    rw [Value.typeList, Ty.conformsList, hhead, htail]
    rfl

theorem brings_tupleToTuple (he : e.Exact) {ss ts : List Ty} {convs : List Conversion}
    (hts : ∀ t ∈ ts, t.Definite) (hlen : ss.length = ts.length)
    (hconvs : ((ts.zip ss).mapM fun (t, s) => e.convTo safe t s) = some convs) :
    Conversion.BringsKnown (fun
      | .tuple vs => do return .tuple (← convertItems convs vs)
      | v => .ok v) (.tuple ss) (.tuple ts) := by
  intro v w hv htype hnull hknown h
  obtain ⟨vs, rfl, rfl, hvs⟩ := hv.of_tuple htype hnull hknown
  obtain ⟨ws, hws, h⟩ := of_bind_ok h
  cases h
  rw [List.length_map] at hlen
  exact conforms_convertItems he hts hvs hlen hconvs hws

/-! ## All conversions -/

/-- Conversions between primitives lead to primitive types. -/
theorem isPrimitive_of_conversion (h : primitiveConversion safe src out = some conv) :
    out.isPrimitive = true := by
  unfold primitiveConversion at h
  split at h <;> first | rfl | cases h

/-- **Whatever conversion the types allow**, it leads to the type. -/
theorem brings_step (he : e.Exact) (hout : out.Definite) (h : e.step safe src out = some conv) :
    conv.BringsKnown src out := by
  have hstep := h
  unfold step at h
  split at h
  case h_1 =>
    cases h
    intro v w _ _ _ _ _
    exact Ty.conforms_dynamic _
  case h_2 =>
    intro v w _ htype hnull hknown _
    cases v with
    | null => cases hnull
    | unknown => cases hknown
    | _ => cases htype
  case h_3 =>
    obtain ⟨convs, hconvs, h⟩ := Option.bind_eq_some_iff.1 h
    cases h
    cases hout with
    | object hord hts => exact brings_objectToObject he hord hts hconvs
  case h_4 =>
    split at h
    · cases h
    · rename_i hlen
      obtain ⟨convs, hconvs, h⟩ := Option.bind_eq_some_iff.1 h
      cases h
      cases hout with
      | tuple hts => exact brings_tupleToTuple he hts (not_not.1 hlen) hconvs
  case h_5 =>
    obtain ⟨conv', hconv', rfl⟩ := Option.map_eq_some_iff.1 h
    cases hout with
    | list _ ht => exact brings_collectionToList (brings_convTo he ht hconv') (Or.inl rfl)
  case h_6 =>
    obtain ⟨conv', hconv', rfl⟩ := Option.map_eq_some_iff.1 h
    cases hout with
    | list _ ht => exact brings_collectionToList (brings_convTo he ht hconv') (Or.inr rfl)
  case h_7 =>
    split at h
    · cases h
    · obtain ⟨conv', hconv', rfl⟩ := Option.map_eq_some_iff.1 h
      cases hout with
      | set _ ht => exact brings_collectionToSet (brings_convTo he ht hconv') (Or.inl rfl)
  case h_8 =>
    obtain ⟨conv', hconv', rfl⟩ := Option.map_eq_some_iff.1 h
    cases hout with
    | set _ ht => exact brings_collectionToSet (brings_convTo he ht hconv') (Or.inr rfl)
  case h_9 =>
    obtain ⟨conv', hconv', rfl⟩ := Option.map_eq_some_iff.1 h
    cases hout with
    | map hopen ht => exact brings_mapToMap he ht hopen (brings_convTo he ht hconv')
  case h_10 =>
    cases hout with
    | list hopen ht => exact brings_tupleToList he ht hopen h
  case h_11 =>
    cases hout with
    | set hopen ht => exact brings_tupleToSet he ht hopen h
  case h_12 =>
    cases hout with
    | map hopen ht => exact brings_objectToMap he ht hopen h
  case h_13 =>
    split at h
    · cases h
    · cases hout with
      | object hord hts => exact brings_mapToObject he hord hts h
  case h_14 =>
    rintro v w _ rfl hnull hknown hw
    rw [type_step (isPrimitive_of_conversion h) hnull hknown hstep hw]
    exact Ty.conforms_refl _

/-- Nulls and unknown values get the type itself, filled in from their own. -/
theorem brings_guarded (hconv : conv.BringsKnown src out) :
    (e.guarded out conv).Brings src out := by
  intro v w hv htype h
  have hopen : out.isDynamic = true → ∀ t : Ty, t.conforms out = true := by
    intro hdyn t
    cases out with
    | dynamic => exact Ty.conforms_dynamic t
    | _ => cases hdyn
  unfold guarded at h
  split at h
  · cases h
    by_cases hdyn : out.isDynamic = true
    · exact hopen hdyn _
    · rw [if_neg hdyn]
      exact conforms_fillDynamic e _ out
  · split at h
    · rename_i hdyn
      exact hopen hdyn _
    · cases h
      rw [type_convertedHint]
      exact conforms_fillDynamic e _ out
  · rename_i hnull hunknown
    refine hconv v w hv htype ?_ ?_ h <;> cases v <;> first | rfl | simp_all

/-- **The engine for each depth** brings values to the shape of a type: for the parts it asks the
engine for the next smaller one. -/
theorem exact_typeEngine (n : ℕ) : (typeEngine n).Exact := by
  induction n with
  | zero => exact ⟨fun safe src out conv _ h => (by cases h), settles_typeEngine 0⟩
  | succ n ih =>
    refine ⟨fun safe src out conv hout h => ?_, settles_typeEngine (n + 1)⟩
    obtain ⟨conv', hconv', rfl⟩ := Option.map_eq_some_iff.1 h
    exact brings_guarded (brings_step ih hout hconv')

/-- **What a value is brought to has the shape of the type.** -/
theorem conforms_convert (hv : v.Sound) (hwant : want.Definite) (h : v.convert want = .ok w) :
    w.type.conforms want = true := by
  unfold Value.convert at h
  split at h
  · rename_i heq
    cases h
    rw [eq_of_beq heq]
    exact Ty.conforms_refl want
  · split at h
    · rename_i conv hconv
      exact (exact_typeEngine _).conversion false _ want conv hwant hconv v w hv rfl h
    · cases h

end Brings

/-- What the value becomes at a type has the shape of the type. -/
def Suits (want : Ty) (v : Value) : Prop :=
  ∀ w, v.convert want = .ok w → w.type.conforms want = true

theorem suits_of_sound {want : Ty} {v : Value} (hv : v.Sound) (hwant : want.Definite) :
    Suits want v := fun _ hw => conforms_convert hv hwant hw

end GraphWalk
