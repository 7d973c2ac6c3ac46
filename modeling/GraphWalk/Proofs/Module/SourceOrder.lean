import GraphWalk.Module.Read
import GraphWalk.Proofs.List.Related
import GraphWalk.Proofs.Module.Requests
import GraphWalk.Proofs.Source.Parse

/-!
# The order of a module

The blocks of a file are read type by type, and what is read of them is put in the order of the
offsets again: the architypes of all kinds, and the abilities of each, with a body or without.
The blocks stand at rising offsets (`placed_of_read?`), so this gives each block what was read of
it (`forall₂_inSourceOrder`): the architypes of the module are those of the blocks, one for one
and in the order of the text, and so are the abilities of each (`ArchOf`).

A registry that collects modules keeps the slots of an architype in the order in which they are
declared first (`slotNames_of_collect`).

Main result: `read_in_order`. **Dispatch goes through the abilities in the order of the text.**
-/

namespace GraphWalk

open Source

/-! ### Blocks that are read -/

/-- The types of the blocks that declare an architype. -/
def archTypes : List String := ["object", "node", "edge", "walker"]

/-- The types of the blocks that declare an ability. -/
def abilityTypes : List String := ["can", "decl"]

/-- The blocks of a document that declare architypes, in order. -/
def Source.Document.archBlocks (d : Document) : List Block :=
  d.blocks.filter fun b => b.type ∈ archTypes

/-- The blocks of an architype that declare abilities, in order. -/
def Source.Block.abilityBlocks (b : Block) : List Block :=
  b.body.blocks.filter fun b => b.type ∈ abilityTypes

/-! ### Merging by offset -/

section Merge

variable {α : Type} {R : Block → α → Prop} {offset : α → Nat} {groups blocks : List Block}
  {xs : List α}

/-- The blocks of some types, type by type. -/
theorem perm_of_types (types : List String) (hnd : types.Nodup) (d : Document) :
    (types.flatMap d.blocksOf).Perm (d.blocks.filter fun b => b.type ∈ types) := by
  induction types with
  | nil => simp
  | cons t types ih =>
    obtain ⟨ht, hnd⟩ := List.nodup_cons.1 hnd
    rw [List.flatMap_cons]
    refine ((ih hnd).append_left _).trans ?_
    have hsplit := List.filter_append_perm (fun b : Block => b.type = t)
      (d.blocks.filter fun b => b.type ∈ t :: types)
    rw [List.filter_filter, List.filter_filter] at hsplit
    refine (List.Perm.of_eq ?_).trans hsplit
    unfold Document.blocksOf
    congr 1 <;> refine List.filter_congr fun b _ => ?_
    · by_cases hb : b.type = t <;> simp [hb]
    · by_cases hb : b.type = t <;> simp [hb, ht]

/-- What stands at rising offsets is in the order of the text. -/
theorem inSourceOrder_eq {zs : List α} (hperm : zs.Perm xs)
    (hsorted : zs.Pairwise fun x y => offset x < offset y) :
    Module.Reader.inSourceOrder offset xs = zs := by
  -- sorting by offset is a permutation in rising order, and no two offsets are the same
  have hle : (Module.Reader.inSourceOrder offset xs).Pairwise fun x y => offset x ≤ offset y := by
    refine (List.pairwise_mergeSort (fun a b c hab hbc => ?_) (fun a b => ?_) xs).imp
      of_decide_eq_true
    · exact decide_eq_true (Nat.le_trans (of_decide_eq_true hab) (of_decide_eq_true hbc))
    · rw [← Bool.decide_or]
      exact decide_eq_true (Nat.le_total _ _)
  have hp : (Module.Reader.inSourceOrder offset xs).Perm zs :=
    (List.mergeSort_perm xs _).trans hperm.symm
  have hnd : (zs.map offset).Nodup := (List.pairwise_map.2 hsorted).imp Nat.ne_of_lt
  refine List.Perm.eq_of_pairwise (fun x y hx hy hxy hyx => ?_) hle (hsorted.imp Nat.le_of_lt) hp
  exact List.inj_on_of_nodup_map hnd (hp.subset hx) hy (Nat.le_antisymm hxy hyx)

/-- **Merging by offset** what was read of blocks group by group. -/
theorem forall₂_inSourceOrder (h : List.Forall₂ R groups xs)
    (hoffset : ∀ b x, R b x → offset x = b.offset) (hperm : groups.Perm blocks)
    (hsorted : blocks.Pairwise fun b b' => b.offset < b'.offset) :
    List.Forall₂ R blocks (Module.Reader.inSourceOrder offset xs) := by
  obtain ⟨zs, hzs, hzp⟩ := List.perm_comp_forall₂ hperm.symm h
  have hoffsets := map_eq_of_forall₂ hzs fun b x hx => (hoffset b x hx).symm
  rw [inSourceOrder_eq hzp]
  · exact hzs
  · rw [← List.pairwise_map (f := offset) (R := (· < ·)), ← hoffsets, List.pairwise_map]
    exact hsorted

end Merge

/-! ### Drafts -/

/-- What is read of the blocks of a type, block by block. -/
theorem forall₂_blocksOf {ε α : Type} {g : Block → Except ε α} {d : Document} {type : String}
    {xs : List α} (h : (d.blocksOf type).mapM g = .ok xs) :
    List.Forall₂ (fun b x => b.type = type ∧ g b = .ok x) (d.blocksOf type) xs :=
  (List.forall₂_and_left _ _).2
    ⟨fun _ hb => of_decide_eq_true (List.mem_filter.1 hb).2, forall₂_of_mapM h⟩

/-- A draft of an architype is that of a block. -/
structure Draft.ArchOf (b : Block) (a : Draft.Arch) : Prop where
  line : a.line = b.line
  offset : a.offset = b.offset
  name : a.name = b.label 0
  cans : List.Forall₂ (fun b c => b.type = "can" ∧ Draft.readCan b = .ok c)
    (b.body.blocksOf "can") a.cans
  decls : List.Forall₂ (fun b c => b.type = "decl" ∧ Draft.readDecl b = .ok c)
    (b.body.blocksOf "decl") a.decls

/-- What is read of a block is a draft of it. -/
theorem Draft.archOf_of_readArch {b : Block} {a : Draft.Arch} (h : Draft.readArch b = .ok a) :
    Draft.ArchOf b a := by
  obtain ⟨-, -, h⟩ := of_bind_ok h
  obtain ⟨extend, -, h⟩ := of_bind_ok h
  obtain ⟨directed, -, h⟩ := of_bind_ok h
  obtain ⟨fields, -, h⟩ := of_bind_ok h
  obtain ⟨cans, hcans, h⟩ := of_bind_ok h
  obtain ⟨decls, hdecls, h⟩ := of_bind_ok h
  cases h
  exact ⟨rfl, rfl, rfl, forall₂_blocksOf hcans, forall₂_blocksOf hdecls⟩

/-- A draft of an architype, with the kind of its block. -/
def Draft.Kinded (b : Block) (p : Kind × Draft.Arch) : Prop :=
  Kind.parse? b.type = some p.1 ∧ Draft.ArchOf b p.2

variable {d : Document} {f : Draft.File} {r : Module.Reader}

theorem Draft.kinded_of_mapM {type : String} {kind : Kind} {as : List Draft.Arch}
    (hkind : Kind.parse? type = some kind) (h : (d.blocksOf type).mapM Draft.readArch = .ok as) :
    List.Forall₂ Draft.Kinded (d.blocksOf type) (as.map (kind, ·)) := by
  rw [List.forall₂_map_right_iff]
  exact (forall₂_blocksOf h).imp fun b a ⟨hb, ha⟩ => ⟨hb ▸ hkind, archOf_of_readArch ha⟩

theorem Draft.kinded_of_read (h : Draft.read d = .ok f)
    (hsorted : d.blocks.Pairwise fun b b' => b.offset < b'.offset) :
    List.Forall₂ Draft.Kinded d.archBlocks (Module.Reader.archs f) := by
  obtain ⟨-, -, h⟩ := of_bind_ok h
  obtain ⟨name, -, h⟩ := of_bind_ok h
  obtain ⟨imports, -, h⟩ := of_bind_ok h
  obtain ⟨globals, -, h⟩ := of_bind_ok h
  obtain ⟨objects, hobjects, h⟩ := of_bind_ok h
  obtain ⟨nodes, hnodes, h⟩ := of_bind_ok h
  obtain ⟨edges, hedges, h⟩ := of_bind_ok h
  obtain ⟨walkers, hwalkers, h⟩ := of_bind_ok h
  obtain ⟨impls, -, h⟩ := of_bind_ok h
  obtain ⟨tests, -, h⟩ := of_bind_ok h
  obtain ⟨graphs, -, h⟩ := of_bind_ok h
  cases h
  -- the types are read in a fixed order, and each is one group of the blocks
  have hgroups := List.rel_append (List.rel_append (List.rel_append
    (Draft.kinded_of_mapM rfl hobjects) (Draft.kinded_of_mapM rfl hnodes))
    (Draft.kinded_of_mapM rfl hedges)) (Draft.kinded_of_mapM rfl hwalkers)
  refine forall₂_inSourceOrder hgroups (fun b p hp => hp.2.offset) ?_
    (hsorted.sublist List.filter_sublist)
  simpa [Document.archBlocks, archTypes, List.append_assoc] using
    perm_of_types archTypes (by decide) d

/-! ### Abilities -/

/-- An ability of a module is that of a block: a can gives it a body, and a decl does not. -/
structure AbilityOf (file : String) (b : Block) (ab : AbilityDecl) : Prop where
  name : ab.name = b.label 0
  pos : ab.pos = ⟨file, b.line⟩
  body : ab.body.isSome ↔ b.type = "can"

/-- A can block: its ability has a body. -/
theorem abilityOf_can {key : ArchKey} {b : Block} {c : Draft.Can} {ab : AbilityDecl}
    (hb : b.type = "can") (hc : Draft.readCan b = .ok c) (h : r.can key c = .ok ab) :
    c.offset = b.offset ∧ AbilityOf r.file b ab := by
  obtain ⟨-, -, hc⟩ := of_bind_ok hc
  obtain ⟨event, -, hc⟩ := of_bind_ok hc
  obtain ⟨filter, -, hc⟩ := of_bind_ok hc
  obtain ⟨native, -, hc⟩ := of_bind_ok hc
  cases hc
  obtain ⟨sig, -, h⟩ := of_bind_ok (of_mapError_ok h)
  obtain ⟨body, -, h⟩ := of_bind_ok h
  cases h
  exact ⟨rfl, rfl, rfl, iff_of_true rfl hb⟩

/-- A decl block: its ability has none. -/
theorem abilityOf_decl {b : Block} {c : Draft.Decl} {ab : AbilityDecl}
    (hb : b.type = "decl") (hc : Draft.readDecl b = .ok c) (h : r.decl c = .ok ab) :
    c.offset = b.offset ∧ AbilityOf r.file b ab := by
  obtain ⟨-, -, hc⟩ := of_bind_ok hc
  obtain ⟨event, -, hc⟩ := of_bind_ok hc
  obtain ⟨filter, -, hc⟩ := of_bind_ok hc
  obtain ⟨isAbstract, -, hc⟩ := of_bind_ok hc
  cases hc
  obtain ⟨sig, -, h⟩ := of_bind_ok (of_mapError_ok h)
  cases h
  refine ⟨rfl, rfl, rfl, iff_of_false (by simp) ?_⟩
  rw [hb]
  decide

/-- **The abilities of an architype** are those of the can and decl blocks, in source order. -/
theorem abilities_of_block {key : ArchKey} {b : Block} {a : Draft.Arch} {abs : List AbilityDecl}
    (ha : Draft.ArchOf b a)
    (hsorted : b.body.blocks.Pairwise fun b b' => b.offset < b'.offset)
    (h : r.abilities key a = .ok abs) :
    List.Forall₂ (AbilityOf r.file) b.abilityBlocks abs := by
  obtain ⟨cans, hcans, h⟩ := of_bind_ok h
  obtain ⟨decls, hdecls, h⟩ := of_bind_ok h
  cases h
  rw [List.forall₂_map_right_iff]
  have hcan : List.Forall₂ (fun b (x : Nat × AbilityDecl) =>
      x.1 = b.offset ∧ AbilityOf r.file b x.2) (b.body.blocksOf "can") cans := by
    refine (forall₂_trans ha.cans (forall₂_of_mapM hcans)).imp fun b x ⟨c, ⟨hb, hc⟩, hx⟩ => ?_
    obtain ⟨ab, hab, rfl⟩ := of_map_ok hx
    exact abilityOf_can hb hc hab
  have hdecl : List.Forall₂ (fun b (x : Nat × AbilityDecl) =>
      x.1 = b.offset ∧ AbilityOf r.file b x.2) (b.body.blocksOf "decl") decls := by
    refine (forall₂_trans ha.decls (forall₂_of_mapM hdecls)).imp fun b x ⟨c, ⟨hb, hc⟩, hx⟩ => ?_
    obtain ⟨ab, hab, rfl⟩ := of_map_ok hx
    exact abilityOf_decl hb hc hab
  refine (forall₂_inSourceOrder (List.rel_append hcan hdecl) (fun b x hx => hx.1) ?_
    (hsorted.sublist List.filter_sublist)).imp fun b x hx => hx.2
  simpa [Block.abilityBlocks, abilityTypes] using perm_of_types abilityTypes (by decide) b.body

/-! ### Architypes -/

/-- An architype of a module is that of a block, with the abilities that stand in it. -/
structure ArchOf (file : String) (b : Block) (a : ArchDecl) : Prop where
  kind : Kind.parse? b.type = some a.kind
  name : a.name = b.label 0
  pos : a.pos = ⟨file, b.line⟩
  abilities : List.Forall₂ (AbilityOf file) b.abilityBlocks a.abilities

theorem archOf_of_arch {b : Block} {p : Kind × Draft.Arch} {a : ArchDecl} (hp : Draft.Kinded b p)
    (hsorted : b.body.blocks.Pairwise fun b b' => b.offset < b'.offset)
    (h : r.arch p.1 p.2 = .ok a) : ArchOf r.file b a := by
  obtain ⟨hkind, ha⟩ := hp
  unfold Module.Reader.arch at h
  split at h
  · cases h
  · obtain ⟨fields, -, h⟩ := of_bind_ok h
    obtain ⟨abs, habs, h⟩ := of_bind_ok h
    cases h
    exact ⟨hkind, ha.name, by rw [ha.line]; rfl, abilities_of_block ha hsorted habs⟩

/-- The architypes among elements that may have failed. -/
def archsOf (xs : List (Except Fault Element)) : List ArchDecl :=
  xs.filterMap fun x => x.toOption.bind fun
    | .arch d => some d
    | _ => none

/-- Elements are collected only if none has failed. -/
theorem archs_of_collect {xs : List (Except Fault Element)} {els : List Element}
    (h : Module.collect xs = .ok els) :
    (∀ x ∈ xs, ∃ el, x = .ok el) ∧ els = xs.filterMap Except.toOption := by
  unfold Module.collect at h
  split at h
  next hnil =>
    cases h
    refine ⟨fun x hx => ?_, rfl⟩
    have hnone := List.filterMap_eq_nil_iff.1 hnil x hx
    cases x with
    | error f => cases hnone
    | ok el => exact ⟨el, rfl⟩
  · cases h

/-- What is no architype gives none. -/
theorem archsOf_map {α : Type} {g : α → Except Fault Element} {l : List α}
    (hg : ∀ a, ∀ d, g a ≠ .ok (.arch d)) : archsOf (l.map g) = [] := by
  refine List.filterMap_eq_nil_iff.2 fun x hx => ?_
  obtain ⟨a, -, rfl⟩ := List.mem_map.1 hx
  cases hga : g a with
  | error f => rfl
  | ok el =>
    cases el with
    | arch d => exact absurd hga (hg a d)
    | _ => rfl

theorem archsOf_append (xs ys : List (Except Fault Element)) :
    archsOf (xs ++ ys) = archsOf xs ++ archsOf ys := List.filterMap_append

/-- A label on the fault makes no architype of another element. -/
theorem labelled_ne {α : Type} {x : Except Fault α} {wrap : α → Element} {e : Fault → Fault}
    (hwrap : ∀ a d, wrap a ≠ .arch d) (d : ArchDecl) :
    (x.map wrap).mapError e ≠ .ok (.arch d) := by
  intro h
  obtain ⟨a, -, ha⟩ := of_map_ok (of_mapError_ok h)
  exact hwrap a d ha

/-- The architypes among the elements of a draft are read of its architypes. -/
theorem archsOf_elements (r : Module.Reader) (f : Draft.File) :
    archsOf (r.elements f) = archsOf ((Module.Reader.archs f).map fun p =>
      ((r.arch p.1 p.2).map .arch).mapError
        (.within (p.1.text ++ " " ++ Text.quote p.2.name))) := by
  unfold Module.Reader.elements
  simp only [archsOf_append]
  rw [archsOf_map (l := f.imports), archsOf_map (l := f.globals), archsOf_map (l := f.impls),
    archsOf_map (l := f.tests), archsOf_map (l := f.graphs)]
  · simp
  · exact fun _ => labelled_ne (fun _ _ => Element.noConfusion)
  · exact fun _ _ => nofun
  · exact fun _ => labelled_ne (fun _ _ => Element.noConfusion)
  · exact fun _ => labelled_ne (fun _ _ => Element.noConfusion)
  · exact fun _ _ => nofun

/-- The architypes that have not failed, one for one. -/
theorem forall₂_archs {l : List (Kind × Draft.Arch)}
    {g : Kind × Draft.Arch → Except Fault ArchDecl} {e : Kind × Draft.Arch → Fault → Fault}
    (h : ∀ p ∈ l, ∃ el, ((g p).map Element.arch).mapError (e p) = .ok el) :
    List.Forall₂ (fun p a => g p = .ok a) l
      (archsOf (l.map fun p => ((g p).map .arch).mapError (e p))) := by
  induction l with
  | nil => exact .nil
  | cons p l ih =>
    obtain ⟨hp, hl⟩ := List.forall_mem_cons.1 h
    obtain ⟨el, hel⟩ := hp
    obtain ⟨a, ha, -⟩ := of_map_ok (of_mapError_ok hel)
    have hcons : archsOf ((p :: l).map fun p => ((g p).map .arch).mapError (e p)) =
        a :: archsOf (l.map fun p => ((g p).map .arch).mapError (e p)) := by
      rw [List.map_cons, ha]
      rfl
    rw [hcons]
    exact .cons ha (ih hl)

/-- **The architypes of a module** are read of those of its draft, in order. -/
theorem architypes_of_draft {stamp : Nat} {m : Module} (h : Module.ofDraft r stamp f = .ok m) :
    List.Forall₂ (fun p a => r.arch p.1 p.2 = .ok a) (Module.Reader.archs f) m.architypes := by
  unfold Module.ofDraft at h
  dsimp only at h
  split at h
  next els hcollect =>
    cases h
    obtain ⟨hok, rfl⟩ := archs_of_collect hcollect
    have harchs : ∀ name file, Module.architypes ⟨name, file,
        (r.elements f).filterMap Except.toOption, stamp⟩ = archsOf (r.elements f) :=
      fun _ _ => List.filterMap_filterMap
    rw [harchs, archsOf_elements]
    refine forall₂_archs fun p hp => hok _ ?_
    unfold Module.Reader.elements
    simp only [List.mem_append, List.mem_map]
    exact .inl (.inl (.inl (.inr ⟨p, hp, rfl⟩)))
  · cases h

/-! ### The order of slots -/

section Repeats

variable {α : Type} [DecidableEq α]

/-- Repeats can be dropped at the front first. -/
theorem eraseDups_append_left (xs ys : List α) :
    (xs.eraseDups ++ ys).eraseDups = (xs ++ ys).eraseDups := by
  rw [List.eraseDups_append, List.eraseDups_append, eraseDups_of_nodup (nodup_eraseDups xs)]
  congr 2
  unfold List.removeAll
  refine List.filter_congr fun y _ => ?_
  simp

end Repeats

/-- The abilities that a module declares for an architype, in order. -/
def Module.slotNames (m : Module) (key : ArchKey) : List String :=
  (m.architypes.filter fun d => (⟨d.kind, d.name⟩ : ArchKey) = key).flatMap fun d =>
    d.abilities.map AbilityDecl.name

namespace Registry

variable {r r' : Registry} {a : Architype} {key : ArchKey} {module : String} {m : Module}
  {cs : List Call}

/-- The slots of an architype, in order. -/
def slotNames (r : Registry) (key : ArchKey) : List String :=
  ((r.find? key).map fun a => a.abilities.map Ability.name).getD []

/-- The slot that a call declares for an architype. -/
def Call.slotName? (key : ArchKey) : Call → Option String
  | .declaration _ k spec => if k = key then some spec.name else none
  | _ => none

theorem slotNames_put (r : Registry) (a : Architype) (key : ArchKey) :
    (r.put a).slotNames key =
      if key = a.key then a.abilities.map Ability.name else r.slotNames key := by
  unfold slotNames
  rw [find?_put]
  split <;> rfl

theorem record_slotNames (r : Registry) (module : String) (key : ArchKey) :
    (r.record module key).abilities.map Ability.name = r.slotNames key := by
  unfold record slotNames
  cases r.find? key <;> rfl

theorem Tidy.nodup_slotNames (ok : r.Tidy) (key : ArchKey) : (r.slotNames key).Nodup :=
  record_slotNames r "" key ▸ ok.record.named

theorem registerArchitype_slotNames (ok : r.Tidy) {spec : ArchSpec}
    (h : r.registerArchitype module key spec = .ok (r', a)) (k : ArchKey) :
    r'.slotNames k = r.slotNames k := by
  obtain ⟨rfl, rfl, hab, -⟩ := registerArchitype_eq ok h
  rw [slotNames_put]
  split
  next hk => rw [hab, record_slotNames, hk]
  · rfl

/-- **Declaring a slot** puts it behind the others, unless it is there. -/
theorem registerDeclaration_slotNames (ok : r.Tidy) {spec : AbilitySpec} {slot : Ability}
    (h : r.registerDeclaration module key spec = .ok (r', slot)) (k : ArchKey) :
    r'.slotNames k =
      if key = k then (r.slotNames k ++ [spec.name]).eraseDups else r.slotNames k := by
  obtain ⟨a, rfl, rfl, -, hslot, -, -, hab⟩ := registerDeclaration_eq ok h
  rw [slotNames_put]
  by_cases hk : a.key = k
  · subst hk
    rw [if_pos rfl, if_pos rfl, eraseDups_concat, eraseDups_of_nodup (ok.nodup_slotNames _),
      ← record_slotNames r module a.key]
    rcases hab with hab | ⟨hnone, hname, -, -, hab⟩
    · rw [hab, if_pos]
      rw [← hab]
      exact List.mem_map.2 ⟨slot, List.mem_of_find?_eq_some hslot,
        by simpa using List.find?_some hslot⟩
    · rw [if_neg, hab, List.map_append, List.map_singleton, hname]
      intro hmem
      obtain ⟨s, hs, hsname⟩ := List.mem_map.1 hmem
      exact absurd (decide_eq_true hsname) (List.find?_eq_none.1 hnone s hs)
  · rw [if_neg (Ne.symm hk), if_neg hk]

theorem registerDefinition_slotNames {path : Path} {body : Option Body} {origin : Option Origin}
    (h : r.registerDefinition module path body origin = .ok r') (k : ArchKey) :
    r'.slotNames k = r.slotNames k := by
  obtain ⟨b, rfl, ⟨old, -, -, -, rfl⟩ | ⟨-, rfl⟩⟩ := registerDefinition_eq h <;> rfl

/-- **Accepted calls** put the slots they declare behind the others, each at the place where it
is declared first. -/
theorem Accepts.slotNames (h : Accepts r cs r') (ok : r.Tidy) (key : ArchKey) :
    r'.slotNames key =
      (r.slotNames key ++ cs.filterMap (Call.slotName? key)).eraseDups := by
  induction h with
  | nil => rw [List.filterMap_nil, List.append_nil, eraseDups_of_nodup (ok.nodup_slotNames key)]
  | architype ha _ ih =>
    rw [ih (ok.registerArchitype ha), registerArchitype_slotNames ok ha]
    rfl
  | @declaration r r' r'' cs module k spec slot hd _ ih =>
    rw [ih (ok.registerDeclaration hd), registerDeclaration_slotNames ok hd, List.filterMap_cons,
      Call.slotName?]
    by_cases hk : k = key
    · simp only [if_pos hk, eraseDups_append_left, List.append_assoc, List.singleton_append]
    · simp only [if_neg hk]
  | definition hd _ ih =>
    rw [ih (ok.registerDefinition hd), registerDefinition_slotNames hd]
    rfl

/-! ### The calls of a module -/

theorem filterMap_calls_ability {element : Nat} {d : ArchDecl} (i : Nat) (ab : AbilityDecl) :
    (ab.calls m element d i).filterMap (Call.slotName? key) =
      if (⟨d.kind, d.name⟩ : ArchKey) = key then [ab.name] else [] := by
  unfold AbilityDecl.calls
  split <;> split <;> simp [Call.slotName?, *]

theorem flatMap_zipIdx {α β : Type} {g : α → Nat → List β} {f : α → List β}
    (h : ∀ x i, g x i = f x) (xs : List α) (n : Nat) :
    ((xs.zipIdx n).flatMap fun p => g p.1 p.2) = xs.flatMap f := by
  induction xs generalizing n with
  | nil => rfl
  | cons x xs ih => rw [List.zipIdx_cons, List.flatMap_cons, List.flatMap_cons, ih, h]

/-- The slots that a module declares for an architype are those it calls for. -/
theorem filterMap_calls (m : Module) (key : ArchKey) :
    m.calls.filterMap (Call.slotName? key) = m.slotNames key := by
  have helement : ∀ (el : Element) (i : Nat), (el.calls m i).filterMap (Call.slotName? key) =
      match el with
      | .arch d =>
        if (⟨d.kind, d.name⟩ : ArchKey) = key then d.abilities.map AbilityDecl.name else []
      | _ => [] := by
    intro el i
    cases el with
    | arch d =>
      rw [Element.calls, List.filterMap_cons, List.filterMap_flatMap]
      dsimp only [Call.slotName?]
      rw [flatMap_zipIdx fun ab i => filterMap_calls_ability i ab]
      split
      · exact (List.map_eq_flatMap ..).symm
      · simp
    | _ => rfl
  unfold Module.calls Module.slotNames Module.architypes
  rw [List.filterMap_flatMap, flatMap_zipIdx helement]
  induction m.elements with
  | nil => rfl
  | cons el els ih =>
    rw [List.flatMap_cons, ih]
    cases el with
    | arch d =>
      simp only [List.filterMap_cons, List.filter_cons]
      split <;> simp_all
    | _ => rfl

/-- **Collecting modules** puts the slots they declare behind the others, each at the place where
it is declared first. -/
theorem slotNames_of_collect {mods : List Module} (ok : r.Tidy)
    (h : collect mods r = (r', [])) (key : ArchKey) :
    r'.slotNames key = (r.slotNames key ++ mods.flatMap (·.slotNames key)).eraseDups := by
  rw [(accepts_of_collect mods h).slotNames ok key, List.filterMap_flatMap]
  simp only [filterMap_calls]

end Registry

/-! ### Modules of a text -/

/-- Whether a block declares an architype with this key. -/
def Source.Block.declares (b : Block) (key : ArchKey) : Bool :=
  Kind.parse? b.type = some key.kind && b.label 0 = key.name

/-- The abilities that a document declares for an architype, in order. -/
def Source.Document.slotNames (d : Document) (key : ArchKey) : List String :=
  (d.archBlocks.filter (·.declares key)).flatMap fun b => b.abilityBlocks.map (·.label 0)

theorem ArchOf.names {file : String} {b : Block} {a : ArchDecl} (h : ArchOf file b a) :
    b.abilityBlocks.map (·.label 0) = a.abilities.map AbilityDecl.name :=
  map_eq_of_forall₂ h.abilities fun _ _ hab => hab.name.symm

theorem ArchOf.declares_iff {file : String} {b : Block} {a : ArchDecl} (h : ArchOf file b a)
    (key : ArchKey) : b.declares key = true ↔ (⟨a.kind, a.name⟩ : ArchKey) = key := by
  cases key
  simp [Block.declares, h.kind, h.name]

/-- The slots that a module declares for an architype are those its blocks declare. -/
theorem slotNames_eq {file : String} {m : Module} {d : Document}
    (h : List.Forall₂ (ArchOf file) d.archBlocks m.architypes) (key : ArchKey) :
    m.slotNames key = d.slotNames key := by
  unfold Module.slotNames Document.slotNames
  generalize d.archBlocks = bs at h ⊢
  generalize m.architypes = as at h ⊢
  induction h with
  | nil => rfl
  | @cons b a bs as hba _ ih =>
    rw [List.filter_cons, List.filter_cons]
    by_cases hb : b.declares key
    · rw [if_pos hb, if_pos (decide_eq_true ((hba.declares_iff key).1 hb)), List.flatMap_cons,
        List.flatMap_cons, ih, hba.names]
    · rw [if_neg hb, if_neg fun ha => hb ((hba.declares_iff key).2 (of_decide_eq_true ha)), ih]

/-- **A module keeps the order of its text.** The blocks of its file stand at rising offsets, each
where its type is, and so do the blocks inside each. The architypes of the module are those of
the object, node, edge and walker blocks, one for one and in this order, and the abilities of
each are those of its can and decl blocks. So collecting the module puts the slots of each
architype in this order behind those that are there, each at the place where it is declared first;
dispatch goes through them as they are put. -/
theorem read_in_order {natives : Natives} {file text : String} {stamp : Nat} {m : Module}
    (h : Module.read natives file stamp text = .ok m) :
    ∃ d, Document.read? text = some d ∧
      (d.blocks.Pairwise fun b b' => b.offset < b'.offset) ∧
      (∀ b ∈ d.blocks, b.Placed (sourceOf text)) ∧
      List.Forall₂ (ArchOf file) d.archBlocks m.architypes ∧
      ∀ (r r' : Registry), r.Tidy → Registry.collect [m] r = (r', []) → ∀ key,
        r'.slotNames key = (r.slotNames key ++ d.slotNames key).eraseDups := by
  unfold Module.read at h
  split at h
  · cases h
  next d hd =>
    split at h
    · cases h
    next f hf =>
      obtain ⟨hsorted, hplaced⟩ := placed_of_read? hd
      have hdraft := (List.forall₂_and_left _ _).2 ⟨fun b hb =>
        (hplaced b (List.mem_of_mem_filter hb)).ordered, Draft.kinded_of_read hf hsorted⟩
      have harchs : List.Forall₂ (ArchOf file) d.archBlocks m.architypes :=
        (forall₂_trans hdraft (architypes_of_draft h)).imp
          fun b a ⟨p, ⟨hin, hp⟩, ha⟩ => archOf_of_arch hp hin ha
      refine ⟨d, hd, hsorted, hplaced, harchs, fun r r' ok hcollect key => ?_⟩
      rw [Registry.slotNames_of_collect ok hcollect key, List.flatMap_singleton,
        slotNames_eq harchs key]

/-- A file whose kinds of blocks are mixed at both levels. -/
def atlas : String :=
  "edge \"E\" \x7b\x7d
node \"N\" \x7b
  decl \"a\" \x7b\x7d
  can \"b\" \x7b\x7d
  decl \"c\" \x7b\x7d
\x7d
object \"O\" \x7b\x7d
"

/-- The kinds and names of the architypes of a file, with their abilities and whether each has a
body. -/
abbrev Outline := List (Option Kind × String × List (String × Bool))

/-- What stands in it. -/
def atlasOutline : Outline :=
  [(some .edge, "E", []), (some .node, "N", [("a", false), ("b", true), ("c", false)]),
    (some .object, "O", [])]

/-- Whether a draft has nothing but architypes, and they make sense. -/
def Draft.File.isPlain (f : Draft.File) (r : Module.Reader) : Bool :=
  f.imports.isEmpty && f.globals.isEmpty && f.impls.isEmpty && f.tests.isEmpty &&
    f.graphs.isEmpty && (Module.Reader.kinded f).all fun p => (r.arch p.1 p.2).toOption.isSome

theorem Draft.File.elements_of_isPlain (h : f.isPlain r) :
    ∀ x ∈ r.elements f, ∃ el, x = .ok el := by
  simp only [isPlain, Bool.and_eq_true, List.isEmpty_iff, List.all_eq_true] at h
  obtain ⟨⟨⟨⟨⟨himports, hglobals⟩, himpls⟩, htests⟩, hgraphs⟩, harchs⟩ := h
  unfold Module.Reader.elements
  simp only [himports, hglobals, himpls, htests, hgraphs, List.map_nil, List.nil_append,
    List.append_nil, List.forall_mem_map]
  intro p hp
  have hok := harchs p (List.mem_mergeSort.1 hp)
  cases ha : r.arch p.1 p.2 with
  | error e => simp [ha, Except.toOption] at hok
  | ok a => exact ⟨.arch a, rfl⟩

theorem exists_ofDraft {stamp : Nat} (h : f.isPlain r) : ∃ m, Module.ofDraft r stamp f = .ok m := by
  unfold Module.ofDraft Module.collect
  dsimp only
  rw [List.filterMap_eq_nil_iff.2]
  · exact ⟨_, rfl⟩
  · intro x hx
    obtain ⟨el, rfl⟩ := Draft.File.elements_of_isPlain h x hx
    rfl

theorem exists_atlas : ∃ m, Module.read .empty "atlas.hcl" 0 atlas = .ok m := by
  have hdraft : ((Document.read? atlas).bind fun d => (Draft.read d).toOption).any
      (·.isPlain ⟨"atlas.hcl", .empty⟩) = true := by decide +kernel
  unfold Module.read
  cases hd : Document.read? atlas with
  | none => simp [hd] at hdraft
  | some d =>
    cases hf : Draft.read d with
    | error e => simp [hd, hf, Except.toOption] at hdraft
    | ok f =>
      simp only [hf]
      exact exists_ofDraft (by simpa [hd, hf, Except.toOption] using hdraft)

theorem read_in_order_atlas : ∃ m, Module.read .empty "atlas.hcl" 0 atlas = .ok m ∧
    m.architypes.map (fun a => (some a.kind, a.name, a.abilities.map fun ab =>
      (ab.name, ab.body.isSome))) = atlasOutline := by
  obtain ⟨m, hm⟩ := exists_atlas
  obtain ⟨d, hd, -, -, harchs, -⟩ := read_in_order hm
  have houtline : (Document.read? atlas).map (fun d => d.archBlocks.map fun b =>
      (Kind.parse? b.type, b.label 0, b.abilityBlocks.map fun c =>
        (c.label 0, decide (c.type = "can")))) = some atlasOutline := by decide +kernel
  rw [hd, Option.map_some, Option.some_inj] at houtline
  refine ⟨m, hm, houtline ▸ (map_eq_of_forall₂ harchs fun b a hba => ?_).symm⟩
  have habilities : b.abilityBlocks.map (fun c => (c.label 0, decide (c.type = "can"))) =
      a.abilities.map fun ab => (ab.name, ab.body.isSome) :=
    map_eq_of_forall₂ hba.abilities fun c ab hab => by
      rw [hab.name, Bool.eq_iff_iff.2 (hab.body.trans decide_eq_true_iff.symm)]
  rw [hba.kind, hba.name, habilities]

end GraphWalk
