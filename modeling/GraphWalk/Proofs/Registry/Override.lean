import GraphWalk.Proofs.Registry.Members

/-!
# Overridden members

A record that does not declare a member takes it from the last of its bases that has it
(`Members.Takes`), and these steps lead from the record to the owner of the member. A
declaration closer to the record overrides the owner's, and is what the record has, unless
somewhere on the way the member is taken from a base although one before it has an override:
a record that extends `Mid` and `Side`, both of which extend `Base`, has the member of `Base`
even if `Mid` overrides it.

Main result: `overrides_of_link`.
-/

namespace GraphWalk

open Relation

variable {μ : Type} {M : Members μ} {r : Registry} {a b c o : Architype} {n : String} {x : μ}

/-- The last match among the lists of `xs` is in the last of them that has a match. -/
theorem find?_reverse_flatMap {α β : Type} {f : α → List β} {p : β → Bool} {y : β} (xs : List α)
    (h : (xs.flatMap f).reverse.find? p = some y) : ∃ before b after, xs = before ++ b :: after ∧
      (f b).reverse.find? p = some y ∧ ∀ c ∈ after, (f c).reverse.find? p = none := by
  induction xs with
  | nil => cases h
  | cons z zs ih =>
    rw [List.flatMap_cons, List.reverse_append, List.find?_append] at h
    cases hzs : (zs.flatMap f).reverse.find? p with
    | some y' =>
      rw [hzs] at h
      cases h
      obtain ⟨before, b, after, rfl, hb, hafter⟩ := ih hzs
      exact ⟨z :: before, b, after, rfl, hb, hafter⟩
    | none =>
      rw [hzs] at h
      refine ⟨[], z, zs, rfl, h, fun c hc => List.find?_eq_none.2 fun y hy => ?_⟩
      refine List.find?_eq_none.1 hzs y (List.mem_reverse.2 ?_)
      exact List.mem_flatMap.2 ⟨c, hc, List.mem_reverse.1 hy⟩

/-- Nothing is found from behind just if no member has the name. -/
theorem find?_reverse_eq_none {name : μ → String} {xs : List μ} :
    xs.reverse.find? (fun x => decide (name x = n)) = none ↔ n ∉ xs.map name := by
  simp only [List.find?_eq_none, List.mem_reverse, List.mem_map, decide_eq_true_eq, not_exists,
    not_and]

namespace Members

/-- Whether `a` declares a member itself. -/
def Declares (M : Members μ) (a : Architype) (n : String) : Prop := n ∈ (M.own a).map M.name

/-- Whether `a` has a member, inherited ones included. -/
def Has (M : Members μ) (a : Architype) (n : String) : Prop := n ∈ (M.effective a).map M.name

/-- **How a member is inherited**: `a` takes it from `b`, the last of its bases that has it; the
bases `before` come before that. -/
structure Takes (M : Members μ) (r : Registry) (n : String) (a : Architype)
    (before : List Architype) (b : Architype) : Prop where
  undeclared : ¬M.Declares a n
  has : M.Has b n
  last : ∃ after, r.basesOf a = before ++ b :: after ∧ ∀ c ∈ after, ¬M.Has c n

/-- The bases from which members are taken, one after the other. -/
def Way (M : Members μ) (r : Registry) (n : String) : Architype → Architype → Prop :=
  ReflTransGen fun a b => ∃ before, M.Takes r n a before b

/-- **The owner** of a member that `a` has: the member is its own, and on the way from `a`. -/
structure Owns (M : Members μ) (r : Registry) (a o : Architype) (x : μ) : Prop where
  own : (M.own o).reverse.find? (fun y => decide (M.name y = M.name x)) = some x
  way : M.Way r (M.name x) a o

/-- **The member of `o` is overridden** for `a`: a record that `a` is or inherits from declares
the member, and inherits from `o`. -/
def Overridden (M : Members μ) (r : Registry) (n : String) (a o : Architype) : Prop :=
  ∃ p ∈ r.archs, M.Declares p n ∧ ReflTransGen r.Extends a.key p.key ∧
    TransGen r.Extends p.key o.key

/-- **An override is passed by**: on the way from `a` to `o` the member is taken from a base
although it is overridden for one that comes before. -/
def PassedBy (M : Members μ) (r : Registry) (n : String) (a o : Architype) : Prop :=
  ∃ d before b, M.Way r n a d ∧ M.Takes r n d before b ∧ M.Way r n b o ∧
    ∃ c ∈ before, M.Overridden r n c o

/-- What is overridden for a base is overridden for what inherits from it. -/
theorem Overridden.of_reached (h : M.Overridden r n b o)
    (hreach : ReflTransGen r.Extends a.key b.key) : M.Overridden r n a o := by
  obtain ⟨p, hp, hn, hbp, hpo⟩ := h
  exact ⟨p, hp, hn, hreach.trans hbp, hpo⟩

theorem Takes.base {before : List Architype} (h : M.Takes r n a before b) : b ∈ r.basesOf a := by
  obtain ⟨after, hbases, -⟩ := h.last
  rw [hbases]
  exact List.mem_append_right _ List.mem_cons_self

theorem Takes.before {before : List Architype} (h : M.Takes r n a before b) (hc : c ∈ before) :
    c ∈ r.basesOf a := by
  obtain ⟨after, hbases, -⟩ := h.last
  rw [hbases]
  exact List.mem_append_left _ hc

end Members

namespace Registry

namespace Linked

/-- A record has what its bases have and what it declares. -/
theorem has_iff (ok : r.Linked) (ha : a ∈ r.archs) :
    M.Has a n ↔ (∃ b ∈ r.basesOf a, M.Has b n) ∨ M.Declares a n := by
  unfold Members.Has Members.Declares
  rw [(ok.merges M ha).names, List.mem_eraseDups, List.map_append, List.mem_append,
    List.map_flatMap, List.mem_flatMap]

/-- **What a record declares**, all records have that inherit from it. -/
theorem has_of_reached (ok : r.Linked) {p : Architype} (hp : p ∈ r.archs)
    (hn : M.Declares p n) : ∀ a ∈ r.archs, ReflTransGen r.Extends a.key p.key → M.Has a n := by
  -- the induction is on the bases: after linking there are no cycles among them
  refine ok.induction fun a ha ih hreach => ?_
  rcases (ok.reflTransGen_iff ha hp).1 hreach with rfl | hreach
  · exact (ok.has_iff ha).2 (Or.inr hn)
  · obtain ⟨b, hb, hreach⟩ := (ok.transGen_iff ha).1 hreach
    exact (ok.has_iff ha).2 (Or.inl ⟨b, hb, ih b hb hreach⟩)

/-- Members are taken from what is reached over bases. -/
theorem way_reaches (ok : r.Linked) (ha : a ∈ r.archs) (h : M.Way r n a b) :
    b ∈ r.archs ∧ ReflTransGen r.Extends a.key b.key := by
  induction h with
  | refl => exact ⟨ha, .refl⟩
  | tail _ hstep ih =>
    obtain ⟨hb, hreach⟩ := ih
    obtain ⟨before, htakes⟩ := hstep
    exact ⟨basesOf_mem htakes.base, hreach.tail ((ok.extends_iff hb).2 ⟨_, htakes.base, rfl⟩)⟩

/-- **Every member has an owner.** -/
theorem exists_owner (ok : r.Linked) (M : Members μ) (x : μ) :
    ∀ a ∈ r.archs, x ∈ M.effective a → ∃ o ∈ r.archs, M.Owns r a o x := by
  refine ok.induction fun a ha ih hx => ?_
  have hmerges := ok.merges M ha
  have hfind := (find?_eq_some_of_nodup hmerges.distinct).2 ⟨hx, rfl⟩
  rw [hmerges.last, List.reverse_append, List.find?_append] at hfind
  cases hown : (M.own a).reverse.find? (fun y => decide (M.name y = M.name x)) with
  | some y =>
    -- own members come after the inherited ones, and so win
    rw [hown] at hfind
    cases hfind
    exact ⟨a, ha, hown, .refl⟩
  | none =>
    -- the member is that of the last base that has one of this name
    rw [hown] at hfind
    obtain ⟨before, b, after, hbases, hb, hafter⟩ := find?_reverse_flatMap _ hfind
    have hxb : x ∈ M.effective b := List.mem_reverse.1 (List.mem_of_find?_eq_some hb)
    have htakes : M.Takes r (M.name x) a before b :=
      ⟨find?_reverse_eq_none.1 hown, List.mem_map_of_mem hxb, after, hbases,
        fun c hc => find?_reverse_eq_none.1 (hafter c hc)⟩
    obtain ⟨o, ho, howns⟩ := ih b htakes.base hxb
    exact ⟨o, ho, howns.own, .head ⟨before, htakes⟩ howns.way⟩

/-- **An overridden member is inherited** exactly if its override is passed by. -/
theorem overridden_iff (ok : r.Linked) (ha : a ∈ r.archs) (hway : M.Way r n a o) :
    M.Overridden r n a o ↔ M.PassedBy r n a o := by
  constructor
  · intro hover
    -- the induction is on the way, and follows it as long as it leads towards the override
    induction hway using ReflTransGen.head_induction_on with
    | refl =>
      -- what declares the override would inherit from the owner, and the owner from it
      obtain ⟨p, -, -, hop, hpo⟩ := hover
      exact absurd (TransGen.trans_right hop hpo) (ok.acyclic o.key)
    | @head a b hstep hrest ih =>
      obtain ⟨before, htakes⟩ := hstep
      obtain ⟨p, hp, hn, hap, hpo⟩ := hover
      have hne : p ≠ a := fun heq => htakes.undeclared (heq ▸ hn)
      obtain ⟨c, hc, hcp⟩ := (ok.transGen_iff ha).1
        (((ok.reflTransGen_iff ha hp).1 hap).resolve_left hne)
      have hover : M.Overridden r n c o := ⟨p, hp, hn, hcp, hpo⟩
      -- the override is reached over a base before `b`, over `b`, or over one after it
      obtain ⟨after, hbases, hafter⟩ := htakes.last
      have hc' := hbases ▸ hc
      rcases List.mem_append.1 hc' with hbefore | hc'
      · exact ⟨a, before, b, .refl, htakes, hrest, c, hbefore, hover⟩
      · rcases List.mem_cons.1 hc' with rfl | hc'
        · obtain ⟨d, before', b', hto, hpassed⟩ := ih (basesOf_mem hc) hover
          exact ⟨d, before', b', .head ⟨before, htakes⟩ hto, hpassed⟩
        · exact absurd (ok.has_of_reached hp hn c (basesOf_mem hc) hcp) (hafter c hc')
  · rintro ⟨d, before, b, hto, htakes, -, c, hc, hover⟩
    obtain ⟨hd, hreach⟩ := ok.way_reaches ha hto
    have hstep := (ok.extends_iff hd).2 ⟨c, htakes.before hc, rfl⟩
    exact hover.of_reached (hreach.tail hstep)

/-- **Every member has an owner**, and is overridden on a path to it only where it is passed by. -/
theorem owned (ok : r.Linked) (M : Members μ) (ha : a ∈ r.archs) (hx : x ∈ M.effective a) :
    ∃ o ∈ r.archs, M.Owns r a o x ∧
      (M.Overridden r (M.name x) a o ↔ M.PassedBy r (M.name x) a o) := by
  obtain ⟨o, ho, howns⟩ := ok.exists_owner M x a ha hx
  exact ⟨o, ho, howns, ok.overridden_iff ha howns.way⟩

/-- Where records have one base at most, no override is passed by. -/
theorem not_passedBy_of_single (ok : r.Linked) (ha : a ∈ r.archs)
    (hsingle : ∀ d ∈ r.archs, d.baseNames.length ≤ 1) : ¬M.PassedBy r n a o := by
  rintro ⟨d, before, b, hto, htakes, -, c, hc, -⟩
  obtain ⟨hd, -⟩ := ok.way_reaches ha hto
  -- `d` would have two bases, `c` and `b`
  obtain ⟨after, hbases, -⟩ := htakes.last
  have hlength : (r.basesOf d).length ≤ d.bases.length := List.length_filterMap_le _ _
  have hbefore := List.length_pos_of_mem hc
  have hone := hsingle d hd
  rw [ok.declared d hd, hbases, List.length_append, List.length_cons] at hlength
  omega

end Linked

/-- **Which overrides count after linking.** Whatever calls were made of a registry, linking it
with success leaves what was declared. If the registry is frozen nothing changes; otherwise each
member that a record has is that of an owner, and it is overridden on no path to the owner,
except where a base that has the member comes after one for which it is overridden. Where records
have one base at most, there is no such exception. -/
theorem overrides_of_link (cs : List Call) (hl : (empty.performs cs).link.2 = []) :
    let r := empty.performs cs
    let r' := r.link.1
    r'.declarations = r.declarations ∧ (r.frozen = true → r' = r) ∧
      (r.frozen = false → r'.Extends = r.HasBase ∧
        (∀ a ∈ r'.archs, ∀ s ∈ a.effectiveAbilities, ∃ o ∈ r'.archs, s.owner = o.key ∧
          Members.abilities.Owns r' a o s ∧ (Members.abilities.Overridden r' s.name a o ↔
            Members.abilities.PassedBy r' s.name a o)) ∧
        (∀ a ∈ r'.archs, ∀ f ∈ a.effectiveFields, ∃ o ∈ r'.archs,
          Members.fields.Owns r' a o f ∧ (Members.fields.Overridden r' f.name a o ↔
            Members.fields.PassedBy r' f.name a o)) ∧
        ((∀ d ∈ r'.archs, d.baseNames.length ≤ 1) → ∀ a ∈ r'.archs, ∀ o n,
          ¬Members.abilities.PassedBy r' n a o ∧ ¬Members.fields.PassedBy r' n a o)) := by
  intro r r'
  have ok : r.Tidy := tidy_of_calls cs
  refine ⟨link_declarations ok.keys, fun hf => ?_, fun hf => ?_⟩
  · exact congrArg Prod.fst (link_frozen hf)
  · obtain ⟨hlinked, hsteps⟩ := linked_of_link ok hf hl
    refine ⟨hsteps, fun a ha s hs => ?_, fun a ha f hf => hlinked.owned .fields ha hf,
      fun hsingle a ha o n => ⟨hlinked.not_passedBy_of_single ha hsingle,
        hlinked.not_passedBy_of_single ha hsingle⟩⟩
    obtain ⟨o, ho, howns, hover⟩ := hlinked.owned .abilities ha hs
    -- own slots name their record as the owner
    have hown : s ∈ o.abilities := List.mem_reverse.1 (List.mem_of_find?_eq_some howns.own)
    exact ⟨o, ho, ((link_tidy ok).records o ho).owned s hown, howns, hover⟩

/-- A record that extends one with an override and one without. -/
def diamond : List Call :=
  [.declaration "m" ⟨.node, "Base"⟩ ⟨"greet", ⟨[], .entry, []⟩, false⟩,
    .architype "m" ⟨.node, "Mid"⟩ ⟨["Base"], [], false⟩,
    .declaration "m" ⟨.node, "Mid"⟩ ⟨"greet", ⟨[], .entry, []⟩, false⟩,
    .architype "m" ⟨.node, "Side"⟩ ⟨["Base"], [], false⟩,
    .architype "m" ⟨.node, "Bottom"⟩ ⟨["Mid", "Side"], [], false⟩]

/-- Linking the diamond succeeds, and its slots have owners among the records. -/
theorem diamond_owned : (empty.performs diamond).link.2 = [] ∧
    (empty.performs diamond).frozen = false ∧
      ∀ a ∈ (empty.performs diamond).link.1.archs, ∀ s ∈ a.effectiveAbilities,
        ∃ o ∈ (empty.performs diamond).link.1.archs, s.owner = o.key :=
  ⟨rfl, rfl, fun a ha s hs => by
    obtain ⟨o, ho, howner, -⟩ := ((overrides_of_link diamond rfl).2.2 rfl).2.1 a ha s hs
    exact ⟨o, ho, howner⟩⟩

/-- **An override that is undone**: `Bottom` has the slot of `Base`, which `Mid` overrides. -/
theorem diamond_undone : ¬∀ cs : List Call, (empty.performs cs).link.2 = [] →
    ∀ a ∈ (empty.performs cs).link.1.archs, ∀ s ∈ a.effectiveAbilities,
      ∀ o ∈ (empty.performs cs).link.1.archs, s.owner = o.key →
        ¬Members.abilities.Overridden (empty.performs cs).link.1 s.name a o := by
  intro h
  obtain ⟨base, hbase, hbasekey⟩ : ∃ a ∈ (empty.performs diamond).link.1.archs,
      a.key = ⟨.node, "Base"⟩ := ⟨_, .head _, rfl⟩
  obtain ⟨mid, hmid, hmidkey, hgreet⟩ : ∃ a ∈ (empty.performs diamond).link.1.archs,
      a.key = ⟨.node, "Mid"⟩ ∧ a.abilities.map Ability.name = ["greet"] :=
    ⟨_, .tail _ (.head _), rfl, rfl⟩
  obtain ⟨bottom, hbottom, hbottomkey, s, hs, howner, hname⟩ :
      ∃ a ∈ (empty.performs diamond).link.1.archs, a.key = ⟨.node, "Bottom"⟩ ∧
        ∃ s ∈ a.effectiveAbilities, s.owner = ⟨.node, "Base"⟩ ∧ s.name = "greet" :=
    ⟨_, .tail _ (.tail _ (.tail _ (.head _))), rfl, _, .head _, rfl, rfl⟩
  have htomid : (empty.performs diamond).link.1.Extends ⟨.node, "Bottom"⟩ ⟨.node, "Mid"⟩ :=
    ⟨_, .tail _ (.tail _ (.tail _ (.head _))), rfl, "Mid", .head _, rfl⟩
  have htobase : (empty.performs diamond).link.1.Extends ⟨.node, "Mid"⟩ ⟨.node, "Base"⟩ :=
    ⟨_, .tail _ (.head _), rfl, "Base", .head _, rfl⟩
  -- `Mid` lies on the path from `Bottom` to `Base`, and declares the slot
  refine h diamond rfl bottom hbottom s hs base hbase (howner.trans hbasekey.symm) ?_
  have hdeclares : s.name ∈ mid.abilities.map Ability.name := by
    rw [hname, hgreet]
    exact List.mem_singleton_self _
  refine ⟨mid, hmid, hdeclares, ?_, ?_⟩
  · rw [hbottomkey, hmidkey]
    exact .single htomid
  · rw [hmidkey, hbasekey]
    exact .single htobase

end Registry

end GraphWalk
