import GraphWalk.Proofs.Registry.Visit
import GraphWalk.Proofs.Relation.Cycle
import Mathlib.Data.List.Chain
import Mathlib.Data.List.Pairwise

/-!
# Ways to cycles of bases

A `Way` goes from a record over bases and comes back to one that it has been at. Of a record it
takes the first base from which a cycle is reached at all, where what has been done already is
out of bounds (`IsWay`). Ways are reported one after the other, and all that a way has been at is
done after it, also what lies before the cycle (`Reports`). There is one list of such ways
(`Reports.unique`). Every cycle meets one of them, but a cycle that is met by a way to another one
may stay without a report of its own (`Reports.back_iff`).
-/

namespace GraphWalk

namespace Registry

open Relation

variable {r : Registry} {a : Architype} {k k' c x : ArchKey} {V W : Set ArchKey}

/-! ## Cycles that stay off a set -/

/-- The bases of the record of `key`, in order. -/
def baseKeys (r : Registry) (key : ArchKey) : List ArchKey :=
  ((r.find? key).map fun a => a.bases.map (ArchKey.mk a.kind)).getD []

theorem baseKeys_of_find? (h : r.find? k = some a) :
    r.baseKeys k = a.bases.map (ArchKey.mk a.kind) := by
  unfold baseKeys
  rw [h]
  rfl

theorem extends_of_mem (h : k' ∈ r.baseKeys k) : r.Extends k k' := by
  cases ha : r.find? k with
  | none =>
    unfold baseKeys at h
    rw [ha] at h
    cases h
  | some a =>
    rw [baseKeys_of_find? ha] at h
    obtain ⟨n, hn, rfl⟩ := List.mem_map.1 h
    exact ⟨a, find?_mem ha, find?_key ha, n, hn, rfl⟩

theorem Based.mem_baseKeys (ok : r.Based) (h : r.Extends k k') : k' ∈ r.baseKeys k := by
  obtain ⟨a, ha, rfl, n, hn, rfl⟩ := h
  rw [baseKeys_of_find? (ok.find?.2 ⟨ha, rfl⟩)]
  exact List.mem_map_of_mem hn

/-- A step to a base that stays off `W`. -/
def StepsOff (r : Registry) (W : Set ArchKey) (k k' : ArchKey) : Prop :=
  r.Extends k k' ∧ k ∉ W ∧ k' ∉ W

/-- Over bases off `W` one gets from `k` into a cycle. -/
def Caught (r : Registry) (W : Set ArchKey) (k : ArchKey) : Prop :=
  ∃ c, ReflTransGen (r.StepsOff W) k c ∧ TransGen (r.StepsOff W) c c

/-- Either is reached from the other: the two are in one component. -/
def Mutual (r : Registry) (k k' : ArchKey) : Prop :=
  ReflTransGen r.Extends k k' ∧ ReflTransGen r.Extends k' k

theorem stepsOff_le (h : V ⊆ W) : r.StepsOff W ≤ r.StepsOff V :=
  fun _ _ hstep => ⟨hstep.1, fun hm => hstep.2.1 (h hm), fun hm => hstep.2.2 (h hm)⟩

theorem stepsOff_le_extends : r.StepsOff W ≤ r.Extends := fun _ _ hstep => hstep.1

theorem Caught.anti (h : V ⊆ W) (hk : r.Caught W k) : r.Caught V k := by
  obtain ⟨c, hreach, hcycle⟩ := hk
  exact ⟨c, ReflTransGen.mono (stepsOff_le h) _ _ hreach, TransGen.mono (stepsOff_le h) _ _ hcycle⟩

/-- A record is caught if one of its bases is. -/
theorem caught_iff : r.Caught W k ↔ ∃ k', r.StepsOff W k k' ∧ r.Caught W k' := by
  constructor
  · rintro ⟨c, hreach, hcycle⟩
    rcases ReflTransGen.cases_head hreach with rfl | ⟨k', hstep, hreach⟩
    · obtain ⟨k', hstep, hback⟩ := TransGen.head'_iff.1 hcycle
      exact ⟨k', hstep, k, hback, hcycle⟩
    · exact ⟨k', hstep, c, hreach, hcycle⟩
  · rintro ⟨k', hstep, c, hreach, hcycle⟩
    exact ⟨c, hreach.head hstep, hcycle⟩

theorem Caught.not_mem (h : r.Caught W k) : k ∉ W := by
  obtain ⟨k', hstep, -⟩ := caught_iff.1 h
  exact hstep.2.1

theorem Caught.mem_keys (h : r.Caught W k) : k ∈ r.archs.map Architype.key := by
  obtain ⟨k', ⟨⟨a, ha, rfl, -⟩, -⟩, -⟩ := caught_iff.1 h
  exact List.mem_map_of_mem ha

/-- A cycle meets `W`, or there is one off `W`. -/
theorem exists_mutual_mem (hcycle : TransGen r.Extends k k) (hW : ¬r.Caught W k) :
    ∃ x ∈ W, r.Mutual k x := by
  by_contra hno
  have hoff : ∀ x, ReflTransGen r.Extends k x → ReflTransGen r.Extends x k → x ∉ W :=
    fun x hx hback hm => hno ⟨x, hm, hx, hback⟩
  exact hW ⟨k, .refl, cycle_within hoff hcycle⟩

/-! ## Ways -/

/-- The records of a way, from the first to the last, and the one that it comes back to. -/
@[ext]
structure Way where
  keys : List ArchKey
  back : ArchKey

/-- A way with its way back. -/
def Way.loop (w : Way) : List ArchKey := w.keys ++ [w.back]

/-- Of the bases of `k`, `k'` is tried: no cycle off `W` is reached from those before it. -/
def Tries (r : Registry) (W : Set ArchKey) (k k' : ArchKey) : Prop :=
  ∃ pre post, r.baseKeys k = pre ++ k' :: post ∧ ∀ x ∈ pre, ¬r.Caught W x

theorem Tries.extends (h : r.Tries W k k') : r.Extends k k' := by
  obtain ⟨pre, post, hkeys, -⟩ := h
  exact extends_of_mem (hkeys ▸ List.mem_append_right pre List.mem_cons_self)

/-- **A way off `W`** is at no record twice, comes back to one of its own, and takes bases in
the order in which they are tried. -/
structure IsWay (r : Registry) (W : Set ArchKey) (w : Way) : Prop where
  distinct : w.keys.Nodup
  closes : w.back ∈ w.keys
  apart : ∀ k ∈ w.keys, k ∉ W
  tried : w.loop.IsChain (r.Tries W)

theorem IsWay.mem_of_loop {w : Way} (h : r.IsWay W w) (hx : x ∈ w.loop) : x ∈ w.keys := by
  rcases List.mem_append.1 hx with hx | hx
  · exact hx
  · exact List.mem_singleton.1 hx ▸ h.closes

/-- From all along a way one comes to where it ends, off whatever it is off. -/
theorem IsWay.transGen {w : Way} (h : r.IsWay W w) (hV : ∀ x ∈ w.keys, x ∉ V)
    (hk : k ∈ w.keys) : TransGen (r.StepsOff V) k w.back := by
  have hloop : ∀ x ∈ w.loop, x ∉ V := fun x hx => hV x (h.mem_of_loop hx)
  have hsteps : w.loop.IsChain (TransGen (r.StepsOff V)) := by
    refine h.tried.imp_of_mem_imp fun x y hx hy hxy => ?_
    exact .single ⟨hxy.extends, hloop x hx, hloop y hy⟩
  -- reaching is transitive, so what holds of neighbours holds of any two along the way
  have hpairs := List.pairwise_append.1 hsteps.pairwise
  exact hpairs.2.2 k hk w.back (List.mem_singleton_self _)

/-- What is on a way is caught. -/
theorem IsWay.caught {w : Way} (h : r.IsWay W w) (hk : k ∈ w.keys) : r.Caught W k :=
  ⟨w.back, (h.transGen h.apart hk).to_reflTransGen, h.transGen h.apart h.closes⟩

/-- The first of some keys that has a property is one. -/
theorem eq_of_first {P : ArchKey → Prop} {keys pre post pre' post' : List ArchKey}
    (h : keys = pre ++ k :: post) (hpre : ∀ x ∈ pre, ¬P x) (hk : P k)
    (h' : keys = pre' ++ k' :: post') (hpre' : ∀ x ∈ pre', ¬P x) (hk' : P k') : k = k' := by
  classical
  have hfind : ∀ {k : ArchKey} {pre post : List ArchKey}, keys = pre ++ k :: post →
      (∀ x ∈ pre, ¬P x) → P k → keys.find? (fun x => decide (P x)) = some k := by
    intro k pre post h hpre hk
    refine List.find?_eq_some_iff_append.2 ⟨decide_eq_true hk, pre, post, h, ?_⟩
    intro x hx
    simpa using hpre x hx
  have heq := (hfind h hpre hk).symm.trans (hfind h' hpre' hk')
  exact Option.some.inj heq

/-- Chains of steps that leave no choice go on in the same way. -/
theorem prefix_of_isChain {R : ArchKey → ArchKey → Prop}
    (hR : ∀ a b c, R a b → R a c → b = c) (l : List ArchKey) : ∀ l' : List ArchKey,
      l.IsChain R → l'.IsChain R → l.head? = l'.head? → l <+: l' ∨ l' <+: l := by
  induction l with
  | nil => exact fun l' _ _ _ => Or.inl List.nil_prefix
  | cons a l ih =>
    intro l' hl hl' hhead
    cases l' with
    | nil => exact Or.inr List.nil_prefix
    | cons a' l' =>
      obtain rfl : a = a' := Option.some.inj hhead
      cases l with
      | nil => exact Or.inl (List.prefix_append [a] l')
      | cons b l =>
        cases l' with
        | nil => exact Or.inr (List.prefix_append [a] (b :: l))
        | cons b' l' =>
          obtain ⟨hab, hl⟩ := List.isChain_cons_cons.1 hl
          obtain ⟨hab', hl'⟩ := List.isChain_cons_cons.1 hl'
          obtain rfl := hR a b b' hab hab'
          have htail := ih (b :: l') hl hl' rfl
          exact htail.imp (List.prefix_cons_inj a).2 (List.prefix_cons_inj a).2

theorem IsWay.loop_caught {w : Way} (h : r.IsWay W w) :
    w.loop.IsChain fun k k' => r.Tries W k k' ∧ r.Caught W k' :=
  h.tried.imp_of_mem_imp fun _ _ _ hy hxy => ⟨hxy, h.caught (h.mem_of_loop hy)⟩

/-- A way does not go on where another one has come back. -/
theorem IsWay.eq_of_prefix {w w' : Way} (h : r.IsWay W w) (h' : r.IsWay W w')
    (hw : w.loop <+: w'.loop) : w = w' := by
  obtain ⟨rest, hrest⟩ := hw
  rcases List.eq_nil_or_concat rest with rfl | ⟨rest, x, rfl⟩
  · rw [List.append_nil] at hrest
    obtain ⟨hkeys, hback⟩ := List.append_inj' hrest rfl
    exact Way.ext hkeys (List.singleton_inj.1 hback)
  · -- then the record that the first comes back to is twice on the second
    rw [List.concat_eq_append, ← List.append_assoc] at hrest
    obtain ⟨hkeys, -⟩ := List.append_inj' hrest rfl
    have hnodup : (w.loop ++ rest).Nodup := hkeys ▸ h'.distinct
    have hloop := (List.nodup_append.1 hnodup).1
    exact absurd rfl ((List.nodup_append.1 hloop).2.2 _ h.closes _ (List.mem_singleton_self _))

/-- **There is one way** from a record. -/
theorem IsWay.unique {w w' : Way} (h : r.IsWay W w) (h' : r.IsWay W w')
    (hstart : w.loop.head? = w'.loop.head?) : w = w' := by
  have hdet : ∀ a b c, r.Tries W a b ∧ r.Caught W b → r.Tries W a c ∧ r.Caught W c → b = c := by
    rintro a b c ⟨⟨pre, post, hkeys, hpre⟩, hb⟩ ⟨⟨pre', post', hkeys', hpre'⟩, hc⟩
    exact eq_of_first hkeys hpre hb hkeys' hpre' hc
  rcases prefix_of_isChain hdet _ _ h.loop_caught h'.loop_caught hstart with hw | hw
  · exact h.eq_of_prefix h' hw
  · exact (h'.eq_of_prefix h hw).symm

/-- The error that reports a way: it names the record that the way comes back to, the module of
that record, and the names along the way. -/
def wayError (r : Registry) (w : Way) : RegistryError :=
  .issue .inheritanceCycle (.arch w.back) (((r.find? w.back).map Architype.module).getD "")
    (" -> ".intercalate (w.loop.map ArchKey.name))

/-! ## Reports -/

/-- **The ways that are reported** off `W`, one after the other: each starts at the first record
that is caught, and what it has been at is out of bounds for the next. -/
inductive Reports (r : Registry) : Set ArchKey → List Way → Prop
  | done {W : Set ArchKey} (h : ∀ k ∈ r.archs.map Architype.key, ¬r.Caught W k) : Reports r W []
  | next {W : Set ArchKey} {w : Way} {ws : List Way} {pre post : List ArchKey} {k : ArchKey}
      (hkeys : r.archs.map Architype.key = pre ++ k :: post) (hpre : ∀ x ∈ pre, ¬r.Caught W x)
      (hstart : w.loop.head? = some k) (hway : r.IsWay W w)
      (hrest : Reports r ({x | x ∈ w.keys} ∪ W) ws) : Reports r W (w :: ws)

/-- All that the ways have been at. -/
def along (ws : List Way) : Set ArchKey := {x | ∃ w ∈ ws, x ∈ w.keys}

namespace Reports

variable {w : Way} {ws : List Way}

theorem isWay (h : r.Reports W ws) : ∀ w ∈ ws, ∃ V, W ⊆ V ∧ r.IsWay V w := by
  induction h with
  | done h => exact fun w hw => nomatch hw
  | next hkeys hpre hstart hway hrest ih =>
    intro w' hw'
    rcases List.mem_cons.1 hw' with rfl | hw'
    · exact ⟨_, subset_rfl, hway⟩
    · obtain ⟨V, hV, hway'⟩ := ih w' hw'
      exact ⟨V, Set.subset_union_right.trans hV, hway'⟩

theorem start_caught {k : ArchKey} (hstart : w.loop.head? = some k) (hway : r.IsWay W w) :
    r.Caught W k :=
  hway.caught (hway.mem_of_loop (List.mem_of_mem_head? hstart))

/-- **What is reported is settled** by the records and the order of their bases. -/
theorem unique (h : r.Reports W ws) : ∀ {ws' : List Way}, r.Reports W ws' → ws = ws' := by
  induction h with
  | done hnone =>
    intro ws' h'
    cases h' with
    | done _ => rfl
    | next hkeys _ hstart hway _ =>
      exact absurd (start_caught hstart hway)
        (hnone _ (hkeys ▸ List.mem_append_right _ List.mem_cons_self))
  | next hkeys hpre hstart hway _ ih =>
    intro ws' h'
    cases h' with
    | done hnone =>
      exact absurd (start_caught hstart hway)
        (hnone _ (hkeys ▸ List.mem_append_right _ List.mem_cons_self))
    | next hkeys' hpre' hstart' hway' hrest' =>
      have hk := eq_of_first hkeys hpre (start_caught hstart hway) hkeys' hpre'
        (start_caught hstart' hway')
      obtain rfl := hway.unique hway' (by rw [hstart, hstart', hk])
      rw [ih hrest']

/-- No two ways meet. -/
theorem disjoint (h : r.Reports W ws) :
    ws.Pairwise fun w w' => ∀ x ∈ w.keys, x ∉ w'.keys := by
  induction h with
  | done h => exact List.Pairwise.nil
  | next hkeys hpre hstart hway hrest ih =>
    refine List.pairwise_cons.2 ⟨fun w' hw' x hx hx' => ?_, ih⟩
    -- a later way is off all that an earlier one has been at
    obtain ⟨V, hV, hway'⟩ := hrest.isWay w' hw'
    exact hway'.apart x hx' (hV (Or.inl hx))

/-- Every cycle meets a way. -/
theorem spared (h : r.Reports W ws) : ∀ k, ¬r.Caught (along ws ∪ W) k := by
  induction h with
  | done h => exact fun k hk => h k hk.mem_keys (hk.anti Set.subset_union_right)
  | next hkeys hpre hstart hway hrest ih =>
    refine fun k hk => ih k (hk.anti ?_)
    rintro x (⟨w', hw', hx⟩ | hx | hx)
    · exact Or.inl ⟨w', List.mem_cons_of_mem _ hw', hx⟩
    · exact Or.inl ⟨_, List.mem_cons_self, hx⟩
    · exact Or.inr hx

/-- A way ends on a cycle, which is reached from all along it. -/
theorem cycle (h : r.Reports W ws) (hw : w ∈ ws) (hk : k ∈ w.keys) :
    TransGen r.Extends w.back w.back ∧ ReflTransGen r.Extends k w.back := by
  obtain ⟨V, -, hway⟩ := h.isWay w hw
  have hcycle := hway.transGen hway.apart hway.closes
  have hreach := (hway.transGen hway.apart hk).to_reflTransGen
  exact ⟨TransGen.mono stepsOff_le_extends _ _ hcycle,
    ReflTransGen.mono stepsOff_le_extends _ _ hreach⟩

/-- From every cycle one comes to a cycle that is reported. -/
theorem exists_back (h : r.Reports ∅ ws) (hcycle : TransGen r.Extends k k) :
    ∃ w ∈ ws, ReflTransGen r.Extends k w.back := by
  have hspared := h.spared k
  rw [Set.union_empty] at hspared
  obtain ⟨x, ⟨w, hw, hx⟩, hkx, -⟩ := exists_mutual_mem hcycle hspared
  exact ⟨w, hw, hkx.trans (h.cycle hw hx).2⟩

/-- **A component is reported** exactly if it has a cycle that is met by no way to a cycle of
another component. -/
theorem back_iff (h : r.Reports ∅ ws) (k : ArchKey) : (∃ w ∈ ws, r.Mutual k w.back) ↔
    ∃ c, r.Mutual k c ∧
      TransGen (r.StepsOff {x | ∃ w ∈ ws, ¬r.Mutual k w.back ∧ x ∈ w.keys}) c c := by
  constructor
  · rintro ⟨w, hw, hmutual⟩
    obtain ⟨V, -, hway⟩ := h.isWay w hw
    refine ⟨w.back, hmutual, hway.transGen ?_ hway.closes⟩
    -- no other way meets this one
    rintro x hx ⟨w', hw', hother, hx'⟩
    have hne : w ≠ w' := fun heq => hother (heq ▸ hmutual)
    have : Std.Symm fun w w' : Way => ∀ x ∈ w.keys, x ∉ w'.keys :=
      ⟨fun _ _ hd x hx hx' => hd x hx' hx⟩
    exact h.disjoint.forall hw hw' hne x hx hx'
  · rintro ⟨c, -, hcycle⟩
    -- otherwise all ways go to other components, and the cycle is off all of them
    by_contra hno
    have hothers : along ws ∪ ∅ ⊆ {x | ∃ w ∈ ws, ¬r.Mutual k w.back ∧ x ∈ w.keys} := by
      rintro x (⟨w, hw, hx⟩ | hx)
      · exact ⟨w, hw, fun hmutual => hno ⟨w, hw, hmutual⟩, hx⟩
      · exact absurd hx (Set.notMem_empty x)
    exact h.spared c (Caught.anti hothers ⟨c, .refl, hcycle⟩)

end Reports

end Registry

end GraphWalk
