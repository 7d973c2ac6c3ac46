import GraphWalk.Proofs.Handle.Text
import GraphWalk.Proofs.Walker.Outcome
import GraphWalk.Proofs.Walker.Told

/-!
# The story of a walker

Walkers are told apart by the names they are given, so no two of these may be equal
(`Named`). `Tale` says what the story of a walker is, by the traces of its steps, and that it
agrees with what the walker has on record. `act_tells` adds the step that a command takes to the
story of its walker and leaves all other stories alone; `acts_tells` does so along a run.

Main result: `told_of_run`. **The story of a walker is its spawning and the traces of the steps
it has taken**, with an ending in the last one just if the walker has ended.
-/

namespace GraphWalk

namespace Engine

variable {e : Engine} {w : Walker} {i : Nat} {ts : List StepTrace}

/-- What a step tells of its walker. -/
def Stepped.told (s : Stepped) : List Moment :=
  (s.result.1.engine.story s.walker.id).drop (s.engine.story s.walker.id).length

theorem Stepped.told_eq {s : Stepped} (here : Fields) {ms : List Moment}
    (h : (⟨s.engine, s.walker, here⟩ : Visit).Told ms s.result.1) : s.told = ms := by
  unfold Stepped.told
  rw [h.story, if_pos rfl, List.drop_left]

/-- A step that is not taken changes nothing. -/
theorem Stepped.rests_result {s : Stepped} (ht : s.isTaken = false) :
    s.result.1 = ⟨s.engine, s.walker, .empty⟩ := by
  refine (stepWalker_rests ?_).1
  unfold isTaken at ht
  cases hc : s.walker.state.isTerminal
  · rw [hc] at ht
    exact Or.inr (by simpa using ht)
  · exact Or.inl rfl

/-- So it tells nothing. -/
theorem Stepped.told_rests {s : Stepped} (ht : s.isTaken = false) : s.told = [] :=
  told_eq .empty (by rw [rests_result ht]; exact .of_signals rfl rfl rfl rfl)

/-- **What a step tells** is of its walker alone and goes on record, and a step that is taken
tells one trace. -/
theorem Stepped.recounts {s : Stepped} (held : s.engine.Held) (hw : s.walker ∈ s.engine.walkers) :
    (⟨s.engine, s.walker, .empty⟩ : Visit).Recounts s.told s.result.1 ∧
      (s.isTaken = true → ∃ t : StepTrace, s.told = t.moments ∧
        t.ending.map (·.1.state) = s.result.1.walker.state.ended?) := by
  cases ht : s.isTaken with
  | false =>
    refine ⟨?_, fun h => by cases h⟩
    rw [told_rests ht, (rests_result ht)]
    exact .refl _
  | true =>
    obtain ⟨e, cancelled, w⟩ := s
    simp only [isTaken, Bool.and_eq_true, Bool.not_eq_true'] at ht
    obtain ⟨ha, rfl⟩ := ht
    obtain ⟨inst, hi⟩ := held.instanceAt hw ha
    obtain ⟨t, hr, he⟩ := stepWalker_recounts ha hi
    have htold := told_eq (s := ⟨e, false, w⟩) _ hr.toTold
    exact ⟨htold ▸ hr, fun _ => ⟨t, htold, he⟩⟩

/-! ## The names of walkers -/

/-- Walkers have the names that are given one after the other, no two of them equal, and
nothing has been told under a name that is still to be given. -/
structure Named (e : Engine) : Prop where
  unique : Function.Injective e.surroundings.walkerId
  count : e.named = e.walkers.length
  ids : ∀ {i w}, e.walkers[i]? = some w → w.id = e.surroundings.walkerId i
  unborn : ∀ {i}, e.walkers.length ≤ i → e.story (e.surroundings.walkerId i) = []

theorem Named.ne (hn : e.Named) {i j : Nat} {w w' : Walker} (hw : e.walkers[i]? = some w)
    (hw' : e.walkers[j]? = some w') (hij : i ≠ j) : w.id ≠ w'.id := by
  rw [hn.ids hw, hn.ids hw']
  exact fun h => hij (hn.unique h)

/-- What spawning a walker tells, and what the new walker has on record. -/
theorem spawn_told {e' : Engine} {a : Architype} {start : Handle} {args : List (String × Value)}
    (hs : e.spawn a start args = .ok (e', w)) :
    w.id = e.surroundings.walkerId e.named ∧ e'.named = e.named + 1 ∧
      e'.surroundings = e.surroundings ∧ w.steps = 0 ∧ w.reports = [] ∧ w.faults = [] ∧
      ∀ id, e'.story id = e.story id ++ if id = w.id then [.spawn] else [] := by
  obtain ⟨fields, s, -, -, rfl, rfl⟩ := spawn_eq_ok hs
  refine ⟨rfl, rfl, rfl, rfl, rfl, rfl, fun id => ?_⟩
  rw [story_observed, story_logged]
  rfl

/-- What a step changes in the engine but for the graph. -/
theorem act_step_told (held : e.Held) (cancelled : Bool) {j : Nat} (hw : e.walkers[j]? = some w) :
    (e.act (.step cancelled j)).named = e.named ∧
      (e.act (.step cancelled j)).surroundings = e.surroundings ∧
      (e.act (.step cancelled j)).walkers.length = e.walkers.length ∧
      ∀ id, (e.act (.step cancelled j)).story id =
        e.story id ++ if id = w.id then Stepped.told ⟨e, cancelled, w⟩ else [] := by
  have hr := (Stepped.recounts (s := ⟨e, cancelled, w⟩) held (List.mem_of_getElem? hw)).1
  rw [act_step, hw]
  refine ⟨hr.named, hr.surroundings, ?_, hr.story⟩
  simp only [List.length_set, stepWalker_walkers]

/-- **One command keeps the names apart.** -/
theorem act_named (hn : e.Named) (held : e.Held) (c : Command) : (e.act c).Named := by
  cases c with
  | spawn a start args =>
    unfold act
    simp only
    split
    · rename_i e' w hs
      obtain ⟨-, -, -, hws, -, -⟩ := spawn_eq hs
      obtain ⟨hid, hnamed, hsur, -, -, -, hstory⟩ := spawn_told hs
      refine ⟨hsur ▸ hn.unique, ?_, fun {i x} hx => ?_, fun {i} hi => ?_⟩
      · rw [hnamed, hn.count, hws, List.length_append, List.length_singleton]
      · rw [hsur]
        rw [hws] at hx
        rcases Nat.lt_or_ge i e.walkers.length with hlt | hge
        · rw [List.getElem?_append_left hlt] at hx
          exact hn.ids hx
        · obtain ⟨hlt, -⟩ := List.getElem?_eq_some_iff.1 hx
          rw [List.length_append, List.length_singleton] at hlt
          have hi : i = e.walkers.length := by omega
          subst hi
          rw [List.getElem?_concat_length] at hx
          cases hx
          rw [hid, hn.count]
      · rw [hws, List.length_append, List.length_singleton] at hi
        rw [hsur, hstory, hn.unborn (by omega), if_neg]
        · rfl
        · rw [hid, hn.count]
          exact fun h => absurd (hn.unique h) (by omega)
    · exact hn
  | step cancelled j =>
    cases hw : e.walkers[j]? with
    | none =>
      rw [act_step, hw]
      exact hn
    | some w =>
      obtain ⟨hnamed, hsur, hlen, hstory⟩ := act_step_told held cancelled hw
      refine ⟨hsur ▸ hn.unique, ?_, fun {i x} hx => ?_, fun {i} hi => ?_⟩
      · rw [hnamed, hlen, hn.count]
      · rw [hsur]
        rw [act_step_walkers] at hx
        split at hx
        · rename_i hij
          subst hij
          rw [hw] at hx
          cases hx
          have hr := (Stepped.recounts (s := ⟨e, cancelled, w⟩) held (List.mem_of_getElem? hw)).1
          exact hr.id.trans (hn.ids hw)
        · exact hn.ids hx
      · rw [hlen] at hi
        obtain ⟨hlt, -⟩ := List.getElem?_eq_some_iff.1 hw
        rw [hsur, hstory, hn.unborn hi, if_neg]
        · rfl
        · rw [hn.ids hw]
          exact fun h => absurd (hn.unique h) (by omega)
  | edit ed => exact ⟨hn.unique, hn.count, hn.ids, hn.unborn⟩

/-! ## The story along a run -/

/-- **The story of a walker** and what it has on record, by the traces of its steps. -/
structure Tale (ts : List StepTrace) (ms : List Moment) (w : Walker) : Prop where
  moments : ms = .spawn :: ts.flatMap StepTrace.moments
  /-- Only the last step may have ended the walker. -/
  unended : ∀ t ∈ ts.dropLast, t.ending = none
  /-- It has done so just if the walker has ended, and as its state says. -/
  ending : (ts.getLast?.bind StepTrace.ending).map (·.1.state) = w.state.ended?
  visits : ms.countP Moment.isVisit = w.steps
  reports : ms.filterMap Moment.value? = w.reports
  errors : ms.filterMap Moment.error? = w.faults

/-- **One more step** is one more trace. -/
theorem Tale.add {ms : List Moment} {v : Visit} {t : StepTrace} (h : Tale ts ms w)
    (ha : w.state.isTerminal = false) (hr : (⟨e, w, .empty⟩ : Visit).Recounts t.moments v)
    (ht : t.ending.map (·.1.state) = v.walker.state.ended?) :
    Tale (ts ++ [t]) (ms ++ t.moments) v.walker := by
  have hnone : (ts.getLast?.bind StepTrace.ending) = none := by
    have he := h.ending
    unfold WalkerState.ended? at he
    rw [ha, if_neg Bool.false_ne_true, Option.map_eq_none_iff] at he
    exact he
  refine ⟨?_, fun t' hm => ?_, ?_, ?_, ?_, ?_⟩
  · rw [h.moments, List.flatMap_append, List.flatMap_singleton, List.cons_append]
  · -- the walker had not ended before, so the step that was the last one has no ending either
    rw [List.dropLast_concat] at hm
    by_cases hts : ts = []
    · subst hts; cases hm
    · rw [← List.dropLast_append_getLast hts, List.mem_append, List.mem_singleton] at hm
      rcases hm with hm | rfl
      · exact h.unended t' hm
      · rwa [List.getLast?_eq_some_getLast hts] at hnone
  · rw [List.getLast?_concat]
    exact ht
  · rw [List.countP_append, h.visits]
    exact hr.steps.symm
  · rw [List.filterMap_append, h.reports]
    exact hr.reports.symm
  · rw [List.filterMap_append, h.errors]
    exact hr.faults.symm

/-- The story of walker `i` has these steps; there are none as long as there is no walker. -/
def Tells (e : Engine) (i : Nat) (ts : List StepTrace) : Prop :=
  (∀ w, e.walkers[i]? = some w → Tale ts (e.story w.id) w) ∧ (e.walkers[i]? = none → ts = [])

/-- What happens to other walkers is no part of the story. -/
theorem Tells.congr {e' : Engine} (h : e.Tells i ts) (hw : e'.walkers[i]? = e.walkers[i]?)
    (hs : ∀ w, e.walkers[i]? = some w → e'.story w.id = e.story w.id) : e'.Tells i ts := by
  refine ⟨fun w hw' => ?_, fun hw' => h.2 (hw ▸ hw')⟩
  rw [hw] at hw'
  rw [hs w hw']
  exact h.1 w hw'

theorem spawn_tells (hn : e.Named) (h : e.Tells i ts) {e' : Engine} {a : Architype}
    {start : Handle} {args : List (String × Value)} (hs : e.spawn a start args = .ok (e', w)) :
    e'.Tells i ts := by
  obtain ⟨-, -, -, hws, -, hstate⟩ := spawn_eq hs
  obtain ⟨hid, -, -, hsteps, hreports, hfaults, hstory⟩ := spawn_told hs
  by_cases hi : i = e.walkers.length
  · -- the story of the new walker begins
    have hts : ts = [] := h.2 (by rw [hi]; exact List.getElem?_eq_none (Nat.le_refl _))
    subst hts hi
    have hempty : e.story w.id = [] := by
      rw [hid, hn.count]
      exact hn.unborn (Nat.le_refl _)
    refine ⟨fun x hx => ?_, fun _ => rfl⟩
    rw [hws, List.getElem?_concat_length] at hx
    cases hx
    rw [hstory, hempty, if_pos rfl]
    refine ⟨rfl, fun t hm => ?_, ?_, hsteps.symm, hreports.symm, hfaults.symm⟩
    · cases hm
    · rw [hstate]
      rfl
  · refine h.congr ?_ fun x hx => ?_
    · rw [hws]
      rcases Nat.lt_or_ge i e.walkers.length with hlt | hge
      · rw [List.getElem?_append_left hlt]
      · rw [List.getElem?_eq_none hge, List.getElem?_eq_none]
        rw [List.length_append, List.length_singleton]
        omega
    · rw [hstory, if_neg, List.append_nil]
      rw [hn.ids hx, hid, hn.count]
      exact fun h => hi (hn.unique h)

/-- The traces of the steps that are taken, in their order. -/
abbrev TracesOf (ss : List Stepped) (ts : List StepTrace) : Prop :=
  List.Forall₂ (fun s t => s.told = t.moments) (ss.filter Stepped.isTaken) ts

/-- A walker's own step adds its trace, if it is taken. -/
theorem step_tells (held : e.Held) (h : e.Tells i ts) (cancelled : Bool)
    (hw : e.walkers[i]? = some w) :
    ∃ ts', TracesOf [⟨e, cancelled, w⟩] ts' ∧ (e.act (.step cancelled i)).Tells i (ts ++ ts') := by
  obtain ⟨-, -, -, hstory⟩ := act_step_told held cancelled hw
  let s : Stepped := ⟨e, cancelled, w⟩
  obtain ⟨hr, htaken⟩ := Stepped.recounts (s := s) held (List.mem_of_getElem? hw)
  have hafter : (e.act (.step cancelled i)).walkers[i]? = some s.result.1.walker := by
    rw [act_step_walkers, if_pos rfl, hw]
    rfl
  cases ht : s.isTaken with
  | false =>
    -- the walker rests, and nothing is told
    have hrest : s.result.1.walker = w := by rw [Stepped.rests_result ht]
    refine ⟨[], ?_, ?_⟩
    · unfold TracesOf
      rw [List.filter_cons_of_neg (by rw [ht]; exact Bool.false_ne_true)]
      exact .nil
    · rw [List.append_nil]
      refine h.congr (by rw [hafter, hrest, hw]) fun x hx => ?_
      rw [hw] at hx
      cases hx
      rw [hstory, if_pos rfl, Stepped.told_rests ht, List.append_nil]
  | true =>
    obtain ⟨t, htold, hending⟩ := htaken ht
    have ha : w.state.isTerminal = false := by
      simp only [Stepped.isTaken, Bool.and_eq_true, Bool.not_eq_true'] at ht
      exact ht.1
    refine ⟨[t], ?_, fun x hx => ?_, fun hx => ?_⟩
    · unfold TracesOf
      rw [List.filter_cons_of_pos ht]
      exact .cons htold .nil
    · rw [hafter] at hx
      cases hx
      rw [hr.id, hstory, if_pos rfl, htold]
      exact (h.1 w hw).add ha (htold ▸ hr) hending
    · rw [hafter] at hx
      cases hx

/-- **One command** adds the step that it takes to the story of its walker. -/
theorem act_tells (hn : e.Named) (held : e.Held) (h : e.Tells i ts) (c : Command) :
    ∃ ts', TracesOf (e.stepped i c) ts' ∧ (e.act c).Tells i (ts ++ ts') := by
  have untold : ∀ {e' : Engine}, e'.Tells i ts → ∃ ts', TracesOf [] ts' ∧ e'.Tells i (ts ++ ts') :=
    fun h => ⟨[], .nil, by rwa [List.append_nil]⟩
  cases c with
  | spawn a start args =>
    simp only [act, stepped]
    split
    · rename_i hs
      exact untold (spawn_tells hn h hs)
    · exact untold h
  | edit ed => exact untold (h.congr rfl fun _ _ => rfl)
  | step cancelled j =>
    simp only [stepped]
    by_cases hij : j = i
    · subst hij
      rw [if_pos rfl]
      cases hw : e.walkers[j]? with
      | none =>
        rw [act_step, hw]
        exact untold h
      | some w => exact step_tells held h cancelled hw
    · -- the step of another walker is told of that walker only
      rw [if_neg hij]
      refine untold (h.congr (by rw [act_step_walkers, if_neg hij]) fun x hx => ?_)
      cases hw : e.walkers[j]? with
      | none => rw [act_step, hw]
      | some w =>
        obtain ⟨-, -, -, hstory⟩ := act_step_told held cancelled hw
        rw [hstory, if_neg (hn.ne hx hw (Ne.symm hij)), List.append_nil]

/-- **A run** adds all the steps that are taken to the story of their walker. -/
theorem acts_tells (cs : List Command) :
    ∀ {e : Engine} {ts : List StepTrace}, e.Named → e.Held → e.Tells i ts →
      ∃ ts', TracesOf (stepsOf i e cs) ts' ∧ (e.acts cs).Tells i (ts ++ ts') := by
  induction cs with
  | nil => exact fun _ _ h => ⟨[], .nil, by rwa [List.append_nil]⟩
  | cons c cs ih =>
    intro e ts hn held h
    obtain ⟨ts₁, hstep, h₁⟩ := act_tells hn held h c
    obtain ⟨ts₂, hrest, h₂⟩ := ih (act_named hn held c) (act_held held c) h₁
    refine ⟨ts₁ ++ ts₂, ?_, by rwa [List.append_assoc] at h₂⟩
    unfold stepsOf TracesOf
    rw [List.filter_append]
    exact List.rel_append hstep hrest

theorem new_named {registry : Registry} {globals : Option GlobalTable} {haltOnError : Bool}
    {surroundings : Surroundings} (unique : Function.Injective surroundings.walkerId) :
    (new registry globals haltOnError surroundings).Named :=
  ⟨unique, rfl, (fun h => nomatch h), fun _ => rfl⟩

/-- **The story of a walker**, in every state of every run from a new engine, whatever the
bodies do: the spawning, then one trace for each step that was neither cancelled nor found the
walker ended, in order; other steps tell nothing. The last trace has an ending just if the
walker has ended, and as its state says; no other trace has one. The visits that are told are
as many as the walker has made steps, and the reports and errors are those it has on record.
`unique` says that no two walkers are given one name. -/
theorem told_of_run (registry : Registry) (globals : Option GlobalTable) (haltOnError : Bool)
    (surroundings : Surroundings) (unique : Function.Injective surroundings.walkerId)
    (cs : List Command) (i : Nat) (w : Walker)
    (hw : ((new registry globals haltOnError surroundings).acts cs).walkers[i]? = some w) :
    let steps := stepsOf i (new registry globals haltOnError surroundings) cs
    ∃ ts, List.Forall₂ (fun s t => s.told = t.moments) (steps.filter Stepped.isTaken) ts ∧
      (∀ s ∈ steps, s.isTaken = false → s.told = []) ∧
      Tale ts (((new registry globals haltOnError surroundings).acts cs).story w.id) w := by
  intro steps
  have hnew : (new registry globals haltOnError surroundings).Tells i [] :=
    ⟨(fun w hw => nomatch hw), fun _ => rfl⟩
  obtain ⟨ts, htraces, h⟩ := acts_tells cs (new_named unique) new_held hnew
  exact ⟨ts, htraces, fun s _ => Stepped.told_rests, h.1 w hw⟩

/-- The names that are given if nothing else is said are all different. -/
theorem default_walkerId_injective : Function.Injective (default : Surroundings).walkerId := by
  intro m n h
  have hdigits : ("w" ++ toString m).toList = ("w" ++ toString n).toList := congrArg String.toList h
  simp only [String.toList_append, List.append_cancel_left_eq, Nat.toString_eq_repr,
    Nat.repr_eq_ofList_toDigits, String.toList_ofList] at hdigits
  exact Handle.toDigits_inj hdigits

/-- A walker whose first body reports, sends it on and then fails; of the two nodes it is sent
to it ignores the one. Meanwhile another walker takes its step, and two steps are not taken. -/
def errand : List Command :=
  let node := Architype.new "m" ⟨.node, "N"⟩
  let greet : Ability :=
    { name := "greet", signature := ⟨[], .entry, []⟩, isAbstract := false,
      bound := some (⟨.native, fun o => do
        Program.report (.bool true)
        if o.position = .node 0 1 then
          Program.visit false [.node 1 1, .node 2 1]
          Program.ignore [.node 1 1]
          Program.fail (.text "lost")⟩, "m"),
      declModule := "m", order := 0, owner := ⟨.walker, "W"⟩ }
  let walker := { Architype.new "m" ⟨.walker, "W"⟩ with linkedAbilities := [greet] }
  List.replicate 3 (.edit (.createNode node [])) ++
    [.spawn walker (.node 0 1) [], .spawn walker (.node 1 1) [], .step false 0, .step true 0,
      .step false 1, .step false 0, .step false 0]

theorem told_errand :
    let e := (new .empty none false default).acts errand
    let steps := stepsOf 0 (new .empty none false default) errand
    Function.Injective (default : Surroundings).walkerId ∧
    ∃ w, e.walkers[0]? = some w ∧
      (e.story w.id).map Moment.kind = ["spawn", "visit", "ability", "report", "error", "skip",
        "visit", "ability", "report", "complete"] ∧
      ∃ ts, List.Forall₂ (fun s t => s.told = t.moments) (steps.filter Stepped.isTaken) ts ∧
        (∀ s ∈ steps, s.isTaken = false → s.told = []) ∧ Tale ts (e.story w.id) w := by
  refine ⟨default_walkerId_injective, _, rfl, by decide +kernel, ?_⟩
  exact told_of_run .empty none false default default_walkerId_injective errand 0 _ rfl

end Engine

end GraphWalk
