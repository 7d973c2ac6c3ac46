import GraphWalk.Proofs.Time.Text
import Mathlib.Data.List.DropRight

/-!
# The short text of an instant

The layout without zeros at the end of a part of a second leaves out the point as well when
nothing stands behind it. Such a text is read back (`parse?_shortText`), but it does not sort
like the instant: the letter behind the digits is greater than each digit and than the point,
so a text comes behind all those whose digits go on where its own end (`Begins`).

Main result: `shortText_lt_iff`. **Two short texts sort like their instants** just if they do
not begin each other in this way; otherwise they sort the other way round.
-/

namespace GraphWalk.Instant

variable {t u : Instant}

/-- The digits of a part of a second without the zeros at the end. -/
def fraction (t : Instant) : List Char := (digits 9 t.nanos).rdropWhile (· = '0')

/-- What stands behind the seconds. -/
def shortTail (fs : List Char) : List Char := if fs = [] then ['Z'] else '.' :: (fs ++ ['Z'])

/-- `u` lies in the second of `t`, and its digits go on where those of `t` end. -/
def Begins (t u : Instant) : Prop := t.seconds = u.seconds ∧ t.fraction <+: u.fraction

instance (t u : Instant) : Decidable (Begins t u) := inferInstanceAs (Decidable (_ ∧ _))

/-! ### Zeros at the end -/

/-- What has been left out are zeros. -/
theorem exists_fraction_append (t : Instant) :
    ∃ n, digits 9 t.nanos = t.fraction ++ List.replicate n '0' := by
  have hzeros : ∀ c ∈ (digits 9 t.nanos).rtakeWhile (· = '0'), c = '0' := fun c hc => by
    simpa using List.mem_rtakeWhile_imp hc
  refine ⟨((digits 9 t.nanos).rtakeWhile (· = '0')).length, ?_⟩
  rw [← List.eq_replicate_of_mem hzeros, fraction, List.rdropWhile_append_rtakeWhile]

theorem isDigit_of_mem_fraction {c : Char} (hc : c ∈ t.fraction) : c.isDigit :=
  isDigit_of_mem_digits ((List.rdropWhile_prefix _ _).subset hc)

theorem digits_inj {w m n : Nat} (hm : m < 10 ^ w) (hn : n < 10 ^ w)
    (h : digits w m = digits w n) : m = n := by
  rw [← foldl_digits hm, h, foldl_digits hn]

theorem fraction_eq_nil_iff (h : t.nanos < 10 ^ 9) : t.fraction = [] ↔ t.nanos = 0 := by
  constructor
  · intro hnil
    obtain ⟨n, hn⟩ := exists_fraction_append t
    have hlen := congrArg List.length hn
    rw [hnil, List.nil_append] at hn hlen
    rw [length_digits, List.length_replicate] at hlen
    refine digits_inj h (by decide) ?_
    rw [hn, ← hlen, digits_zero]
  · intro hzero
    rw [fraction, hzero, List.rdropWhile_eq_nil_iff, digits_zero]
    exact fun c hc => decide_eq_true (List.eq_of_mem_replicate hc)

theorem InRange.toList_shortText (h : t.InRange) :
    t.shortText.toList = t.wholeText.toList ++ shortTail t.fraction := by
  have hpadded := toList_padded_of_lt (w := 8) (show t.nanos < 10 ^ 9 from h.nanos)
  by_cases hzero : t.nanos = 0
  · rw [shortText, if_pos hzero, shortTail, if_pos ((fraction_eq_nil_iff h.nanos).2 hzero),
      String.toList_append]
    rfl
  · rw [shortText, if_neg hzero, shortTail,
      if_neg fun hnil => hzero ((fraction_eq_nil_iff h.nanos).1 hnil)]
    simp only [hpadded, String.toList_append, String.toList_ofList, List.append_assoc]
    rfl

/-! ### The order of short texts -/

/-- Two lists begin each other, or they differ at some place. -/
theorem prefix_or_differ (a b : List Char) : a <+: b ∨ b <+: a ∨
    ∃ p c d x y, a = p ++ c :: x ∧ b = p ++ d :: y ∧ c ≠ d := by
  induction a generalizing b with
  | nil => exact .inl List.nil_prefix
  | cons c a ih =>
    obtain _ | ⟨d, b⟩ := b
    · exact .inr (.inl List.nil_prefix)
    · by_cases hcd : c = d
      · subst hcd
        simp only [List.cons_prefix_cons, true_and]
        rcases ih b with h | h | ⟨p, c', d', x, y, rfl, rfl, hne⟩
        · exact .inl h
        · exact .inr (.inl h)
        · exact .inr (.inr ⟨c :: p, c', d', x, y, rfl, rfl, hne⟩)
      · exact .inr (.inr ⟨[], c, d, a, b, rfl, rfl, hcd⟩)

theorem lt_of_append_lt {p x y : List Char} (h : p ++ x < p ++ y) : x < y := by
  induction p with
  | nil => exact h
  | cons c p ih =>
    rcases List.cons_lt_cons_iff.1 h with hlt | ⟨-, hlt⟩
    · exact absurd hlt (Char.lt_irrefl c)
    · exact ih hlt

/-- No digits are less than as many zeros. -/
theorem not_lt_zeros {x : List Char} (hx : ∀ c ∈ x, '0' ≤ c) :
    ¬ x < List.replicate x.length '0' := by
  induction x with
  | nil => exact List.lt_irrefl _
  | cons c x ih =>
    rw [List.length_cons, List.replicate_succ, List.cons_lt_cons_iff]
    rintro (hlt | ⟨-, hlt⟩)
    · exact Char.not_le.2 hlt (hx c List.mem_cons_self)
    · exact ih (fun c hc => hx c (List.mem_cons_of_mem _ hc)) hlt

/-- The greater of two parts of a second does not begin the other one. -/
theorem not_prefix_of_lt (hu : u.nanos < 10 ^ 9) (h : t.nanos < u.nanos) :
    ¬ u.fraction <+: t.fraction := by
  rintro ⟨x, hx⟩
  obtain ⟨m, hm⟩ := exists_fraction_append t
  obtain ⟨n, hn⟩ := exists_fraction_append u
  have hlt := digits_lt h hu
  have hlen : (x ++ List.replicate m '0').length = n := by
    have hm' := congrArg List.length hm
    have hn' := congrArg List.length hn
    simp only [← hx, length_digits, List.length_append, List.length_replicate] at hm' hn' ⊢
    omega
  rw [hm, hn, ← hx, List.append_assoc] at hlt
  refine not_lt_zeros (x := x ++ List.replicate m '0') (fun c hc => ?_) ?_
  · rcases List.mem_append.1 hc with hc | hc
    · have hdigit := isDigit_of_mem_fraction (t := t) (hx ▸ List.mem_append_right _ hc)
      exact (by simpa [Char.isDigit, Char.le_def] using hdigit : _ ∧ _).1
    · obtain rfl := List.eq_of_mem_replicate hc
      decide
  · rw [hlen]
    exact lt_of_append_lt hlt

/-- A digit is less than the letter behind the digits. -/
theorem lt_Z_of_isDigit {c : Char} (h : c.isDigit) : c < 'Z' := by
  simp only [Char.isDigit, Bool.and_eq_true, decide_eq_true_eq] at h
  exact UInt32.lt_of_le_of_lt h.2 (by decide)

/-- **Digits that go on** come first. -/
theorem shortTail_lt_of_longer {a b : List Char} (hb : ∀ c ∈ b, c.isDigit) (h : a <+: b)
    (hne : a ≠ b) : shortTail b < shortTail a := by
  obtain ⟨r, rfl⟩ := h
  obtain _ | ⟨c, r⟩ := r
  · exact absurd (List.append_nil a).symm hne
  · have hc := lt_Z_of_isDigit (hb c (by simp))
    unfold shortTail
    rw [if_neg (by simp)]
    by_cases ha : a = []
    · rw [if_pos ha]
      exact List.cons_lt_cons_iff.2 (.inl (by decide))
    · rw [if_neg ha, List.append_assoc]
      exact List.cons_lt_cons_iff.2 (.inr ⟨rfl, List.append_left_lt
        (List.cons_lt_cons_iff.2 (.inl hc))⟩)

/-- **Parts of one second** sort like their numbers, unless the digits of the greater one go on
where those of the other end. -/
theorem shortTail_lt (hu : u.nanos < 10 ^ 9) (h : t.nanos < u.nanos)
    (hb : ¬ t.fraction <+: u.fraction) : shortTail t.fraction < shortTail u.fraction := by
  rcases prefix_or_differ t.fraction u.fraction with hp | hp | ⟨p, c, d, x, y, ht, hu', hcd⟩
  · exact absurd hp hb
  · exact absurd hp (not_prefix_of_lt hu h)
  · obtain ⟨m, hm⟩ := exists_fraction_append t
    obtain ⟨n, hn⟩ := exists_fraction_append u
    have hlt := digits_lt h hu
    rw [hm, hn, ht, hu', List.append_assoc, List.append_assoc] at hlt
    have hcd' : c < d := by
      rcases List.cons_lt_cons_iff.1 (lt_of_append_lt hlt) with hlt | ⟨heq, -⟩
      · exact hlt
      · exact absurd heq hcd
    unfold shortTail
    rw [ht, hu', if_neg (by simp), if_neg (by simp), List.append_assoc, List.append_assoc]
    exact List.cons_lt_cons_iff.2 (.inr ⟨rfl, List.append_left_lt
      (List.cons_lt_cons_iff.2 (.inl hcd'))⟩)

/-- The date and the time of day take as many characters in all instants. -/
theorem InRange.length_wholeText (h : t.InRange) : t.wholeText.toList.length = 19 := by
  rw [h.toList_wholeText]
  simp [wholeLayout, figures, spell]

/-- **The texts up to the seconds** sort like the seconds. -/
theorem wholeText_lt (ht : t.InRange) (hu : u.InRange) (h : t.seconds < u.seconds) :
    t.wholeText.toList < u.wholeText.toList := by
  have hlt : (⟨t.seconds, 0⟩ : Instant).fixedText < (⟨u.seconds, 0⟩ : Instant).fixedText :=
    fixedText_lt ⟨ht.year, Nat.zero_lt_succ _⟩ ⟨hu.year, Nat.zero_lt_succ _⟩ (.inl h)
  simp only [String.lt_iff, fixedText, String.toList_append, List.append_assoc] at hlt
  change t.wholeText.toList ++ _ < u.wholeText.toList ++ _ at hlt
  have hlen := ht.length_wholeText.trans hu.length_wholeText.symm
  rcases Std.lt_trichotomy t.wholeText.toList u.wholeText.toList with hw | hw | hw
  · exact hw
  · rw [hw] at hlt
    exact absurd hlt (List.lt_irrefl _)
  · exact absurd hlt (List.lt_asymm (append_lt_append hlen.symm hw _ _))

/-- **The order of short texts.** The text of the earlier one of two instants comes first,
unless it is in the second of the later one and that one's digits go on where its own end; then
the text of the later one comes first. -/
theorem shortText_lt_iff (ht : t.InRange) (hu : u.InRange) (h : t.Before u) :
    (t.shortText < u.shortText ↔ ¬ t.Begins u) ∧ (t.Begins u → u.shortText < t.shortText) := by
  have hbegins : t.Begins u → u.shortText < t.shortText := by
    rintro ⟨hs, hp⟩
    have hnanos : t.nanos < u.nanos := by
      unfold Before at h
      omega
    have hne : t.fraction ≠ u.fraction := fun heq =>
      not_prefix_of_lt hu.nanos hnanos (heq ▸ List.prefix_rfl)
    have hwhole : t.wholeText = u.wholeText := by unfold wholeText; rw [hs]
    rw [String.lt_iff, ht.toList_shortText, hu.toList_shortText, hwhole]
    exact List.append_left_lt
      (shortTail_lt_of_longer (fun _ => isDigit_of_mem_fraction) hp hne)
  refine ⟨⟨fun hlt hb => String.lt_asymm hlt (hbegins hb), fun hb => ?_⟩, hbegins⟩
  rw [String.lt_iff, ht.toList_shortText, hu.toList_shortText]
  rcases h with hs | ⟨hs, hnanos⟩
  · exact append_lt_append (ht.length_wholeText.trans hu.length_wholeText.symm)
      (wholeText_lt ht hu hs) _ _
  · have hwhole : t.wholeText = u.wholeText := by unfold wholeText; rw [hs]
    rw [hwhole]
    exact List.append_left_lt (shortTail_lt hu.nanos hnanos fun hp => hb ⟨hs, hp⟩)

/-! ### Reading -/

/-- **The short text is read back.** -/
theorem parse?_shortText (h : t.InRange) : parse? t.shortText = some t := by
  refine h.parse?_append (.ofList (shortTail t.fraction)) ?_ ?_
  · rw [h.toList_shortText, String.toList_ofList]
  · rw [String.toList_ofList, shortTail]
    split_ifs with hnil
    · rw [(fraction_eq_nil_iff h.nanos).1 hnil]
      rfl
    · obtain ⟨n, hn⟩ := exists_fraction_append t
      have hlen : n ≤ 9 := by
        have := congrArg List.length hn
        simp only [length_digits, List.length_append, List.length_replicate] at this
        omega
      have hnine : (t.fraction ++ List.replicate 9 '0').take 9 = digits 9 t.nanos := by
        rw [← Nat.add_sub_of_le hlen, List.replicate_add, ← List.append_assoc, ← hn,
          Nat.add_sub_of_le hlen]
        exact List.take_left' (length_digits 9 _)
      rw [takeFraction_append (fun _ => isDigit_of_mem_fraction) hnil, hnine,
        foldl_digits h.nanos]

end GraphWalk.Instant
