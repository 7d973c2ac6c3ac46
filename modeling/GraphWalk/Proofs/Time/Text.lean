import GraphWalk.Proofs.Text.Bytes
import GraphWalk.Proofs.Time.Calendar

/-!
# The text of an instant

The layout with nine digits after the point spells seven numbers, each with a fixed width
and a mark behind it (`spell`). So the text of an instant of the years 0 to 9999 is read
back (`parseFixed_fixedText`), and such texts sort like their instants (`fixedText_lt`):
digits of one width sort like their numbers, and the numbers of instants like the instants.
All of these texts take as many bytes (`length_bytes_fixedText`), and the years are a range of
seconds, which ends where the year does (`inRange_iff`).
-/

namespace GraphWalk.Instant

/-! ### Digits -/

/-- The digits of a number, with zeros in front up to a width. -/
def digits : Nat → Nat → List Char
  | 0, _ => []
  | w + 1, n => digits w (n / 10) ++ [(n % 10).digitChar]

@[simp] theorem length_digits (w n : Nat) : (digits w n).length = w := by
  induction w generalizing n with
  | zero => rfl
  | succ w ih => simp [digits, ih]

theorem isDigit_of_mem_digits {w n : Nat} {c : Char} (h : c ∈ digits w n) : c.isDigit := by
  induction w generalizing n with
  | zero => cases h
  | succ w ih =>
    rcases List.mem_append.1 h with h | h
    · exact ih h
    · rw [List.mem_singleton.1 h, Nat.isDigit_digitChar]
      exact decide_eq_true (Nat.mod_lt _ (by decide))

/-- A zero is spelled by zeros. -/
theorem digits_zero (w : Nat) : digits w 0 = List.replicate w '0' := by
  induction w with
  | zero => rfl
  | succ w ih => rw [digits, Nat.zero_div, ih, List.replicate_succ']; rfl

theorem toList_padded (w n : Nat) : (padded w n).toList =
    List.replicate (w - (Nat.toDigits 10 n).length) '0' ++ Nat.toDigits 10 n := by
  simp [padded, Nat.toString_eq_repr, Nat.repr_eq_ofList_toDigits]

/-- **A number that has room is padded** to as many digits. -/
theorem toList_padded_of_lt {w n : Nat} (h : n < 10 ^ (w + 1)) :
    (padded (w + 1) n).toList = digits (w + 1) n := by
  induction w generalizing n with
  | zero =>
    have hn : n < 10 := by simpa using h
    rw [toList_padded, Nat.toDigits_of_lt_base hn]
    simp [digits, Nat.mod_eq_of_lt hn]
  | succ w ih =>
    rw [toList_padded]
    by_cases hn : n < 10
    · rw [Nat.toDigits_of_lt_base hn, digits, Nat.div_eq_of_lt hn, digits_zero,
        Nat.mod_eq_of_lt hn]
      rfl
    · -- the last digit stands behind those of the tenth, which has one digit less to fill
      have hdigits : Nat.toDigits 10 n = Nat.toDigits 10 (n / 10) ++ [(n % 10).digitChar] := by
        rw [← Nat.toDigits_of_lt_base (Nat.mod_lt n (by decide)),
          Nat.toDigits_append_toDigits (by decide) (by omega) (Nat.mod_lt n (by decide)),
          Nat.div_add_mod]
      rw [digits, ← ih (by omega), toList_padded, hdigits]
      simp

/-- The number that digits spell. -/
theorem foldl_digits {w n : Nat} (h : n < 10 ^ w) :
    (digits w n).foldl (fun v c => 10 * v + (c.toNat - '0'.toNat)) 0 = n := by
  induction w generalizing n with
  | zero => simp_all [digits]
  | succ w ih =>
    rw [digits, List.foldl_append, ih (by omega), List.foldl_cons, List.foldl_nil,
      Nat.toNat_digitChar_of_lt_ten (Nat.mod_lt n (by decide))]
    change 10 * (n / 10) + (48 + n % 10 - 48) = n
    omega

/-- **Digits are read back.** -/
theorem takeDigits_digits {w n : Nat} (h : n < 10 ^ w) (cs : List Char) :
    takeDigits w (digits w n ++ cs) = some (n, cs) := by
  have htake : (digits w n ++ cs).take w = digits w n := List.take_left' (length_digits w n)
  have hdrop : (digits w n ++ cs).drop w = cs := List.drop_left' (length_digits w n)
  have hall : (digits w n).all Char.isDigit := List.all_eq_true.2 fun _ => isDigit_of_mem_digits
  simp only [takeDigits, htake, hdrop, length_digits, hall, and_self, if_true, foldl_digits h]

section Reading

variable {β : Type} {w n : Nat}

theorem takeDigits_bind (h : n < 10 ^ w) (cs : List Char) (f : Nat × List Char → Option β) :
    takeDigits w (digits w n ++ cs) >>= f = f (n, cs) := by
  rw [takeDigits_digits h]
  rfl

theorem takeShort_bind (h : n < 10 ^ 2) (cs : List Char) (f : Nat × List Char → Option β) :
    takeShort (digits 2 n ++ cs) >>= f = f (n, cs) := by
  rw [takeShort, takeDigits_digits h]
  rfl

theorem takeChar_bind (c : Char) (cs : List Char) (f : List Char → Option β) :
    takeChar c (c :: cs) >>= f = f cs := by
  rw [takeChar, if_pos rfl]
  rfl

end Reading

/-! ### The order of texts -/

/-- What is smaller in front is smaller, whatever comes behind. -/
theorem append_lt_append {a b : List Char} (hlen : a.length = b.length) (h : a < b)
    (x y : List Char) : a ++ x < b ++ y := by
  induction a generalizing b with
  | nil =>
    obtain rfl := List.length_eq_zero_iff.1 hlen.symm
    exact absurd h (List.not_lt_nil _)
  | cons c a ih =>
    obtain _ | ⟨c', b⟩ := b
    · cases hlen
    · simp only [List.cons_append, List.cons_lt_cons_iff] at h ⊢
      exact h.imp_right fun ⟨hc, h⟩ => ⟨hc, ih (by simpa using hlen) h⟩

theorem digitChar_lt {a b : Nat} (h : a < b) (hb : b < 10) : a.digitChar < b.digitChar := by
  interval_cases b <;> interval_cases a <;> decide

/-- **Digits of one width** are in the order of their numbers. -/
theorem digits_lt {w a b : Nat} (h : a < b) (hb : b < 10 ^ w) : digits w a < digits w b := by
  induction w generalizing a b with
  | zero => simp_all
  | succ w ih =>
    simp only [digits]
    -- the digits in front decide, and if they are the same the last one does
    rcases Nat.lt_or_eq_of_le (Nat.div_le_div_right h.le (c := 10)) with hlt | heq
    · exact append_lt_append (by simp) (ih hlt (by omega)) _ _
    · rw [heq]
      refine List.append_left_lt (List.cons_lt_cons_iff.2 (.inl (digitChar_lt ?_ ?_)))
      · omega
      · omega

/-- Numbers spelled one after the other, each with its width and the mark behind it. -/
def spell : List (Nat × Char) → List Nat → List Char
  | (w, mark) :: layout, n :: ns => digits w n ++ mark :: spell layout ns
  | _, _ => []

/-- Such a text has digits and marks only. -/
theorem mem_spell {c : Char} {layout : List (Nat × Char)} {ns : List Nat}
    (h : c ∈ spell layout ns) : c.isDigit = true ∨ c ∈ layout.map (·.2) := by
  induction layout generalizing ns with
  | nil => cases ns <;> cases h
  | cons f layout ih =>
    obtain ⟨w, mark⟩ := f
    obtain _ | ⟨n, ns⟩ := ns
    · cases h
    · rw [spell, List.mem_append, List.mem_cons] at h
      rcases h with h | rfl | h
      · exact .inl (isDigit_of_mem_digits h)
      · exact .inr List.mem_cons_self
      · exact (ih h).imp_right (List.mem_cons_of_mem _)

/-- Each number has room. -/
abbrev Fits : List (Nat × Char) → List Nat → Prop := List.Forall₂ fun f n => n < 10 ^ f.1

/-- **Texts of one layout are in the order of their numbers.** -/
theorem spell_lt {layout : List (Nat × Char)} {a b : List Nat} (ha : Fits layout a)
    (hb : Fits layout b) (h : a < b) : spell layout a < spell layout b := by
  induction ha generalizing b with
  | nil => cases hb; cases h
  | @cons f m layout a hm ha ih =>
    obtain ⟨w, mark⟩ := f
    cases hb with
    | @cons _ n _ b hn hb =>
      simp only [spell]
      rcases List.cons_lt_cons_iff.1 h with hlt | ⟨rfl, hlt⟩
      · exact append_lt_append (by simp) (digits_lt hlt hn) _ _
      · exact List.append_left_lt (List.cons_lt_cons_iff.2 (.inr ⟨rfl, ih hb hlt⟩))

/-! ### Instants of years with four digits -/

variable {t u : Instant}

/-- The date of an instant. -/
def date (t : Instant) : Date := dateOf (t.seconds / 86400)

/-- The second of the day. -/
def clock (t : Instant) : Nat := (t.seconds % 86400).toNat

/-- An instant of the years 0 to 9999. -/
structure InRange (t : Instant) : Prop where
  year : 0 ≤ t.date.year ∧ t.date.year ≤ 9999
  nanos : t.nanos < 1000000000

instance (t : Instant) : Decidable t.InRange :=
  decidable_of_iff ((0 ≤ t.date.year ∧ t.date.year ≤ 9999) ∧ t.nanos < 1000000000)
    ⟨fun h => ⟨h.1, h.2⟩, fun h => ⟨h.year, h.nanos⟩⟩

/-- **The years 0 to 9999** in seconds. -/
theorem inRange_iff : t.InRange ↔
    (-62167219200 ≤ t.seconds ∧ t.seconds < 253402300800) ∧ t.nanos < 1000000000 := by
  -- the range is from the first day of a year to the last, so the days beside it are enough
  have hfirst : (dateOf (-719528)).year = 0 ∧ (dateOf (-719529)).year = -1 := by decide
  have hlast : (dateOf 2932896).year = 9999 ∧ (dateOf 2932897).year = 10000 := by decide
  have hyear : (0 ≤ t.date.year ∧ t.date.year ≤ 9999) ↔
      -719528 ≤ t.seconds / 86400 ∧ t.seconds / 86400 ≤ 2932896 := by
    constructor
    · rintro ⟨hlow, hhigh⟩
      unfold date at hlow hhigh
      refine ⟨not_lt.1 fun hlt => ?_, not_lt.1 fun hlt => ?_⟩
      · have := year_mono (show t.seconds / 86400 ≤ -719529 by omega)
        omega
      · have := year_mono (show 2932897 ≤ t.seconds / 86400 by omega)
        omega
    · rintro ⟨hlow, hhigh⟩
      have := year_mono hlow
      have := year_mono hhigh
      unfold date
      omega
  constructor
  · rintro ⟨hrange, hnanos⟩
    exact ⟨by have := hyear.1 hrange; omega, hnanos⟩
  · rintro ⟨hrange, hnanos⟩
    exact ⟨hyear.2 (by omega), hnanos⟩

/-- An instant comes before another one. -/
def Before (t u : Instant) : Prop :=
  t.seconds < u.seconds ∨ t.seconds = u.seconds ∧ t.nanos < u.nanos

/-- The numbers in the text of an instant. -/
def figures (t : Instant) : List Nat :=
  [t.date.year.toNat, t.date.month, t.date.day, t.clock / 3600, t.clock / 60 % 60,
    t.clock % 60, t.nanos]

/-- The layout with nine digits after the point. -/
def fixedLayout : List (Nat × Char) :=
  [(4, '-'), (2, '-'), (2, 'T'), (2, ':'), (2, ':'), (2, '.'), (9, 'Z')]

theorem daysIn_le (y : Int) (m : Nat) : daysIn y m ≤ 31 := by
  unfold daysIn
  split_ifs <;> decide

theorem clock_lt (t : Instant) : t.clock < 86400 := by
  unfold clock
  omega

theorem date_valid (t : Instant) : (1 ≤ t.date.month ∧ t.date.month ≤ 12) ∧
    1 ≤ t.date.day ∧ t.date.day ≤ daysIn t.date.year t.date.month :=
  dateOf_valid (t.seconds / 86400)

/-- The numbers of the date and of the time of day have room. -/
theorem InRange.room (h : t.InRange) : t.date.year.toNat < 10 ^ 4 ∧ t.date.month < 10 ^ 2 ∧
    t.date.day < 10 ^ 2 ∧ t.clock / 3600 < 10 ^ 2 ∧ t.clock / 60 % 60 < 10 ^ 2 ∧
    t.clock % 60 < 10 ^ 2 ∧ t.nanos < 10 ^ 9 := by
  have hclock := t.clock_lt
  obtain ⟨hmonth, -, hday⟩ := t.date_valid
  have hdays := daysIn_le t.date.year t.date.month
  obtain ⟨hyear, hnanos⟩ := h
  omega

/-- The text of an instant has room for its numbers. -/
theorem InRange.fits (h : t.InRange) : Fits fixedLayout t.figures := by
  simp only [Fits, fixedLayout, figures, List.forall₂_cons, List.forall₂_nil_left_iff, and_true]
  exact h.room

theorem wholeText_eq (t : Instant) : t.wholeText =
    yearText t.date.year ++ "-" ++ padded 2 t.date.month ++ "-" ++ padded 2 t.date.day ++ "T"
      ++ padded 2 (t.clock / 3600) ++ ":" ++ padded 2 (t.clock / 60 % 60) ++ ":"
      ++ padded 2 (t.clock % 60) := rfl

/-- The layout of the date and the time of day, up to the seconds. -/
def wholeLayout : List (Nat × Char) := [(4, '-'), (2, '-'), (2, 'T'), (2, ':'), (2, ':')]

theorem InRange.toList_wholeText (h : t.InRange) : t.wholeText.toList =
    spell wholeLayout (t.figures.take 5) ++ digits 2 (t.clock % 60) := by
  obtain ⟨hyear, hmonth, hday, hhour, hminute, hsecond, -⟩ := h.room
  have hpos : ¬ t.date.year < 0 := not_lt.2 h.year.1
  simp only [wholeText_eq, yearText, hpos, if_false, String.toList_append, toList_padded_of_lt,
    hyear, hmonth, hday, hhour, hminute, hsecond, wholeLayout, figures, List.take_succ_cons,
    List.take_zero, spell]
  simp

theorem InRange.toList_fixedText (h : t.InRange) :
    t.fixedText.toList = spell fixedLayout t.figures := by
  obtain ⟨-, -, -, -, -, -, hnanos⟩ := h.room
  simp only [fixedText, String.toList_append, h.toList_wholeText, toList_padded_of_lt hnanos,
    wholeLayout, fixedLayout, figures, List.take_succ_cons, List.take_zero, spell]
  simp

/-- **The text of an instant** takes thirty bytes. -/
theorem InRange.length_bytes_fixedText {t : Instant} (h : t.InRange) :
    (Text.bytes t.fixedText.toList).length = 30 := by
  have hascii : ∀ c ∈ t.fixedText.toList, c.toNat < 128 := by
    intro c hc
    rw [h.toList_fixedText] at hc
    rcases mem_spell hc with hdigit | hmark
    · simp only [Char.isDigit, Bool.and_eq_true, decide_eq_true_eq] at hdigit
      have hle : c.toNat ≤ 57 := hdigit.2
      omega
    · have hmarks : ∀ c ∈ fixedLayout.map (·.2), c.toNat < 128 := by simp [fixedLayout]
      exact hmarks c hmark
  rw [Text.length_bytes hascii, h.toList_fixedText]
  simp [fixedLayout, figures, spell]

/-- **The numbers of instants** are in the order of the instants. -/
theorem figures_lt (ht : t.InRange) (h : t.Before u) : t.figures < u.figures := by
  have hyear := ht.year
  simp only [figures, List.cons_lt_cons_iff, List.not_lt_nil, and_false, or_false]
  -- by the day: on an earlier day the date is smaller, and on the same day the time decides
  rcases lt_trichotomy (t.seconds / 86400) (u.seconds / 86400) with hlt | heq | hgt
  · have hdate : t.date.year < u.date.year ∨ t.date.year = u.date.year ∧
        (t.date.month < u.date.month ∨ t.date.month = u.date.month ∧ t.date.day < u.date.day) :=
      dateOf_lt hlt
    omega
  · have hdate : t.date = u.date := by rw [date, date, heq]
    have hclock : t.clock < u.clock ∨ t.clock = u.clock ∧ t.nanos < u.nanos := by
      unfold clock
      unfold Before at h
      omega
    rw [hdate]
    omega
  · unfold Before at h
    omega

/-- **Texts of instants sort like the instants.** -/
theorem fixedText_lt (ht : t.InRange) (hu : u.InRange) (h : t.Before u) :
    t.fixedText < u.fixedText := by
  rw [String.lt_iff, ht.toList_fixedText, hu.toList_fixedText]
  exact spell_lt ht.fits hu.fits (figures_lt ht h)

/-- Instants are before, the same or after. -/
theorem before_trichotomy (t u : Instant) : t.Before u ∨ t = u ∨ u.Before t := by
  obtain ⟨s, n⟩ := t
  obtain ⟨s', n'⟩ := u
  simp only [Before, mk.injEq]
  omega

/-- **The order of the texts** tells the order of the instants. -/
theorem before_of_fixedText_lt (ht : t.InRange) (hu : u.InRange)
    (h : t.fixedText < u.fixedText) : t.Before u := by
  rcases before_trichotomy t u with hb | rfl | hb
  · exact hb
  · exact absurd h (String.lt_irrefl _)
  · exact absurd h (String.lt_asymm (fixedText_lt hu ht hb))

/-- The part of a second, of which nine digits count. -/
theorem takeFraction_append {ds : List Char} (hds : ∀ c ∈ ds, c.isDigit = true) (hne : ds ≠ []) :
    takeFraction ('.' :: (ds ++ ['Z'])) = (((ds ++ List.replicate 9 '0').take 9).foldl
      (fun v c => 10 * v + (c.toNat - '0'.toNat)) 0, ['Z']) := by
  have hZ : ¬ 'Z'.isDigit = true := by decide
  have htake : (ds ++ ['Z']).takeWhile Char.isDigit = ds := by
    rw [List.takeWhile_append_of_pos hds, List.takeWhile_cons_of_neg hZ, List.append_nil]
  have hdrop : (ds ++ ['Z']).dropWhile Char.isDigit = ['Z'] := by
    rw [List.dropWhile_append_of_pos hds, List.dropWhile_cons_of_neg hZ]
  simp only [takeFraction, htake, hdrop, List.isEmpty_eq_false_iff.2 hne]
  rfl

/-- The part of a second in nine digits. -/
theorem takeFraction_digits {n : Nat} (h : n < 10 ^ 9) :
    takeFraction ('.' :: (digits 9 n ++ ['Z'])) = (n, ['Z']) := by
  have hnine : (digits 9 n ++ List.replicate 9 '0').take 9 = digits 9 n :=
    List.take_left' (length_digits 9 n)
  rw [takeFraction_append (fun _ => isDigit_of_mem_digits) (by simp [digits]), hnine,
    foldl_digits h]

/-- **Reading date and time of day**, and then what is left, gives the instant. -/
theorem InRange.parse?_append (h : t.InRange) {s : String} (rest : String)
    (hs : s.toList = t.wholeText.toList ++ rest.toList)
    (hf : takeFraction rest.toList = (t.nanos, ['Z'])) : parse? s = some t := by
  obtain ⟨hyear, hmonth, hday, hhour, hminute, hsecond, hnanos⟩ := h.room
  obtain ⟨hm, hd⟩ := t.date_valid
  rw [parse?, hs, h.toList_wholeText]
  -- each number is read before what follows it is entered
  simp only [spell, wholeLayout, figures, List.take_succ_cons, List.take_zero, List.append_assoc,
    List.cons_append, List.nil_append, ↓takeDigits_bind hyear, ↓takeChar_bind,
    ↓takeDigits_bind hmonth, ↓takeDigits_bind hday, ↓takeShort_bind hhour,
    ↓takeDigits_bind hminute, ↓takeDigits_bind hsecond, hf]
  have hclock := t.clock_lt
  have hseconds : daysOf t.date * 86400 + ((t.clock / 3600 : Nat) * 3600 +
      (t.clock / 60 % 60 : Nat) * 60 + (t.clock % 60 : Nat)) - 0 = t.seconds := by
    have hdays : daysOf t.date = t.seconds / 86400 := daysOf_dateOf _
    unfold clock at *
    omega
  rw [Int.toNat_of_nonneg h.year.1, show takeZone ['Z'] = some (0, []) from rfl,
    Option.bind_eq_bind, Option.bind_some, if_neg, hseconds]
  simp only [List.isEmpty_nil, Bool.or_eq_true, decide_eq_true_eq, Bool.not_true,
    Bool.false_eq_true, false_or]
  omega

/-- **The text of an instant is read back.** -/
theorem parseFixed_fixedText (h : t.InRange) : parseFixed t.fixedText = .ok t := by
  obtain ⟨-, -, -, -, -, -, hnanos⟩ := h.room
  have hparse : parse? t.fixedText = some t := by
    refine h.parse?_append ("." ++ padded 9 t.nanos ++ "Z") ?_ ?_
    · simp only [fixedText, String.toList_append, List.append_assoc]
    · simp only [String.toList_append, toList_padded_of_lt hnanos]
      exact takeFraction_digits hnanos
  rw [parseFixed, hparse]

/-- Different instants have different texts. -/
theorem fixedText_inj (ht : t.InRange) (hu : u.InRange) (h : t.fixedText = u.fixedText) :
    t = u := by
  have hparse := parseFixed_fixedText ht
  rw [h, parseFixed_fixedText hu] at hparse
  exact (Except.ok.inj hparse).symm

end GraphWalk.Instant
