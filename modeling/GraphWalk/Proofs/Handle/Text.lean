import GraphWalk.Handle
import Mathlib.Tactic

/-!
# Handles and their texts

A handle that can name something (`Proper`) is of kind node or edge and of a positive
generation. Its text falls apart into its kind and the decimal digits of its two numbers
(`split?_text`), so different handles have different texts (`text_inj`).

Cutting a text at its letter and its point undoes putting them together (`split?_eq_some_iff`),
and what is read are the numbers between them (`Written`, `parse_eq_ok_iff`).

Reading passes over zeros in front of a number, and writing puts none there. So the text of a
handle that was read is what was read without such zeros (`toList_text_of_parse`), and it is the
same text again just if there were none (`text_eq_iff`).

Main results:

* `read_of_written`: **just the texts of that form are read**, as long as their numbers have
  room, and each handle is read back from its text.
* `text_of_canonical`: **only among texts without zeros in front** does a handle have one text;
  "n1.1" and "n01.1" are both read, as the same handle (`padded_same`).
-/

namespace GraphWalk.Handle

variable {h k : Handle}

/-- The handle can name an instance. -/
structure Proper (h : Handle) : Prop where
  kind : h.kind = .node ∨ h.kind = .edge
  gen : h.gen ≠ 0

theorem Proper.isNil (hp : h.Proper) : h.isNil = false := by
  rcases hp.kind with hk | hk <;> simp [Handle.isNil, hp.gen, hk]

theorem Proper.isNode (hp : h.Proper) (hk : h.kind = .node) : h.isNode = true := by
  unfold Handle.isNode
  rw [hp.isNil, hk]
  rfl

/-- The digits in front of a mark that is none. -/
theorem span_digits {ds : List Char} (hds : ∀ c ∈ ds, c.isDigit = true) (rest : List Char) :
    (ds ++ '.' :: rest).takeWhile Char.isDigit = ds ∧
      (ds ++ '.' :: rest).dropWhile Char.isDigit = '.' :: rest := by
  have hmark : ('.' : Char).isDigit ≠ true := by decide
  rw [List.takeWhile_append_of_pos hds, List.dropWhile_append_of_pos hds,
    List.takeWhile_cons_of_neg hmark, List.dropWhile_cons_of_neg hmark, List.append_nil]
  exact ⟨rfl, rfl⟩

/-- **A letter, digits, a point and digits** are cut at the letter and the point. -/
theorem split?_digits {kind : HandleKind} (hk : kind = .node ∨ kind = .edge) {ds gs : List Char}
    (hds : ∀ c ∈ ds, c.isDigit = true) (hd : ds ≠ []) (hgs : ∀ c ∈ gs, c.isDigit = true)
    (hg : gs ≠ []) : split? (kind.letter :: (ds ++ '.' :: gs)) = some (kind, ds, gs) := by
  obtain ⟨htake, hdrop⟩ := span_digits hds gs
  have hempty : (ds.isEmpty || gs.isEmpty || !gs.all Char.isDigit) = false := by
    simp only [List.isEmpty_eq_false_iff.2 hd, List.isEmpty_eq_false_iff.2 hg,
      List.all_eq_true.2 hgs, Bool.or_self, Bool.not_true]
  rcases hk with rfl | rfl
  · simp [split?, HandleKind.letter, htake, hdrop, hempty]
  · simp [split?, HandleKind.letter, htake, hdrop, hempty]

theorem toList_text (hp : h.Proper) : h.text.toList = h.kind.letter ::
    (Nat.toDigits 10 h.index.toNat ++ '.' :: Nat.toDigits 10 h.gen.toNat) := by
  simp [text, hp.isNil]

theorem isDigit_toDigits (n : Nat) : ∀ c ∈ Nat.toDigits 10 n, c.isDigit = true := fun _ hc =>
  Nat.isDigit_of_mem_toDigits (by decide) (by decide) hc

/-- **The text of a handle** spells its kind and its two numbers. -/
theorem split?_text (hp : h.Proper) : split? h.text.toList =
    some (h.kind, Nat.toDigits 10 h.index.toNat, Nat.toDigits 10 h.gen.toNat) := by
  rw [toList_text hp]
  exact split?_digits hp.kind (isDigit_toDigits _) Nat.toDigits_ne_nil (isDigit_toDigits _)
    Nat.toDigits_ne_nil

theorem toDigits_inj {m n : Nat} (h : Nat.toDigits 10 m = Nat.toDigits 10 n) : m = n := by
  have := congrArg (fun ds => Nat.ofDigitChars 10 ds 0) h
  simpa only [Nat.ofDigitChars_ten_toDigits] using this

/-- **Different handles have different texts.** -/
theorem text_inj (hh : h.Proper) (hk : k.Proper) (ht : h.text = k.text) : h = k := by
  have hsplit := split?_text hh
  rw [ht, split?_text hk] at hsplit
  simp only [Option.some.injEq, Prod.mk.injEq] at hsplit
  obtain ⟨hkind, hindex, hgen⟩ := hsplit
  cases h
  cases k
  simp only at hkind hindex hgen
  rw [hkind, UInt32.toNat_inj.1 (toDigits_inj hindex), UInt32.toNat_inj.1 (toDigits_inj hgen)]

/-! ### Reading -/

variable {raw : String} {cs ds gs : List Char} {kind : HandleKind} {i g : Nat}

/-- Decimal digits that spell a number; there may be zeros in front. -/
structure Decimal (ds : List Char) (n : Nat) : Prop where
  digit : ∀ c ∈ ds, '0' ≤ c ∧ c ≤ '9'
  ne_nil : ds ≠ []
  value : Nat.ofDigitChars 10 ds 0 = n

/-- The text is the letter of the kind, the digits of a number, a point and the digits of
another number. -/
def Written (raw : String) (kind : HandleKind) (i g : Nat) : Prop :=
  (kind = .node ∨ kind = .edge) ∧
    ∃ ds gs, raw.toList = kind.letter :: (ds ++ '.' :: gs) ∧ Decimal ds i ∧ Decimal gs g

theorem isDigit_iff {c : Char} : c.isDigit = true ↔ '0' ≤ c ∧ c ≤ '9' := by
  simp only [Char.isDigit, Bool.and_eq_true, decide_eq_true_eq, ge_iff_le, Char.le_def]

theorem Decimal.isDigit {n : Nat} (h : Decimal ds n) : ∀ c ∈ ds, c.isDigit = true := fun c hc =>
  isDigit_iff.2 (h.digit c hc)

/-- A number is spelled by its digits. -/
theorem decimal_toDigits (n : Nat) : Decimal (Nat.toDigits 10 n) n where
  digit c hc := isDigit_iff.1 (isDigit_toDigits n c hc)
  ne_nil := Nat.toDigits_ne_nil
  value := Nat.ofDigitChars_ten_toDigits

/-- **A text is cut** just if it is a letter, digits, a point and digits. -/
theorem split?_eq_some_iff : split? cs = some (kind, ds, gs) ↔
    (kind = .node ∨ kind = .edge) ∧ cs = kind.letter :: (ds ++ '.' :: gs) ∧
      ((∀ c ∈ ds, c.isDigit = true) ∧ ds ≠ []) ∧ (∀ c ∈ gs, c.isDigit = true) ∧ gs ≠ [] := by
  constructor
  · intro h
    obtain _ | ⟨c, rest⟩ := cs
    · cases h
    · -- behind the letter come digits, up to the point
      have hrest : rest = rest.takeWhile Char.isDigit ++ rest.dropWhile Char.isDigit :=
        List.takeWhile_append_dropWhile.symm
      have hdigits : ∀ c ∈ rest.takeWhile Char.isDigit, c.isDigit = true :=
        List.all_eq_true.1 List.all_takeWhile
      simp only [split?] at h
      split at h
      · rename_i kind' gs' hkind hdrop
        split at h
        · cases h
        · rename_i hfull
          simp only [Option.some.injEq, Prod.mk.injEq] at h
          obtain ⟨rfl, rfl, rfl⟩ := h
          simp only [Bool.or_eq_true, List.isEmpty_iff, Bool.not_eq_true', not_or,
            Bool.not_eq_false, List.all_eq_true] at hfull
          obtain ⟨⟨hds, hgs⟩, hall⟩ := hfull
          rw [hdrop] at hrest
          have hletter : (kind' = .node ∨ kind' = .edge) ∧ c = kind'.letter := by
            split_ifs at hkind with hn he
            · cases hkind; exact ⟨.inl rfl, hn⟩
            · cases hkind; exact ⟨.inr rfl, he⟩
          exact ⟨hletter.1, by rw [← hletter.2, ← hrest], ⟨hdigits, hds⟩, hall, hgs⟩
      · cases h
  · rintro ⟨hkind, rfl, ⟨hds, hd⟩, hgs, hg⟩
    exact split?_digits hkind hds hd hgs hg

/-- What is written in a text is what it is cut into. -/
theorem written_iff : Written raw kind i g ↔ ∃ ds gs, split? raw.toList = some (kind, ds, gs) ∧
    digitsValue ds = i ∧ digitsValue gs = g := by
  simp only [split?_eq_some_iff, isDigit_iff]
  constructor
  · rintro ⟨hkind, ds, gs, htext, hds, hgs⟩
    exact ⟨ds, gs, ⟨hkind, htext, ⟨hds.digit, hds.ne_nil⟩, hgs.digit, hgs.ne_nil⟩, hds.value,
      hgs.value⟩
  · rintro ⟨ds, gs, ⟨hkind, htext, ⟨hds, hd⟩, hgs, hg⟩, hi, hg'⟩
    exact ⟨hkind, ds, gs, htext, ⟨hds, hd, hi⟩, hgs, hg, hg'⟩

/-- **What is read** is written in the text, and its generation is positive. -/
theorem parse_eq_ok_iff :
    parse raw = .ok h ↔ Written raw h.kind h.index.toNat h.gen.toNat ∧ h.gen ≠ 0 := by
  rw [written_iff]
  constructor
  · intro hp
    unfold parse at hp
    split_ifs at hp with hempty
    split at hp
    · cases hp
    · -- what is read has passed the checks of both numbers
      rename_i kind ds gs hsplit
      simp only at hp
      split_ifs at hp with hi hg hz
      cases hp
      have hi' : digitsValue ds < UInt32.size := not_le.1 hi
      have hg' : digitsValue gs < UInt32.size := not_le.1 hg
      have hgen : (digitsValue gs).toUInt32.toNat = digitsValue gs :=
        UInt32.toNat_ofNat_of_lt' hg'
      refine ⟨⟨ds, gs, hsplit, (UInt32.toNat_ofNat_of_lt' hi').symm, hgen.symm⟩, fun h0 => hz ?_⟩
      simp only at h0
      rw [← hgen, h0]
      rfl
  · rintro ⟨⟨ds, gs, hsplit, hi, hg⟩, hz⟩
    have hne : raw ≠ "" := by
      rintro rfl
      cases hsplit
    have hgen : h.gen.toNat ≠ 0 := fun h0 => hz (UInt32.toNat_inj.1 h0)
    have hroom := h.index.toNat_lt_size
    have hroom' := h.gen.toNat_lt_size
    rw [parse, if_neg hne, hsplit]
    simp only [hi, hg]
    rw [if_neg (not_le.2 hroom), if_neg (not_le.2 hroom'), if_neg hgen]
    simp

/-- **A handle is read back** from its text. -/
theorem parse_text (hp : h.Proper) : parse h.text = .ok h :=
  parse_eq_ok_iff.2 ⟨⟨hp.kind, _, _, toList_text hp, decimal_toDigits _, decimal_toDigits _⟩,
    hp.gen⟩

/-- **Handles and their texts.** A text is read just if it is `n` or `e`, digits, a point and
digits, with numbers below `2 ^ 32` of which the second one is positive. Each handle that can
name something is read back from its text, so that no two of them share one. -/
theorem read_of_written :
    (∀ raw, (∃ h, parse raw = .ok h) ↔ ∃ letter ds gs i g, (letter = 'n' ∨ letter = 'e') ∧
      raw.toList = letter :: (ds ++ '.' :: gs) ∧ Decimal ds i ∧ Decimal gs g ∧
      i ≤ 2 ^ 32 - 1 ∧ g ≤ 2 ^ 32 - 1 ∧ 1 ≤ g) ∧
    (∀ h : Handle, h.Proper → parse h.text = .ok h) ∧
    ∀ h k : Handle, h.Proper → k.Proper → h ≠ k → h.text ≠ k.text := by
  refine ⟨fun raw => ⟨?_, ?_⟩, fun h => parse_text, fun h k hh hk hne ht => hne (text_inj hh hk ht)⟩
  · rintro ⟨h, hp⟩
    obtain ⟨⟨hkind, ds, gs, htext, hds, hgs⟩, hgen⟩ := parse_eq_ok_iff.1 hp
    have hletter : h.kind.letter = 'n' ∨ h.kind.letter = 'e' :=
      hkind.imp (fun hk => by rw [hk]; rfl) fun hk => by rw [hk]; rfl
    have hroom := h.index.toNat_lt
    have hroom' := h.gen.toNat_lt
    have hpos : h.gen.toNat ≠ 0 := fun h0 => hgen (UInt32.toNat_inj.1 h0)
    exact ⟨_, ds, gs, _, _, hletter, htext, hds, hgs, by omega, by omega, by omega⟩
  · rintro ⟨letter, ds, gs, i, g, hletter, htext, hds, hgs, hi, hg, hpos⟩
    obtain ⟨kind, hkind, rfl⟩ : ∃ kind : HandleKind, (kind = .node ∨ kind = .edge) ∧
        kind.letter = letter :=
      hletter.elim (fun hl => ⟨.node, .inl rfl, hl.symm⟩) fun hl => ⟨.edge, .inr rfl, hl.symm⟩
    have hsize : UInt32.size = 2 ^ 32 := rfl
    have hi' : (UInt32.ofNat i).toNat = i := UInt32.toNat_ofNat_of_lt' (by omega)
    have hg' : (UInt32.ofNat g).toNat = g := UInt32.toNat_ofNat_of_lt' (by omega)
    refine ⟨⟨kind, .ofNat i, .ofNat g⟩, parse_eq_ok_iff.2 ⟨⟨hkind, ds, gs, htext, ?_, ?_⟩, ?_⟩⟩
    · rwa [hi']
    · rwa [hg']
    · intro h0
      rw [show UInt32.ofNat g = 0 from h0, UInt32.toNat_zero] at hg'
      omega

theorem read_of_last : (edge 0 4294967295).Proper ∧ (node 4294967295 1).Proper ∧
    parse (edge 0 4294967295).text = .ok (edge 0 4294967295) ∧
    (edge 0 4294967295).text ≠ (node 4294967295 1).text ∧ ∃ h, parse "e007.01" = .ok h := by
  obtain ⟨haccepts, hback, hdiffer⟩ := read_of_written
  have hedge : (edge 0 4294967295).Proper := ⟨.inr rfl, by decide⟩
  have hnode : (node 4294967295 1).Proper := ⟨.inl rfl, by decide⟩
  refine ⟨hedge, hnode, hback _ hedge, hdiffer _ _ hedge hnode (by decide), ?_⟩
  exact (haccepts _).2 ⟨'e', ['0', '0', '7'], ['0', '1'], 7, 1, .inr rfl, by decide,
    ⟨by simp, by decide, rfl⟩, ⟨by simp, by decide, rfl⟩, by decide, by decide, by decide⟩

/-! ### Zeros in front of a number -/

variable {n : Nat} {c : Char}

/-- A zero stands in front of another digit. -/
def Padded (ds : List Char) : Prop := ∃ c cs, ds = '0' :: c :: cs

/-- The digits without the zeros in front of them; of zeros alone one stays. -/
def trimZeros : List Char → List Char
  | '0' :: c :: cs => trimZeros (c :: cs)
  | cs => cs

theorem length_trimZeros_le (ds : List Char) : (trimZeros ds).length ≤ ds.length := by
  fun_induction trimZeros ds with
  | case1 c cs ih => exact ih.trans (Nat.le_succ _)
  | case2 => exact le_rfl

theorem trimZeros_eq_self_iff : trimZeros ds = ds ↔ ¬Padded ds := by
  constructor
  · rintro h ⟨c, cs, rfl⟩
    -- a zero that is taken off makes the digits fewer
    have hlen := length_trimZeros_le (c :: cs)
    have hsame := congrArg List.length h
    simp only [trimZeros, List.length_cons] at hlen hsame
    omega
  · intro h
    unfold trimZeros
    split
    · exact absurd ⟨_, _, rfl⟩ h
    · rfl

theorem digitChar_value (hc : c.isDigit = true) : (c.toNat - '0'.toNat).digitChar = c := by
  obtain ⟨hlow, hhigh⟩ := isDigit_iff.1 hc
  have hlow' : 48 ≤ c.toNat := hlow
  have hhigh' : c.toNat ≤ 57 := hhigh
  change (c.toNat - 48).digitChar = c
  refine Char.toNat_inj.1 ?_
  rw [Nat.toNat_digitChar_of_lt_ten (by omega)]
  omega

theorem value_lt_ten (hc : c.isDigit = true) : c.toNat - '0'.toNat < 10 := by
  have hhigh : c.toNat ≤ 57 := (isDigit_iff.1 hc).2
  change c.toNat - 48 < 10
  omega

/-- Digits that come behind a positive number are the last ones of the whole. -/
theorem toDigits_ofDigitChars {m : Nat} (hm : 0 < m) (hds : ∀ c ∈ ds, c.isDigit = true) :
    Nat.toDigits 10 (Nat.ofDigitChars 10 ds m) = Nat.toDigits 10 m ++ ds := by
  induction ds generalizing m with
  | nil => rw [Nat.ofDigitChars_nil, List.append_nil]
  | cons c cs ih =>
    have hc := hds c List.mem_cons_self
    have hlt := value_lt_ten hc
    rw [Nat.ofDigitChars_cons, ih (by omega) fun d hd => hds d (List.mem_cons_of_mem _ hd),
      ← Nat.toDigits_append_toDigits (by decide) hm hlt, Nat.toDigits_of_lt_base hlt,
      digitChar_value hc, List.append_assoc, List.singleton_append]

/-- **Without the zeros in front of it** a number is spelled as it is written. -/
theorem Decimal.trimZeros_eq (h : Decimal ds n) : trimZeros ds = Nat.toDigits 10 n := by
  obtain ⟨hdigit, hne, rfl⟩ := h
  fun_induction trimZeros ds with
  | case1 c cs ih =>
    rw [ih (fun d hd => hdigit d (List.mem_cons_of_mem _ hd)) (List.cons_ne_nil _ _),
      Nat.ofDigitChars_cons]
    rfl
  | case2 ds hplain =>
    obtain ⟨c, cs, rfl⟩ := List.exists_cons_of_ne_nil hne
    have hc := isDigit_iff.2 (hdigit c List.mem_cons_self)
    have hlt := value_lt_ten hc
    -- the first digit spells itself
    have hone : Nat.toDigits 10 (c.toNat - '0'.toNat) = [c] := by
      rw [Nat.toDigits_of_lt_base hlt, digitChar_value hc]
    rw [Nat.ofDigitChars_cons, Nat.mul_zero, Nat.zero_add]
    by_cases hzero : c.toNat - '0'.toNat = 0
    · -- a zero at the front is the only digit
      have hc0 : c = '0' := by rw [← digitChar_value hc, hzero]; rfl
      obtain rfl : cs = [] := by
        obtain _ | ⟨d, cs⟩ := cs
        · rfl
        · exact absurd (by rw [hc0]) (hplain d cs)
      rw [Nat.ofDigitChars_nil, hone]
    · rw [toDigits_ofDigitChars (Nat.pos_of_ne_zero hzero) fun d hd =>
        isDigit_iff.2 (hdigit d (List.mem_cons_of_mem _ hd)), hone, List.singleton_append]

/-! ### Texts that are read -/

/-- A letter, digits, a point and digits, and no zero stands in front of the two numbers. -/
def Canonical (raw : String) : Prop := ∃ letter ds gs, raw.toList = letter :: (ds ++ '.' :: gs) ∧
  ((∀ c ∈ ds, c.isDigit = true) ∧ ¬Padded ds) ∧ (∀ c ∈ gs, c.isDigit = true) ∧ ¬Padded gs

theorem proper_of_parse (h' : parse raw = .ok h) : h.Proper :=
  ⟨(parse_eq_ok_iff.1 h').1.1, (parse_eq_ok_iff.1 h').2⟩

/-- **The text of a handle that was read** is what was read, without the zeros in front of its
numbers. -/
theorem toList_text_of_parse (h' : parse raw = .ok h) : ∃ ds gs,
    raw.toList = h.kind.letter :: (ds ++ '.' :: gs) ∧ Decimal ds h.index.toNat ∧
      Decimal gs h.gen.toNat ∧
      h.text.toList = h.kind.letter :: (trimZeros ds ++ '.' :: trimZeros gs) := by
  obtain ⟨⟨-, ds, gs, htext, hds, hgs⟩, -⟩ := parse_eq_ok_iff.1 h'
  refine ⟨ds, gs, htext, hds, hgs, ?_⟩
  rw [toList_text (proper_of_parse h'), hds.trimZeros_eq, hgs.trimZeros_eq]

/-- Digits, a point and a rest are where they are in one way only. -/
theorem digits_point_inj {ds' gs' : List Char} (hds : ∀ c ∈ ds, c.isDigit = true)
    (hds' : ∀ c ∈ ds', c.isDigit = true) (heq : ds ++ '.' :: gs = ds' ++ '.' :: gs') :
    ds = ds' ∧ gs = gs' := by
  obtain ⟨htake, hdrop⟩ := span_digits hds gs
  obtain ⟨htake', hdrop'⟩ := span_digits hds' gs'
  rw [heq, htake'] at htake
  rw [heq, hdrop'] at hdrop
  exact ⟨htake.symm, (List.cons.inj hdrop).2.symm⟩

/-- **A text is written again as it was read** just if it is canonical. -/
theorem text_eq_iff (h' : parse raw = .ok h) : h.text = raw ↔ Canonical raw := by
  obtain ⟨ds, gs, htext, hds, hgs, hout⟩ := toList_text_of_parse h'
  constructor
  · intro heq
    rw [heq, htext, List.cons.injEq] at hout
    have htrim : ∀ c ∈ trimZeros ds, c.isDigit = true := by
      rw [hds.trimZeros_eq]
      exact isDigit_toDigits _
    -- the text is the same with the zeros taken off, so there were none
    obtain ⟨hds', hgs'⟩ := digits_point_inj hds.isDigit htrim hout.2
    exact ⟨_, ds, gs, htext, ⟨hds.isDigit, trimZeros_eq_self_iff.1 hds'.symm⟩, hgs.isDigit,
      trimZeros_eq_self_iff.1 hgs'.symm⟩
  · rintro ⟨letter, ds', gs', htext', ⟨hall, hpad⟩, -, hpad'⟩
    rw [htext, List.cons.injEq] at htext'
    obtain ⟨rfl, rfl⟩ := digits_point_inj hds.isDigit hall htext'.2
    refine String.toList_inj.1 ?_
    rw [hout, htext, trimZeros_eq_self_iff.2 hpad, trimZeros_eq_self_iff.2 hpad']

/-- **The texts of a handle.** Whatever text is read, the text of its handle is what was read
without the zeros in front of the two numbers, and is read as the same handle. It is what was
read again just if that has no such zeros, and then no other such text names the handle. -/
theorem text_of_canonical (hp : parse raw = .ok h) :
    (∃ letter ds gs, raw.toList = letter :: (ds ++ '.' :: gs) ∧ Decimal ds h.index.toNat ∧
      Decimal gs h.gen.toNat ∧ h.text.toList = letter :: (trimZeros ds ++ '.' :: trimZeros gs) ∧
      parse h.text = .ok h) ∧
    (h.text = raw ↔ Canonical raw) ∧
    ∀ raw', parse raw' = .ok h → Canonical raw → Canonical raw' → raw = raw' := by
  refine ⟨?_, text_eq_iff hp, fun raw' hp' hc hc' => ?_⟩
  · obtain ⟨ds, gs, htext, hds, hgs, hout⟩ := toList_text_of_parse hp
    exact ⟨_, ds, gs, htext, hds, hgs, hout, parse_text (proper_of_parse hp)⟩
  · exact ((text_eq_iff hp).2 hc).symm.trans ((text_eq_iff hp').2 hc')

theorem text_of_widest : parse "e007.01" = .ok (edge 7 1) ∧
    parse (edge 7 1).text = .ok (edge 7 1) ∧ ¬Canonical "e007.01" ∧
    parse "n7.4294967295" = .ok (node 7 4294967295) ∧ Canonical "n7.4294967295" := by
  have hpadded : parse "e007.01" = .ok (edge 7 1) := by decide
  have hwide : parse "n7.4294967295" = .ok (node 7 4294967295) := by decide
  obtain ⟨⟨-, -, -, -, -, -, -, hback⟩, hsame, -⟩ := text_of_canonical hpadded
  obtain ⟨-, hsame', -⟩ := text_of_canonical hwide
  exact ⟨hpadded, hback, fun hc => absurd (hsame.2 hc) (by decide), hwide, hsame'.1 (by decide)⟩

/-- Two texts are read as one handle, which is written as the second only. -/
theorem padded_same : parse "n01.1" = .ok (node 1 1) ∧ parse "n1.1" = .ok (node 1 1) ∧
    (node 1 1).text = "n1.1" ∧ (node 1 1).text ≠ "n01.1" :=
  ⟨by decide, by decide, by decide, by decide⟩

end GraphWalk.Handle
