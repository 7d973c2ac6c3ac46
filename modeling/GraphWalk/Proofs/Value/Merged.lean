import GraphWalk.Expr.Access
import GraphWalk.Proofs.Value.Shape
import GraphWalk.Text.Compose

/-!
# Objects with composed names

Two different texts can have one composed form. A character that is taken apart into a single one
becomes that one (`canonical_single`), so the sign for kelvin and the letter are composed alike
(`canonical_kelvin`).

The names of an object are composed, so names that are composed alike are one name there.
`shown_iff_unmixed`: **an object shows all its values** just if it was not made from different
values under such names.
-/

namespace GraphWalk.Text

variable {t : RangeTable} {n lo hi : Nat} {row : RangeRow}

/-- What is found in a table is one of its rows. -/
theorem RangeTable.mem_of_search (h : t.search n lo hi = some row) : row ∈ t.rows := by
  fun_induction RangeTable.search t n lo hi with
  | case1 => cases h
  | case2 lo hi _ mid row' hrow hlt ih => exact ih h
  | case3 lo hi _ mid row' hrow hlt hgt ih => exact ih h
  | case4 lo hi _ mid row' hrow hlt hgt =>
    cases h
    exact Array.mem_of_getElem? hrow
  | case5 => cases h

/-- What holds of the characters that a text is written with holds of its characters. -/
theorem of_ofList {p : List Char → Prop} {s : String} (l : List Char) (h : String.ofList l = s)
    (hp : p l) : p s.toList := by
  rw [← h, String.toList_ofList]
  exact hp

set_option maxRecDepth 100000 in
/-- No row of the table has a larger value than six. -/
theorem value_markedTable : ∀ r ∈ markedTable.rows, r.value ≤ 6 := by
  have hrows : ∀ r ∈ RangeTable.ofTriples.go (hexNumbers.go markedRows.toList none []),
      r.value ≤ 6 :=
    of_ofList (p := fun l => ∀ r ∈ RangeTable.ofTriples.go (hexNumbers.go l none []), r.value ≤ 6)
      _ rfl (by decide +kernel)
  exact fun r hr => hrows r (List.mem_toArray.1 hr)

theorem classOf_markedTable (c : Char) : markedTable.classOf c ≤ 6 := by
  unfold RangeTable.classOf RangeTable.row?
  cases h : markedTable.search c.toNat 0 markedTable.rows.size with
  | none => exact Nat.zero_le 6
  | some r => exact value_markedTable r (RangeTable.mem_of_search h)

/-- A character that is taken apart into one begins with few marks. -/
theorem leadingMarks_le {a : Nat} (h : decomposeChar 5 n = [a]) : leadingMarks n ≤ 1 := by
  have hclass := classOf_markedTable (Char.ofNat n)
  unfold leadingMarks
  split
  · rw [h]
    exact (List.takeWhile_prefix joinsBehind).length_le
  · rename_i v hv
    omega

/-- **A single character** that is taken apart into one becomes that one. -/
theorem canonical_single {c : Char} {a : Nat} (hc : ¬c.toNat < 0x300)
    (h : decomposeChar 5 c.toNat = [a]) :
    canonical (String.ofList [c]) = String.ofList [Char.ofNat a] := by
  have hsegs : (segments [c.toNat]).flatMap Segment.compose = [a] := by
    have hlead := leadingMarks_le h
    have horder : orderMarks [] [a] = [a] := by
      unfold orderMarks
      split <;> rfl
    have hcompose : Segment.compose ⟨[c.toNat], false⟩ = [a] := by
      unfold Segment.compose
      rw [List.flatMap_singleton, h, horder]
      rfl
    have hlimit : ¬markLimit < 0 + leadingMarks c.toNat := by
      unfold markLimit
      omega
    unfold segments segmentsFrom
    simp only [hlimit, if_false]
    split
    · simp only [segmentsFrom, List.flatMap_cons, List.reverse_singleton, hcompose]
      rfl
    · simp only [segmentsFrom, List.flatMap_cons, List.reverse_singleton, hcompose]
      rfl
  unfold canonical
  rw [String.toList_ofList, if_neg (by simpa using hc), List.map_singleton, hsegs]
  rfl

/-- The sign for kelvin is the letter. -/
theorem canonical_kelvin : canonical "\u212a" = canonical "K" :=
  canonical_single (c := '\u212a') (by decide) rfl

end GraphWalk.Text

namespace GraphWalk

variable {kvs : List (String × Value)} {n : String} {x : Value} {line : Nat}

/-- An attribute of an object that is made from names and values. -/
theorem attributeAt_ofAttrs : (Value.ofAttrs kvs).attributeAt n line = .ok x ↔
    lookupKey (Text.canonical n) (kvs.map fun p => (Text.canonical p.1, p.2)).reverse = some x := by
  have hnull : (Value.ofAttrs kvs).isNull = false := rfl
  have htype : (Value.ofAttrs kvs).type = .object (Value.typeAttrs
      (sortKeys (kvs.map fun p => (Text.canonical p.1, p.2)))) := rfl
  have hattr : (Value.ofAttrs kvs).attr? (Text.canonical n) = lookupKey (Text.canonical n)
      (sortKeys (kvs.map fun p => (Text.canonical p.1, p.2))) := rfl
  simp only [Value.attributeAt, hnull, htype, hattr, Bool.false_eq_true, if_false,
    lookupKey_typeAttrs, lookupKey_sortKeys]
  cases lookupKey (Text.canonical n) (kvs.map fun p => (Text.canonical p.1, p.2)).reverse with
  | none => exact iff_of_false (fun h => by cases h) fun h => by cases h
  | some y =>
    constructor
    · intro h
      cases h
      rfl
    · intro h
      cases h
      rfl

/-- No two names that are composed alike stand for different values. -/
def Unmixed (kvs : List (String × Value)) : Prop :=
  ∀ n n' x x', lookupKey n kvs = some x → lookupKey n' kvs = some x' →
    Text.canonical n = Text.canonical n' → x = x'

/-- **An object shows all its values** just if it was not made from different values under names
that are composed alike. -/
theorem shown_iff_unmixed (h : Ordered kvs) :
    (∀ n x, lookupKey n kvs = some x → (Value.ofAttrs kvs).attributeAt n line = .ok x) ↔
      Unmixed kvs := by
  simp only [attributeAt_ofAttrs]
  constructor
  · intro hshown n n' x x' hn hn' heq
    have hx := hshown n x hn
    rw [heq, hshown n' x' hn'] at hx
    exact (Option.some.inj hx).symm
  · intro hmixed n x hn
    have hmem : (Text.canonical n, x) ∈ (kvs.map fun p => (Text.canonical p.1, p.2)).reverse :=
      List.mem_reverse.2 (List.mem_map_of_mem (f := fun p => (Text.canonical p.1, p.2))
        (mem_of_lookupKey hn))
    obtain ⟨y, hy⟩ := exists_lookupKey (List.mem_map_of_mem (f := (·.1)) hmem)
    -- whatever is found came from a name that is composed alike
    obtain ⟨⟨n', y'⟩, hn', heq⟩ := List.mem_map.1 (List.mem_reverse.1 (mem_of_lookupKey hy))
    obtain ⟨hname, rfl⟩ := Prod.mk.inj heq
    rw [hy, hmixed n n' x y' hn ((mem_iff_lookupKey h.nodup).1 hn') hname.symm]

end GraphWalk
