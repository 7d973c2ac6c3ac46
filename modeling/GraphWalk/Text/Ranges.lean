/-!
# Tables of code point ranges

A `RangeTable` gives a class to every code point of a sorted list of disjoint
ranges. Tables are written as text, one entry a row (`first last class`, in
hexadecimal), and looked up by halving.
-/

namespace GraphWalk.Text

/-- One row: the code points from `first` to `last` have class `value`. -/
structure RangeRow where
  first : Nat
  last : Nat
  value : Nat
deriving Repr, Inhabited

/-- Rows in increasing order, no two overlapping. -/
structure RangeTable where
  rows : Array RangeRow
deriving Inhabited

/-- The value of a hexadecimal digit, upper or lower case. -/
def hexDigit? (c : Char) : Option Nat :=
  if '0' ≤ c ∧ c ≤ '9' then some (c.toNat - '0'.toNat)
  else if 'A' ≤ c ∧ c ≤ 'F' then some (c.toNat - 'A'.toNat + 10)
  else if 'a' ≤ c ∧ c ≤ 'f' then some (c.toNat - 'a'.toNat + 10)
  else none

/-- Reads the hexadecimal numbers of a text; every other character separates. -/
def hexNumbers (text : String) : List Nat :=
  go text.toList none []
where
  go : List Char → Option Nat → List Nat → List Nat
    | [], none, out => out.reverse
    | [], some n, out => (n :: out).reverse
    | c :: cs, pending, out =>
      match hexDigit? c, pending with
      | some d, none => go cs (some d) out
      | some d, some n => go cs (some (16 * n + d)) out
      | none, none => go cs none out
      | none, some n => go cs none (n :: out)

/-- Groups numbers into rows of three. -/
def RangeTable.ofTriples (ns : List Nat) : RangeTable :=
  ⟨(go ns).toArray⟩
where
  go : List Nat → List RangeRow
    | a :: b :: v :: rest => ⟨a, b, v⟩ :: go rest
    | _ => []

/-- Groups numbers into ranges that all carry the class `v`. -/
def RangeTable.ofPairs (v : Nat) (ns : List Nat) : RangeTable :=
  ⟨(go ns).toArray⟩
where
  go : List Nat → List RangeRow
    | a :: b :: rest => ⟨a, b, v⟩ :: go rest
    | _ => []

/-- The row that holds `n`, found by halving the rows from `lo` up to `hi`. -/
def RangeTable.search (t : RangeTable) (n lo hi : Nat) : Option RangeRow :=
  if lo < hi then
    let mid := (lo + hi) / 2
    match t.rows[mid]? with
    | none => none
    | some row =>
      if n < row.first then t.search n lo mid
      else if row.last < n then t.search n (mid + 1) hi
      else some row
  else none
termination_by hi - lo

/-- The row that holds the code point of `c`. -/
def RangeTable.row? (t : RangeTable) (c : Char) : Option RangeRow :=
  t.search c.toNat 0 t.rows.size

/-- The class of `c`, or `0` when no row holds it. -/
def RangeTable.classOf (t : RangeTable) (c : Char) : Nat :=
  ((t.row? c).map (·.value)).getD 0

/-- Whether some row holds `c`. -/
def RangeTable.contains (t : RangeTable) (c : Char) : Bool :=
  (t.row? c).isSome

end GraphWalk.Text
