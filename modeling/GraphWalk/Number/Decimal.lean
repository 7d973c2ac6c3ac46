import GraphWalk.Number.Basic

/-!
# Decimal texts of numbers

A finite number has an exact decimal expansion (`Decimal.ofMagnitude`). A text
with the fewest digits that still identify the number among those of its
precision comes from cutting the expansion at the first place where it differs
from the bounds half a unit away (`Decimal.shortest`).
-/

namespace GraphWalk

/-- The decimal `0.d₁d₂… · 10 ^ point`. The digits neither start nor end with a
zero; no digits mean zero. -/
structure Decimal where
  digits : List Nat
  point : Int
deriving Repr, DecidableEq, Inhabited

namespace Decimal

/-- The decimal digits of a natural number, the largest place first. -/
def digitsOf (n : Nat) : List Nat :=
  (toString n).toList.map (fun c => c.toNat - '0'.toNat)

/-- Drops zeros at the end. -/
def trim (ds : List Nat) : List Nat := (ds.reverse.dropWhile (· = 0)).reverse

/-- The exact expansion of `mant · 2 ^ exp`. -/
def ofMagnitude (mant : Nat) (exp : Int) : Decimal :=
  if mant = 0 then ⟨[], 0⟩
  else if exp ≥ 0 then
    let ds := digitsOf (mant <<< exp.toNat)
    ⟨trim ds, ds.length⟩
  else
    let k := (-exp).toNat
    let ds := digitsOf (mant * Nat.pow 5 k)
    ⟨trim ds, (ds.length : Int) - k⟩

/-- The digit at place `i`, zero behind the last. -/
def digitAt (d : Decimal) (i : Nat) : Nat := d.digits.getD i 0

/-- The first `n` digits. -/
def roundDown (d : Decimal) (n : Nat) : Decimal :=
  if n ≥ d.digits.length then d
  else
    let ds := trim (d.digits.take n)
    ⟨ds, if ds.isEmpty then 0 else d.point⟩

/-- The first `n` digits, the last one increased; nines carry over. -/
def roundUp (d : Decimal) (n : Nat) : Decimal :=
  if n ≥ d.digits.length then d
  else
    match (d.digits.take n).reverse.dropWhile (· = 9) with
    | [] => ⟨[1], d.point + 1⟩
    | x :: rest => ⟨((x + 1) :: rest).reverse, d.point⟩

/-- Whether the part behind the first `n` digits is more than half a unit, or
half a unit behind an odd digit. -/
def roundsUp (d : Decimal) (n : Nat) : Bool :=
  if d.digitAt n = 5 ∧ n + 1 = d.digits.length then
    match n with
    | 0 => false
    | m + 1 => d.digitAt m % 2 = 1
  else d.digitAt n ≥ 5

/-- The first `n` digits, rounded to nearest with ties to even. -/
def round (d : Decimal) (n : Nat) : Decimal :=
  if n ≥ d.digits.length then d
  else if d.roundsUp n then d.roundUp n else d.roundDown n

/-- Rounds behind the `n`-th digit, where a negative place lies before the first
digit and leaves nothing. -/
def roundAt (d : Decimal) (n : Int) : Decimal :=
  if n < 0 then ⟨[], 0⟩ else d.round n.toNat

/-- Cuts `d` at the first place where truncating or rounding up stays within the
bounds. `inclusive` says whether the bounds themselves count as inside. -/
def shortestBetween (d lower upper : Decimal) (inclusive : Bool) : Decimal :=
  go 0 d.digits
where
  go (i : Nat) : List Nat → Decimal
    | [] => d
    | m :: rest =>
      let l := lower.digitAt i
      let u := upper.digitAt i
      let okDown := l ≠ m || (inclusive && i + 1 = lower.digits.length)
      let okUp := m ≠ u && (inclusive || m + 1 < u || i + 1 < upper.digits.length)
      if okDown && okUp then d.round (i + 1)
      else if okDown then d.roundDown (i + 1)
      else if okUp then d.roundUp (i + 1)
      else go (i + 1) rest

/-- The fewest digits that identify `mant · 2 ^ exp` among the numbers of `prec`
bits. -/
def shortest (prec mant : Nat) (exp : Int) : Decimal :=
  if mant = 0 then ⟨[], 0⟩
  else
    let pad := prec - Number.bitLength mant
    let m := mant <<< pad
    let e := exp - pad
    shortestBetween (ofMagnitude mant exp) (ofMagnitude (2 * m - 1) (e - 1))
      (ofMagnitude (2 * m + 1) (e - 1)) (m % 2 = 0)

/-- A digit as a character. -/
def digitChar (n : Nat) : Char := Char.ofNat ('0'.toNat + n)

/-- Positional text with `places` digits behind the point. -/
def positional (d : Decimal) (places : Nat) : String :=
  let whole :=
    if d.point > 0 then
      let n := d.point.toNat
      (d.digits.take n).map digitChar ++ List.replicate (n - d.digits.length) '0'
    else ['0']
  let fraction := (List.range places).map fun (i : Nat) =>
    let at' := d.point + i
    if at' < 0 then '0' else digitChar (d.digitAt at'.toNat)
  String.ofList (if places = 0 then whole else whole ++ '.' :: fraction)

/-- Text with an exponent: one digit, `places` digits behind the point, and an
exponent of at least two digits. -/
def scientific (mark : Char) (d : Decimal) (places : Nat) : String :=
  let first := digitChar (d.digitAt 0)
  let fraction := (List.range places).map fun i => digitChar (d.digitAt (i + 1))
  let exp : Int := if d.digits.isEmpty then 0 else d.point - 1
  let digits := toString exp.natAbs
  let padded := if digits.length < 2 then "0" ++ digits else digits
  String.ofList (first :: (if places = 0 then [] else '.' :: fraction)) ++ mark.toString
    ++ (if exp < 0 then "-" else "+") ++ padded

end Decimal

namespace Number

/-- How a number is laid out: positional, with an exponent, or whichever is
shorter. -/
inductive Layout where
  | positional
  | scientific (upper : Bool)
  | general (upper : Bool)
deriving Repr, DecidableEq

/-- The text of a decimal in a layout. `places` counts digits behind the point
(or all digits, in the general layout); `none` asks for as many as there are. -/
def Layout.render (l : Layout) (exact : Decimal) (fewest : Decimal) (places : Option Nat) :
    String :=
  match l, places with
  | .positional, none =>
    fewest.positional ((fewest.digits.length : Int) - fewest.point).toNat
  | .positional, some p => (exact.roundAt (exact.point + p)).positional p
  | .scientific up, none =>
    fewest.scientific (if up then 'E' else 'e') (fewest.digits.length - 1)
  | .scientific up, some p => (exact.round (p + 1)).scientific (if up then 'E' else 'e') p
  | .general up, places =>
    let mark := if up then 'E' else 'e'
    let d := match places with
      | none => fewest
      | some p => exact.round (max p 1)
    let len : Nat := d.digits.length
    let prec : Nat := match places with
      | none => len
      | some p => max p 1
    let eprec : Int := match places with
      | none => 6
      | some _ => if prec > len ∧ (len : Int) ≥ d.point then len else prec
    let exp := d.point - 1
    if exp < -4 ∨ exp ≥ eprec then d.scientific mark (min prec len - 1)
    else
      let p : Int := if (prec : Int) > d.point then len else prec
      d.positional (p - d.point).toNat

/-- The text of a number in a layout; infinities are `+Inf` and `-Inf`. -/
def render (l : Layout) (places : Option Nat) (x : Number) : String :=
  match x.mag with
  | .infinite => if x.neg then "-Inf" else "+Inf"
  | .finite m e =>
    let body := l.render (.ofMagnitude m e) (.shortest x.prec m e) places
    if x.neg then "-" ++ body else body

/-- Positional notation with the fewest digits that identify the number. -/
def text (x : Number) : String := x.render .positional none

/-- Whether two numbers are the same: they have one text, zeros of both signs
included. Numbers of one precision have one text only if they are equal; between
precisions the digits decide. -/
def sameAs (x y : Number) : Bool :=
  if x.prec = y.prec then x.eqv y
  else if x.isZero || y.isZero then x.isZero && y.isZero
  else x.neg == y.neg && x.text == y.text

end Number

end GraphWalk
