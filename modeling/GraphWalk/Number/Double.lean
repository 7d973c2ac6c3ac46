import GraphWalk.Number.Decimal
import GraphWalk.Number.Read

/-!
# Numbers with 53 bits

The nearest number with 53 bits and an exponent between -1074 and 971, and its
text: the fewest digits that identify it, positional from a millionth up to
10²¹ and with an exponent elsewhere.
-/

namespace GraphWalk

namespace Number

/-- Whether a text is a sign, digits with at most one point, and an exponent. -/
def isDecimal (cs : List Char) : Bool :=
  let body := match cs with
    | '-' :: rest => rest
    | '+' :: rest => rest
    | _ => cs
  let whole := body.takeWhile Char.isDigit
  let (fraction, tail) := match body.dropWhile Char.isDigit with
    | '.' :: rest => (rest.takeWhile Char.isDigit, rest.dropWhile Char.isDigit)
    | rest => ([], rest)
  let exponent := match tail with
    | [] => true
    | e :: rest =>
      let ds := match rest with
        | '-' :: ds => ds
        | '+' :: ds => ds
        | _ => rest
      (e = 'e' || e = 'E') && !ds.isEmpty && ds.all Char.isDigit
  !(whole.isEmpty && fraction.isEmpty) && exponent

/-- A magnitude `mant · 2 ^ exp` with at most 53 bits. -/
structure Double where
  neg : Bool
  mant : Nat
  exp : Int
deriving Repr, DecidableEq, Inhabited

namespace Double

def minExp : Int := -1074

def maxExp : Int := 971

/-- Rounds a magnitude to 53 bits, or to fewer where the exponent is least. -/
def roundTo (mant : Nat) (exp : Int) : Nat × Int :=
  let least := max (exp + bitLength mant - 53) minExp
  if exp ≥ least then (mant <<< (exp - least).toNat, least)
  else
    let m := shiftRound mant (least - exp).toNat false
    if bitLength m > 53 then (m / 2, least + 1) else (m, least)

/-- The nearest one, if it is finite. -/
def ofNumber? (x : Number) : Option Double :=
  match x.mag with
  | .infinite => none
  | .finite m e =>
    if m = 0 then some ⟨x.neg, 0, minExp⟩
    else
      let (m', e') := roundTo m e
      if e' > maxExp then none else some ⟨x.neg, m', e'⟩

/-- Compares two digit lists place by place; missing digits are zeros. -/
def digitsLe : List Nat → List Nat → Bool
  | [], _ => true
  | d :: ds, [] => d = 0 && digitsLe ds []
  | d :: ds, e :: es => d < e || (d = e && digitsLe ds es)

/-- Whether one decimal is at most another. -/
def decimalLe (a b : Decimal) : Bool :=
  if a.digits.isEmpty then true
  else if b.digits.isEmpty then false
  else a.point < b.point || (a.point = b.point && digitsLe a.digits b.digits)

/-- Whether a decimal lies between two others, the ends included or not. -/
def between (lower upper : Decimal) (inclusive : Bool) (d : Decimal) : Bool :=
  if inclusive then decimalLe lower d && decimalLe d upper
  else !decimalLe d lower && !decimalLe upper d

/-- The first number of digits, from `n` on, at which cutting or rounding up stays
inside; of two that do, the nearer. -/
def fewest (exact : Decimal) (inside : Decimal → Bool) : Nat → Nat → Decimal
  | 0, _ => exact
  | fuel + 1, n =>
    let down := inside (exact.roundDown n)
    let up := inside (exact.roundUp n)
    if down && up then exact.round n
    else if down then exact.roundDown n
    else if up then exact.roundUp n
    else fewest exact inside fuel (n + 1)

/-- The shortest decimal between the midpoints to the neighbours. Below a power
of two the neighbour is only half as far away. -/
def shortest (d : Double) : Decimal :=
  if d.mant = 0 then Decimal.ofMagnitude 0 0
  else
    let lower := if d.mant = Nat.pow 2 52 ∧ d.exp > minExp
      then Decimal.ofMagnitude (4 * d.mant - 1) (d.exp - 2)
      else Decimal.ofMagnitude (2 * d.mant - 1) (d.exp - 1)
    let upper := Decimal.ofMagnitude (2 * d.mant + 1) (d.exp - 1)
    fewest (Decimal.ofMagnitude d.mant d.exp) (between lower upper (d.mant % 2 = 0)) 17 1

/-- The exponent without zeros in front. -/
def plainExponent (s : String) : String :=
  match s.toList.reverse with
  | last :: '0' :: '-' :: rest => String.ofList (last :: '-' :: rest).reverse
  | _ => s

def text (d : Double) : String :=
  let digits := d.shortest
  let body :=
    if d.mant ≠ 0 ∧ (digits.point ≤ -6 ∨ digits.point > 21) then
      plainExponent (Layout.render (.scientific false) digits digits none)
    else Layout.render .positional digits digits none
  if d.neg then "-" ++ body else body

/-- Reads a decimal text. A number that is too small is zero; none if the text is no
number, or too large. -/
def read? (s : String) : Option Double :=
  match Number.read? s with
  | some x => ofNumber? x
  | none =>
    let cs := s.toList
    let tail := cs.dropWhile fun c => c ≠ 'e' && c ≠ 'E'
    if (tail.drop 1).head? = some '-' && (tail.drop 2).all Char.isDigit && !(tail.drop 2).isEmpty
    then some ⟨cs.head? = some '-', 0, minExp⟩ else none

/-- The whole number towards zero. -/
def trunc (d : Double) : Int :=
  let size := if d.exp ≥ 0 then d.mant <<< d.exp.toNat else d.mant >>> (-d.exp).toNat
  if d.neg then -(size : Int) else size

end Double

end Number

end GraphWalk
