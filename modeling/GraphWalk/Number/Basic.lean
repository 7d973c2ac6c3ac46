/-!
# Binary floating point numbers

A `Number` is a sign with a magnitude `mant · 2 ^ exp`, or an infinity, together
with the number of bits its results are rounded to. Operations compute the exact
result and round it once, a tie going to the even neighbour. A result is rounded
to the larger precision of the operands.

An operation without a meaningful result (`∞ - ∞`, `0 · ∞`, `0 / 0`, `∞ / ∞`)
gives `none`.
-/

namespace GraphWalk

/-- A magnitude: a multiple of a power of two, or infinity. Zero is
`finite 0 0`; any other finite magnitude has an odd `mant`. -/
inductive Magnitude where
  | finite (mant : Nat) (exp : Int)
  | infinite
deriving Repr, DecidableEq, Inhabited

/-- A signed magnitude that is held to `prec` bits. -/
structure Number where
  neg : Bool
  mag : Magnitude
  prec : Nat
deriving Repr, DecidableEq, Inhabited

namespace Number

/-- The number of binary digits of `n`; zero has none. -/
def bitLength (n : Nat) : Nat := if n = 0 then 0 else Nat.log2 n + 1

/-- The number of factors two in `n`, looked for among the first `bound`. -/
def trailingZeros (n : Nat) : Nat → Nat
  | 0 => 0
  | bound + 1 => if n % 2 = 0 then trailingZeros (n / 2) bound + 1 else 0

/-- Removes all factors two from the mantissa. -/
def normalise (mant : Nat) (exp : Int) : Magnitude :=
  if mant = 0 then .finite 0 0
  else
    let z := trailingZeros mant (bitLength mant)
    .finite (mant >>> z) (exp + z)

/-- The largest and, negated, the smallest binary exponent of a finite number. -/
def maxExponent : Int := 2147483647

/-- Divides by `2 ^ shift`, rounding to nearest with ties to even. `sticky` says
that the exact value lies above `mant`. -/
def shiftRound (mant shift : Nat) (sticky : Bool) : Nat :=
  let q := mant >>> shift
  let rest := mant - q <<< shift
  let half := if shift = 0 then 0 else 1 <<< (shift - 1)
  let up := shift ≠ 0 ∧ (half < rest ∨ (rest = half ∧ (sticky ∨ q % 2 = 1)))
  if up then q + 1 else q

/-- The nearest magnitude with at most `prec` bits; too large exponents become
infinity and too small ones zero. -/
def roundMag (prec mant : Nat) (exp : Int) (sticky : Bool) : Magnitude :=
  if mant = 0 then .finite 0 0
  else
    let len := bitLength mant
    let m := if len ≤ prec then normalise mant exp
      else normalise (shiftRound mant (len - prec) sticky) (exp + (len - prec : Nat))
    match m with
    | .finite m e =>
      let top := e + bitLength m
      if top > maxExponent then .infinite
      else if top < -maxExponent - 1 then .finite 0 0
      else .finite m e
    | .infinite => .infinite

/-- The whole number `n`, held to `prec` bits or more if it has more. -/
def ofIntPrec (prec : Nat) (n : Int) : Number :=
  { neg := n < 0, mag := normalise n.natAbs 0, prec := max prec (bitLength n.natAbs) }

/-- A count: whole numbers that the program makes itself are held to 64 bits. -/
def ofNat (n : Nat) : Number := ofIntPrec 64 n

def zero : Number := ofNat 0

/-- The precision of numbers that are read from text. -/
def textPrecision : Nat := 512

/-- The limit beyond all numbers of a sign, held to no bits at all. -/
def infinity (neg : Bool) : Number := ⟨neg, .infinite, 0⟩

/-- An infinity that was computed or read, held to at least one bit. -/
def reached (neg : Bool) (prec : Nat) : Number := ⟨neg, .infinite, max prec 1⟩

def isZero (x : Number) : Bool := x.mag == .finite 0 0

def isInfinite (x : Number) : Bool := x.mag == .infinite

/-- Whether `x` is the limit itself rather than an infinite result. -/
def isLimit (x : Number) : Bool := x.isInfinite && x.prec = 0

/-- A number as the result of a computation, which is never the limit itself. -/
def asResult (x : Number) : Number :=
  if x.isInfinite then reached x.neg x.prec else x

def negate (x : Number) : Number := asResult { x with neg := !x.neg }

def abs (x : Number) : Number := asResult { x with neg := false }

/-- Holds `x` to `prec` bits, rounding if it has more. -/
def withPrec (prec : Nat) (x : Number) : Number :=
  match x.mag with
  | .finite m e => { x with mag := roundMag prec m e false, prec := prec }
  | .infinite => { x with prec := prec }

/-- The fewest bits that hold `x` exactly. -/
def minPrec (x : Number) : Nat :=
  match x.mag with
  | .finite m _ => bitLength m
  | .infinite => 0

/-- The signed mantissas of two finite magnitudes over a common exponent. -/
def align (m₁ : Nat) (e₁ : Int) (m₂ : Nat) (e₂ : Int) : Nat × Nat × Int :=
  let e := min e₁ e₂
  (m₁ <<< (e₁ - e).toNat, m₂ <<< (e₂ - e).toNat, e)

/-- The sum rounded to `prec` bits. Zeros of both signs add to `+0`. -/
def addPrec (prec : Nat) (x y : Number) : Option Number :=
  match x.mag, y.mag with
  | .infinite, .infinite => if x.neg = y.neg then some (reached x.neg prec) else none
  | .infinite, _ => some (reached x.neg prec)
  | _, .infinite => some (reached y.neg prec)
  | .finite m₁ e₁, .finite m₂ e₂ =>
    if m₁ = 0 ∧ m₂ = 0 then some ⟨x.neg && y.neg, .finite 0 0, prec⟩
    else if m₂ = 0 then some (withPrec prec x)
    else if m₁ = 0 then some (withPrec prec y)
    else
      let (a, b, e) := align m₁ e₁ m₂ e₂
      if x.neg = y.neg then some ⟨x.neg, roundMag prec (a + b) e false, prec⟩
      else if a = b then some ⟨false, .finite 0 0, prec⟩
      else if a > b then some ⟨x.neg, roundMag prec (a - b) e false, prec⟩
      else some ⟨y.neg, roundMag prec (b - a) e false, prec⟩

/-- The product rounded to `prec` bits. -/
def mulPrec (prec : Nat) (x y : Number) : Option Number :=
  let neg := x.neg != y.neg
  match x.mag, y.mag with
  | .finite m₁ e₁, .finite m₂ e₂ => some ⟨neg, roundMag prec (m₁ * m₂) (e₁ + e₂) false, prec⟩
  | .infinite, .finite 0 _ | .finite 0 _, .infinite => none
  | _, _ => some ⟨neg, .infinite, prec⟩

/-- The quotient rounded to `prec` bits. Division of a finite number by zero
gives infinity. -/
def divPrec (prec : Nat) (x y : Number) : Option Number :=
  let neg := x.neg != y.neg
  match x.mag, y.mag with
  | .infinite, .infinite => none
  | .infinite, .finite _ _ => some (reached neg prec)
  | .finite _ _, .infinite => some ⟨neg, .finite 0 0, prec⟩
  | .finite m₁ e₁, .finite m₂ e₂ =>
    if m₂ = 0 then (if m₁ = 0 then none else some (reached neg prec))
    else
      -- enough extra bits that the quotient has more than `prec` of them
      let shift := prec + 2 + bitLength m₂ - bitLength m₁
      let n := m₁ <<< shift
      let q := n / m₂
      -- one more bit at the end records that the division was not exact
      let q' := 2 * q + (if n % m₂ = 0 then 0 else 1)
      some ⟨neg, roundMag prec q' (e₁ - e₂ - shift - 1) false, prec⟩

def add (x y : Number) : Option Number := addPrec (max x.prec y.prec) x y

def sub (x y : Number) : Option Number := addPrec (max x.prec y.prec) x y.negate

/-- The product is computed to 512 bits and held to as many as it needs, at least
those of the operands. -/
def mul (x y : Number) : Option Number :=
  (mulPrec textPrecision x y).map fun z =>
    asResult { z with prec := max (max x.prec y.prec) z.minPrec }

def div (x y : Number) : Option Number := divPrec (max x.prec y.prec) x y

/-- The whole part of a finite number, towards zero, without its sign. -/
def truncNat (m : Nat) (e : Int) : Nat :=
  if e ≥ 0 then m <<< e.toNat else m >>> (-e).toNat

/-- The whole part, towards zero; an infinity has none. -/
def trunc? (x : Number) : Option Int :=
  match x.mag with
  | .finite m e => some (if x.neg then -(truncNat m e : Int) else truncNat m e)
  | .infinite => none

/-- Whether `x` is a whole number. -/
def isWhole (x : Number) : Bool :=
  match x.mag with
  | .finite _ e => e ≥ 0
  | .infinite => false

/-- The remainder of division towards zero, computed to the bits of `x`. Next to a
limit it is the product, and a remainder by zero leaves `x` as it is. -/
def rem (x y : Number) : Option Number :=
  if x.isLimit || y.isLimit then mul x y
  else if y.isZero then some x
  else do
    let q ← div x y
    let i ← q.trunc?
    let w := withPrec x.prec (ofIntPrec x.prec i)
    let p ← mulPrec x.prec y w
    addPrec x.prec x p.negate

/-- Exact comparison; zeros of both signs are equal. -/
def compare (x y : Number) : Ordering :=
  let key (n : Number) : Int :=
    match n.mag with
    | .infinite => if n.neg then -2 else 2
    | .finite 0 _ => 0
    | .finite _ _ => if n.neg then -1 else 1
  match Ord.compare (key x) (key y) with
  | .eq =>
    match x.mag, y.mag with
    | .finite m₁ e₁, .finite m₂ e₂ =>
      let top₁ := e₁ + bitLength m₁
      let top₂ := e₂ + bitLength m₂
      let o := match Ord.compare top₁ top₂ with
        | .eq => let (a, b, _) := align m₁ e₁ m₂ e₂; Ord.compare a b
        | o => o
      if m₁ = 0 ∨ m₂ = 0 then .eq else if x.neg then o.swap else o
    | _, _ => .eq
  | o => o

def lt (x y : Number) : Bool := compare x y == .lt

def eqv (x y : Number) : Bool := compare x y == .eq

/-- The least whole number that is not below `x`, held to the bits of `x`. -/
def ceil (x : Number) : Number :=
  match x.trunc? with
  | none => x.asResult
  | some i =>
    let i := if x.isWhole || x.neg then i else i + 1
    withPrec x.prec { ofIntPrec x.prec i with prec := x.prec }

/-- The greatest whole number that is not above `x`, held to the bits of `x`. -/
def floor (x : Number) : Number :=
  match x.trunc? with
  | none => x.asResult
  | some i =>
    let i := if x.isWhole || !x.neg then i else i - 1
    withPrec x.prec { ofIntPrec x.prec i with prec := x.prec }

end Number

end GraphWalk
