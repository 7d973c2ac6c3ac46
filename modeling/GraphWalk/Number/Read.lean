import GraphWalk.Number.Basic

/-!
# Reading numbers

A decimal text is an optional sign, digits with at most one point and at least
one digit, and an optional exponent: `e` for powers of ten, `p` for powers of
two. `Inf` is read as infinity. The value is the quotient or product of the
digits and a power of five, rounded to 512 bits.
-/

namespace GraphWalk.Number

/-- The powers of five up to this one are exact in 64 bits. -/
def smallPowers : Nat := 27

/-- Multiplies `acc` by `f ^ n`, squaring `f` as it goes. -/
def powLoop (accPrec fPrec : Nat) (acc f : Number) (n : Nat) : Number :=
  if h : n = 0 then acc
  else
    let acc' := if n % 2 = 1 then (mulPrec accPrec acc f).getD acc else acc
    let f' := (mulPrec fPrec f f).getD f
    powLoop accPrec fPrec acc' f' (n / 2)
termination_by n
decreasing_by omega

/-- `5 ^ n` to `prec` bits. -/
def powFive (prec n : Nat) : Number :=
  if n ≤ smallPowers then withPrec prec (ofIntPrec prec (Nat.pow 5 n))
  else
    let start := withPrec prec (ofIntPrec prec (Nat.pow 5 smallPowers))
    powLoop prec (prec + 64) start (ofIntPrec (prec + 64) 5) (n - smallPowers)

/-- `mant · 5 ^ exp5 · 2 ^ exp2` to 512 bits; `none` if the exponent is out of
range. -/
def scale (neg : Bool) (mant : Nat) (exp2 exp5 : Int) : Option Number :=
  if mant = 0 then some ⟨neg, .finite 0 0, textPrecision⟩
  else
    let top := exp2 + bitLength mant
    if top > maxExponent ∨ top < -maxExponent - 1 then none
    else
      let m : Number := ⟨neg, normalise mant exp2, textPrecision⟩
      let p := powFive (textPrecision + 64) exp5.natAbs
      if exp5 = 0 then some (withPrec textPrecision m)
      else if exp5 < 0 then divPrec textPrecision m p
      else mulPrec textPrecision m p

/-- The natural number that a list of decimal digits spells. -/
def natOfDigits (ds : List Char) : Nat :=
  ds.foldl (fun n c => 10 * n + (c.toNat - '0'.toNat)) 0

/-- Splits an optional sign from a text. -/
def splitSign : List Char → Bool × List Char
  | '-' :: cs => (true, cs)
  | '+' :: cs => (false, cs)
  | cs => (false, cs)

/-- An exponent: nothing at all, or a mark, an optional sign and digits up to the
end. It gives the powers of two and of five. -/
def readExponent : List Char → Option (Int × Int)
  | [] => some (0, 0)
  | mark :: cs =>
    let (neg, ds) := splitSign cs
    if ds.isEmpty ∨ !ds.all Char.isDigit then none
    else
      let n := natOfDigits ds
      if n ≥ 9223372036854775808 then none
      else
        let e : Int := if neg then -n else n
        match mark with
        | 'e' | 'E' => some (e, e)
        | 'p' | 'P' => some (e, 0)
        | _ => none

/-- Reads a decimal text. -/
def read? (s : String) : Option Number :=
  let (neg, body) := splitSign s.toList
  if body = ['I', 'n', 'f'] ∨ body = ['i', 'n', 'f'] then some (reached neg textPrecision)
  else
    let whole := body.takeWhile Char.isDigit
    let rest := body.dropWhile Char.isDigit
    let (fraction, rest) := match rest with
      | '.' :: cs => (cs.takeWhile Char.isDigit, cs.dropWhile Char.isDigit)
      | cs => ([], cs)
    if whole.isEmpty ∧ fraction.isEmpty then none
    else do
      let (e2, e5) ← readExponent rest
      let places : Int := fraction.length
      scale neg (natOfDigits (whole ++ fraction)) (e2 - places) (e5 - places)

end GraphWalk.Number
