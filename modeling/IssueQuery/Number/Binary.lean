
namespace IssueQuery.Number

-- A power is the one of the core library also where monoids are known.
attribute [instance (20000), default_instance (20000)] instPowNat

inductive Binary where
  | nan
  | infinite (negative : Bool)
  | finite (negative : Bool) (mant : Nat) (exp : Int)
  deriving Repr, DecidableEq

namespace Binary

def ofFloat (x : Float) : Binary :=
  let bits : Nat := x.toBits.toNat
  let negative := bits / 2 ^ 63 == 1
  let field : Nat := bits / 2 ^ 52 % 2 ^ 11
  let fraction : Nat := bits % 2 ^ 52
  if field == 2047 then
    if fraction == 0 then .infinite negative else .nan
  else if field == 0 then .finite negative fraction (-1074)
  else .finite negative (2 ^ 52 + fraction) ((field : Int) - 1075)

end Binary

def infinity : Float := Float.ofBits 0x7ff0000000000000

def notANumber : Float := Float.ofBits 0x7ff8000000000000

def withSign (negative : Bool) (x : Float) : Float :=
  if negative then -x else x

def divEven (num den : Nat) : Nat :=
  let q := num / den
  let r := num % den
  if 2 * r > den || (2 * r == den && q % 2 == 1) then q + 1 else q

/-- The float with bits for `mant * 2 ^ exp`, where `exp` is at least `-1074` and `mant` is at most
`2 ^ 53`, and at least `2 ^ 52` unless `exp` is `-1074`. -/
def assemble (mant : Nat) (exp : Int) : Float :=
  let bits := (exp + 1074).toNat * 2 ^ 52 + mant
  if bits ≥ 2047 * 2 ^ 52 then infinity else Float.ofBits (UInt64.ofNat bits)

def nearestScaled (num den : Nat) (shift : Int) : Float :=
  if num == 0 || den == 0 then 0.0
  else
    let size : Int := Nat.log2 num - Nat.log2 den
    let guess := size - 52 + shift
    if guess > 1100 then infinity
    else if guess < -1200 then 0.0
    else
      let quotient (e : Int) : Nat × Nat :=
        let s := shift - e
        (num * 2 ^ s.toNat, den * 2 ^ (-s).toNat)
      let first := max guess (-1074)
      let (n, d) := quotient first
      let e := if n < d * 2 ^ 52 && first > -1074 then first - 1 else first
      let (n, d) := quotient e
      assemble (divEven n d) e

def nearest (num : Int) (den : Nat) : Float :=
  withSign (num < 0) (nearestScaled num.natAbs den 0)

def ofInt (n : Int) : Float :=
  nearest n 1

/-- The nearest float to `digits * 10 ^ exp`. As the binary logarithm of ten lies between 3.3219 and
3.322, a value beyond all floats on either side is known without its power of ten. -/
def nearestDecimal (digits : Nat) (exp : Int) : Float :=
  if digits == 0 then 0.0
  else
    let size : Int := Nat.log2 digits
    let (least, most) := if exp ≥ 0 then (33219, 33220) else (33220, 33219)
    if size + least * exp / 10000 > 1100 then infinity
    else if size + most * exp / 10000 + 2 < -1200 then 0.0
    else nearestScaled (digits * 10 ^ exp.toNat) (10 ^ (-exp).toNat) 0

def isFinite (x : Float) : Bool :=
  match Binary.ofFloat x with
  | .finite .. => true
  | _ => false

def integerPart (negative : Bool) (mant : Nat) (exp : Int) : Int :=
  let n : Int := mant * 2 ^ exp.toNat / 2 ^ (-exp).toNat
  if negative then -n else n

def roundEven (x : Float) : Float :=
  match Binary.ofFloat x with
  | .finite negative mant exp =>
    if exp ≥ 0 then x
    else withSign negative (nearestScaled (divEven mant (2 ^ (-exp).toNat)) 1 0)
  | _ => x

def toTenth (x : Float) : Float :=
  roundEven (x * 10.0) / 10.0

end IssueQuery.Number
