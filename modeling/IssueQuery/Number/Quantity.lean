import IssueQuery.Number.Power

namespace IssueQuery.Number

inductive Quantity where
  | whole (n : Int)
  | decimal (x : Float)

def floatOfWhole (n : Int) : Except RangeFault Float :=
  let x := ofInt n
  if isFinite x then .ok x else .error .wholeTooLarge

def roundedWhole (n : Int) : Except RangeFault Int := do
  match Binary.ofFloat (← floatOfWhole n) with
  | .finite negative mant exp => return integerPart negative mant exp
  | _ => throw .wholeTooLarge

def maxExponent : Int := 1024

/-- A whole power; one that is known to lie beyond all floats is not worked out. -/
def wholePower (base exponent : Int) : Except RangeFault Int :=
  if base == 0 || base == 1 then .ok (if exponent == 0 then 1 else base)
  else if base == -1 then .ok (if exponent % 2 == 0 then 1 else -1)
  else if exponent < maxExponent then .ok (base ^ exponent.toNat)
  else .error .wholeTooLarge

namespace Quantity

def toFloat : Quantity → Except RangeFault Float
  | .whole n => floatOfWhole n
  | .decimal x => .ok x

def nearest : Quantity → Float
  | .whole n => ofInt n
  | .decimal x => x

def mul : Quantity → Quantity → Except RangeFault Quantity
  | .whole m, .whole n => .ok (.whole (m * n))
  | a, b => do return .decimal ((← a.toFloat) * (← b.toFloat))

/-- Whole numbers have whole powers, of which the negative ones are floats. The exponent of a float is
rounded to a float. -/
def power (base : Quantity) (exponent : Int) : Except RangeFault Quantity :=
  match base with
  | .whole b =>
    if exponent ≥ 0 then (wholePower b exponent).map .whole
    else do return .decimal (← Number.power (← floatOfWhole b) (← roundedWhole exponent))
  | .decimal x => do return .decimal (← Number.power x (← roundedWhole exponent))

def timesPower (factor base : Quantity) (exponent : Int) : Except RangeFault Quantity :=
  match factor, base with
  | .whole 0, .whole b =>
    if exponent ≥ 0 then .ok (.whole 0)
    else do (Quantity.whole 0).mul (← (Quantity.whole b).power exponent)
  | _, _ => do factor.mul (← base.power exponent)

/-- Where a value stands: among the finite ones at its exact value, or with -1 below and 1 above all of
them. -/
def place : Quantity → Int × Rat
  | .whole n => (0, n)
  | .decimal x =>
    match Binary.ofFloat x with
    | .finite negative mant exp =>
      let n : Rat := mkRat (mant * 2 ^ exp.toNat) (2 ^ (-exp).toNat)
      (0, if negative then -n else n)
    | .infinite negative => (if negative then -1 else 1, 0)
    | .nan => (0, 0)

def isNaN : Quantity → Bool
  | .whole _ => false
  | .decimal x => Binary.ofFloat x == .nan

def less (a b : Quantity) : Bool :=
  let p := a.place
  let q := b.place
  !a.isNaN && !b.isNaN && (p.1 < q.1 || (p.1 == q.1 && p.2 < q.2))

def equal (a b : Quantity) : Bool :=
  !a.isNaN && !b.isNaN && a.place == b.place

end Quantity

end IssueQuery.Number
