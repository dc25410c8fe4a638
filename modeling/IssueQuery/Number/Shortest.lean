import IssueQuery.Number.Binary

namespace IssueQuery.Number

structure Decimal where
  digits : Nat
  exp : Int
  deriving Repr, DecidableEq

def compareScaled (a : Nat) (i : Int) (b : Nat) (j : Int) : Ordering :=
  compare (a * 10 ^ i.toNat * 2 ^ (-j).toNat) (b * 2 ^ j.toNat * 10 ^ (-i).toNat)

/-- The decimal lies among the reals that round to `mant * 2 ^ exp`: between the midpoints to the
neighbouring floats, which belong to the value exactly when `mant` is even. -/
def readsBack (mant : Nat) (exp : Int) (d : Decimal) : Bool :=
  let low := if mant == 2 ^ 52 && exp > -1074 then 4 * mant - 1 else 4 * mant - 2
  let atLow := compareScaled d.digits d.exp low (exp - 2)
  let atHigh := compareScaled d.digits d.exp (4 * mant + 2) (exp - 2)
  let ends := mant % 2 == 0
  (atLow == .gt || (ends && atLow == .eq)) && (atHigh == .lt || (ends && atHigh == .eq))

def gridFloor (mant : Nat) (exp grid : Int) : Nat :=
  mant * 2 ^ exp.toNat * 10 ^ (-grid).toNat / (2 ^ (-exp).toNat * 10 ^ grid.toNat)

/-- The neighbour of the value on the grid of multiples of `10 ^ grid` that reads back; of two, the
nearer one, of two equally near ones the even one. -/
def onGrid? (mant : Nat) (exp grid : Int) : Option Decimal :=
  let below := gridFloor mant exp grid
  let lower : Decimal := ⟨below, grid⟩
  let upper : Decimal := ⟨below + 1, grid⟩
  match readsBack mant exp lower, readsBack mant exp upper with
  | false, false => none
  | true, false => some lower
  | false, true => some upper
  | true, true =>
    match compareScaled (2 * below + 1) grid (2 * mant) exp with
    | .gt => some lower
    | .lt => some upper
    | .eq => some (if below % 2 == 0 then lower else upper)

def magnitude (mant : Nat) (exp : Int) : Int :=
  (((Nat.log2 mant : Int) + exp) * 30103) / 100000

def searchGrids (mant : Nat) (exp top : Int) : Nat → Option Decimal
  | 0 => none
  | n + 1 =>
    match onGrid? mant exp top with
    | some d => if d.digits == 0 then searchGrids mant exp (top - 1) n else some d
    | none => searchGrids mant exp (top - 1) n

def Decimal.trim (d : Decimal) : Nat → Decimal
  | 0 => d
  | n + 1 => if d.digits != 0 && d.digits % 10 == 0 then Decimal.trim ⟨d.digits / 10, d.exp + 1⟩ n else d

def shortest (mant : Nat) (exp : Int) : Decimal :=
  ((searchGrids mant exp (magnitude mant exp + 1) 20).getD ⟨gridFloor mant exp 0, 0⟩).trim 400

structure Notation where
  positionalFrom : Int
  positionalTo : Int
  exponentWidth : Nat
  nan : String
  infinity : String

def zeros (n : Nat) : String :=
  String.ofList (List.replicate n '0')

def positional (digits : String) (point : Int) : String :=
  let n : Int := digits.length
  if point ≤ 0 then "0." ++ zeros (-point).toNat ++ digits
  else if point ≥ n then digits ++ zeros (point - n).toNat ++ ".0"
  else
    String.ofList (digits.toList.take point.toNat) ++ "." ++ String.ofList (digits.toList.drop point.toNat)

def scientific (width : Nat) (digits : String) (exponent : Int) : String :=
  let rest := String.ofList (digits.toList.drop 1)
  let head := String.ofList (digits.toList.take 1) ++ (if rest.isEmpty then "" else "." ++ rest)
  let e := toString exponent.natAbs
  head ++ "e" ++ (if exponent < 0 then "-" else "+") ++ zeros (width - e.length) ++ e

def Notation.write (f : Notation) (x : Float) : String :=
  match Binary.ofFloat x with
  | .nan => f.nan
  | .infinite negative => (if negative then "-" else "") ++ f.infinity
  | .finite negative mant exp =>
    let sign := if negative then "-" else ""
    if mant == 0 then sign ++ "0.0"
    else
      let d := shortest mant exp
      let digits := toString d.digits
      let exponent : Int := d.exp + digits.length - 1
      sign ++ (if f.positionalFrom ≤ exponent && exponent ≤ f.positionalTo then
        positional digits (exponent + 1)
      else scientific f.exponentWidth digits exponent)

end IssueQuery.Number
