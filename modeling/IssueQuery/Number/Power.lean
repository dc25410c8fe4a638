import IssueQuery.Number.Binary

namespace IssueQuery.Number

structure Wide where
  mant : Nat
  exp : Int

namespace Wide

def bits : Nat := 400

def cut (w : Wide) : Wide :=
  let excess := Nat.log2 w.mant + 1 - bits
  ⟨w.mant / 2 ^ excess, w.exp + excess⟩

def mul (a b : Wide) : Wide :=
  cut ⟨a.mant * b.mant, a.exp + b.exp⟩

def pow (a : Wide) (n : Nat) : Nat → Wide
  | 0 => ⟨1, 0⟩
  | steps + 1 =>
    if n == 0 then ⟨1, 0⟩
    else
      let half := pow a (n / 2) steps
      let square := mul half half
      if n % 2 == 1 then mul square a else square

end Wide

inductive RangeFault where
  | tooLarge
  | zeroDivisor
  | wholeTooLarge
  deriving Repr, DecidableEq

def power (base : Float) (n : Int) : Except RangeFault Float :=
  let odd := n % 2 == 1
  if n == 0 then .ok 1.0
  else match Binary.ofFloat base with
    | .nan => .ok base
    | .infinite negative =>
      .ok (withSign (negative && odd) (if n < 0 then 0.0 else infinity))
    | .finite negative mant exp =>
      if mant == 0 then
        if n < 0 then .error .zeroDivisor else .ok (withSign (negative && odd) 0.0)
      else
        let w := Wide.pow ⟨mant, exp⟩ n.natAbs (Nat.log2 n.natAbs + 1)
        let x := if n < 0 then nearestScaled 1 w.mant (-w.exp) else nearestScaled w.mant 1 w.exp
        if isFinite x then .ok (withSign (negative && odd) x) else .error .tooLarge

end IssueQuery.Number
