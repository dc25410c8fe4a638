import IssueQuery.Number.Binary

namespace IssueQuery.Number

def withPoint (places n : Nat) : String :=
  let digits := toString (n / 10 ^ places)
  if places == 0 then digits
  else
    let tail := toString (n % 10 ^ places)
    digits ++ "." ++ String.ofList (List.replicate (places - tail.length) '0') ++ tail

def fixed (places : Nat) (x : Float) : String :=
  match Binary.ofFloat x with
  | .nan => "nan"
  | .infinite negative => if negative then "-inf" else "inf"
  | .finite negative mant exp =>
    let n := divEven (mant * 2 ^ exp.toNat * 10 ^ places) (2 ^ (-exp).toNat)
    (if negative then "-" else "") ++ withPoint places n

end IssueQuery.Number
