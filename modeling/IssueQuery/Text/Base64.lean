import IssueQuery.Text.Class

namespace IssueQuery.Text

def sextet? (c : Char) : Option Nat :=
  if 'A' ≤ c && c ≤ 'Z' then some (c.toNat - 0x41)
  else if 'a' ≤ c && c ≤ 'z' then some (c.toNat - 0x61 + 26)
  else if isAsciiDigit c then some (c.toNat - 0x30 + 52)
  else if c == '+' then some 62
  else if c == '/' then some 63
  else none

/-- The bytes that follow when `seen` sextets of a group are read and their bits that are no byte yet
have the value `pending`. After enough equal signs in a row the rest does not count; a group must be
complete. -/
def base64From (seen pending fill : Nat) : List Char → Option (List Nat)
  | [] => if seen == 0 then some [] else none
  | c :: cs =>
    if c == '=' then
      if seen ≥ 2 && seen + fill + 1 ≥ 4 then some []
      else base64From seen pending (if seen ≥ 2 then fill + 1 else fill) cs
    else match sextet? c with
      | none => base64From seen pending fill cs
      | some n =>
        match seen with
        | 0 => base64From 1 n 0 cs
        | 1 => (base64From 2 (n % 16) 0 cs).map ((pending * 4 + n / 16) :: ·)
        | 2 => (base64From 3 (n % 4) 0 cs).map ((pending * 16 + n / 4) :: ·)
        | _ => (base64From 0 0 0 cs).map ((pending * 64 + n) :: ·)

def base64? (cs : List Char) : Option (List Nat) :=
  base64From 0 0 0 cs

end IssueQuery.Text
