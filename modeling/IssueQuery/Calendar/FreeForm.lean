import IssueQuery.Calendar.DayParts
import IssueQuery.Calendar.Timestamp

namespace IssueQuery.Calendar

open Text

structure Draft where
  parts : DayParts
  weekday : Option Nat
  hour : Option Nat
  minute : Option Nat
  second : Option Nat
  micros : Option Nat
  zone : Option (List Char)
  offset : Option Int
  deriving Repr, DecidableEq

namespace Draft

def empty : Draft := ⟨.none, none, none, none, none, none, none, none⟩

abbrev Step := Option (Draft × List Piece)

def withParts (d : Draft) (parts : Option DayParts) (rest : List Piece) : Step :=
  parts.map fun p => ({ d with parts := p }, rest)

def withSeconds (d : Draft) (n : Numeral) : Draft :=
  { d with second := some n.floor, micros := some (if n.isWhole then 0 else n.millionths) }

def withMinutes (d : Draft) (n : Numeral) : Draft :=
  { d with minute := some n.floor, second := n.sixtieths? }

def hourIn (half hour : Nat) : Nat :=
  if hour < 12 && half == 1 then hour + 12
  else if hour == 12 && half == 0 then 0
  else hour

def withUnit (d : Draft) (unit : Nat) (n : Numeral) : Draft :=
  match unit with
  | 0 => { d with hour := some n.floor, minute := (n.sixtieths?).orElse fun _ => d.minute }
  | 1 => d.withMinutes n
  | 2 => d.withSeconds n
  | _ => d

/-- The unit of a number: the one named after it, perhaps after a blank, or else the one below a unit
named before it. A blank may stand in between only where the number is the last piece. -/
def unitOf? (before after : List Piece) : Option (Nat × List Piece) :=
  let below (p : Piece) : Option (Nat × List Piece) := p.unit?.map fun u => (u + 1, after)
  let named := match after with
    | .blank :: p :: rest => p.unit?.map (·, rest)
    | p :: rest => p.unit?.map (·, rest)
    | [] => none
  named.orElse fun _ =>
    match before, after with
    | .blank :: p :: _, [] => below p
    | p :: _, _ => below p
    | [], _ => none

def firstTwo (ds : List Nat) : Nat := Number.digitsValue (ds.take 2)

def sixDigits (d : Draft) (n : Numeral) (after : List Piece) : Step :=
  let ds := n.whole
  if d.parts.count == 0 && n.isWhole then do
    let p ← (← (← d.parts.addDigits? (ds.take 2)).addDigits? ((ds.drop 2).take 2)).addDigits? (ds.drop 4)
    return ({ d with parts := p }, after)
  else
    let d := { d with hour := some (firstTwo ds), minute := some (firstTwo (ds.drop 2)) }
    some (d.withSeconds ⟨ds.drop 4, n.fraction⟩, after)

def manyDigits (d : Draft) (ds : List Nat) (after : List Piece) : Step := do
  let p ← (← (← d.parts.addDigits? (ds.take 4)).addDigits? ((ds.drop 4).take 2)).addDigits?
    ((ds.drop 6).take 2)
  let d := { d with parts := p }
  let d :=
    if ds.length > 8 then
      { d with hour := some (firstTwo (ds.drop 8)), minute := some (firstTwo (ds.drop 10)) }
    else d
  return (if ds.length > 12 then { d with second := some (firstTwo (ds.drop 12)) } else d, after)

def clock (d : Draft) (hours minutes : Numeral) (after : List Piece) : Step :=
  let d := ({ d with hour := some hours.floor } : Draft).withMinutes minutes
  match after with
  | .sign ':' :: .number seconds :: rest => some (d.withSeconds seconds, rest)
  | .sign ':' :: _ :: _ => none
  | _ => some (d, after)

def addMember? (p : DayParts) (piece : Piece) : Option DayParts :=
  match piece with
  | .word cs => (monthOf? cs).bind p.addMonth?
  | piece => piece.digits?.bind p.addDigits?

def separated (d : Draft) (separator : Char) (ds : List Nat) (after : List Piece) : Step := do
  let p ← d.parts.addDigits? ds
  match after with
  | [] => return ({ d with parts := p }, [])
  | piece :: rest =>
    if piece.isFiller then return ({ d with parts := p }, after)
    let p ← addMember? p piece
    match rest with
    | .sign c :: rest' =>
      if c == separator then
        match rest' with
        | piece :: rest => d.withParts (addMember? p piece) rest
        | [] => none
      else return ({ d with parts := p }, rest)
    | _ => return ({ d with parts := p }, rest)

def isSeparator (c : Char) : Bool :=
  c == '-' || c == '/' || c == '.'

def alone (d : Draft) (n : Numeral) (after : List Piece) : Step :=
  match after with
  | [] => d.withParts (d.parts.addNumber? n) []
  | p :: rest =>
    if p.isFiller then
      match rest with
      | h :: rest' =>
        match h.half? with
        | some half => some ({ d with hour := some (hourIn half n.floor) }, rest')
        | none => d.withParts (d.parts.addNumber? n) rest
      | [] => d.withParts (d.parts.addNumber? n) []
    else match p.half?, decide (n.floor < 24) with
      | some half, true => some ({ d with hour := some (hourIn half n.floor) }, rest)
      | _, _ => if d.parts.admitsDay n then d.withParts (d.parts.addNumber? n) after else none

/-- Two or four digits after a full date are a time, if no time has been read and a blank, a half of the
day or nothing follows. -/
def isBareTime (d : Draft) (n : Numeral) (after : List Piece) : Bool :=
  d.parts.count == 3 && (n.length == 2 || n.length == 4) && d.hour.isNone &&
    match after with
    | [] => true
    | p :: _ => p == .blank || p.half?.isSome

def number (d : Draft) (before : List Piece) (n : Numeral) (after : List Piece) : Step :=
  if d.isBareTime n after then
    if n.isWhole then
      let minute := if n.length == 4 then some (firstTwo (n.whole.drop 2)) else d.minute
      some ({ d with hour := some (firstTwo n.whole), minute := minute }, after)
    else none
  else if n.length == 6 || (n.length > 6 && n.whole.length == 6) then
    if n.whole.length == 6 then d.sixDigits n after else none
  else if n.length == 8 || n.length == 12 || n.length == 14 then
    if n.isWhole then d.manyDigits n.whole after else none
  else match unitOf? before after with
    | some (unit, rest) => some (d.withUnit unit n, rest)
    | none =>
      match after with
      | .sign ':' :: .number minutes :: rest => d.clock n minutes rest
      | .sign ':' :: _ :: _ => none
      | .sign c :: rest =>
        if isSeparator c then
          if n.isWhole then d.separated c n.whole rest else none
        else d.alone n after
      | _ => d.alone n after

def month (d : Draft) (m : Nat) (after : List Piece) : Step := do
  let p ← d.parts.addMonth? m
  match after with
  | .sign c :: rest =>
    if c == '-' || c == '/' then
      match rest with
      | piece :: rest =>
        let p ← piece.digits?.bind p.addDigits?
        match rest with
        | .sign c' :: rest' =>
          if c' == c then
            match rest' with
            | piece :: rest => d.withParts (piece.digits?.bind p.addDigits?) rest
            | [] => none
          else return ({ d with parts := p }, rest)
        | _ => return ({ d with parts := p }, rest)
      | [] => none
    else return ({ d with parts := p }, after)
  | .blank :: .word w :: .blank :: piece :: rest =>
    if lowerWord w == "of" then
      match piece.digits? with
      | some ds => d.withParts (p.addYear? (fullYear (Number.digitsValue ds))) rest
      | none => return ({ d with parts := p }, rest)
    else return ({ d with parts := p }, after)
  | _ => return ({ d with parts := p }, after)

def half (d : Draft) (h : Nat) (after : List Piece) : Step :=
  match d.hour with
  | some hour => if hour ≤ 12 then some ({ d with hour := some (hourIn h hour) }, after) else none
  | none => none

def admitsZone (d : Draft) (cs : List Char) : Bool :=
  d.hour.isSome && d.zone.isNone &&
    (cs == ['z'] || (cs.length ≤ 5 && cs.all fun c => 'A' ≤ c && c ≤ 'Z'))

def zoneName (d : Draft) (cs : List Char) (after : List Piece) : Draft × List Piece :=
  let known := utcNames.contains (lowerWord cs)
  let signed : Draft := { d with zone := if known then none else some cs, offset := none }
  match after with
  | .sign '+' :: rest => (signed, .sign '-' :: rest)
  | .sign '-' :: rest => (signed, .sign '+' :: rest)
  | _ => ({ d with zone := some cs, offset := if cs == ['z'] then some 0 else none }, after)

def zoneInParentheses (d : Draft) (after : List Piece) : Draft × List Piece :=
  match after with
  | p :: .sign '(' :: .word cs :: .sign ')' :: rest =>
    if p.isFiller && 3 ≤ cs.length && d.admitsZone cs then ({ d with zone := some cs }, rest)
    else (d, after)
  | _ => (d, after)

def signedOffset (d : Draft) (negative : Bool) (after : List Piece) : Step :=
  let close (hours minutes : Nat) (rest : List Piece) : Step :=
    let seconds : Int := (hours * 3600 + minutes * 60 : Nat)
    some (({ d with offset := some (if negative then -seconds else seconds) } : Draft).zoneInParentheses rest)
  match after with
  | [] => none
  | piece :: rest => do
    let ds ← piece.digits?
    if ds.length == 4 then close (firstTwo ds) (firstTwo (ds.drop 2)) rest
    else match rest with
      | .sign ':' :: rest' =>
        match rest' with
        | piece :: rest => do close (Number.digitsValue ds) (Number.digitsValue (← piece.digits?)) rest
        | [] => none
      | _ => if ds.length ≤ 2 then close (Number.digitsValue ds) 0 rest else none

def word (d : Draft) (cs : List Char) (after : List Piece) : Step :=
  match placeOf? weekdayNames cs, monthOf? cs, (Piece.word cs).half? with
  | some n, _, _ => some ({ d with weekday := some n }, after)
  | none, some m, _ => d.month m after
  | none, none, some h => d.half h after
  | none, none, none =>
    if d.offset.isNone && d.admitsZone cs then some (d.zoneName cs after)
    else if (Piece.word cs).isFiller then some (d, after)
    else none

def step (d : Draft) (before : List Piece) (p : Piece) (after : List Piece) : Step :=
  match p with
  | .number n => d.number before n after
  | .word cs => d.word cs after
  | .sign c =>
    if d.hour.isSome && (c == '+' || c == '-') then d.signedOffset (c == '-') after
    else if p.isFiller then some (d, after)
    else none
  | .blank => some (d, after)

/-- Reads the pieces one after the other; `fuel` is at least their number. -/
def read : Nat → Draft → List Piece → List Piece → Option Draft
  | _, d, _, [] => some d
  | 0, _, _, _ => none
  | fuel + 1, d, before, p :: after => do
    let (d, rest) ← d.step before p after
    let used := p :: after.take (after.length - rest.length)
    read fuel d (used.reverse ++ before) rest

def zoneOffset? (d : Draft) : Option (Option Int) :=
  let known := (d.zone.map fun cs => utcNames.contains (lowerWord cs)).getD false
  if known then some (some 0)
  else match d.offset with
    | some n => if n.natAbs < 86400 then some (some (n * microsPerSecond)) else none
    | none => if d.zone.isSome then none else some none

def time? (d : Draft) : Option Nat :=
  let h := d.hour.getD 0
  let m := d.minute.getD 0
  let s := d.second.getD 0
  if h < 24 && m < 60 && s < 60 then
    some (((h * 60 + m) * 60 + s) * microsPerSecond + d.micros.getD 0)
  else none

def daysUntil (weekday day : Nat) : Nat :=
  (weekday + 7 - day % 7) % 7

def timestamp? (d : Draft) : Option Timestamp := do
  let p ← d.parts.resolve?
  let year := p.year.map fun y => if d.parts.hasFullYear then y else fullYear y
  let date ← Date.ofParts? (year.getD 1) (p.month.getD 1) (p.day.getD 1)
  let time ← d.time?
  let day := date.toNumber
  let later := match d.weekday, p.day with
    | some w, none => daysUntil w day
    | _, _ => 0
  let isGiven := year.isSome || p.month.isSome || p.day.isSome || d.hour.isSome || d.minute.isSome ||
    d.second.isSome
  let wall := (day + later) * microsPerDay + time
  if isGiven && wall < maxMicros then some ⟨wall, ← d.zoneOffset?⟩ else none

end Draft

namespace Timestamp

def ofWords? (cs : List Char) : Option Timestamp :=
  let pieces := Piece.ofText cs
  (Draft.read pieces.length .empty [] pieces).bind Draft.timestamp?

end Timestamp

end IssueQuery.Calendar
