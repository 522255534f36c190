/-!
Whole numbers as text: digits with an optional sign, inside a given range.
-/
namespace BytePipe.Number

def isDecimal (c : Char) : Bool :=
  '0' ≤ c && c ≤ '9'

def digitValue (c : Char) : Nat :=
  if isDecimal c then c.toNat - '0'.toNat
  else if 'a' ≤ c && c ≤ 'z' then c.toNat - 'a'.toNat + 10
  else if 'A' ≤ c && c ≤ 'Z' then c.toNat - 'A'.toNat + 10
  else 36

/-- The number that digits of a base stand for, most significant first. -/
def ofDigits (base : Nat) (ds : List Char) : Nat :=
  ds.foldl (fun n c => base * n + digitValue c) 0

/-- At least one digit, and digits of the base only. -/
def ofDigits? (base : Nat) (ds : List Char) : Option Nat :=
  if !ds.isEmpty && ds.all (digitValue · < base) then some (ofDigits base ds) else none

/-- An unsigned 64-bit number; a plus sign is allowed. -/
def unsigned64? (cs : List Char) : Option Nat :=
  let ds := match cs with
    | '+' :: rest => rest
    | _ => cs
  (ofDigits? 10 ds).filter (· < UInt64.size)

/-- A signed 64-bit number in a base; either sign is allowed. -/
def signed64? (base : Nat) (cs : List Char) : Option Int :=
  let n : Option Int := match cs with
    | '+' :: rest => (ofDigits? base rest).map fun n => (n : Int)
    | '-' :: rest => (ofDigits? base rest).map fun n => -(n : Int)
    | _ => (ofDigits? base cs).map fun n => (n : Int)
  n.filter fun n => Int64.minValue.toInt ≤ n && n ≤ Int64.maxValue.toInt

end BytePipe.Number
