import BytePipe.Number.Integer

/-!
Double-precision numbers as exact values: the nearest one to a decimal text, and the nearest count
to one of them. Only magnitudes are kept exactly; all that is asked of a negative number here is
its sign.
-/
namespace BytePipe.Number

/-- A finite magnitude is `mantissa * 2 ^ exponent`. -/
inductive Binary64 where
  | nan
  | infinite (negative : Bool)
  | finite (negative : Bool) (mantissa : Nat) (exponent : Int)
  deriving DecidableEq, Repr

namespace Binary64

/-- The quotient rounded to the nearest whole number, a half to the even neighbour. -/
def divideToEven (num den : Nat) : Nat :=
  let q := num / den
  let r := num % den
  if 2 * r < den then q else if den < 2 * r then q + 1 else q + q % 2

/-- The least exponent of two that a number has: values are multiples of `2 ^ minExponent`. -/
def minExponent : Int := -1074

/-- Mantissas have at most this many bits. -/
def precision : Nat := 53

/-- The scale on which a positive quotient has a mantissa of full precision, or the least one. -/
def scaleOf (num den : Nat) : Int :=
  let guess : Int := (num.log2 : Int) - den.log2 - precision
  let fits (e : Int) : Bool :=
    num <<< (-e).toNat < den <<< (precision + e.toNat)
  max minExponent (if fits guess then guess else if fits (guess + 1) then guess + 1 else guess + 2)

/-- The number nearest to a quotient; what reaches the range's end is infinite. -/
def ofQuotient (negative : Bool) (num den : Nat) : Binary64 :=
  if num = 0 then finite negative 0 0
  else
    let e := scaleOf num den
    let m := divideToEven (num <<< (-e).toNat) (den <<< e.toNat)
    if (1 : Nat) <<< 1024 ≤ m <<< e.toNat then infinite negative else finite negative m e

/-- Past this decimal exponent every number is infinite, and below its negative zero. -/
def exponentBound : Int := 400

/-- The number nearest to `digits * 10 ^ exponent`. -/
def ofDecimal (negative : Bool) (digits : List Char) (exponent : Int) : Binary64 :=
  let n := ofDigits 10 digits
  let magnitude : Int := exponent + (digits.dropWhile (· == '0')).length
  if n = 0 || magnitude < -exponentBound then finite negative 0 0
  else if exponentBound < magnitude then infinite negative
  else ofQuotient negative (n * Nat.pow 10 exponent.toNat) (Nat.pow 10 (-exponent).toNat)

/-- Splits off a sign; minus is `true`. -/
def takeSign : List Char → Bool × List Char
  | '+' :: rest => (false, rest)
  | '-' :: rest => (true, rest)
  | cs => (false, cs)

/-- The exponent that ends a number, if any: a letter `e`, an optional sign, and digits. -/
def exponentOf? : List Char → Option Int
  | [] => some 0
  | c :: rest =>
    if c == 'e' || c == 'E' then
      let (negative, ds) := takeSign rest
      (ofDigits? 10 ds).map fun n => if negative then -(n : Int) else n
    else none

/-- Reads decimal text: digits with at most one point and at least one digit, an optional exponent;
or the words for infinity and not-a-number in any case. -/
def ofText? (cs : List Char) : Option Binary64 :=
  let (negative, body) := takeSign cs
  match String.ofList (body.map Char.toLower) with
  | "inf" | "infinity" => some (infinite negative)
  | "nan" => some nan
  | _ =>
    let whole := body.takeWhile isDecimal
    let rest := body.dropWhile isDecimal
    let (fraction, rest) := match rest with
      | '.' :: after => (after.takeWhile isDecimal, after.dropWhile isDecimal)
      | _ => ([], rest)
    if whole.isEmpty && fraction.isEmpty then none
    else
      (exponentOf? rest).map fun e =>
        ofDecimal negative (whole ++ fraction) (e - fraction.length)

/-- The nearest count below `limit`: a half goes up, what is negative or no number counts as zero,
and what is too large as the greatest count. -/
def toCount (limit : Nat) : Binary64 → Nat
  | nan => 0
  | infinite negative => if negative then 0 else limit - 1
  | finite negative mantissa exponent =>
    if negative then 0
    else
      let num := mantissa <<< exponent.toNat
      let den := 1 <<< (-exponent).toNat
      min ((2 * num + den) / (2 * den)) (limit - 1)

end Binary64

end BytePipe.Number
