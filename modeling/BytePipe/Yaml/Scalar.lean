import BytePipe.Number.Binary64

/-!
What a scalar of a YAML text stands for. A plain scalar is a number, a truth value or null if it
looks like one; a tag may ask for a certain kind instead.
-/
namespace BytePipe.Yaml

/-- `invalid` does not look like what its tag asks for. -/
inductive Scalar where
  | null
  | boolean (b : Bool)
  | integer (i : Int)
  | real (text : String)
  | text (s : String)
  | invalid
  deriving DecidableEq, Repr

namespace Scalar

/-- Words for infinities and for no number, besides those of the numbers themselves. -/
def isSpecialReal (s : String) : Bool :=
  [".inf", ".Inf", ".INF", "+.inf", "+.Inf", "+.INF", "-.inf", "-.Inf", "-.INF", ".nan",
    ".NAN"].contains s

def isReal (s : String) : Bool :=
  isSpecialReal s || (Number.Binary64.ofText? s.toList).isSome

/-- Whole numbers of 64 bits: hexadecimal after `0x`, octal after `0o`, otherwise decimal. -/
def integer? (cs : List Char) : Option Int :=
  let marked := match cs with
    | '0' :: 'x' :: digits => Number.signed64? 16 digits
    | '0' :: 'o' :: digits => Number.signed64? 8 digits
    | '+' :: digits => Number.signed64? 10 digits
    | _ => none
  marked <|> Number.signed64? 10 cs

/-- A plain scalar without a tag. One without any text, which only an anchor or a tag can announce,
is text. -/
def ofPlain (s : String) : Scalar :=
  match integer? s.toList with
  | some i => integer i
  | none =>
    match s with
    | "~" | "null" => null
    | "true" => boolean true
    | "false" => boolean false
    | _ => if isReal s then real s else text s

/-- A plain scalar with a tag of the core schema. -/
def ofCoreTag (suffix s : String) : Scalar :=
  match suffix with
  | "bool" =>
    match s with
    | "true" => boolean true
    | "false" => boolean false
    | _ => invalid
  | "int" => ((Number.signed64? 10 s.toList).map integer).getD invalid
  | "float" => if isReal s then real s else invalid
  | "null" => if s = "~" || s = "null" then null else invalid
  | _ => text s

end Scalar

end BytePipe.Yaml
