import BytePipe.Names
import BytePipe.Number.Binary64
import BytePipe.Yaml.Node

/-!
The values that sources give to keys, and how later sources override earlier ones key by key.
-/
namespace BytePipe

/-- No setting of this program is a collection, so of one it only matters that it is there, and of
a table whether it has entries to merge. -/
inductive Setting where
  | null
  | flag (b : Bool)
  | integer (i : Int)
  | real (x : Number.Binary64)
  | text (s : String)
  | list
  | table (isEmpty : Bool)
  deriving DecidableEq, Repr

namespace Setting

/-- Counts are unsigned 64-bit numbers. -/
def countLimit : Nat := UInt64.size

/-- Words for one and zero, in any case, come before digits. All their letters are ASCII, and no
other character has one of them as its lower case. -/
def countOfText? (s : String) : Option Nat :=
  match s.toLower with
  | "true" | "on" | "yes" => some 1
  | "false" | "off" | "no" => some 0
  | _ => Number.unsigned64? s.toList

/-- The count a setting stands for; what is negative or no single value stands for none. -/
def count? : Setting → Option Nat
  | null => none
  | flag b => some b.toNat
  | integer i => if 0 ≤ i ∧ i.toNat < countLimit then some i.toNat else none
  | real x => some (x.toCount countLimit)
  | text s => countOfText? s
  | list => none
  | table _ => none

end Setting

abbrev Settings := Names Setting

namespace Settings

/-- Gives a key a value. A table is merged into what is there, so an empty one leaves an earlier
value in place. -/
def put (s : Settings) (key : String) (value : Setting) : Settings :=
  match value, s.get? key with
  | .table true, some _ => s
  | _, _ => s.insert key value

/-- Only an empty table leaves an earlier value in place. -/
theorem get?_put {s : Settings} {value : Setting} (h : value ≠ .table true) (key other : String) :
    (s.put key value).get? other = if other = key then some value else s.get? other := by
  have replaced : s.put key value = s.insert key value := by
    unfold put
    split
    · contradiction
    · rfl
  rw [replaced, Names.get?_insert]

theorem get?_put_of_ne (s : Settings) (value : Setting) {key other : String} (ne : other ≠ key) :
    (s.put key value).get? other = s.get? other := by
  unfold put
  split
  · rfl
  · rw [Names.get?_insert, if_neg ne]

end Settings

/-- One value given to a key by a source. -/
structure Assignment where
  key : String
  value : Setting
  deriving DecidableEq, Repr

/-- What follows the first name of a key. -/
inductive KeyRest where
  | nothing
  | child
  | element
  deriving DecidableEq, Repr

namespace Assignment

def isNameChar (c : Char) : Bool :=
  c.isAlphanum || c == ' ' || c == '_' || c == '-'

/-- Whether a text is a whole number that can be a position; plus signs are not written. -/
def isPosition (cs : List Char) : Bool :=
  cs.head? != some '+' && (Number.signed64? 10 cs).isSome

/-- Whether a text is a sequence of names after points and of positions in brackets. -/
def isKeyRest : (fuel : Nat) → List Char → Bool
  | _, [] => true
  | 0, _ => false
  | fuel + 1, '.' :: cs =>
    !(cs.takeWhile isNameChar).isEmpty && isKeyRest fuel (cs.dropWhile isNameChar)
  | fuel + 1, '[' :: cs =>
    let blank (c : Char) := c == ' ' || c == '\t'
    let body := cs.takeWhile (· != ']')
    let number := ((body.dropWhile blank).reverse.dropWhile blank).reverse
    match cs.dropWhile (· != ']') with
    | ']' :: rest => isPosition number && isKeyRest fuel rest
    | _ => false
  | _, _ => false

/-- Splits a key into its first name and what follows. A key that is no such path is a name as a
whole. -/
def splitKey (key : String) : String × KeyRest :=
  let cs := key.toList
  let name := cs.takeWhile isNameChar
  let rest := cs.dropWhile isNameChar
  if name.isEmpty || !isKeyRest (rest.length + 1) rest then (key, .nothing)
  else
    (String.ofList name, match rest with
      | [] => .nothing
      | '.' :: _ => .child
      | _ => .element)

/-- Names of keys are in lower case. An assignment to a part of a key's value makes that value a
table or a list; there the name is taken as it is. -/
def apply (s : Settings) (a : Assignment) : Settings :=
  match splitKey a.key with
  | (name, .nothing) => s.put name.toLower a.value
  | (name, .child) => s.put name (.table false)
  | (name, .element) => s.put name .list

end Assignment

/-- Later assignments override earlier ones. -/
def Settings.ofAssignments (as : List Assignment) : Settings :=
  as.foldl Assignment.apply .empty

end BytePipe
