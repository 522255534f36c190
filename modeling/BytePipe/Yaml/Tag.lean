import BytePipe.Number.Integer
import BytePipe.Yaml.Token

/-!
How tags are written. A tag is a URI in angle brackets, or a suffix after a handle: one exclamation
mark, two, or a word between two. A directive says what a handle stands for. Each reader here gives
what it read together with the rest of the text.
-/
namespace BytePipe.Yaml.Tag

/-- The characters of a URI; the percent sign begins an escape. -/
def isUriChar (c : Char) : Bool :=
  c.isAlphanum || "-#;/?:@&=+$,_.!~*'()[]%".toList.contains c

/-- A suffix has no flow delimiter and no further exclamation mark. -/
def isTagChar (c : Char) : Bool :=
  isUriChar c && !isFlow c && c != '!'

/-! ## Escapes -/

/-- A percent sign and two hexadecimal digits. -/
def takeByte? : List Char → Option (Nat × List Char)
  | '%' :: high :: low :: rest => (Number.ofDigits? 16 [high, low]).map (·, rest)
  | _ => none

/-- The number of bytes of a character, by the first of them. -/
def byteCount? (first : Nat) : Option Nat :=
  if first < 0x80 then some 1
  else if first < 0xc0 then none
  else if first < 0xe0 then some 2
  else if first < 0xf0 then some 3
  else if first < 0xf8 then some 4
  else none

/-- The bytes after the first one begin with the bits 10. -/
def takeLaterBytes? : (count : Nat) → (code : Nat) → List Char → Option (Nat × List Char)
  | 0, code, cs => some (code, cs)
  | count + 1, code, cs =>
    match takeByte? cs with
    | none => none
    | some (b, rest) =>
      if 0x80 ≤ b ∧ b < 0xc0 then takeLaterBytes? count (code * 0x100 + b) rest else none

/-- One escaped character. Its bytes, with all their bits, are the digits of its code point in
base 256. -/
def takeEscape? (cs : List Char) : Option (Char × List Char) := do
  let (first, rest) ← takeByte? cs
  let count ← byteCount? first
  let (code, rest) ← takeLaterBytes? (count - 1) first rest
  return (← charOf? code, rest)

/-- Characters of a kind, as many as there are, with their escapes resolved. -/
def takeUri? (isPart : Char → Bool) : (fuel : Nat) → List Char → Option (List Char × List Char)
  | 0, cs => some ([], cs)
  | _, [] => some ([], [])
  | fuel + 1, c :: cs =>
    if !isPart c then some ([], c :: cs)
    else
      match if c == '%' then takeEscape? (c :: cs) else some (c, cs) with
      | none => none
      | some (read, rest) =>
        (takeUri? isPart fuel rest).map fun (uri, rest) => (read :: uri, rest)

/-! ## Tags and handles -/

/-- The word of a handle, and whether a second exclamation mark ends it. -/
def takeHandle? : List Char → Option (List Char × Bool × List Char)
  | '!' :: cs =>
    let word := cs.takeWhile isWordChar
    match cs.dropWhile isWordChar with
    | '!' :: rest => some (word, true, rest)
    | rest => some (word, false, rest)
  | _ => none

def handleText (word : List Char) (closed : Bool) : String :=
  String.ofList ('!' :: word ++ if closed then ['!'] else [])

/-- A tag in a text. What looks like an open handle is the beginning of a suffix; the mark alone is
a tag of its own. -/
def take? : List Char → Option (Token × List Char)
  | '!' :: '<' :: cs =>
    match takeUri? isUriChar cs.length cs with
    | some (uri, '>' :: rest) => some (.tag "" (String.ofList uri), rest)
    | _ => none
  | cs =>
    match takeHandle? cs with
    | none => none
    | some (word, closed, rest) =>
      match takeUri? isTagChar rest.length rest with
      | none => none
      | some (suffix, rest) =>
        if closed then
          if suffix.isEmpty then none
          else some (.tag (handleText word closed) (String.ofList suffix), rest)
        else if word.isEmpty && suffix.isEmpty then some (.tag "" "!", rest)
        else some (.tag "!" (String.ofList (word ++ suffix)), rest)

/-- What a handle is to stand for: a URI, or a local beginning after an exclamation mark. -/
def takeMeaning? (cs : List Char) : Option (List Char × List Char) :=
  match cs with
  | [] => none
  | c :: rest =>
    if c == '!' then
      (takeUri? isUriChar rest.length rest).map fun (uri, rest) => (c :: uri, rest)
    else if isTagChar c then takeUri? isUriChar cs.length cs
    else none

/-- A handle and its meaning. A handle with a word needs its second mark. -/
def takeDeclaration? (cs : List Char) : Option (Token × List Char) := do
  let (word, closed, rest) ← takeHandle? cs
  if !closed && !word.isEmpty then none
  let (meaning, rest) ← takeMeaning? (rest.dropWhile isBlank)
  return (.tagDirective (handleText word closed) (String.ofList meaning), rest)

end BytePipe.Yaml.Tag
