import BytePipe.Yaml.Tag

/-!
Directives: lines that begin with a percent sign and a name. One gives the version of the format,
one declares a handle for tags, and those of other names are allowed and mean nothing.
-/
namespace BytePipe.Yaml.Directive

/-- A part of a version has at most this many digits. -/
def maxVersionDigits : Nat := 9

/-- What follows a number of a version. -/
def dropNumber? (cs : List Char) : Option (List Char) :=
  let digits := cs.takeWhile Number.isDecimal
  if digits.isEmpty || maxVersionDigits < digits.length then none
  else some (cs.dropWhile Number.isDecimal)

/-- What follows a version: two numbers with a point between them. -/
def dropVersion? (cs : List Char) : Option (List Char) :=
  match dropNumber? cs with
  | some ('.' :: rest) => dropNumber? rest
  | _ => none

def startsWithGap (cs : List Char) : Bool :=
  isGap (cs.headD nul)

/-- Blanks, and a comment if blanks come before it. -/
def isLineRest (cs : List Char) : Bool :=
  match cs.dropWhile isBlank with
  | [] => true
  | c :: _ => c == '#' && isBlank (cs.headD nul)

/-- The directive of a line, given what comes after its percent sign. -/
def ofLine? (line : List Char) : Option Token :=
  let name := line.takeWhile isWordChar
  let rest := line.dropWhile isWordChar
  let value := rest.dropWhile isBlank
  if name.isEmpty || !startsWithGap rest then none
  else if name == "YAML".toList then
    match dropVersion? value with
    | none => none
    | some after => if isLineRest after then some .versionDirective else none
  else if name == "TAG".toList then
    match Tag.takeDeclaration? value with
    | none => none
    | some (t, after) => if startsWithGap after && isLineRest after then some t else none
  else some (.tagDirective "" "")

end BytePipe.Yaml.Directive
