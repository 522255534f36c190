import BytePipe.Config.Setting

/-!
Where settings come from: YAML files and environment variables.
-/
namespace BytePipe

namespace Setting

/-- Reals are decimal text here; the words for infinities and no number are not understood. -/
def ofScalar? : Yaml.Scalar → Option Setting
  | .null => some null
  | .boolean b => some (flag b)
  | .integer i => some (integer i)
  | .real digits => (Number.Binary64.ofText? digits.toList).map real
  | .text s => some (text s)
  | .invalid => some null

/-- The name that a scalar key stands for. -/
def keyOf? : Yaml.Node → Option String
  | .scalar (.boolean b) => some (toString b)
  | .scalar (.integer i) => some (toString i)
  | .scalar (.real digits) => some digits
  | .scalar (.text s) => some s
  | _ => none

mutual

/-- Every key inside must be a name, and every scalar a value. -/
def ofNode? : Yaml.Node → Option Setting
  | .scalar s => ofScalar? s
  | .sequence items => (checkItems items).map fun _ => list
  | .mapping entries => (checkEntries entries).map fun _ => table entries.isEmpty

def checkItems : List Yaml.Node → Option Unit
  | [] => some ()
  | n :: rest =>
    match ofNode? n with
    | none => none
    | some _ => checkItems rest

def checkEntries : List (Yaml.Node × Yaml.Node) → Option Unit
  | [] => some ()
  | (k, v) :: rest =>
    match keyOf? k, ofNode? v with
    | some _, some _ => checkEntries rest
    | _, _ => none

end

end Setting

namespace Assignment

/-- The assignments of a mapping, one for each key. -/
def ofEntries? : List (Yaml.Node × Yaml.Node) → Option (List Assignment)
  | [] => some []
  | (k, v) :: rest =>
    match Setting.keyOf? k, Setting.ofNode? v, ofEntries? rest with
    | some key, some value, some as => some (⟨key, value⟩ :: as)
    | _, _, _ => none

/-- A byte order mark before a text is not part of it. -/
def withoutMark (text : String) : String :=
  match text.toList with
  | c :: rest => if c == Yaml.byteOrderMark then String.ofList rest else text
  | [] => text

/-- The assignments of a file. A text without a document has none; a document must be a mapping. -/
def ofFile? (text : String) : Option (List Assignment) :=
  match Yaml.Node.parse? (withoutMark text) with
  | some none => some []
  | some (some (.mapping entries)) => ofEntries? entries
  | _ => none

/-- Environment variables with this beginning, in any case, are settings. -/
def variableMark : List Char := "scullpipe__".toList

/-- Two underscores separate the names of a key. -/
def pathOfVariable : List Char → List Char
  | '_' :: '_' :: rest => '.' :: pathOfVariable rest
  | c :: rest => c :: pathOfVariable rest
  | [] => []

/-- A truth value, a whole number or a real number if the text is one. -/
def valueOfVariable (s : String) : Setting :=
  match s.toLower with
  | "true" => .flag true
  | "false" => .flag false
  | _ =>
    match Number.signed64? 10 s.toList with
    | some i => .integer i
    | none =>
      match Number.Binary64.ofText? s.toList with
      | some x => .real x
      | none => .text s

/-- The lower case of a character, if that is an ASCII letter: besides the ASCII capitals, the sign
for kelvins has one. -/
def lowerLetter (c : Char) : Char :=
  if c == '\u212a' then 'k' else c.toLower

/-- The assignment that an environment variable makes, if it makes one. -/
def ofVariable? (name value : String) : Option Assignment :=
  let cs := name.toList.map lowerLetter
  if variableMark.isPrefixOf cs then
    some ⟨String.ofList (pathOfVariable (cs.drop variableMark.length)), valueOfVariable value⟩
  else none

end Assignment

end BytePipe
