import BytePipe.Config.Basic
import BytePipe.Config.Source

/-!
Loading a configuration. The sources are a default file that may be missing, a file given by the
caller, a file given by an environment variable, and environment variables for single keys; later
sources override earlier ones key by key.
-/
namespace BytePipe

/-- What a program sees around it: the texts of files by name, and environment variables. -/
structure Surroundings where
  file? : String → Option String
  environment : List (String × String)

namespace PipeConfig

def defaultFile : String := "scullpipe.yaml"

/-- Names the file that overrides the caller's. -/
def fileVariable : String := "SCULLPIPE_CONFIG"

/-- Begins the names of all environment variables of the program. -/
def variableName : String := "SCULLPIPE"

/-- Sets what is logged. -/
def logVariable : String := "SCULLPIPE_LOG"

/-- A path from its end on, without separators and names for the directory itself there. -/
def trimEnd : List Char → List Char
  | '/' :: rest => trimEnd rest
  | '.' :: '/' :: rest => trimEnd rest
  | ['.'] => []
  | reversed => reversed

/-- The path of a file to which an extension can be added: one that ends in a name. Any other path is
looked for as it stands. In particular the empty path, `.` and `./` are not taken for the name of the
directory that they mean, so a file beside that directory that has its name and an extension is not
found under them. -/
def extensible? (path : String) : Option String :=
  let reversed := trimEnd path.toList.reverse
  let last := reversed.takeWhile (· != '/')
  if last.isEmpty || last == ['.', '.'] then none else some (String.ofList reversed.reverse)

/-- The names under which a file is looked for, the exact one first. -/
def candidates (path : String) : List String :=
  match extensible? path with
  | none => [path]
  | some name => [path, name ++ ".yaml", name ++ ".yml"]

/-- The text of a file. -/
def textOf? (around : Surroundings) (path : String) : Option String :=
  (candidates path).findSome? around.file?

/-- The assignments of a file that may be missing. -/
def optionalSource? (around : Surroundings) (path : String) : Option (List Assignment) :=
  match textOf? around path with
  | none => some []
  | some text => Assignment.ofFile? text

/-- The assignments of a file, if one is named. -/
def namedSource? (around : Surroundings) : Option String → Option (List Assignment)
  | none => some []
  | some path => (textOf? around path).bind Assignment.ofFile?

def variableSource (around : Surroundings) : List Assignment :=
  around.environment.filterMap fun (name, value) => Assignment.ofVariable? name value

/-- The assignments of all sources, in the order in which they override each other. -/
def assignments? (around : Surroundings) (path : Option String) : Option (List Assignment) := do
  let base ← optionalSource? around defaultFile
  let given ← namedSource? around path
  let pointed ← namedSource? around (around.environment.lookup fileVariable)
  return base ++ given ++ pointed ++ variableSource around

/-- The count that settings give to a key, or the one it has without them. -/
def countFor? (settings : Settings) (key : String) (absent : Nat) : Option Nat :=
  match settings.get? key with
  | none => some absent
  | some value => value.count?

def ofSettings? (settings : Settings) : Option PipeConfig := do
  let devices ← countFor? settings "devices" standard.devices
  let bufferSize ← countFor? settings "buffer_size" standard.bufferSize
  return ⟨devices, bufferSize⟩

/-- Loads and checks a configuration. -/
def load (around : Surroundings) (path : Option String) : Except ConfigError PipeConfig :=
  match (assignments? around path).bind fun as => ofSettings? (.ofAssignments as) with
  | none => .error .load
  | some c => c.validate

theorem validate_of_load {around : Surroundings} {path : Option String} {c : PipeConfig}
    (loaded : load around path = .ok c) : c.validate = .ok c := by
  unfold load at loaded
  split at loaded
  · contradiction
  · obtain ⟨rfl, range⟩ := (validate_eq_ok_iff _ _).mp loaded
    exact loaded

end PipeConfig

end BytePipe
