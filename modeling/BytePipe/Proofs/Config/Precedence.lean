import BytePipe.Config.Load
import BytePipe.Proofs.System.Devices

/-!
Which source decides each key of a configuration. A file that is named and cannot be found, or that
is found and cannot be read, fails the load, whatever the other sources say
(`PipeConfig.assignments?_of_faulty`). The sources are merged key by key: the last one that
mentions a key gives it its value (`PipeConfig.get?_flatten`), and no other value of the key is
looked at. What has been loaded describes devices.
-/
namespace BytePipe

/-! ## Assignments -/

/-- A truth value, a number or a text. -/
def Setting.isSingle : Setting → Bool
  | flag _ => true
  | integer _ => true
  | real _ => true
  | text _ => true
  | _ => false

namespace Assignment

/-- The key that an assignment mentions, whatever part of its value the assignment is about. -/
def mentioned (a : Assignment) : String :=
  (splitKey a.key).1.toLower

/-- Gives a key as a whole a single value. -/
def isPlain (a : Assignment) : Bool :=
  (splitKey a.key).2 == .nothing && a.value.isSingle

/-- An assignment gives the key that it mentions its value, and leaves every other one alone. -/
theorem get?_apply {key : String} (lower : key.toLower = key) (s : Settings) {a : Assignment}
    (plain : a.mentioned = key → a.isPlain = true) :
    (apply s a).get? key = if a.mentioned = key then some a.value else s.get? key := by
  unfold mentioned isPlain at plain
  unfold apply mentioned
  generalize splitKey a.key = split at plain ⊢
  obtain ⟨name, rest⟩ := split
  dsimp only at plain ⊢
  by_cases own : name.toLower = key
  · have isPlain := plain own
    rw [Bool.and_eq_true, beq_iff_eq] at isPlain
    obtain ⟨rfl, single⟩ := isPlain
    have value : a.value ≠ .table true := fun empty => by
      rw [empty] at single
      contradiction
    rw [if_pos own]
    exact (Settings.get?_put value _ _).trans (if_pos own.symm)
  · have other : key ≠ name := fun same => own (same ▸ lower)
    rw [if_neg own]
    cases rest with
    | nothing => exact Settings.get?_put_of_ne s a.value (Ne.symm own)
    | child => exact Settings.get?_put_of_ne s (.table false) other
    | element => exact Settings.get?_put_of_ne s .list other

end Assignment

namespace PipeConfig

/-! ## Merging -/

/-- The value that a source gives to a key. -/
def valueIn? (key : String) (source : List Assignment) : Option Setting :=
  (source.find? (·.mentioned = key)).map (·.value)

/-- The value that the last source to mention a key gives to it. -/
def lastValue? (key : String) (sources : List (List Assignment)) : Option Setting :=
  sources.reverse.findSome? (valueIn? key)

/-- A source that mentions a key at most once, and then gives it a single value. -/
def Settles (key : String) (source : List Assignment) : Prop :=
  source.countP (·.mentioned = key) ≤ 1 ∧
    ∀ a ∈ source, a.mentioned = key → a.isPlain = true

instance (key : String) (source : List Assignment) : Decidable (Settles key source) :=
  inferInstanceAs (Decidable (_ ∧ _))

variable {key : String}

theorem get?_source (lower : key.toLower = key) {source : List Assignment}
    (settles : Settles key source) (s : Settings) :
    (source.foldl Assignment.apply s).get? key = (valueIn? key source).or (s.get? key) := by
  induction source generalizing s with
  | nil => rfl
  | cons a rest ih =>
    obtain ⟨once, plain⟩ := settles
    have later (b : Assignment) (member : b ∈ rest) := plain b (List.mem_cons_of_mem a member)
    rw [List.countP_cons] at once
    have applied := Assignment.get?_apply lower s (plain a List.mem_cons_self)
    rw [List.foldl_cons, ih ⟨by omega, later⟩, applied]
    by_cases own : a.mentioned = key
    · -- nothing after the one mention gives the key another value
      have none : rest.find? (·.mentioned = key) = none := by
        rw [List.find?_eq_none]
        simp only [own, decide_true, if_true] at once
        exact List.countP_eq_zero.mp (by omega)
      simp [valueIn?, own, none]
    · simp [valueIn?, own]

/-- Sources are merged key by key, and the last one that mentions a key wins. -/
theorem get?_flatten (lower : key.toLower = key) {sources : List (List Assignment)}
    (settle : ∀ source ∈ sources, Settles key source) (s : Settings) :
    (sources.flatten.foldl Assignment.apply s).get? key
      = (lastValue? key sources).or (s.get? key) := by
  induction sources generalizing s with
  | nil => rfl
  | cons source rest ih =>
    rw [List.flatten_cons, List.foldl_append, ih fun later member =>
        settle later (List.mem_cons_of_mem source member),
      get?_source lower (settle source List.mem_cons_self)]
    rw [lastValue?, lastValue?, List.reverse_cons, List.findSome?_append, Option.or_assoc,
      List.findSome?_singleton]

/-! ## Files -/

/-- The files that must be there: the caller's, and then the one that an environment variable
names. -/
def namedFiles (around : Surroundings) (path : Option String) : List String :=
  path.toList ++ (around.environment.lookup fileVariable).toList

/-- A file that must be there is not, under none of the names it can have, or one that is there
cannot be read. -/
inductive Faulty (around : Surroundings) (path : Option String) : Prop where
  | missing (name : String) (named : name ∈ namedFiles around path)
    (absent : ∀ file ∈ candidates name, around.file? file = none)
  | malformed (name text : String) (listed : name ∈ defaultFile :: namedFiles around path)
    (present : textOf? around name = some text) (unreadable : Assignment.ofFile? text = none)

/-- What a file assigns. -/
def fileSource (around : Surroundings) (name : String) : List Assignment :=
  ((textOf? around name).bind Assignment.ofFile?).getD []

/-- All sources, in the order in which they override each other. -/
def sources (around : Surroundings) (path : Option String) : List (List Assignment) :=
  (defaultFile :: namedFiles around path).map (fileSource around) ++ [variableSource around]

variable {around : Surroundings} {path : Option String}

theorem optionalSource?_eq (name : String) (readable : ∀ text, textOf? around name = some text →
    Assignment.ofFile? text ≠ none) :
    optionalSource? around name = some (fileSource around name) := by
  unfold optionalSource? fileSource
  cases found : textOf? around name with
  | none => rfl
  | some text =>
    obtain ⟨as, read⟩ := Option.ne_none_iff_exists'.mp (readable text found)
    simp [read]

theorem namedSource?_eq (name : Option String) (readable : ∀ file, name = some file →
    ∃ text, textOf? around file = some text ∧ Assignment.ofFile? text ≠ none) :
    namedSource? around name = some (name.toList.map (fileSource around)).flatten := by
  cases name with
  | none => rfl
  | some file =>
    obtain ⟨text, found, read⟩ := readable file rfl
    obtain ⟨as, is⟩ := Option.ne_none_iff_exists'.mp read
    simp [namedSource?, fileSource, found, is]

/-- A file is missing if it is there under none of its names. -/
theorem textOf?_eq_none_iff {name : String} :
    textOf? around name = none ↔ ∀ file ∈ candidates name, around.file? file = none :=
  List.findSome?_eq_none_iff

theorem assignments?_of_sound (sound : ¬ Faulty around path) :
    assignments? around path = some (sources around path).flatten := by
  have readable (name text : String) (listed : name ∈ defaultFile :: namedFiles around path)
      (present : textOf? around name = some text) : Assignment.ofFile? text ≠ none :=
    fun unreadable => sound (.malformed name text listed present unreadable)
  have there (name : String) (named : name ∈ namedFiles around path) :
      ∃ text, textOf? around name = some text ∧ Assignment.ofFile? text ≠ none := by
    cases found : textOf? around name with
    | none => exact absurd (.missing name named (textOf?_eq_none_iff.mp found)) sound
    | some text => exact ⟨text, rfl, readable name text (List.mem_cons_of_mem _ named) found⟩
  have base := optionalSource?_eq defaultFile fun text =>
    readable defaultFile text List.mem_cons_self
  have given := namedSource?_eq path fun file is =>
    there file (List.mem_append_left _ (by simp [is]))
  have pointed := namedSource?_eq (around.environment.lookup fileVariable) fun file is =>
    there file (List.mem_append_right _ (by simp [is]))
  rw [assignments?, base, given, pointed, sources]
  simp [namedFiles]

theorem assignments?_of_faulty (faulty : Faulty around path) : assignments? around path = none := by
  rw [Option.eq_none_iff_forall_ne_some]
  intro as loaded
  simp only [assignments?, Option.bind_eq_bind, Option.bind_eq_some_iff] at loaded
  obtain ⟨base, default, given, own, pointed, other, -⟩ := loaded
  have read (name : String) (named : name ∈ namedFiles around path) :
      (textOf? around name).bind Assignment.ofFile? ≠ none := by
    rcases List.mem_append.mp named with is | is
    · obtain rfl := Option.mem_toList.mp is
      exact Option.ne_none_iff_exists'.mpr ⟨given, own⟩
    · rw [Option.mem_toList.mp is] at other
      exact Option.ne_none_iff_exists'.mpr ⟨pointed, other⟩
  cases faulty with
  | missing name named absent =>
    exact read name named (by rw [textOf?_eq_none_iff.mpr absent, Option.bind_none])
  | malformed name text listed present unreadable =>
    rcases List.mem_cons.mp listed with rfl | named
    · simp only [optionalSource?, present, unreadable] at default
      contradiction
    · exact read name named (by rw [present, Option.bind_some, unreadable])

theorem sound_of_isSome (read : (assignments? around path).isSome = true) :
    ¬ Faulty around path := fun faulty => by
  rw [assignments?_of_faulty faulty] at read
  contradiction

/-! ## Loading -/

/-- The count that the last source to mention a key gives to it, if what it gives is a count, or the
one it has when none does. -/
def winningCount? (key : String) (absent : Nat) (sources : List (List Assignment)) : Option Nat :=
  match lastValue? key sources with
  | none => some absent
  | some value => value.count?

theorem countFor?_flatten (lower : key.toLower = key) {sources : List (List Assignment)}
    (settle : ∀ source ∈ sources, Settles key source) (absent : Nat) :
    countFor? (.ofAssignments sources.flatten) key absent = winningCount? key absent sources := by
  have last : (Settings.ofAssignments sources.flatten).get? key = lastValue? key sources :=
    (get?_flatten lower settle .empty).trans (Option.or_none)
  rw [countFor?, last]
  rfl

/-- With all files there and readable, the counts that win are checked together. -/
theorem load_of_sound (sound : ¬ Faulty around path)
    (devices : ∀ source ∈ sources around path, Settles "devices" source)
    (size : ∀ source ∈ sources around path, Settles "buffer_size" source) :
    load around path =
      match winningCount? "devices" 4 (sources around path),
        winningCount? "buffer_size" 4000 (sources around path) with
      | some devices, some size => validate ⟨devices, size⟩
      | _, _ => .error .load := by
  have first := countFor?_flatten (by decide +kernel) devices standard.devices
  have second := countFor?_flatten (by decide +kernel) size standard.bufferSize
  rw [load, assignments?_of_sound sound, Option.bind_some, ofSettings?, first, second, standard]
  dsimp only
  cases winningCount? "devices" 4 (sources around path) with
  | none => rfl
  | some devices =>
    cases winningCount? "buffer_size" 4000 (sources around path) <;> rfl

/-- A configuration that has been checked describes devices. -/
theorem install_of_valid {c : PipeConfig} (valid : c.validate = .ok c) (s : System) :
    ∃ after devices, DeviceSet.install s c = .ok (after, devices) ∧
      devices.channels.length = c.devices ∧ devices.bufferSize = c.bufferSize := by
  rw [DeviceSet.install, DeviceSet.channelsFor, valid]
  exact ⟨_, _, rfl, by simp, rfl⟩

/-- Each key of a configuration is decided on its own.

* A file that is named and missing, or any file that is there and cannot be read, fails the load,
  whatever the other sources say.
* Otherwise, where each source mentions a key at most once and gives it a single value, the key has
  the value of the last source to mention it: the default file, the caller's file, the file that an
  environment variable names, the environment. Only that value has to be a count. No devices and a
  buffer of less than two bytes are refused.
* What has been loaded describes devices, whatever system they are added to. -/
theorem last_source_of_each_key_decides (around : Surroundings) (path : Option String) :
    (Faulty around path → load around path = .error .load) ∧
    (¬ Faulty around path →
      (∀ source ∈ sources around path, Settles "devices" source ∧ Settles "buffer_size" source) →
      (winningCount? "devices" 4 (sources around path) = none ∨
          winningCount? "buffer_size" 4000 (sources around path) = none →
        load around path = .error .load) ∧
      ∀ devices size, winningCount? "devices" 4 (sources around path) = some devices →
        winningCount? "buffer_size" 4000 (sources around path) = some size →
        (devices = 0 → load around path = .error .noDevices) ∧
        (devices ≠ 0 → size < 2 → load around path = .error (.smallBuffer size)) ∧
        (devices ≠ 0 → 2 ≤ size → load around path = .ok ⟨devices, size⟩)) ∧
    (∀ c, load around path = .ok c → c.validate = .ok c ∧
      ∀ s : System, ∃ after devices, DeviceSet.install s c = .ok (after, devices) ∧
        devices.channels.length = c.devices ∧ devices.bufferSize = c.bufferSize) := by
  refine ⟨fun faulty => ?_, fun sound settle => ?_,
    fun c loaded => ⟨validate_of_load loaded, install_of_valid (validate_of_load loaded)⟩⟩
  · rw [load, assignments?_of_faulty faulty, Option.bind_none]
  · have loads := load_of_sound sound (fun source member => (settle source member).1)
      fun source member => (settle source member).2
    refine ⟨fun wrong => ?_, fun devices size first second => ?_⟩
    · rw [loads]
      rcases wrong with wrong | wrong <;> rw [wrong]
      split <;> first | rfl | contradiction
    · rw [loads, first, second]
      refine ⟨fun none => if_pos none, fun some small => ?_, fun some large => ?_⟩
      · exact (if_neg some).trans (if_pos small)
      · exact (if_neg some).trans (if_neg (Nat.not_lt.mpr large))

/-- A default file whose size is no count, a file for the caller, one that a variable names, and a
variable for the size. -/
def layered : Surroundings where
  file? name :=
    if name = "scullpipe.yaml" then some "Devices: 3\nbuffer_size: -1"
    else if name = "pipes.yaml" then some "devices: 2"
    else if name = "own" then some "devices: on"
    else none
  environment := [("SCULLPIPE_CONFIG", "own"), ("scullpipe__buffer_size", "16")]

/-- The size that is no count is overridden and does no harm, but a file that is missing does. -/
theorem last_source_of_each_key_decides_layered :
    ¬ Faulty layered (some "pipes") ∧ load layered (some "pipes") = .ok ⟨1, 16⟩ ∧
      Faulty layered (some "none") ∧ load layered (some "none") = .error .load := by
  have sound : ¬ Faulty layered (some "pipes") := sound_of_isSome (by decide +kernel)
  have faulty : Faulty layered (some "none") :=
    .missing "none" List.mem_cons_self (by decide +kernel)
  obtain ⟨-, decided, -⟩ := last_source_of_each_key_decides layered (some "pipes")
  obtain ⟨-, counts⟩ := decided sound (by decide +kernel)
  obtain ⟨-, -, loads⟩ := counts 1 16 (by decide +kernel) (by decide +kernel)
  exact ⟨sound, loads (by decide) (by decide), faulty,
    (last_source_of_each_key_decides layered (some "none")).1 faulty⟩

/-- A file whose name is one that already has an extension, with another one after it. -/
def doubled : Surroundings where
  file? name := if name = "a.yaml.yml" then some "devices: 8" else none
  environment := []

/-- A name with an extension is no exception: the file is found with a further one. -/
theorem file_found_under_longer_name :
    doubled.file? "a.yaml" = none ∧ load doubled (some "a.yaml") = .ok ⟨8, 4000⟩ := by
  have sound : ¬ Faulty doubled (some "a.yaml") := sound_of_isSome (by decide +kernel)
  have devices : winningCount? "devices" 4 (sources doubled (some "a.yaml")) = some 8 := by
    decide +kernel
  have size : winningCount? "buffer_size" 4000 (sources doubled (some "a.yaml")) = some 4000 := by
    decide +kernel
  refine ⟨by decide, ?_⟩
  rw [load_of_sound sound (by decide +kernel) (by decide +kernel), devices, size]
  rfl

end PipeConfig

end BytePipe
