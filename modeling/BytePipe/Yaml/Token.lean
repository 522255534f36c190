/-!
The tokens of a YAML text, and the classes of characters that tell them apart. The end of the text
is written as the character NUL, which ends a text wherever it stands.
-/
namespace BytePipe.Yaml

/-- Indentation and keys are made explicit: blocks have a start and an end token, and every key
and every value is announced. A scalar that is `plain` stood without quotes or block header. -/
inductive Token where
  | versionDirective
  | tagDirective (handle uri : String)
  | documentStart
  | documentEnd
  | blockSequenceStart
  | blockMappingStart
  | blockEnd
  | flowSequenceStart
  | flowSequenceEnd
  | flowMappingStart
  | flowMappingEnd
  | blockEntry
  | flowEntry
  | key
  | value
  | reference (anchor : String)
  | anchor (name : String)
  | tag (handle suffix : String)
  | scalar (plain : Bool) (text : String)
  deriving DecidableEq, Repr

def nul : Char := '\x00'

def isBlank (c : Char) : Bool :=
  c == ' ' || c == '\t'

def isBreak (c : Char) : Bool :=
  c == '\n' || c == '\r'

def isBreakOrEnd (c : Char) : Bool :=
  isBreak c || c == nul

/-- What may follow an indicator that stands by itself. -/
def isGap (c : Char) : Bool :=
  isBlank c || isBreakOrEnd c

/-- The mark that some texts begin with to show their byte order. -/
def byteOrderMark : Char := '\ufeff'

/-- The characters that delimit flow collections and their entries. -/
def isFlow (c : Char) : Bool :=
  c == ',' || c == '[' || c == ']' || c == '\x7b' || c == '\x7d'

def isWordChar (c : Char) : Bool :=
  c.isAlphanum || c == '_' || c == '-'

/-- The character of a code point. -/
def charOf? (n : Nat) : Option Char :=
  if h : n.isValidChar then some ⟨n.toUInt32, by
    simp only [Nat.isValidChar] at h
    simp only [UInt32.isValidChar, Nat.isValidChar, Nat.toUInt32, UInt32.toNat_ofNat']
    omega⟩
  else none

end BytePipe.Yaml
