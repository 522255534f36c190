import BytePipe.Yaml.Token

/-!
The state of reading a YAML text from left to right: where reading has got to, the open blocks by
their indentation, and the places where a key may turn out to have begun. Text that breaks a rule
of the format has no next state.
-/
namespace BytePipe.Yaml

/-- An indentation to go back to. Only a block that was announced needs its end announced. -/
structure Indent where
  column : Int
  isBlock : Bool

/-- A place where a key may have begun: the token before which it would be announced. A required
key stands at the indentation of the block it belongs to. -/
structure KeyPlace where
  possible : Bool
  required : Bool
  token : Nat
  line : Nat
  column : Nat
  index : Nat

/-- `size` is the length of the whole text, of which `index` characters have been read. `keys` has
one place for every open flow collection and one for the block around them. `fresh` says that only
blanks have been read in this line. `adjacentAt` is where a value may follow its key without a gap.
`pairOpen` says that the latest value began a mapping of one pair without braces, which the next
delimiter ends. None begins while `mappingMarked` holds: from a mapping that was marked, by a brace
or as a key of any form, until a pair without braces ends. -/
structure Lexer where
  rest : List Char
  size : Nat
  line : Nat
  column : Nat
  index : Nat
  fresh : Bool
  tokens : Array Token
  indent : Int
  indents : List Indent
  flowDepth : Nat
  keyAllowed : Bool
  keys : List KeyPlace
  adjacentAt : Option Nat
  pairOpen : Bool
  mappingMarked : Bool

namespace Lexer

def noKey : KeyPlace :=
  ⟨false, false, 0, 0, 0, 0⟩

def start (text : List Char) : Lexer :=
  { rest := text.takeWhile (· != nul), size := text.length, line := 1, column := 0, index := 0
    fresh := true, tokens := #[], indent := -1, indents := [], flowDepth := 0, keyAllowed := true
    keys := [noKey], adjacentAt := none, pairOpen := false, mappingMarked := false }

def current (s : Lexer) : Char :=
  s.rest.headD nul

def peek (s : Lexer) (n : Nat) : Char :=
  s.rest.getD n nul

def inFlow (s : Lexer) : Bool :=
  s.flowDepth != 0

/-- Three equal marks and a gap at the start of a line. -/
def isDocumentMark (s : Lexer) (mark : Char) : Bool :=
  s.column == 0 && s.current == mark && s.peek 1 == mark && s.peek 2 == mark && isGap (s.peek 3)

def isAnyDocumentMark (s : Lexer) : Bool :=
  s.isDocumentMark '-' || s.isDocumentMark '.'

/-- More steps than any reading loop over the rest of the text can take. -/
def fuel (s : Lexer) : Nat :=
  s.size - s.index + 1

/-! ## Moving on -/

def skipBlank (s : Lexer) : Lexer :=
  { s with rest := s.rest.tail, column := s.column + 1, index := s.index + 1 }

def skipChar (s : Lexer) : Lexer :=
  { s.skipBlank with fresh := false }

def skipChars (s : Lexer) (n : Nat) : Lexer :=
  Nat.repeat skipChar n s

/-- A carriage return with a line feed is one break. -/
def skipBreak (s : Lexer) : Lexer :=
  let width := if s.current == '\r' && s.peek 1 == '\n' then 2 else 1
  { s with
    rest := s.rest.drop width, index := s.index + width, line := s.line + 1, column := 0
    fresh := true }

def skipComment (s : Lexer) : Lexer :=
  let n := (s.rest.takeWhile (!isBreakOrEnd ·)).length
  { s with rest := s.rest.drop n, index := s.index + n, column := s.column + n }

/-- Skips blanks, and a comment if blanks come before it. A comment right after a token is no
comment. The result tells whether a tab, and whether a space, was among the blanks. -/
def skipToLineEnd? (s : Lexer) : Option (Lexer × Bool × Bool) :=
  let blanks := s.rest.takeWhile isBlank
  let after := Nat.repeat skipBlank blanks.length s
  let found := (blanks.contains '\t', blanks.contains ' ')
  if after.current == '#' then
    if blanks.isEmpty then none else some (after.skipComment, found)
  else some (after, found)

/-! ## Emitting tokens -/

def emit (s : Lexer) (t : Token) : Lexer :=
  { s with tokens := s.tokens.push t }

/-- Puts a token before one that was emitted earlier. -/
def emitAt (s : Lexer) (place : Nat) (t : Token) : Lexer :=
  { s with tokens := s.tokens.insertIdxIfInBounds place t }

/-- Ends a pair without braces. -/
def endPair (s : Lexer) : Lexer :=
  if s.pairOpen then { s.emit .flowMappingEnd with pairOpen := false, mappingMarked := false }
  else s

/-! ## Indentation -/

/-- Forgets indentations that belong to no block. -/
def dropLooseIndents (s : Lexer) : Lexer :=
  match (s.indents.takeWhile (!·.isBlock)).getLast? with
  | none => s
  | some outermost =>
    { s with indent := outermost.column, indents := s.indents.dropWhile (!·.isBlock) }

/-- Opens a block at a column that is further in than the block around it. -/
def openBlock (s : Lexer) (column : Nat) (place : Option Nat) (t : Token) : Lexer :=
  if s.inFlow then s
  else
    let s : Lexer := match s.indents with
      | i :: rest =>
        if s.indent ≤ column && !i.isBlock then { s with indent := i.column, indents := rest }
        else s
      | [] => s
    if s.indent < column then
      let s := { s with indents := ⟨s.indent, true⟩ :: s.indents, indent := column }
      match place with
      | some n => s.emitAt n t
      | none => s.emit t
    else s

/-- Closes the blocks that are further in than a column. -/
def closeBlocks (column : Int) : List Indent → Lexer → Lexer
  | [], s => s
  | i :: outer, s =>
    if column < s.indent then
      let s := { s with indent := i.column, indents := outer }
      closeBlocks column outer (if i.isBlock then s.emit .blockEnd else s)
    else s

def closeTo (s : Lexer) (column : Int) : Lexer :=
  if s.inFlow then s else closeBlocks column s.indents s

/-- Inside a block, what follows an indicator must be at least one column further in. -/
def indentLoosely (s : Lexer) : Lexer :=
  match s.indents with
  | i :: _ =>
    if !s.inFlow && i.isBlock then
      { s with indents := ⟨s.indent, false⟩ :: s.indents, indent := s.indent + 1 }
    else s
  | [] => s

/-! ## Keys -/

def allowKey (s : Lexer) (allowed : Bool) : Lexer :=
  { s with keyAllowed := allowed }

def currentKey (s : Lexer) : KeyPlace :=
  s.keys.headD noKey

def setCurrentKey (s : Lexer) (k : KeyPlace) : Lexer :=
  { s with keys := k :: s.keys.tail }

/-- The next token may turn out to begin a key. -/
def noteKey (s : Lexer) : Lexer :=
  if s.keyAllowed then
    let required := !s.inFlow && s.indent == s.column && (s.indents.head?.any (·.isBlock))
    s.setCurrentKey ⟨true, required, s.tokens.size, s.line, s.column, s.index⟩
  else s

/-- A required key that never came is a fault. -/
def forgetKey? (s : Lexer) : Option Lexer :=
  let k := s.currentKey
  if k.possible && k.required then none else some (s.setCurrentKey { k with possible := false })

/-- Keys end on the line they begin on and are not overlong. -/
def maxKeyLength : Nat := 1024

def isStale (s : Lexer) (k : KeyPlace) : Bool :=
  k.possible && !s.inFlow && (k.line < s.line || k.index + maxKeyLength < s.index)

def dropStaleKeys? (s : Lexer) : Option Lexer :=
  if s.keys.any fun k => s.isStale k && k.required then none
  else
    some { s with
      keys := s.keys.map fun k => if s.isStale k then { k with possible := false } else k }

end Lexer

end BytePipe.Yaml
