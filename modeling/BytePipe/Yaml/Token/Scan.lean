import BytePipe.Yaml.Directive
import BytePipe.Yaml.Token.Scalar

/-!
The tokens of a text. Each step skips what separates tokens and then reads one; keys that were
only recognised by their colon are announced at the place where they began.
-/
namespace BytePipe.Yaml.Lexer

/-! ## Between tokens -/

/-- Skips blanks, comments and line breaks. A tab may not indent content inside a block. -/
def skipGap : (fuel : Nat) → Lexer → Option Lexer
  | 0, s => some s
  | fuel + 1, s =>
    let c := s.current
    if c == '\t' && !s.indents.isEmpty && s.fresh && s.column < s.indent then
      match s.skipToLineEnd? with
      | none => none
      | some (s, _) => if isBreakOrEnd s.current then skipGap fuel s else none
    else if isBlank c then skipGap fuel s.skipBlank
    else if isBreak c then
      let s := s.skipBreak
      skipGap fuel (if s.inFlow then s else s.allowKey true)
    else if c == '#' then skipGap fuel s.skipComment
    else some s

/-! ## Structure -/

def readStreamEnd? (s : Lexer) : Option Lexer :=
  if s.keys.any fun k => k.possible && k.required then none
  else some { s.closeTo (-1) with keys := [noKey] }

def readDocumentMark? (s : Lexer) (t : Token) : Option Lexer := do
  let s ← (s.closeTo (-1)).forgetKey?
  return ((s.allowKey false).skipChars 3).emit t

/-- Flow collections stand in one another at most this deep. -/
def maxFlowDepth : Nat := 255

def readFlowStart? (s : Lexer) (t : Token) : Option Lexer := do
  let s := s.noteKey.indentLoosely
  if s.flowDepth = maxFlowDepth then none
  let s := { s with
    keys := noKey :: s.keys, flowDepth := s.flowDepth + 1
    mappingMarked := s.mappingMarked || t == Token.flowMappingStart }
  let (s, _) ← (s.allowKey true).skipChar.skipToLineEnd?
  return s.emit t

def readFlowEnd? (s : Lexer) (t : Token) : Option Lexer := do
  let s ← s.forgetKey?
  let s := if s.inFlow then { s with keys := s.keys.tail, flowDepth := s.flowDepth - 1 } else s
  let (s, _) ← (s.allowKey false).endPair.skipChar.skipToLineEnd?
  let s := if s.inFlow then { s with adjacentAt := some s.index } else s
  return s.emit t

def readFlowEntry? (s : Lexer) : Option Lexer := do
  let s ← s.forgetKey?
  let (s, _) ← (s.allowKey true).endPair.skipChar.skipToLineEnd?
  return s.emit .flowEntry

/-- The mark of an entry of a block sequence. -/
def readBlockEntry? (s : Lexer) : Option Lexer := do
  if s.inFlow || !s.keyAllowed then none
  let column := s.column
  let (s, tabs, _) ← (s.skipChar.openBlock column none .blockSequenceStart).skipToLineEnd?
  if tabs && s.current == '-' && isGap (s.peek 1) then none
  let s := if isBreak s.current || isFlow s.current then s.indentLoosely else s
  let s ← s.forgetKey?
  return (s.allowKey true).emit .blockEntry

/-- Skips spaces, line breaks and comments; there must be a space or a break. -/
def skipSeparation : (fuel : Nat) → (found : Bool) → Lexer → Option Lexer
  | 0, _, _ => none
  | fuel + 1, found, s =>
    let c := s.current
    if c == ' ' then skipSeparation fuel true s.skipBlank
    else if isBreak c then
      let s := s.skipBreak
      skipSeparation fuel true (if s.inFlow then s else s.allowKey true)
    else if c == '#' then skipSeparation fuel found s.skipComment
    else if found then some s
    else none

/-- The mark of a key of any form. No tab may stand between it and the key. -/
def readKey? (s : Lexer) : Option Lexer := do
  if !s.inFlow && !s.keyAllowed then none
  let s :=
    if s.inFlow then { s with mappingMarked := true }
    else s.openBlock s.column none .blockMappingStart
  let s := ((← s.forgetKey?).allowKey (!s.inFlow)).skipChar
  let s ← skipSeparation s.fuel false s
  if s.current == '\t' then none
  return s.emit .key

/-- Announces the key of a value at the place where it began. In a flow sequence a mapping of one
pair begins there too; such a key is on the line of its colon. -/
def announceKey? (s : Lexer) (k : KeyPlace) (colonLine : Nat) : Option Lexer :=
  let s := s.emitAt k.token .key
  if !s.pairOpen then some s
  else if k.line < colonLine then none
  else some (s.emitAt k.token .flowMappingStart)

/-- The mark of a value. It announces its key at the place noted for it; without such a place the
value belongs to a key that was marked, or to an empty one. -/
def readValue? (s : Lexer) : Option Lexer := do
  let k := s.currentKey
  let column := s.column
  let line := s.line
  let allowed := s.keyAllowed
  let s := { s with pairOpen := s.inFlow && !s.mappingMarked }.skipChar
  let s ← if s.current == '\t' then do
      let (s, _, spaces) ← s.skipToLineEnd?
      if !spaces && (s.current == '-' || isWordChar s.current) then none
      pure s
    else some s
  if k.possible then
    let s ← s.announceKey? k line
    let s := (s.openBlock k.column (some k.token) .blockMappingStart).indentLoosely
    return ((s.setCurrentKey { k with possible := false }).allowKey false).emit .value
  else if s.inFlow then
    let s := if s.pairOpen then s.emit .flowMappingStart else s
    return (s.allowKey false).emit .value
  else if !allowed then none
  else
    return (((s.openBlock column none .blockMappingStart).indentLoosely).allowKey true).emit .value

/-! ## Properties -/

def readAnchor? (s : Lexer) (t : String → Token) : Option Lexer :=
  let s := (s.noteKey.allowKey false).skipChar
  let name := s.rest.takeWhile fun c => !isGap c && !isFlow c && c != byteOrderMark
  if name.isEmpty then none else some ((s.skipChars name.length).emit (t (String.ofList name)))

/-- After a tag there is a gap, or a delimiter of the flow collection around it. -/
def readTag? (s : Lexer) : Option Lexer := do
  let s := s.noteKey.allowKey false
  let word := s.rest.takeWhile (!isGap ·)
  let (t, rest) ← Tag.take? word
  if !rest.isEmpty && !(s.inFlow && isFlow (rest.headD nul)) then none
  return (s.skipChars (word.length - rest.length)).emit t

/-! ## Directives -/

def readDirective? (s : Lexer) : Option Lexer := do
  let s ← (s.closeTo (-1)).forgetKey?
  let line := s.rest.takeWhile (!isBreakOrEnd ·)
  let t ← Directive.ofLine? line.tail
  let s := (s.allowKey false).skipChars line.length
  return (if isBreak s.current then s.skipBreak else s).emit t

/-! ## The whole text -/

/-- Reads one token at the current character, which is not the end of the text. -/
def readToken? (s : Lexer) : Option Lexer :=
  let c := s.current
  let next := s.peek 1
  match c with
  | '[' => s.readFlowStart? .flowSequenceStart
  | '\x7b' => s.readFlowStart? .flowMappingStart
  | ']' => s.readFlowEnd? .flowSequenceEnd
  | '\x7d' => s.readFlowEnd? .flowMappingEnd
  | ',' => s.readFlowEntry?
  | '*' => s.readAnchor? .reference
  | '&' => s.readAnchor? .anchor
  | '!' => s.readTag?
  | '\'' => readQuotedKey? s true
  | '"' => readQuotedKey? s false
  | '@' => none
  | '%' => none
  | '\u0060' => none
  | _ =>
    if c == '-' && isGap next then s.readBlockEntry?
    else if c == '?' && isGap next then s.readKey?
    else if c == ':' && (isGap next || (s.inFlow && (isFlow next || s.adjacentAt == some s.index)))
    then s.readValue?
    else if (c == '|' || c == '>') && !s.inFlow then
      (s.noteKey.allowKey true).readBlock? (c == '|')
    else (s.noteKey.allowKey false).readPlain?
where
  /-- After a scalar in quotes a value may follow without a gap. -/
  readQuotedKey? (s : Lexer) (single : Bool) : Option Lexer := do
    let s ← (s.noteKey.allowKey false).readQuoted? single
    let s ← s.skipGap s.fuel
    return { s with adjacentAt := some s.index }

/-- Reads the next token; at the end of the text nothing is left to read. -/
def step? (s : Lexer) : Option (Lexer × Bool) := do
  let s ← s.skipGap s.fuel
  let s ← s.dropStaleKeys?
  let s := s.closeTo s.column
  if s.current == nul then
    let s ← s.readStreamEnd?
    return (s, true)
  else if s.column == 0 && s.current == '%' then return (← s.readDirective?, false)
  else if s.isDocumentMark '-' then return (← s.readDocumentMark? .documentStart, false)
  else if s.isDocumentMark '.' then
    let s ← s.readDocumentMark? .documentEnd
    let (s, _) ← s.skipToLineEnd?
    if isBreakOrEnd s.current then return (s, false) else none
  else if s.column < s.indent then none
  else return (← s.readToken?, false)

/-- Every step but the last takes at least one character. -/
def readAll? : (fuel : Nat) → Lexer → Option (List Token)
  | 0, _ => none
  | fuel + 1, s =>
    match s.step? with
    | none => none
    | some (s, true) => some s.tokens.toList
    | some (s, false) => readAll? fuel s

end BytePipe.Yaml.Lexer

namespace BytePipe.Yaml

/-- The tokens of a text, or nothing when it breaks a rule of the format. -/
def Token.scan? (text : String) : Option (List Token) :=
  let s := Lexer.start text.toList
  s.readAll? (s.fuel + 1)

end BytePipe.Yaml
