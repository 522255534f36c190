import BytePipe.Number.Integer
import BytePipe.Yaml.Lexer

/-!
Reading scalars: plain, in quotes, and in blocks. Line breaks inside a scalar are folded: a single
break becomes a space, and of several the first is dropped.
-/
namespace BytePipe.Yaml.Lexer

/-- The text of a scalar as it is read. `blanks` are held back until something follows them, and
so are line breaks: whether there was a `firstBreak`, and the breaks after it. -/
structure Folding where
  text : List Char
  blanks : List Char
  firstBreak : Bool
  laterBreaks : List Char

namespace Folding

def empty : Folding :=
  ⟨[], [], false, []⟩

/-- Adds what was held back. -/
def join (f : Folding) : Folding :=
  let held :=
    if f.firstBreak then (if f.laterBreaks.isEmpty then [' '] else f.laterBreaks) else f.blanks
  { text := held.reverse ++ f.text, blanks := [], firstBreak := false, laterBreaks := [] }

/-- The text is kept in reverse. -/
def push (f : Folding) (c : Char) : Folding :=
  { f with text := c :: f.text }

def result (f : Folding) : String :=
  String.ofList f.text.reverse

end Folding

/-! ## Plain scalars -/

/-- A colon before a gap ends a plain scalar; inside a flow collection its delimiters do too. -/
def continuesPlain (s : Lexer) : Bool :=
  let c := s.current
  if c == ':' && (isGap (s.peek 1) || (s.inFlow && isFlow (s.peek 1))) then false
  else !(s.inFlow && isFlow c)

/-- Reads characters up to a gap or to the end of the scalar. -/
def plainWord : (fuel : Nat) → Lexer → Folding → Lexer × Folding
  | 0, s, f => (s, f)
  | fuel + 1, s, f =>
    if isGap s.current || !s.continuesPlain then (s, f)
    else plainWord fuel s.skipChar (f.push s.current)

/-- Reads blanks and breaks between words. A tab may not indent a line that has content. -/
def plainGap (indent : Int) : (fuel : Nat) → Lexer → Folding → Option (Lexer × Folding)
  | 0, s, f => some (s, f)
  | fuel + 1, s, f =>
    let c := s.current
    if isBlank c then
      if !f.firstBreak then
        plainGap indent fuel s.skipBlank { f with blanks := f.blanks ++ [c] }
      else if c == '\t' && s.column < indent then
        match s.skipToLineEnd? with
        | none => none
        | some (s, _) => if isBreakOrEnd s.current then plainGap indent fuel s f else none
      else plainGap indent fuel s.skipBlank f
    else if isBreak c then
      plainGap indent fuel s.skipBreak
        (if f.firstBreak then { f with laterBreaks := f.laterBreaks ++ ['\n'] }
          else { f with blanks := [], firstBreak := true })
    else some (s, f)

def plainLines (indent : Int) : (fuel : Nat) → Lexer → Folding → Option (Lexer × Folding)
  | 0, s, f => some (s, f)
  | fuel + 1, s, f =>
    if (s.fresh && s.isAnyDocumentMark) || s.current == '#' then some (s, f)
    else if s.inFlow && s.current == '-' && isFlow (s.peek 1) then none
    else
      let (s, f) :=
        if isGap s.current || !s.continuesPlain then (s, f)
        else plainWord s.fuel s.skipChar (f.join.push s.current)
      if !(isBlank s.current || isBreak s.current) then some (s, f)
      else
        match plainGap indent s.fuel s f with
        | none => none
        | some (s, f) =>
          if !s.inFlow && s.column < indent then some (s, f) else plainLines indent fuel s f

/-- A plain scalar goes on over lines that are further in than the block around it. -/
def readPlain? (s : Lexer) : Option Lexer :=
  let s := s.dropLooseIndents
  let indent := s.indent + 1
  if s.inFlow && s.column < indent then none
  else
    match plainLines indent s.fuel s .empty with
    | none => none
    | some (s, f) =>
      let s := if f.firstBreak then s.allowKey true else s
      if f.text.isEmpty then none else some (s.emit (.scalar true f.result))

/-! ## Quoted scalars -/

/-- Escapes of one character after the backslash. -/
def shortEscape? : Char → Option Char
  | '0' => some '\x00'
  | 'a' => some '\x07'
  | 'b' => some '\x08'
  | 't' => some '\t'
  | '\t' => some '\t'
  | 'n' => some '\n'
  | 'v' => some '\x0b'
  | 'f' => some '\x0c'
  | 'r' => some '\r'
  | 'e' => some '\x1b'
  | ' ' => some ' '
  | '"' => some '"'
  | '/' => some '/'
  | '\\' => some '\\'
  | 'N' => some '\u0085'
  | '_' => some '\u00a0'
  | 'L' => some '\u2028'
  | 'P' => some '\u2029'
  | _ => none

/-- Hexadecimal digits that follow the escape letter. -/
def escapeWidth? : Char → Option Nat
  | 'x' => some 2
  | 'u' => some 4
  | 'U' => some 8
  | _ => none

/-- Reads an escape sequence, from the backslash on. -/
def escape? (s : Lexer) : Option (Lexer × Char) :=
  match escapeWidth? (s.peek 1) with
  | none => (shortEscape? (s.peek 1)).map fun c => (s.skipChars 2, c)
  | some width => do
    let digits := (s.rest.drop 2).take width
    if digits.length < width then none
    else
      let n ← Number.ofDigits? 16 digits
      return (s.skipChars (2 + width), ← charOf? n)

/-- Reads characters up to a gap or the closing quote. An escaped line break joins two lines. -/
def quotedWord (single : Bool) : (fuel : Nat) → Lexer → Folding → Option (Lexer × Folding × Bool)
  | 0, s, f => some (s, f, false)
  | fuel + 1, s, f =>
    let c := s.current
    if isGap c then some (s, f, false)
    else if single && c == '\'' && s.peek 1 == '\'' then
      quotedWord single fuel (s.skipChars 2) (f.push '\'')
    else if c == (if single then '\'' else '"') then some (s, f, false)
    else if !single && c == '\\' && isBreak (s.peek 1) then some (s.skipChar.skipBreak, f, true)
    else if !single && c == '\\' then
      match s.escape? with
      | none => none
      | some (s, c) => quotedWord single fuel s (f.push c)
    else quotedWord single fuel s.skipChar (f.push c)

/-- Reads blanks and breaks between words; `folded` after a break, escaped or not. -/
def quotedGap : (fuel : Nat) → (folded : Bool) → Lexer → Folding → Option (Lexer × Folding)
  | 0, _, s, f => some (s, f)
  | fuel + 1, folded, s, f =>
    let c := s.current
    if isBlank c then
      if folded then
        if c == '\t' && s.column < s.indent then none else quotedGap fuel folded s.skipBlank f
      else quotedGap fuel folded s.skipBlank { f with blanks := f.blanks ++ [c] }
    else if isBreak c then
      if folded then
        quotedGap fuel true s.skipBreak { f with laterBreaks := f.laterBreaks ++ ['\n'] }
      else quotedGap fuel true s.skipBreak { f with blanks := [], firstBreak := true }
    else some (s, f)

/-- Adds what was held back; after an escaped break only further breaks count. -/
def joinQuoted (escapedBreak : Bool) (f : Folding) : Folding :=
  if escapedBreak then { f with text := f.laterBreaks.reverse ++ f.text, laterBreaks := [] }
  else f.join

def quotedLines (single : Bool) : (fuel : Nat) → Lexer → Folding → Option (Lexer × Folding)
  | 0, _, _ => none
  | fuel + 1, s, f =>
    if s.isAnyDocumentMark || s.current == nul || s.column < s.indent then none
    else
      match quotedWord single s.fuel s f with
      | none => none
      | some (s, f, escapedBreak) =>
        if s.current == (if single then '\'' else '"') then some (s.skipChar, f)
        else
          match quotedGap s.fuel escapedBreak s f with
          | none => none
          | some (s, f) => quotedLines single fuel s (joinQuoted escapedBreak f)

/-- What may stand after a closing quote: the end of the line, a delimiter of the flow collection
around it, or the colon of the value it is the key of. Outside of flow collections a key in quotes
stays on one line. -/
def endsQuoted (s : Lexer) (startLine : Nat) : Bool :=
  let c := s.current
  isBreakOrEnd c
    || (s.inFlow && (c == ',' || c == '\x7d' || c == ']' || c == ':'))
    || (c == ':' && startLine == s.line)

def readQuoted? (s : Lexer) (single : Bool) : Option Lexer :=
  let line := s.line
  match quotedLines single s.fuel s.skipChar .empty with
  | none => none
  | some (s, f) =>
    match s.skipToLineEnd? with
    | none => none
    | some (s, _) => if s.endsQuoted line then some (s.emit (.scalar false f.result)) else none

/-! ## Block scalars -/

/-- What happens to the line breaks that end a block scalar. -/
inductive Chomping where
  | strip
  | clip
  | keep
  deriving DecidableEq

def chomping? : Char → Option Chomping
  | '+' => some .keep
  | '-' => some .strip
  | _ => none

/-- An indentation indicator is a digit other than zero. -/
def indentDigit? (s : Lexer) : Option (Lexer × Nat) :=
  if Number.isDecimal s.current then
    if s.current == '0' then none else some (s.skipChar, Number.digitValue s.current)
  else some (s, 0)

/-- The indicators after a block header's mark, in either order. -/
def blockHeader? (s : Lexer) : Option (Lexer × Chomping × Nat) :=
  match chomping? s.current with
  | some c => s.skipChar.indentDigit?.map fun (s, n) => (s, c, n)
  | none =>
    s.indentDigit?.map fun (s, n) =>
      match chomping? s.current with
      | some c => if n = 0 then (s, .clip, n) else (s.skipChar, c, n)
      | none => (s, .clip, n)

/-- Skips spaces up to a column. -/
def skipSpaces (s : Lexer) (column : Nat) : Lexer :=
  Nat.repeat skipBlank (min ((s.rest.takeWhile (· == ' ')).length) (column - s.column)) s

/-- Skips indentation and empty lines; gives the breaks skipped. -/
def blockIndent (indent : Nat) : (fuel : Nat) → Lexer → List Char → Lexer × List Char
  | 0, s, breaks => (s, breaks)
  | fuel + 1, s, breaks =>
    let s := s.skipSpaces indent
    if isBreak s.current then blockIndent indent fuel s.skipBreak (breaks ++ ['\n'])
    else (s, breaks)

/-- Skips the empty lines before the first content; gives the deepest column reached. -/
def blockStart : (fuel : Nat) → Lexer → (deepest : Nat) → List Char → Lexer × Nat × List Char
  | 0, s, deepest, breaks => (s, deepest, breaks)
  | fuel + 1, s, deepest, breaks =>
    let s := s.skipSpaces (s.column + s.rest.length)
    let deepest := max deepest s.column
    if isBreak s.current then blockStart fuel s.skipBreak deepest (breaks ++ ['\n'])
    else (s, deepest, breaks)

/-- Lines of a block scalar: text in reverse, the break that ended the last line, the empty lines
after it, and whether that line began with a blank. -/
def blockLines (literal : Bool) (indent : Nat) : (fuel : Nat) → Lexer → (text lastBreak breaks :
    List Char) → (indented : Bool) → Lexer × List Char × List Char × List Char
  | 0, s, text, lastBreak, breaks, _ => (s, text, lastBreak, breaks)
  | fuel + 1, s, text, lastBreak, breaks, indented =>
    if s.column != indent || s.current == nul || (indent == 0 && s.isDocumentMark '.') then
      (s, text, lastBreak, breaks)
    else
      let blank := isBlank s.current
      let held :=
        if !literal && !lastBreak.isEmpty && !indented && !blank then
          (if breaks.isEmpty then [' '] else breaks)
        else lastBreak ++ breaks
      let content := s.rest.takeWhile (!isBreakOrEnd ·)
      let text := content.reverse ++ held.reverse ++ text
      let s := s.skipChars content.length
      if s.current == nul then (s, text, [], [])
      else
        let (s, breaks) := blockIndent indent s.fuel s.skipBreak []
        blockLines literal indent fuel s text ['\n'] breaks blank

def readBlock? (s : Lexer) (literal : Bool) : Option Lexer := do
  let (s, chomping, increment) ← s.skipChar.dropLooseIndents.blockHeader?
  let (s, _) ← s.skipToLineEnd?
  if !isBreakOrEnd s.current then none
  let headerLine := s.line
  let s := if isBreak s.current then s.skipBreak else s
  if s.current == '\t' then none
  let (s, indent, breaks) :=
    if increment = 0 then
      let (s, deepest, breaks) := blockStart s.fuel s 0 []
      (s, max deepest (max (s.indent + 1).toNat (if 0 < s.indent then 1 else 0)), breaks)
    else
      let indent := (max s.indent 0).toNat + increment
      let (s, breaks) := blockIndent indent s.fuel s []
      (s, indent, breaks)
  if s.current == nul then
    let text : List Char := match chomping with
      | .strip => []
      | .clip => if s.line = headerLine then [] else ['\n']
      | .keep => if s.line = headerLine then [] else if breaks.isEmpty then ['\n'] else breaks
    return s.emit (.scalar false (String.ofList text))
  else if s.column < indent && s.indent < s.column then none
  else
    let (s, text, lastBreak, breaks) := blockLines literal indent s.fuel s [] [] breaks false
    let atEnd := s.current == nul && max indent 1 ≤ s.column
    let tail := match chomping with
      | .strip => []
      | .clip => lastBreak ++ (if atEnd then ['\n'] else [])
      | .keep => lastBreak ++ (if atEnd then ['\n'] else []) ++ breaks
    return s.emit (.scalar false (String.ofList (text.reverse ++ tail)))

end BytePipe.Yaml.Lexer
