import BytePipe.Yaml.Scalar
import BytePipe.Yaml.Token.Scan

/-!
A YAML text as a tree. A text holds at most one document here; anything after it is a fault, and so
are two equal keys in one mapping.
-/
namespace BytePipe.Yaml

inductive Node where
  | scalar (s : Scalar)
  | sequence (items : List Node)
  | mapping (entries : List (Node × Node))

namespace Node

def null : Node :=
  scalar .null

/-- What is written against its tag, or refers to a node that is not complete yet. -/
def invalid : Node :=
  scalar .invalid

def isInvalid : Node → Bool
  | scalar .invalid => true
  | _ => false

/-! ## Mappings -/

mutual

/-- Equal nodes have equal parts in the same order. -/
def equal : Node → Node → Bool
  | scalar a, scalar b => a == b
  | sequence as, sequence bs => equalItems as bs
  | mapping as, mapping bs => equalEntries as bs
  | _, _ => false

def equalItems : List Node → List Node → Bool
  | [], [] => true
  | a :: as, b :: bs => equal a b && equalItems as bs
  | _, _ => false

def equalEntries : List (Node × Node) → List (Node × Node) → Bool
  | [], [] => true
  | (k, v) :: as, (l, w) :: bs => equal k l && equal v w && equalEntries as bs
  | _, _ => false

end

/-- The entries of a mapping whose keys and values come in turn. An invalid node is no key, so the
node after it takes its place; a key that is left without a value is dropped. -/
def entriesOf : List Node → List (Node × Node)
  | [] => []
  | [_] => []
  | k :: v :: rest => if k.isInvalid then entriesOf (v :: rest) else (k, v) :: entriesOf rest

/-- Some key is in the mapping more than once. -/
def hasRepeatedKey : List (Node × Node) → Bool
  | [] => false
  | (k, _) :: rest => rest.any (fun (other, _) => k.equal other) || hasRepeatedKey rest

/-- The mapping of keys and values that come in turn, if no key is repeated. -/
def mapping? (parts : List Node) : Option Node :=
  let entries := entriesOf parts
  if hasRepeatedKey entries then none else some (mapping entries)

/-! ## Properties of a node -/

structure Properties where
  anchor : Option String
  tag : Option (String × String)

def Properties.areAbsent (p : Properties) : Bool :=
  p.anchor.isNone && p.tag.isNone

/-- Handles that tags may begin with, and what they stand for. -/
abbrev Handles := List (String × String)

def coreHandle : String := "tag:yaml.org,2002:"

/-- Two marks stand for the core schema unless redefined; a handle between marks must be known. -/
def expandTag? (handles : Handles) (handle suffix : String) : Option (String × String) :=
  match handles.lookup handle with
  | some uri => some (uri, suffix)
  | none =>
    if handle = "!!" then some (coreHandle, suffix)
    else if handle = "!" || handle = "" then some (handle, suffix)
    else none

/-- An anchor and a tag in either order. -/
def takeProperties (handles : Handles) : List Token → Option (Properties × List Token)
  | .anchor a :: .tag h s :: rest => (expandTag? handles h s).map fun t => (⟨some a, some t⟩, rest)
  | .tag h s :: .anchor a :: rest => (expandTag? handles h s).map fun t => (⟨some a, some t⟩, rest)
  | .anchor a :: rest => some (⟨some a, none⟩, rest)
  | .tag h s :: rest => (expandTag? handles h s).map fun t => (⟨none, some t⟩, rest)
  | rest => some (⟨none, none⟩, rest)

/-- Quoted and block scalars are always text. -/
def ofScalar (p : Properties) (plain : Bool) (s : String) : Node :=
  if !plain then scalar (.text s)
  else
    match p.tag with
    | none => scalar (.ofPlain s)
    | some (handle, suffix) =>
      scalar (if handle = coreHandle then .ofCoreTag suffix s else .text s)

/-! ## From tokens -/

/-- The tokens still to be read and the anchored nodes in the order of their anchors, the latest
first. -/
structure Reader where
  tokens : List Token
  anchors : List (String × Node)

abbrev Read (α : Type) := Option (α × Reader)

def Reader.drop (r : Reader) : Reader :=
  { r with tokens := r.tokens.tail }

/-- An anchor stands for the node that had it last; that node is invalid until it is complete. -/
def Reader.announce (r : Reader) : Option String → Reader
  | none => r
  | some a => { r with anchors := (a, invalid) :: r.anchors }

/-- Completes a node that was announced after those of an earlier state. -/
def Reader.complete (r earlier : Reader) (n : Node) : Option String → Reader
  | none => r
  | some a =>
    let place := r.anchors.length - 1 - earlier.anchors.length
    { r with anchors := r.anchors.set place (a, n) }

/-- The tokens before which an item of a block sequence is empty. -/
def endsItem : List Token → Bool
  | .blockEntry :: _ => true
  | .blockEnd :: _ => true
  | _ => false

/-- The tokens before which a key or a value of a block mapping is empty. -/
def endsPair : List Token → Bool
  | .key :: _ => true
  | .value :: _ => true
  | .blockEnd :: _ => true
  | _ => false

/-- The tokens before which a key in a flow sequence is empty. They are passed over with it. -/
def endsSequenceKey : List Token → Bool
  | .value :: _ => true
  | .flowEntry :: _ => true
  | .flowSequenceEnd :: _ => true
  | _ => false

/-- The tokens before which a value in a flow sequence is empty. -/
def endsSequenceValue : List Token → Bool
  | .flowEntry :: _ => true
  | .flowSequenceEnd :: _ => true
  | _ => false

/-- The tokens before which a key in a flow mapping is empty. -/
def endsMappingKey : List Token → Bool
  | .value :: _ => true
  | .flowEntry :: _ => true
  | .flowMappingEnd :: _ => true
  | _ => false

/-- The tokens before which a value in a flow mapping is empty. -/
def endsMappingValue : List Token → Bool
  | .flowEntry :: _ => true
  | .flowMappingEnd :: _ => true
  | _ => false

mutual

/-- Reads a node. Blocks may begin only where `block` allows it; a sequence that is a value may
stand without an indentation of its own. An anchor or a tag alone announces a scalar without
text. -/
def readNode (handles : Handles) : (fuel : Nat) → (block indentless : Bool) → Reader → Read Node
  | 0, _, _, _ => none
  | fuel + 1, block, indentless, r =>
    match r.tokens with
    | .reference a :: _ => (r.anchors.lookup a).map (·, r.drop)
    | _ =>
      match takeProperties handles r.tokens with
      | none => none
      | some (p, tokens) =>
        let inner : Reader := Reader.announce { r with tokens } p.anchor
        let result := match tokens with
          | .scalar plain s :: _ => some (ofScalar p plain s, inner.drop)
          | .flowSequenceStart :: _ => readFlowSequence handles fuel true [] inner.drop
          | .flowMappingStart :: _ => readFlowMapping handles fuel true [] inner.drop
          | .blockSequenceStart :: _ =>
            if block then readBlockSequence handles fuel [] inner.drop else none
          | .blockMappingStart :: _ =>
            if block then readBlockMapping handles fuel [] inner.drop else none
          | .blockEntry :: _ =>
            if indentless then readIndentless handles fuel [] inner
            else if p.areAbsent then none else some (ofScalar p true "", inner)
          | _ => if p.areAbsent then none else some (ofScalar p true "", inner)
        result.map fun (n, after) => (n, after.complete r n p.anchor)

/-- The entries of a block sequence, latest first so far. -/
def readBlockSequence (handles : Handles) : (fuel : Nat) → List Node → Reader → Read Node
  | 0, _, _ => none
  | fuel + 1, items, r =>
    match r.tokens with
    | .blockEnd :: _ => some (sequence items.reverse, r.drop)
    | .blockEntry :: rest =>
      match readEntry handles fuel (endsItem rest) false r.drop with
      | none => none
      | some (n, r) => readBlockSequence handles fuel (n :: items) r
    | _ => none

/-- The entries of a sequence that shares the indentation of the mapping around it. -/
def readIndentless (handles : Handles) : (fuel : Nat) → List Node → Reader → Read Node
  | 0, _, _ => none
  | fuel + 1, items, r =>
    match r.tokens with
    | .blockEntry :: rest =>
      match readEntry handles fuel (endsItem rest || endsPair rest) false r.drop with
      | none => none
      | some (n, r) => readIndentless handles fuel (n :: items) r
    | _ => some (sequence items.reverse, r)

/-- The keys and values of a block mapping in turn, latest first so far. -/
def readBlockMapping (handles : Handles) : (fuel : Nat) → List Node → Reader → Read Node
  | 0, _, _ => none
  | fuel + 1, parts, r =>
    let value (key : Node) (r : Reader) : Read Node :=
      match r.tokens with
      | .value :: rest =>
        match readEntry handles fuel (endsPair rest) true r.drop with
        | none => none
        | some (n, r) => readBlockMapping handles fuel (n :: key :: parts) r
      | _ => readBlockMapping handles fuel (null :: key :: parts) r
    match r.tokens with
    | .blockEnd :: _ => (mapping? parts.reverse).map (·, r.drop)
    | .key :: rest =>
      match readEntry handles fuel (endsPair rest) true r.drop with
      | none => none
      | some (key, r) => value key r
    | .value :: _ => value null r
    | _ => none

/-- A node, or null where the entry ends at once. -/
def readEntry (handles : Handles) : (fuel : Nat) → (ends indentless : Bool) → Reader → Read Node
  | 0, _, _, _ => none
  | fuel + 1, ends, indentless, r =>
    if ends then some (null, r) else readNode handles fuel true indentless r

/-- The items of a flow sequence, latest first so far. -/
def readFlowSequence (handles : Handles) : (fuel : Nat) → (first : Bool) → List Node → Reader →
    Read Node
  | 0, _, _, _ => none
  | fuel + 1, first, items, r =>
    let item (r : Reader) : Read Node :=
      match r.tokens with
      | .flowSequenceEnd :: _ => some (sequence items.reverse, r.drop)
      | .key :: _ =>
        match readSequencePair handles fuel r.drop with
        | none => none
        | some (pair, r) => readFlowSequence handles fuel false (pair :: items) r
      | _ =>
        match readNode handles fuel false false r with
        | none => none
        | some (n, r) => readFlowSequence handles fuel false (n :: items) r
    match r.tokens with
    | .flowSequenceEnd :: _ => some (sequence items.reverse, r.drop)
    | .flowEntry :: _ => if first then none else item r.drop
    | _ => if first then item r else none

/-- A mapping of one pair in a flow sequence, after the mark of its key. -/
def readSequencePair (handles : Handles) : (fuel : Nat) → Reader → Read Node
  | 0, _ => none
  | fuel + 1, r =>
    match
      if endsSequenceKey r.tokens then some (null, r.drop) else readNode handles fuel false false r
    with
    | none => none
    | some (key, r) =>
      match readValue handles fuel endsSequenceValue r with
      | none => none
      | some (n, r) => (mapping? [key, n]).map (·, r)

/-- The keys and values of a flow mapping in turn, latest first so far. -/
def readFlowMapping (handles : Handles) : (fuel : Nat) → (first : Bool) → List Node → Reader →
    Read Node
  | 0, _, _, _ => none
  | fuel + 1, first, parts, r =>
    let value (key : Node) (r : Reader) : Read Node :=
      match readValue handles fuel endsMappingValue r with
      | none => none
      | some (n, r) => readFlowMapping handles fuel false (n :: key :: parts) r
    let entry (r : Reader) : Read Node :=
      match r.tokens with
      | .flowMappingEnd :: _ => (mapping? parts.reverse).map (·, r.drop)
      | .key :: rest =>
        if endsMappingKey rest then value null r.drop
        else
          match readNode handles fuel false false r.drop with
          | none => none
          | some (key, r) => value key r
      | .value :: _ => value null r
      | _ =>
        match readNode handles fuel false false r with
        | none => none
        | some (key, r) => readFlowMapping handles fuel false (null :: key :: parts) r
    match r.tokens with
    | .flowMappingEnd :: _ => (mapping? parts.reverse).map (·, r.drop)
    | .flowEntry :: _ => if first then none else entry r.drop
    | _ => if first then entry r else none

/-- The value after a key inside a flow collection; without its mark it is null, and so it is where
it ends at once. -/
def readValue (handles : Handles) : (fuel : Nat) → (ends : List Token → Bool) → Reader → Read Node
  | 0, _, _ => none
  | fuel + 1, ends, r =>
    match r.tokens with
    | .value :: rest =>
      if ends rest then some (null, r.drop) else readNode handles fuel false false r.drop
    | _ => some (null, r)

end

/-! ## Documents -/

/-- The handles in force after the directives before a document, and the tokens after them. Each
directive puts what it declares in the place of what was declared before it. Only one may give the
version. -/
def takeDirectives? (handles : Handles) (versioned : Bool) :
    List Token → Option (Handles × List Token)
  | .versionDirective :: rest => if versioned then none else takeDirectives? [] true rest
  | .tagDirective handle uri :: rest => takeDirectives? [(handle, uri)] versioned rest
  | rest => some (handles, rest)

def isDocumentEnd : Token → Bool
  | .documentEnd => true
  | _ => false

/-- The node of a document whose start has been read. -/
def readDocument? (handles : Handles) (tokens : List Token) : Option Node :=
  match tokens with
  | [] => some null
  | .documentEnd :: rest => if rest.all isDocumentEnd then some null else none
  | _ =>
    match readNode handles (4 * tokens.length + 4) true false ⟨tokens, []⟩ with
    | none => none
    | some (n, r) => if r.tokens.all isDocumentEnd then some n else none

/-- The document of a token sequence, if it has one; nothing when it is malformed or has more. -/
def ofTokens? (tokens : List Token) : Option (Option Node) :=
  match tokens.dropWhile isDocumentEnd with
  | [] => some none
  | tokens =>
    match takeDirectives? [] false tokens with
    | none => none
    | some (handles, .documentStart :: rest) => (readDocument? handles rest).map some
    | some (_, rest) =>
      if rest.length = tokens.length then (readDocument? [] rest).map some else none

/-- The document of a text, if it has one; nothing when the text is malformed or has more. -/
def parse? (text : String) : Option (Option Node) :=
  (Token.scan? text).bind ofTokens?

end Node

end BytePipe.Yaml
