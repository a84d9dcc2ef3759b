import ClientPlan.Yaml.Lexer
import ClientPlan.Yaml.PlainType
import ClientPlan.Yaml.Timestamp

/-!
# YAML nodes

`Graph.ofTokens` builds the nodes of the only document of a stream.  Nodes refer to their parts by
number, so that an alias stands for the very node with its anchor, even inside of that node.  A node
comes before the parts that are written inside of it.  A node that is left out is an empty plain scalar.

Every call of the readers takes a token or hands on to a reader that takes one, so twice the number
of tokens bounds the depth of their calls.
-/

set_option autoImplicit false

namespace ClientPlan.Yaml

/-- A node with its tag; its parts are given by their numbers. -/
inductive Node where
  | scalar (tag : Tag) (text : String)
  | sequence (tag : Tag) (items : List Nat)
  | mapping (tag : Tag) (entries : List (Nat × Nat))
deriving Repr

/-- The nodes of a document by their numbers. -/
structure Graph where
  /-- The nodes. -/
  nodes : Array Node
  /-- The node that stands for the document. -/
  root : Nat
  /-- The number of aliases. -/
  aliases : Nat
  /-- The number of those that stand inside the node that they stand for. -/
  cycles : Nat

/-- The tag of a plain scalar, by the form of its text.  A line feed at its end does not count, unless
it is the whole text. -/
def Tag.ofPlain (text : String) : Tag :=
  let s := Text.dropLineEnd text.toList
  let word := String.ofList s
  if text == "\n" then str
  else if booleanWords.contains word then bool
  else if isFloat s then float
  else if isInt s then int
  else if word == "<<" then merge
  else if nullWords.contains word then null
  else if Timestamp.isPlain s then timestamp
  else if word == "=" then value
  else str

namespace Node

/-- The node in place of one that is left out. -/
def empty : Node := scalar .null ""

instance : Inhabited Node := ⟨empty⟩

/-- The tag of a node. -/
def tag : Node → Tag
  | scalar t _ | sequence t _ | mapping t _ => t

end Node

namespace Graph

/-- What is left of a stream, and what is known of its document. -/
structure Reading where
  /-- The tokens. -/
  tokens : List Token
  /-- What tag handles stand for. -/
  handles : List (String × String)
  /-- The nodes with an anchor. -/
  anchors : List (String × Nat) := []
  /-- The nodes so far; of a node that is not complete the parts are missing. -/
  nodes : Array Node := #[]
  /-- The nodes that are not complete. -/
  pending : List Nat := []
  /-- The number of aliases. -/
  aliases : Nat := 0
  /-- The number of aliases of nodes that were not complete. -/
  cycles : Nat := 0

/-- What is wrong if the next token fits nowhere. -/
def unexpected (st : Reading) : Fault :=
  match st.tokens with
  | .broken f :: _ => f
  | _ => .malformed

/-- Whether the next token is one of `stops`. -/
def atAny (stops : List Token) (st : Reading) : Bool := st.tokens.head?.any stops.contains

/-- The reading without the next token. -/
def next (st : Reading) : Reading := { st with tokens := st.tokens.tail }

/-- The reading after the token `t`, which has to come next. -/
def expect (t : Token) (st : Reading) : Except Fault Reading :=
  if atAny [t] st then .ok (next st) else .error (unexpected st)

/-- The number of one more node. -/
def add (n : Node) (st : Reading) : Nat × Reading :=
  (st.nodes.size, { st with nodes := st.nodes.push n })

/-- The number of a node that is left out. -/
def addEmpty (st : Reading) : Nat × Reading := add .empty st

/-! ## Properties -/

/-- The anchor and the tag in front of a node. -/
structure Properties where
  /-- The anchor. -/
  anchor : Option String := none
  /-- The tag in full. -/
  tag : Option String := none

/-- The tag in full. -/
def fullTag (st : Reading) (handle : Option String) (suffix : String) : Except Fault String :=
  match handle with
  | none => .ok suffix
  | some h =>
    match st.handles.lookup h with
    | some expansion => .ok (expansion ++ suffix)
    | none => .error .malformed

/-- Fails if the stream is broken here. -/
def unbroken (st : Reading) : Except Fault Unit :=
  match st.tokens with
  | .broken f :: _ => .error f
  | _ => .ok ()

/-- Reads the properties in front of a node: an anchor and a tag in either order.  After a tag alone the
next token is looked at before the handle of the tag. -/
def properties (st : Reading) : Except Fault (Properties × Reading) :=
  match st.tokens with
  | .anchor name :: .tag handle suffix :: _ | .tag handle suffix :: .anchor name :: _ => do
    return (⟨some name, some (← fullTag st handle suffix)⟩, next (next st))
  | .anchor name :: _ => .ok (⟨some name, none⟩, next st)
  | .tag handle suffix :: _ => do
    unbroken (next st)
    return (⟨none, some (← fullTag st handle suffix)⟩, next st)
  | _ => .ok ({}, st)

namespace Properties

/-- Whether there are none. -/
def isEmpty (p : Properties) : Bool := p.anchor.isNone && p.tag.isNone

/-- Whether the tag is left open: there is none, or it is a single exclamation mark. -/
def isOpen (p : Properties) : Bool := p.tag.isNone || p.tag == some "!"

/-- The tag of a scalar.  An open tag is decided by the form of the text, unless it is quoted. -/
def scalarTag (p : Properties) (text : String) (plain : Bool) : Tag :=
  match p.tag with
  | none => if plain then .ofPlain text else .str
  | some t => if t == "!" then .ofPlain text else .ofText t

/-- The tag of a collection. -/
def collectionTag (p : Properties) (default : Tag) : Tag :=
  if p.isOpen then default else (p.tag.map Tag.ofText).getD default

/-- The reading before a node with the properties, whose first token is there; no two nodes have one
anchor. -/
def start (p : Properties) (st : Reading) : Except Fault Reading := do
  unbroken st
  if p.anchor.any fun name => (st.anchors.lookup name).isSome then .error .malformed else return st

/-- The reading with the anchor given to a node. -/
def name (p : Properties) (number : Nat) (st : Reading) : Reading :=
  match p.anchor with
  | none => st
  | some name => { st with anchors := (name, number) :: st.anchors }

/-- The number of a scalar with the properties. -/
def addScalar (p : Properties) (text : String) (plain : Bool) (st : Reading) : Nat × Reading :=
  let (number, st) := add (.scalar (p.scalarTag text plain) text) st
  (number, p.name number st)

/-- The number of a collection with the properties whose parts are to be read next. -/
def enter (p : Properties) (n : Node) (st : Reading) : Nat × Reading :=
  let (number, st) := add n st
  (number, { p.name number st with pending := number :: st.pending })

end Properties

/-- The collection that has been read last, complete. -/
def leave (number : Nat) (n : Node) (st : Reading) : Nat × Reading :=
  (number, { st with nodes := st.nodes.setIfInBounds number n, pending := st.pending.tail })

/-- The node that an alias stands for. -/
def aliased (name : String) (st : Reading) : Except Fault (Nat × Reading) :=
  match st.anchors.lookup name with
  | none => .error .malformed
  | some number =>
    .ok (number, { next st with
      aliases := st.aliases + 1
      cycles := if st.pending.contains number then st.cycles + 1 else st.cycles })

/-! ## Nodes and collections -/

mutual

/-- Reads a node.  Only in a block can it be a block itself, and only as the value of a key can it be a
sequence that is not indented. -/
def node (block loose : Bool) : Nat → Reading → Except Fault (Nat × Reading)
  | 0, _ => .error .malformed
  | fuel + 1, st =>
    match st.tokens with
    | .alias name :: _ => aliased name st
    | _ => do
      let (p, st) ← properties st
      let st ← p.start st
      match st.tokens with
      | .scalar text plain :: _ => return p.addScalar text plain (next st)
      | .flowSequenceStart :: _ => do
        let (number, st) := p.enter (.sequence (p.collectionTag .seq) []) st
        let (items, st) ← flowItems fuel true [] (next st)
        return leave number (.sequence (p.collectionTag .seq) items) st
      | .flowMappingStart :: _ => do
        let (number, st) := p.enter (.mapping (p.collectionTag .map) []) st
        let (entries, st) ← flowEntries fuel true [] (next st)
        return leave number (.mapping (p.collectionTag .map) entries) st
      | t :: _ =>
        if loose && t == .blockEntry then do
          let (number, st) := p.enter (.sequence (p.collectionTag .seq) []) st
          let (items, st) ← looseItems fuel [] st
          return leave number (.sequence (p.collectionTag .seq) items) st
        else if block && t == .blockSequenceStart then do
          let (number, st) := p.enter (.sequence (p.collectionTag .seq) []) st
          let (items, st) ← blockItems fuel [] (next st)
          return leave number (.sequence (p.collectionTag .seq) items) st
        else if block && t == .blockMappingStart then do
          let (number, st) := p.enter (.mapping (p.collectionTag .map) []) st
          let (entries, st) ← blockEntries fuel [] (next st)
          return leave number (.mapping (p.collectionTag .map) entries) st
        else if p.isEmpty then .error (unexpected st)
        else return p.addScalar "" true st
      | [] => .error .malformed

/-- Reads the items of an indented sequence up to its end. -/
def blockItems : Nat → List Nat → Reading → Except Fault (List Nat × Reading)
  | 0, _, _ => .error .malformed
  | fuel + 1, acc, st =>
    if atAny [.blockEntry] st then do
      let st := next st
      let (n, st) ←
        if atAny [.blockEntry, .blockEnd] st then pure (addEmpty st) else node true false fuel st
      blockItems fuel (n :: acc) st
    else do return (acc.reverse, ← expect .blockEnd st)

/-- Reads the items of a sequence that is not indented. -/
def looseItems : Nat → List Nat → Reading → Except Fault (List Nat × Reading)
  | 0, _, _ => .error .malformed
  | fuel + 1, acc, st =>
    if atAny [.blockEntry] st then do
      let st := next st
      let (n, st) ←
        if atAny [.blockEntry, .key, .value, .blockEnd] st then pure (addEmpty st)
        else node true false fuel st
      looseItems fuel (n :: acc) st
    else return (acc.reverse, st)

/-- Reads the entries of an indented mapping up to its end. -/
def blockEntries : Nat → List (Nat × Nat) → Reading → Except Fault (List (Nat × Nat) × Reading)
  | 0, _, _ => .error .malformed
  | fuel + 1, acc, st =>
    if atAny [.key] st then do
      let st := next st
      let (k, st) ←
        if atAny [.key, .value, .blockEnd] st then pure (addEmpty st) else node true true fuel st
      if atAny [.value] st then do
        let st := next st
        let (v, st) ←
          if atAny [.key, .value, .blockEnd] st then pure (addEmpty st) else node true true fuel st
        blockEntries fuel ((k, v) :: acc) st
      else
        let (v, st) := addEmpty st
        blockEntries fuel ((k, v) :: acc) st
    else do return (acc.reverse, ← expect .blockEnd st)

/-- Reads the items between brackets up to the closing one.  An item may be a mapping with a single
entry. -/
def flowItems : Nat → Bool → List Nat → Reading → Except Fault (List Nat × Reading)
  | 0, _, _, _ => .error .malformed
  | fuel + 1, first, acc, st =>
    if atAny [.flowSequenceEnd] st then .ok (acc.reverse, next st)
    else do
      let st ← if first then pure st else expect .flowEntry st
      if atAny [.flowSequenceEnd] st then return (acc.reverse, next st)
      else if atAny [.key] st then do
        let (number, st) := Properties.enter {} (.mapping .map []) (next st)
        let (k, st) ←
          if atAny [.value, .flowEntry, .flowSequenceEnd] st then pure (addEmpty st)
          else node false false fuel st
        let (v, st) ←
          if atAny [.value] st then
            let st := next st
            if atAny [.flowEntry, .flowSequenceEnd] st then pure (addEmpty st)
            else node false false fuel st
          else pure (addEmpty st)
        let (number, st) := leave number (.mapping .map [(k, v)]) st
        flowItems fuel false (number :: acc) st
      else do
        let (n, st) ← node false false fuel st
        flowItems fuel false (n :: acc) st

/-- Reads the entries between braces up to the closing one. -/
def flowEntries : Nat → Bool → List (Nat × Nat) → Reading → Except Fault (List (Nat × Nat) × Reading)
  | 0, _, _, _ => .error .malformed
  | fuel + 1, first, acc, st =>
    if atAny [.flowMappingEnd] st then .ok (acc.reverse, next st)
    else do
      let st ← if first then pure st else expect .flowEntry st
      if atAny [.flowMappingEnd] st then return (acc.reverse, next st)
      else if atAny [.key] st then do
        let st := next st
        let (k, st) ←
          if atAny [.value, .flowEntry, .flowMappingEnd] st then pure (addEmpty st)
          else node false false fuel st
        let (v, st) ←
          if atAny [.value] st then
            let st := next st
            if atAny [.flowEntry, .flowMappingEnd] st then pure (addEmpty st)
            else node false false fuel st
          else pure (addEmpty st)
        flowEntries fuel false ((k, v) :: acc) st
      else do
        let (k, st) ← node false false fuel st
        let (v, st) := addEmpty st
        flowEntries fuel false ((k, v) :: acc) st

end

/-! ## Documents -/

/-- The tag handles that are always known. -/
def standardHandles : List (String × String) := [("!", "!"), ("!!", Tag.standardStart)]

/-- Reads the directives in front of a document. -/
def directives (versioned : Bool) (handles : List (String × String)) :
    List Token → Except Fault (List (String × String) × List Token)
  | .directive (.version major) :: r =>
    if versioned || major != 1 then .error .malformed else directives true handles r
  | .directive (.handle h expansion) :: r =>
    if (handles.lookup h).isSome then .error .malformed
    else directives versioned ((h, expansion) :: handles) r
  | .directive .other :: r => directives versioned handles r
  | r => .ok (handles ++ standardHandles, r)

/-- Nothing but the end of the stream follows.  What else follows is read as the start of one more
document, up to its mark. -/
def expectEnd (st : Reading) : Except Fault Unit :=
  match st.tokens.dropWhile (· == .documentEnd) with
  | .streamEnd :: _ => .ok ()
  | tokens => do
    let (_, tokens) ← directives false [] tokens
    .error (unexpected { st with tokens })

/-- The nodes of the document that a node with the given number stands for. -/
def ofReading (root : Nat) (st : Reading) : Graph := ⟨st.nodes, root, st.aliases, st.cycles⟩

/-- Reads a document that consists of a node, with which the stream ends. -/
def whole (st : Reading) : Except Fault (Option Graph) := do
  let (root, st) ← node true false (2 * st.tokens.length + 2) st
  expectEnd st
  return some (ofReading root st)

/-- The nodes of the document of a stream, which has no other document; an empty stream has none. -/
def ofTokens (tokens : List Token) : Except Fault (Option Graph) :=
  match tokens with
  | .streamEnd :: _ => .ok none
  | .directive _ :: _ | .documentStart :: _ => do
    let (handles, tokens) ← directives false [] tokens
    let st ← expect .documentStart { tokens, handles }
    match st.tokens with
    | .directive _ :: _ | .documentStart :: _ | .documentEnd :: _ | .streamEnd :: _ => do
      expectEnd st
      let (root, st) := addEmpty st
      return some (ofReading root st)
    | _ => whole st
  | tokens => whole { tokens, handles := standardHandles }

end Graph

end ClientPlan.Yaml
