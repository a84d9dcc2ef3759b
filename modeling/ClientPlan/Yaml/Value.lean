import ClientPlan.Yaml.Node
import ClientPlan.Yaml.Scalar

/-!
# The values of nodes

`Yaml.read` builds the value of a document as the tags of its nodes say.  Scalars get their values as
soon as they are met; collections are filled later, all those that are waiting one after another, and
then those that were met meanwhile.  So the fault that counts is the one that is met first in this
order.

A mapping may take entries from other mappings, which stand under the mark for merging; its own
entries come after those and replace them.

A node may be a part of itself.  There is no finite value of that kind, so such a node is written out
to some depth (`cycleDepth`), and the value of the document stands for what the document is only up to
there.
-/

set_option autoImplicit false

namespace ClientPlan.Yaml

/-- What a node has become: a value with its identity, or a collection of nodes. -/
inductive Made where
  /-- A value; what is no number is a key of its own, unless it is written as the word for that. -/
  | scalar (v : Value) (identity : Option Nat)
  /-- A collection that has not been filled. -/
  | waiting
  /-- A list of nodes. -/
  | list (items : List Nat)
  /-- A mapping of nodes. -/
  | map (entries : List (Nat × Nat))
  /-- A set of nodes. -/
  | set (members : List Nat)
  /-- A list of pairs of nodes. -/
  | pairs (entries : List (Nat × Nat))

instance : Inhabited Made := ⟨.waiting⟩

/-- What has been built of a document. -/
structure Building where
  /-- The nodes; merging changes them. -/
  nodes : Array Node
  /-- What the nodes have become, as far as they have been met. -/
  made : Array (Option Made)
  /-- The collections that are waiting, the latest first. -/
  waiting : List Nat := []

/-- A step of building. -/
abbrev Build := StateT Building (Except Fault)

namespace Build

/-- A step that fails. -/
def fail {α : Type} (f : Fault) : Build α := fun _ => .error f

/-- The node with a number. -/
def nodeAt (number : Nat) : Build Node := do return (← get).nodes.getD number .empty

/-- Replaces a node. -/
def setNode (number : Nat) (n : Node) : Build Unit :=
  modify fun b => { b with nodes := b.nodes.setIfInBounds number n }

/-- Says what a node has become. -/
def setMade (number : Nat) (m : Made) : Build Unit :=
  modify fun b => { b with made := b.made.setIfInBounds number (some m) }

/-! ## Merging -/

/-- The entries of a mapping. -/
def entriesOf (number : Nat) : Build (List (Nat × Nat)) := do
  match ← nodeAt number with
  | .mapping _ entries => return entries
  | _ => fail .malformed

/-- Replaces the entries of a mapping. -/
def setEntries (number : Nat) (entries : List (Nat × Nat)) : Build Unit := do
  match ← nodeAt number with
  | .mapping t _ => setNode number (.mapping t entries)
  | _ => return ()

/-- The node with another tag. -/
def retag (t : Tag) : Node → Node
  | .scalar _ text => .scalar t text
  | .sequence _ items => .sequence t items
  | .mapping _ entries => .mapping t entries

/-- The mark of a default value is a text where it is a key of a mapping that is merged. -/
def settleKey (number : Nat) : Build Unit := do
  let n ← nodeAt number
  if n.tag == .value then setNode number (retag .str n)

/-- The first of some entries that stands under the mark for merging: its index, where the first entry
has the index `i`, and its value.  The keys in front of it are settled. -/
def nextMark : Nat → List (Nat × Nat) → Build (Option (Nat × Nat))
  | _, [] => return none
  | i, (k, v) :: r => do
    if (← nodeAt k).tag == .merge then return some (i, v)
    else
      settleKey k
      nextMark (i + 1) r

/-- Goes through the entries of a mapping from an index on: entries under the mark for merging are
replaced by the entries of their mappings, which come first.  Each such entry is taken away before
anything is put in its place, and what is put there has none; so `marks`, the number of such entries in
all mappings, bounds the depth of the calls. -/
def mergeFrom (marks number i : Nat) (merged : List (Nat × Nat)) : Build Unit := do
  let entries ← entriesOf number
  match ← nextMark i (entries.drop i) with
  | none => setEntries number (merged ++ entries)
  | some (j, v) =>
    match marks with
    | 0 => fail .malformed
    | marks + 1 => do
      setEntries number (entries.eraseIdx j)
      match ← nodeAt v with
      | .mapping .. => do
        mergeFrom marks v 0 []
        mergeFrom marks number j (merged ++ (← entriesOf v))
      | .sequence _ items => do
        let lists ← items.mapM fun n => do
          discard (entriesOf n)
          mergeFrom marks n 0 []
          entriesOf n
        mergeFrom marks number j (merged ++ lists.reverse.flatten)
      | .scalar .. => fail .malformed

/-- The number of entries under the mark for merging. -/
def countMarks (nodes : Array Node) : Nat :=
  nodes.foldl (fun n node => match node with
    | .mapping _ entries => n + entries.countP fun e => (nodes.getD e.1 .empty).tag == .merge
    | _ => n) 0

/-- Merges the entries of a mapping. -/
def merge (number : Nat) : Build Unit := do
  mergeFrom (countMarks (← get).nodes) number 0 []

/-! ## Scalars -/

/-- The text of a node with the tag of a scalar: a mapping stands for its default value.  There are no
more steps than nodes unless mappings stand for each other in a circle, which has no end. -/
def textOf : Nat → Node → Build String
  | 0, _ => fail (.scalar .tooDeep)
  | fuel + 1, n =>
    match n with
    | .scalar _ text => return text
    | .sequence .. => fail .malformed
    | .mapping _ entries => do
      let nodes := (← get).nodes
      match entries.find? fun e => (nodes.getD e.1 .empty).tag == .value with
      | some (_, v) => textOf fuel (nodes.getD v .empty)
      | none => fail .malformed

/-- Whether the text of a double is the word for what is no number. -/
def isNanWord (text : String) : Bool := (doubleForm text.toList).2 == nanWord

/-- The value of a node with the tag of a scalar. -/
def scalarOf (number : Nat) : Build Made := do
  let n ← nodeAt number
  let text ← textOf ((← get).nodes.size + 1) n
  match n.tag, n with
  | .timestamp, .mapping .. => fail (.scalar .mappedMoment)
  | tag, _ => do
    let v ← scalarValue tag text
    return .scalar v (if isNanWord text then none else some number)

/-- Whether a tag is one of a collection. -/
def isCollection : Tag → Bool
  | .seq | .map | .set | .omap | .pairs => true
  | _ => false

/-- Meets a node: a scalar gets its value, and a collection waits to be filled. -/
def meet (number : Nat) : Build Unit := do
  match (← get).made.getD number none with
  | some _ => return ()
  | none => do
    if isCollection (← nodeAt number).tag then do
      setMade number .waiting
      modify fun b => { b with waiting := number :: b.waiting }
    else setMade number (← scalarOf number)

/-! ## Collections -/

/-- The value of a node that may be a key. -/
def keyOf (number : Nat) : Build (Value × Option Nat) := do
  match (← get).made.getD number none with
  | some (.scalar v identity) => return (v, identity)
  | _ => fail .malformed

/-- Whether two values are the same key: they agree, or they are the same thing that is no number. -/
def isSameKey (a b : Value × Option Nat) : Bool :=
  a.1.agrees b.1 ||
    (match a.1, b.1 with
      | .float x, .float y => x.isNaN && y.isNaN && a.2 == b.2
      | _, _ => false)

/-- The entries of a mapping with one more entry: of equal keys the first one stays, with the last
value. -/
def addEntry (key : Value × Option Nat) (entry : Nat × Nat) :
    List ((Value × Option Nat) × Nat × Nat) → List ((Value × Option Nat) × Nat × Nat)
  | [] => [(key, entry)]
  | e :: r => if isSameKey e.1 key then (e.1, e.2.1, entry.2) :: r else e :: addEntry key entry r

/-- The entries of a mapping whose nodes are met in order. -/
def entriesIn (entries : List (Nat × Nat)) : Build (List (Nat × Nat)) := do
  let known ← entries.foldlM (fun known (k, v) => do
    meet k
    let key ← keyOf k
    meet v
    return addEntry key (k, v) known) []
  return known.map Prod.snd

/-- The pair that an item stands for: the entry of a mapping that has no other. -/
def pairOf (number : Nat) : Build (Nat × Nat) := do
  match ← entriesOf number with
  | [(k, v)] => do
    meet k
    meet v
    return (k, v)
  | _ => fail .malformed

/-- Fills a collection. -/
def fill (number : Nat) : Build Unit := do
  let n ← nodeAt number
  match n.tag, n with
  | .seq, .sequence _ items => do
    items.forM meet
    setMade number (.list items)
  | .omap, .sequence _ items | .pairs, .sequence _ items => do
    setMade number (.pairs (← items.mapM pairOf))
  | .map, .mapping .. => do
    merge number
    setMade number (.map (← entriesIn (← entriesOf number)))
  | .set, .mapping .. => do
    merge number
    setMade number (.set ((← entriesIn (← entriesOf number)).map Prod.fst))
  | _, _ => fail .malformed

/-- Fills the collections that are waiting, those that they bring with them, and so on.  Every node
waits once at most, so the number of nodes bounds the number of rounds. -/
def fillAll : Nat → Build Unit
  | 0 => return ()
  | n + 1 => do
    let waiting := (← get).waiting
    modify fun b => { b with waiting := [] }
    waiting.reverse.forM fill
    fillAll n

end Build

/-! ## Values -/

/-- The value of what a node has become, given values of all nodes. -/
def Made.value (values : Array Value) (m : Made) : Value :=
  let at_ (number : Nat) : Value := values.getD number .null
  match m with
  | .scalar v _ => v
  | .waiting => .null
  | .list items => .list (items.map at_)
  | .map entries => .map (entries.map fun (k, v) => (at_ k, at_ v))
  | .set members => .set (members.map at_)
  | .pairs entries => .list (entries.map fun (k, v) => .tuple [at_ k, at_ v])

/-- The values of all nodes, given earlier values of them.  The parts that are written inside of a node
come after it, so the last node comes first. -/
def valuesOnce (made : Array (Option Made)) (values : Array Value) : Array Value :=
  (List.range made.size).foldr (fun number values =>
    match made.getD number none with
    | some m => values.setIfInBounds number (m.value values)
    | none => values) values

/-- The values of all nodes after some rounds, each of which reaches beyond one more alias. -/
def valuesAfter (made : Array (Option Made)) : Nat → Array Value
  | 0 => Array.replicate made.size .null
  | n + 1 => valuesOnce made (valuesAfter made n)

/-- How far a node is followed that is a part of itself, given the number of its aliases within: so far
that the value stays of moderate size.  This is not the value that such a node has, which has no end. -/
def cycleDepth (cycles : Nat) : Nat := if cycles ≤ 1 then 64 * cycles else 12 / cycles.log2

/-- The value of a document.  A node that is a part of itself is followed to some depth; what is deeper
is absent. -/
def Graph.value (g : Graph) : Except Fault Value := do
  let start : Building := ⟨g.nodes, Array.replicate g.nodes.size none, []⟩
  let build : Build Unit := do
    Build.meet g.root
    Build.fillAll (g.nodes.size + 1)
  let (_, b) ← build.run start
  return (valuesAfter b.made (g.aliases + 1 + cycleDepth g.cycles)).getD g.root .null

/-- Reads a text that holds one value; an empty one holds none. -/
def read (s : String) : Except Fault (Option Value) := do
  let cs := s.toList
  if !cs.all isAllowed then throw .malformed
  match ← Graph.ofTokens (Token.ofSource (locate cs)) with
  | none => return none
  | some g => return some (← g.value)

end ClientPlan.Yaml
