import Hexscope.Yaml.Document
import Hexscope.Yaml.Literal

/-!
# What documents stand for

A scalar stands for what its tag says of its text, and a mapping stands for a scalar if it has one
under the key `=`. A collection stands for a list, a list of pairs, a set or a mapping. Keys are no
collections, and of two entries with the same key the later one counts. What is not a number is the same
key wherever its word stands; made in another way, it is a key of its own at each node.

Collections are filled one after the other in the order in which they are met, each after the one that
it is met in; so of two errors in a document the one nearer to the root is found first. A mapping
takes over the entries of others under the key `<<`, and its own entries come after them.
`Meaning.ofDocument` yields the root with everything in it.
-/

namespace Hexscope.Yaml

/-- A value by itself, or the number of a collection. -/
inductive Part where
  | whole (v : Value)
  | collection (number : Nat)
deriving Repr

/-- The contents of a collection. -/
inductive Contents where
  | list (items : List Part)
  | set (members : List Value)
  | mapping (entries : List (Value × Part))
  | pair (first second : Part)
deriving Repr

/-- What is known of a document. -/
structure Meaning where
  nodes : Array Node
  /-- What the nodes stand for, as far as they have been met. -/
  known : Array (Option Part)
  collections : Array Contents
  /-- The nodes of collections and the numbers of these, in the order in which they were met. -/
  met : Array (Nat × Nat)

namespace Meaning

/-- The node of a number. -/
def node (nodes : Array Node) (n : Nat) : Node := nodes.getD n .empty

/-- The tag of the node of a number. -/
def tagOf (nodes : Array Node) (n : Nat) : Tag := (node nodes n).tag

/-! ## Merging -/

/-- Gives a node the tag of text if it is a mark for a value. -/
def retag (nodes : Array Node) (n : Nat) : Array Node :=
  match node nodes n with
  | .scalar .value s => nodes.setIfInBounds n (.scalar .text s)
  | .sequence .value items => nodes.setIfInBounds n (.sequence .text items)
  | .mapping .value entries => nodes.setIfInBounds n (.mapping .text entries)
  | _ => nodes

/-- The entries of a mapping. -/
def entriesOf? : Node → Option (List (Nat × Nat))
  | .mapping _ entries => some entries
  | _ => none

/-- The nodes with other entries for a mapping. -/
def setEntries (nodes : Array Node) (n : Nat) (entries : List (Nat × Nat)) : Array Node :=
  match node nodes n with
  | .mapping tag _ => nodes.setIfInBounds n (.mapping tag entries)
  | _ => nodes

mutual

/-- Puts the entries that a mapping takes over in front of its own. -/
def merge : (fuel : Nat) → (n : Nat) → StateT (Array Node) (Except Error) (List (Nat × Nat))
  | 0, _ => throw .malformed
  | fuel + 1, n => do
    match entriesOf? (node (← get) n) with
    | none => throw .malformed
    | some _ => mergeFrom fuel n 0 []

/-- Puts the entries that a mapping takes over in front of its own, those before a place being done
and `taken` being taken over so far. Marks for values become keys like others. -/
def mergeFrom : (fuel : Nat) → (n place : Nat) → (taken : List (Nat × Nat)) →
    StateT (Array Node) (Except Error) (List (Nat × Nat))
  | 0, _, _, _ => throw .malformed
  | fuel + 1, n, place, taken => do
    let nodes ← get
    let entries := (entriesOf? (node nodes n)).getD []
    let own := (entries.drop place).takeWhile fun e => tagOf nodes e.1 ≠ .merge
    let nodes := own.foldl (fun nodes e => retag nodes e.1) nodes
    let place := place + own.length
    match entries[place]? with
    | none =>
      let entries := taken ++ entries
      set (setEntries nodes n entries)
      return entries
    | some (_, source) =>
      set (setEntries nodes n (entries.eraseIdx place))
      let more ← match node nodes source with
        | .mapping .. => merge fuel source
        | .sequence _ items => mergeAll fuel items
        | .scalar .. => throw .malformed
      mergeFrom fuel n place (taken ++ more)

/-- The entries of several mappings, those of the last one first. -/
def mergeAll : (fuel : Nat) → List Nat → StateT (Array Node) (Except Error) (List (Nat × Nat))
  | 0, _ => throw .malformed
  | _, [] => return []
  | fuel + 1, n :: ns => do
    let entries ← merge fuel n
    return (← mergeAll fuel ns) ++ entries

end

/-- The number of parts of a node. -/
def width : Node → Nat
  | .scalar .. => 0
  | .sequence _ items => items.length
  | .mapping _ entries => entries.length

/-- A number of steps that is enough for merging: every entry with a mark is taken away once, and
leads to one mapping or to the items of one sequence. -/
def mergeFuel (nodes : Array Node) : Nat :=
  let widths := nodes.toList.map width
  (widths.foldl (· + ·) 1) * (widths.foldl max 0 + 3) + 3

/-! ## Filling -/

/-- A step of finding out what a document stands for. -/
abbrev Finding := StateT Meaning (Except Error)

/-- The text of a node that has to be a scalar. -/
def scalarText (nodes : Array Node) : (fuel : Nat) → Node → Except Error Text
  | _, .scalar _ s => .ok s
  | fuel + 1, .mapping _ entries =>
    match entries.find? fun e => tagOf nodes e.1 = .value with
    | some (_, v) => scalarText nodes fuel (node nodes v)
    | none => .error .malformed
  | _, _ => .error .malformed

/-- What a node with the tag of a scalar stands for. -/
def scalarOf (nodes : Array Node) (n : Node) : Except Error Value := do
  let s ← scalarText nodes (nodes.size + 1) n
  match n with
  | .scalar tag _ => Literal.value tag s
  | _ => if n.tag = .timestamp then .error .collectionAsDate else Literal.value n.tag s

/-- Adds a collection and yields its number. -/
def addCollection (c : Contents) : Finding Nat := do
  let m ← get
  set { m with collections := m.collections.push c }
  return m.collections.size

/-- What a node stands for. A collection that is met for the first time is empty as yet. -/
def partOf (n : Nat) : Finding Part := do
  let m ← get
  match m.known.getD n none with
  | some p => return p
  | none =>
    let node := node m.nodes n
    let p ← match node.tag with
      | .sequence | .pairs | .set | .mapping => do
        let number ← addCollection (.list [])
        modify fun m => { m with met := m.met.push (n, number) }
        pure (Part.collection number)
      | _ => Part.whole <$> scalarOf m.nodes node
    modify fun m => { m with known := m.known.setIfInBounds n (some p) }
    return p

/-- A key, with its node if it is the same as no other key. -/
structure EntryKey where
  value : Value
  own : Option Nat

/-- Whether two keys are the same. -/
def EntryKey.isSame (k l : EntryKey) : Bool :=
  if k.own.isSome || l.own.isSome then k.own = l.own else k.value.sameKey l.value

/-- The node of a key that is not a number, unless its word stands there. -/
def ownNode? (nodes : Array Node) (n : Nat) : Value → Option Nat
  | .float .nan =>
    match scalarText nodes (nodes.size + 1) (node nodes n) with
    | .ok s => if Literal.isNanWord s then none else some n
    | .error _ => none
  | _ => none

/-- What a key stands for, which may not be a collection. -/
def keyOf (n : Nat) : Finding EntryKey := do
  match ← partOf n with
  | .whole v => return ⟨v, ownNode? (← get).nodes n v⟩
  | .collection _ => throw .malformed

/-- Adds an entry. An entry with the same key keeps its place and its key, and gets the new value. -/
def insert (entries : List (EntryKey × Part)) (key : EntryKey) (value : Part) : List (EntryKey × Part) :=
  if entries.any (·.1.isSame key) then
    entries.map fun e => if e.1.isSame key then (e.1, value) else e
  else entries ++ [(key, value)]

/-- The entries of a mapping with those that it takes over. -/
def entriesOf (n : Nat) : Finding (List (Value × Part)) := do
  let m ← get
  let (entries, nodes) ← (merge (mergeFuel m.nodes) n).run m.nodes
  set { m with nodes }
  let entries ← entries.foldlM (fun es e => do return insert es (← keyOf e.1) (← partOf e.2)) []
  return entries.map fun e => (e.1.value, e.2)

/-- The pair that the only entry of a mapping is. -/
def pairOf (n : Nat) : Finding Part := do
  match node (← get).nodes n with
  | .mapping _ [(k, v)] => do
    let first ← partOf k
    return .collection (← addCollection (.pair first (← partOf v)))
  | _ => throw .malformed

/-- The members of a set as they are shown: in ascending order if they are whole numbers from zero on and
below eight, or below twice as many as there are, and else in the order in which they are met. -/
def arranged (members : List Value) : List Value :=
  let limit : Int := max 8 (2 * members.length)
  let isSmall (n : Int) : Bool := 0 ≤ n && n < limit
  match members.mapM fun v => (v.number?.bind Number.index?).filter isSmall with
  | some ns => ((members.zip ns).mergeSort fun a b => a.2 ≤ b.2).map (·.1)
  | none => members

/-- The contents of a collection. -/
def contentsOf (n : Nat) : Finding Contents := do
  let node := node (← get).nodes n
  match node.tag, node with
  | .sequence, .sequence _ items => return .list (← items.mapM partOf)
  | .pairs, .sequence _ items => return .list (← items.mapM pairOf)
  | .set, _ => return .set (arranged ((← entriesOf n).map (·.1)))
  | .mapping, _ => return .mapping (← entriesOf n)
  | _, _ => throw .malformed

/-- Fills the collections from a place on, in the order in which they are met. -/
def fill : (fuel : Nat) → (place : Nat) → Finding Unit
  | 0, _ => pure ()
  | fuel + 1, place => do
    match (← get).met[place]? with
    | none => pure ()
    | some (n, number) =>
      let c ← contentsOf n
      modify fun m => { m with collections := m.collections.setIfInBounds number c }
      fill fuel (place + 1)

/-! ## Unfolding -/

/-- The collections that are complete by themselves, and those that hold themselves. -/
structure Unfolded where
  closed : Array (Option Value)
  knots : List Nat

/-- A value and the collections around it that it mentions. -/
abbrev Open := Value × List Nat

/-- What a part stands for inside some collections. A collection that mentions one of these belongs to
a knot, as does one that holds itself. -/
def unfold (collections : Array Contents) :
    (fuel : Nat) → (around : List Nat) → Part → StateM Unfolded Open
  | _, _, .whole v => pure (v, [])
  | 0, _, .collection n => pure (.again n, [n])
  | fuel + 1, around, .collection n => do
    if around.contains n then return (.again n, [n])
    if let some v := (← get).closed.getD n none then return (v, [])
    let go := unfold collections fuel (n :: around)
    let (v, mentions) ← match collections.getD n (.list []) with
      | .list items => do
        let vs ← items.mapM go
        pure (Value.list (vs.map (·.1)), vs.flatMap (·.2))
      | .set members => pure (Value.set members, [])
      | .mapping entries => do
        let vs ← entries.mapM fun e => do return (e.1, ← go e.2)
        pure (Value.mapping (vs.map fun e => (e.1, e.2.1)), vs.flatMap (·.2.2))
      | .pair a b => do
        let (a, more) ← go a
        let (b, others) ← go b
        pure (Value.pair a b, more ++ others)
    if !mentions.isEmpty then modify fun u => { u with knots := n :: u.knots }
    let v := if (← get).knots.contains n then Value.knot n v else v
    let mentions := (mentions.filter (· ≠ n)).eraseDups
    if mentions.isEmpty then
      modify fun u => { u with closed := u.closed.setIfInBounds n (some v) }
    return (v, mentions)

/-- What the root of a document stands for. -/
def ofDocument (d : Document) : Except Error Value := do
  let size := d.nodes.size
  let found : Finding Part := do
    let p ← partOf d.root
    fill (size + 1) 0
    return p
  let (p, m) ← found.run ⟨d.nodes, Array.replicate size none, #[], #[]⟩
  let count := m.collections.size
  let ((v, _), _) := (unfold m.collections (count + 1) [] p).run ⟨Array.replicate count none, []⟩
  return v

end Meaning

end Hexscope.Yaml
