import PreviewServer.Yaml.Token

/-!
# YAML nodes

A document is a tree of nodes, in which an alias refers to a node with an anchor.  Anchors are
numbered as they come: the number of an anchor is how many different names came before it, and an
alias keeps the number its name had last.  What an alias stands for is looked up in the finished
document (`Node.target?`).
-/

namespace PreviewServer.Yaml

/-- A node. -/
inductive Node where
  /-- A scalar. -/
  | scalar (anchor : Option Nat) (tag : Option Bytes) (style : Style) (text : List Char)
  /-- A sequence. -/
  | sequence (anchor : Option Nat) (items : List Node)
  /-- A mapping, with its pairs of key and value in order. -/
  | mapping (anchor : Option Nat) (entries : List (Node × Node))
  /-- Another node, named by the number of its anchor. -/
  | alias (anchor : Nat)

namespace Node

/-- The scalar that stands where nothing is written. -/
def blank : Node := .scalar none none .plain []

/-! ### Anchors -/

mutual

/-- The nodes with anchors, with their numbers, in the order in which they begin. -/
def anchored : Node → List (Nat × Node)
  | .scalar a tag style text => (a.map fun n => (n, Node.scalar a tag style text)).toList
  | .sequence a items => (a.map fun n => (n, Node.sequence a items)).toList ++ anchoredItems items
  | .mapping a entries =>
    (a.map fun n => (n, Node.mapping a entries)).toList ++ anchoredEntries entries
  | .alias _ => []

/-- The nodes with anchors in the items of a sequence. -/
def anchoredItems : List Node → List (Nat × Node)
  | [] => []
  | n :: ns => anchored n ++ anchoredItems ns

/-- The nodes with anchors in the entries of a mapping. -/
def anchoredEntries : List (Node × Node) → List (Nat × Node)
  | [] => []
  | (k, v) :: es => anchored k ++ anchored v ++ anchoredEntries es

end

/-- The node that a number stands for in a document: the last one that has it. -/
def target? (document : Node) (n : Nat) : Option Node :=
  (document.anchored.findRev? fun e => e.1 = n).map Prod.snd

/-- What a node stands for in a document. -/
def deref (document : Node) : Node → Node
  | .alias n => (document.target? n).getD (.alias n)
  | n => n

end Node

/-! ### Reading nodes -/

/-- What is known in the middle of the tokens of a document. -/
structure NodeReader where
  /-- The tokens that are still to be read. -/
  tokens : List Token
  /-- The numbers of the anchors that came so far, by their names. -/
  anchors : List (List Char × Nat)

/-- What handles stand for. -/
abbrev Handles := List (List Char × Bytes)

/-- A step of reading nodes. -/
abbrev NodeStep := StateT NodeReader (Except Error)

namespace NodeReader

/-- The next token. -/
def next? : NodeStep (Option Token) := do return (← get).tokens.head?

/-- Skips the next token. -/
def skip : NodeStep Unit := modify fun r => { r with tokens := r.tokens.tail }

/-- Whether the next token is one of these. -/
def nextIn (ts : List Token) : NodeStep Bool := do return (← next?).any ts.contains

/-- Skips the next token if it is this one, and tells whether it was. -/
def accept (t : Token) : NodeStep Bool := do
  if ← nextIn [t] then
    skip
    return true
  else return false

/-- The number for a new anchor. -/
def bind (name : List Char) : NodeStep Nat := do
  let r ← get
  let n := r.anchors.length
  set { r with anchors := (name, n) :: r.anchors.filter fun a => a.1 ≠ name }
  return n

/-- The number of the anchor with this name. -/
def lookup (name : List Char) : NodeStep Nat := do
  match (← get).anchors.find? fun a => a.1 = name with
  | some a => return a.2
  | none => throw .unknownAnchor

/-! ### Properties -/

/-- What can be said about a node before it. -/
structure Properties where
  /-- The number of its anchor. -/
  anchor : Option Nat
  /-- Its tag. -/
  tag : Option Bytes

/-- The tag that was written. -/
def resolveTag (handles : Handles) (t : RawTag) : NodeStep Bytes :=
  if t.handle = [] then return t.suffix
  else
    match handles.find? fun h => h.1 = t.handle with
    | some h => return h.2 ++ t.suffix
    | none => throw .undeclaredHandle

/-- Reads an anchor, if there is one. -/
def anchorName? : NodeStep (Option (List Char)) := do
  match ← next? with
  | some (.anchor name) =>
    skip
    return some name
  | _ => return none

/-- Reads a tag, if there is one. -/
def rawTag? : NodeStep (Option RawTag) := do
  match ← next? with
  | some (.tag t) =>
    skip
    return some t
  | _ => return none

/-- Reads an anchor and a tag, which may come in either order and may both be left out. -/
def properties (handles : Handles) : NodeStep Properties := do
  let before ← anchorName?
  let raw ← rawTag?
  let name ← if before.isSome then pure before else if raw.isSome then anchorName? else pure none
  let tag ← raw.mapM (resolveTag handles)
  let anchor ← name.mapM bind
  return { anchor := anchor, tag := tag }

end NodeReader

open NodeReader

/-- Skips the comma that has to come before every entry of a flow collection but the first. -/
def comma (first : Bool) : NodeStep Unit := do
  if !first then
    if !(← accept .comma) then throw .unexpectedToken

/-! ### Productions -/

mutual

/-- Reads a node.  Block collections are allowed outside flow collections only; a sequence without
indentation of its own is allowed as the key or the value of a block mapping. -/
def readNode (handles : Handles) : Nat → (inFlow inMapping : Bool) → NodeStep Node
  | 0, _, _ => throw .unexpectedToken
  | fuel + 1, inFlow, inMapping => do
    match ← next? with
    | some (.alias name) =>
      skip
      return .alias (← lookup name)
    | _ =>
      let p ← properties handles
      match ← next? with
      | some (.scalar style text) =>
        skip
        return .scalar p.anchor p.tag style text
      | some .flowSequence =>
        skip
        return .sequence p.anchor (← readFlowItems handles fuel true)
      | some .flowMapping =>
        skip
        return .mapping p.anchor (← readFlowEntries handles fuel true)
      | t =>
        if t = some .item ∧ inMapping then
          return .sequence p.anchor (← readItems handles fuel true)
        else if t = some .blockSequence ∧ !inFlow then
          skip
          return .sequence p.anchor (← readItems handles fuel false)
        else if t = some .blockMapping ∧ !inFlow then
          skip
          return .mapping p.anchor (← readEntries handles fuel)
        -- An anchor or a tag with nothing behind it belongs to an empty scalar.
        else if p.anchor.isSome ∨ p.tag.isSome then
          return .scalar p.anchor p.tag .plain []
        else throw .unexpectedToken

/-- Reads a node, or nothing if one of these tokens comes next. -/
def readNodeUnless (handles : Handles) :
    Nat → List Token → (inFlow inMapping : Bool) → NodeStep Node
  | 0, _, _, _ => throw .unexpectedToken
  | fuel + 1, stops, inFlow, inMapping => do
    if ← nextIn stops then return .blank
    else readNode handles fuel inFlow inMapping

/-- Reads the items of a block sequence.  One without indentation of its own ends where no item
follows. -/
def readItems (handles : Handles) : Nat → (unindented : Bool) → NodeStep (List Node)
  | 0, _ => throw .unexpectedToken
  | fuel + 1, unindented => do
    if ← accept .item then
      let stops := if unindented then [.item, .key, .value, .blockEnd] else [.item, .blockEnd]
      let n ← readNodeUnless handles fuel stops false false
      return n :: (← readItems handles fuel unindented)
    else if unindented then return []
    else if ← accept .blockEnd then return []
    else throw .unexpectedToken

/-- Reads the entries of a block mapping. -/
def readEntries (handles : Handles) : Nat → NodeStep (List (Node × Node))
  | 0 => throw .unexpectedToken
  | fuel + 1 => do
    if ← accept .key then
      let stops := [.key, .value, .blockEnd]
      let k ← readNodeUnless handles fuel stops false true
      let v ← if ← accept .value then readNodeUnless handles fuel stops false true else pure .blank
      return (k, v) :: (← readEntries handles fuel)
    else if ← accept .blockEnd then return []
    else throw .unexpectedToken

/-- Reads the items of a flow sequence.  An item that is marked as a key is a mapping with a single
entry. -/
def readFlowItems (handles : Handles) : Nat → (first : Bool) → NodeStep (List Node)
  | 0, _ => throw .unexpectedToken
  | fuel + 1, first => do
    if ← accept .flowSequenceEnd then return []
    comma first
    if ← accept .key then
      let stops := [.value, .comma, .flowSequenceEnd]
      let k ←
        -- Where the key is missing, the token behind its place goes with it.
        if ← nextIn stops then do
          skip
          pure .blank
        else readNode handles fuel true false
      let v ←
        if ← accept .value then readNodeUnless handles fuel [.comma, .flowSequenceEnd] true false
        else pure .blank
      return .mapping none [(k, v)] :: (← readFlowItems handles fuel false)
    else if ← accept .flowSequenceEnd then return []
    else
      let n ← readNode handles fuel true false
      return n :: (← readFlowItems handles fuel false)

/-- Reads the entries of a flow mapping. -/
def readFlowEntries (handles : Handles) : Nat → (first : Bool) → NodeStep (List (Node × Node))
  | 0, _ => throw .unexpectedToken
  | fuel + 1, first => do
    if ← accept .flowMappingEnd then return []
    comma first
    if ← accept .key then
      let k ← readNodeUnless handles fuel [.value, .comma, .flowMappingEnd] true false
      let v ←
        if ← accept .value then readNodeUnless handles fuel [.comma, .flowMappingEnd] true false
        else pure .blank
      return (k, v) :: (← readFlowEntries handles fuel false)
    else if ← accept .flowMappingEnd then return []
    else
      let k ← readNode handles fuel true false
      return (k, .blank) :: (← readFlowEntries handles fuel false)

end

end PreviewServer.Yaml
