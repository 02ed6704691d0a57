import ProofGrading.Yaml.Scanner
import ProofGrading.Yaml.Tag

/-!
# Yaml/Node — the tree of a YAML document

A node has a tag: a given one, or the one that its kind or, for a plain scalar, its text asks for.
An alias is the node that it names; where that node is still open, because the alias stands inside
it, it is a `cycle`.
-/

namespace ProofGrading.Yaml

/-- A node of a document. -/
inductive Node where
  | scalar (tag text : String)
  | sequence (tag : String) (items : List Node)
  | mapping (tag : String) (pairs : List (Node × Node))
  | cycle
  deriving Inhabited

/-- The tag of a node. -/
def Node.tag : Node → String
  | scalar tag _ => tag
  | sequence tag _ => tag
  | mapping tag _ => tag
  | cycle => ""

/-- The scalar that stands where there is nothing. -/
def Node.empty : Node := .scalar (coreTag "null") ""

/-- What is known while a document is read: the tokens that remain, what is wrong after them, the
beginnings that handles of tags stand for, the nodes with an anchor, of which one that is open has
no node yet, and how many collections are open. -/
structure Reading where
  tokens : List Token
  flaw : Option Flaw
  handles : List (String × String) := []
  anchors : List (String × Option Node) := []
  depth : Nat := 0

/-- A part of reading a document. -/
abbrev Read (α : Type) : Type := StateT Reading (Except Flaw) α

namespace Read

/-- The next token; what is wrong counts where there is none. -/
def peek : Read Token := do
  let r ← get
  match r.tokens, r.flaw with
  | t :: _, _ => return t
  | [], some flaw => throw flaw
  | [], none => return .streamEnd

/-- Goes on after the next token. -/
def advance : Read Unit := modify fun r => { r with tokens := r.tokens.drop 1 }

/-- Whether the next token is one of some. -/
def isNext (ts : List Token) : Read Bool := do return ts.contains (← peek)

/-- Goes on after the next token, which has to be `t`. -/
def expect (t : Token) : Read Unit := do
  if (← peek) == t then advance else throw .unexpectedToken

/-- The anchor and the tag of a node, either may stand first. -/
def properties : Read (Option String × Option (Option String × String)) := do
  match ← peek with
  | .anchor name =>
    advance
    match ← peek with
    | .tag handle suffix =>
      advance
      return (some name, some (handle, suffix))
    | _ => return (some name, none)
  | .tag handle suffix =>
    advance
    match ← peek with
    | .anchor name =>
      advance
      return (some name, some (handle, suffix))
    | _ => return (none, some (handle, suffix))
  | _ => return (none, none)

/-- A tag in full. -/
def fullTag : Option (Option String × String) → Read (Option String)
  | none => return none
  | some (none, suffix) => return some suffix
  | some (some handle, suffix) => do
    match (← get).handles.find? (·.1 == handle) with
    | some h => return some (h.2 ++ suffix)
    | none => throw .unknownHandle

/-- The tag of a collection. -/
def collectionTag (tag : Option String) (default : String) : String :=
  match tag with
  | none => coreTag default
  | some t => if t == "!" then coreTag default else t

/-- The tag of a scalar. -/
def scalarTag (tag : Option String) (plain : Bool) (text : String) : String :=
  match tag with
  | none => if plain then plainTag text else coreTag "str"
  | some t => if t == "!" then plainTag text else t

/-- Opens the node of an anchor, which must be new. -/
def openAnchor : Option String → Read Unit
  | none => return ()
  | some name => do
    if (← get).anchors.any (·.1 == name) then throw .repeatedAnchor
    else modify fun r => { r with anchors := (name, none) :: r.anchors }

/-- Closes the node of an anchor. -/
def closeAnchor (name : Option String) (n : Node) : Read Node := do
  match name with
  | none => return n
  | some name =>
    modify fun r => { r with anchors := (name, some n) :: r.anchors.filter (·.1 != name) }
    return n

/-- The node that an alias names. -/
def aliased (name : String) : Read Node := do
  match (← get).anchors.find? (·.1 == name) with
  | some (_, some n) => return n
  | some (_, none) => return .cycle
  | none => throw .unknownAlias

/-- Collections may be nested this deep. -/
def depthLimit : Nat := 485

/-- Reads what is inside a collection. -/
def inside {α : Type} (content : Read α) : Read α := do
  if depthLimit ≤ (← get).depth then throw .tooDeep
  else
    modify fun r => { r with depth := r.depth + 1 }
    let a ← content
    modify fun r => { r with depth := r.depth - 1 }
    return a

mutual
/-- A node.  In a block it may be a block collection; as the value of a key it may also be a
sequence without indentation. -/
def node : Nat → Bool → Bool → Read Node
  | 0, _, _ => throw .unexpectedToken
  | fuel + 1, inBlock, unindented => do
    match ← peek with
    | .alias name =>
      advance
      aliased name
    | _ =>
      let (anchor, given) ← properties
      let tag ← fullTag given
      let t ← peek
      if unindented && t == .blockEntry then
        openAnchor anchor
        let items ← inside (unindentedItems fuel)
        closeAnchor anchor (.sequence (collectionTag tag "seq") items)
      else
        match t with
        | .scalar plain text =>
          openAnchor anchor
          advance
          closeAnchor anchor (.scalar (scalarTag tag plain text) text)
        | .flowSequenceStart =>
          openAnchor anchor
          let items ← inside do
            advance
            flowItems fuel true
          closeAnchor anchor (.sequence (collectionTag tag "seq") items)
        | .flowMappingStart =>
          openAnchor anchor
          let pairs ← inside do
            advance
            flowPairs fuel true
          closeAnchor anchor (.mapping (collectionTag tag "map") pairs)
        | .blockSequenceStart =>
          if inBlock then
            openAnchor anchor
            let items ← inside do
              advance
              blockItems fuel
            closeAnchor anchor (.sequence (collectionTag tag "seq") items)
          else throw .unexpectedToken
        | .blockMappingStart =>
          if inBlock then
            openAnchor anchor
            let pairs ← inside do
              advance
              blockPairs fuel
            closeAnchor anchor (.mapping (collectionTag tag "map") pairs)
          else throw .unexpectedToken
        | _ =>
          if anchor.isSome || tag.isSome then
            openAnchor anchor
            closeAnchor anchor (.scalar (scalarTag tag true "") "")
          else throw .unexpectedToken
/-- A node, or nothing before one of some tokens. -/
def optional : Nat → Bool → Bool → List Token → Read Node
  | 0, _, _, _ => throw .unexpectedToken
  | fuel + 1, inBlock, unindented, ends => do
    if ← isNext ends then return .empty else node fuel inBlock unindented
/-- The items of a block sequence and its end. -/
def blockItems : Nat → Read (List Node)
  | 0 => throw .unexpectedToken
  | fuel + 1 => do
    match ← peek with
    | .blockEntry =>
      advance
      let item ← optional fuel true false [.blockEntry, .blockEnd]
      return item :: (← blockItems fuel)
    | _ =>
      expect .blockEnd
      return []
/-- The items of a block sequence that stands at the column of its key. -/
def unindentedItems : Nat → Read (List Node)
  | 0 => throw .unexpectedToken
  | fuel + 1 => do
    match ← peek with
    | .blockEntry =>
      advance
      let item ← optional fuel true false [.blockEntry, .key, .value, .blockEnd]
      return item :: (← unindentedItems fuel)
    | _ => return []
/-- The pairs of a block mapping and its end. -/
def blockPairs : Nat → Read (List (Node × Node))
  | 0 => throw .unexpectedToken
  | fuel + 1 => do
    match ← peek with
    | .blockEnd =>
      advance
      return []
    | t => do
      let key ← if t == .key then do
          advance
          optional fuel true true [.key, .value, .blockEnd]
        else throw .unexpectedToken
      let value ← if (← peek) == .value then do
          advance
          optional fuel true true [.key, .value, .blockEnd]
        else pure .empty
      return (key, value) :: (← blockPairs fuel)
/-- The items of a flow sequence and its end; a key makes an item a mapping of one pair. -/
def flowItems : Nat → Bool → Read (List Node)
  | 0, _ => throw .unexpectedToken
  | fuel + 1, first => do
    if (← peek) == .flowSequenceEnd then
      advance
      return []
    else
      if !first then expect .flowEntry
      match ← peek with
      | .key =>
        let pair ← inside (flowPair fuel)
        return .mapping (coreTag "map") [pair] :: (← flowItems fuel false)
      | .flowSequenceEnd =>
        advance
        return []
      | _ =>
        let item ← node fuel false false
        return item :: (← flowItems fuel false)
/-- The pair of an item that is a mapping. -/
def flowPair : Nat → Read (Node × Node)
  | 0 => throw .unexpectedToken
  | fuel + 1 => do
    advance
    let key ← optional fuel false false [.value, .flowEntry, .flowSequenceEnd]
    if (← peek) == .value then
      advance
      return (key, ← optional fuel false false [.flowEntry, .flowSequenceEnd])
    else return (key, .empty)
/-- The pairs of a flow mapping and its end. -/
def flowPairs : Nat → Bool → Read (List (Node × Node))
  | 0, _ => throw .unexpectedToken
  | fuel + 1, first => do
    if (← peek) == .flowMappingEnd then
      advance
      return []
    else
      if !first then expect .flowEntry
      match ← peek with
      | .key =>
        advance
        let key ← optional fuel false false [.value, .flowEntry, .flowMappingEnd]
        let value ← if (← peek) == .value then do
            advance
            optional fuel false false [.flowEntry, .flowMappingEnd]
          else pure .empty
        return (key, value) :: (← flowPairs fuel false)
      | .flowMappingEnd =>
        advance
        return []
      | _ =>
        let key ← node fuel false false
        return (key, .empty) :: (← flowPairs fuel false)
end

/-- The beginnings that handles stand for without a directive. -/
def standardHandles : List (String × String) := [("!", "!"), ("!!", coreTags)]

/-- The directives before a document: at most one version, of which only the first number has to
be one, and no handle twice. -/
def directives : Nat → Bool → List (String × String) → Read (List (String × String))
  | 0, _, _ => throw .unexpectedToken
  | fuel + 1, versioned, handles => do
    match ← peek with
    | .directive (.version major _) =>
      if versioned || major != 1 then throw .badDirective
      else
        advance
        directives fuel true handles
    | .directive (.handle name start) =>
      if handles.any (·.1 == name) then throw .badDirective
      else
        advance
        directives fuel versioned (handles ++ [(name, start)])
    | .directive .unknown =>
      advance
      directives fuel versioned handles
    | _ => return handles

/-- Skips marks that end a document. -/
def skipEnds : Nat → Read Unit
  | 0 => return ()
  | fuel + 1 => do
    if (← peek) == .documentEnd then
      advance
      skipEnds fuel

/-- The content of a document, which may be missing. -/
def content (fuel : Nat) : Read Node := do
  match ← peek with
  | .directive _ | .documentStart | .documentEnd | .streamEnd => return .empty
  | _ => node fuel true false

/-- The only document of a text, if there is one. -/
def document (fuel : Nat) : Read (Option Node) := do
  let marked ← match ← peek with
    | .directive _ | .documentStart | .streamEnd => pure true
    | _ => pure false
  if marked then skipEnds fuel
  if (← peek) == .streamEnd then return none
  else
    if marked then
      let handles ← directives fuel false []
      modify fun r => { r with handles := handles ++ standardHandles }
      expect .documentStart
    else modify fun r => { r with handles := standardHandles }
    let root ← if marked then content fuel else node fuel true false
    skipEnds fuel
    if (← peek) == .streamEnd then return some root
    else
      let _ ← directives fuel false []
      expect .documentStart
      throw .manyDocuments

end Read

/-- The document of a text, if it has one. -/
def Node.ofSource? (source : Source) : Except Flaw (Option Node) := do
  let ⟨ts, flaw⟩ := tokens source
  let (n, _) ← (Read.document (5 * ts.length + 5)).run { tokens := ts, flaw }
  pure n

end ProofGrading.Yaml
