import DocAudit.Yaml.Node
import DocAudit.Yaml.Token.Lexer

/-!
# From tokens to nodes

The grammar of documents: directives, one document, and its nodes in block and flow notation.
`Node.ofText?` reads the single document of a text.
-/

namespace DocAudit.Yaml

open Text

/-- A named node: where it began, and the node once it is complete. -/
structure Anchor where
  place : Mark
  isMapping : Bool
  node : Option Node

/-- The state of reading nodes: the tokens to come, the tag handles of the document, its anchors,
and the number of collections around the place that was come to. -/
structure NodeReader where
  lexer : Lexer
  handles : List (String × String)
  anchors : List (String × Anchor)
  depth : Nat

/-- Reading nodes, which may fail. -/
abbrev Read := StateT NodeReader (Except Failure)

/-- Work on the tokens. -/
def lexing {α : Type} (x : Lex α) : Read α := fun s =>
  match x s.lexer with
  | .ok (a, l) => .ok (a, { s with lexer := l })
  | .error e => .error e

/-- The next token, which stays. -/
def nextToken : Read Token := lexing peekToken

/-- The next token, taken. -/
def popToken : Read Token := lexing takeToken

/-- The kind of the next token. -/
def nextKind : Read TokenKind := do return (← nextToken).kind

/-- Fail with a problem at a place, inside a context that began at another. -/
def failAt {α : Type} (context : Context) (start : Mark) (problem : Problem) (place : Mark) :
    Read α :=
  throw (.marked (some (context, some start)) problem place)

/-- The number of collections that may stand inside one another. -/
def maxDepth : Nat := 488

/-- Read what a collection holds, if it does not stand too deep. -/
def inside {α : Type} (x : Read α) : Read α := do
  if maxDepth ≤ (← get).depth then throw .tooDeep
  modify fun s => { s with depth := s.depth + 1 }
  let a ← x
  modify fun s => { s with depth := s.depth - 1 }
  return a

/-- The handles that need no declaration. -/
def defaultHandles : List (String × String) := [("!", "!"), ("!!", "tag:yaml.org,2002:")]

/-- The anchor, the tag and the place of a node before its content. -/
structure Properties where
  anchor : Option String
  tag : Option (Option String × String)
  tagPlace : Mark
  start : Option Mark

/-- Read the anchor and the tag of a node, in either order. -/
def readProperties : Read Properties := do
  let t ← nextToken
  match t.kind with
  | .anchor name =>
    let _ ← popToken
    let u ← nextToken
    match u.kind with
    | .tag handle suffix =>
      let _ ← popToken
      return ⟨some name, some (handle, suffix), u.start, some t.start⟩
    | _ => return ⟨some name, none, t.start, some t.start⟩
  | .tag handle suffix =>
    let _ ← popToken
    let u ← nextToken
    match u.kind with
    | .anchor name =>
      let _ ← popToken
      return ⟨some name, some (handle, suffix), t.start, some t.start⟩
    | _ => return ⟨none, some (handle, suffix), t.start, some t.start⟩
  | _ => return ⟨none, none, default, none⟩

/-- The full tag of a handle and a suffix. -/
def expandTag (p : Properties) : Read (Option String) := do
  match p.tag with
  | none => return none
  | some (none, suffix) => return some suffix
  | some (some handle, suffix) =>
    match (← get).handles.lookup handle with
    | some stem => return some (stem ++ suffix)
    | none => failAt (.parsing "a node") (p.start.getD default) (.undefinedHandle handle) p.tagPlace

/-- Refuse a second anchor of one name. -/
def checkAnchor (anchor : Option String) (place : Mark) : Read Unit := do
  match anchor with
  | none => return
  | some name =>
    match (← get).anchors.lookup name with
    | some first => failAt (.firstAnchor name) first.place .secondAnchor place
    | none => return

/-- Note a named node. -/
def setAnchor (anchor : Option String) (a : Anchor) : Read Unit := do
  match anchor with
  | none => return
  | some name =>
    modify fun s => { s with anchors := (name, a) :: s.anchors.filter fun (n, _) => n != name }

/-- An empty scalar. -/
def emptyScalar (place : Mark) : Node := .scalar (coreTag "null") "" place

/-- The node that an alias names. -/
def readAlias (name : String) (place : Mark) : Read Node := do
  match (← get).anchors.lookup name with
  | none => throw (.marked none (.undefinedAlias name) place)
  | some a => return a.node.getD (.enclosing a.isMapping a.place)

/-- Whether a token ends an entry of a block mapping. -/
def endsBlockEntry : TokenKind → Bool
  | .key | .value | .blockEnd => true
  | _ => false

/-- Whether a token ends an entry of a flow sequence. -/
def endsFlowItem : TokenKind → Bool
  | .flowEntry | .flowSequenceEnd => true
  | _ => false

/-- Whether a token ends an entry of a flow mapping. -/
def endsFlowField : TokenKind → Bool
  | .flowEntry | .flowMappingEnd => true
  | _ => false

mutual

/-- A node. In block notation block collections may begin here, and a sequence at the indentation
of the mapping around it may begin where `indentless` says; by a count. -/
def readNode (block indentless : Bool) : Nat → Read Node
  | 0 => return default
  | n + 1 => do
    let t ← nextToken
    match t.kind with
    | .reference name =>
      let _ ← popToken
      readAlias name t.start
    | _ =>
      let p ← readProperties
      let tag ← expandTag p
      let t ← nextToken
      let start := p.start.getD t.start
      let explicit := tag.filter (· != "!")
      let ofKind (name : String) : String := explicit.getD (coreTag name)
      let collection (isMapping : Bool) (x : Read Node) : Read Node := do
        checkAnchor p.anchor start
        setAnchor p.anchor ⟨start, isMapping, none⟩
        let node ← inside x
        setAnchor p.anchor ⟨start, isMapping, some node⟩
        return node
      let scalar (text : String) (byForm : Bool) : Read Node := do
        checkAnchor p.anchor start
        let node := Node.scalar (explicit.getD (if byForm then tagOfForm text else coreTag "str"))
          text start
        setAnchor p.anchor ⟨start, false, some node⟩
        return node
      match t.kind with
      | .scalar text plain =>
        let _ ← popToken
        scalar text (plain || tag == some "!")
      | .flowSequenceStart =>
        collection false do
          let _ ← popToken
          return .sequence (ofKind "seq") (← readFlowItems t.start true n) start
      | .flowMappingStart =>
        collection true do
          let _ ← popToken
          return .mapping (ofKind "map") (← readFlowFields t.start true n) start
      | kind =>
        if kind == .blockEntry && indentless then
          collection false do
            return .sequence (ofKind "seq") (← readIndentlessItems n) start
        else if kind == .blockSequenceStart && block then
          collection false do
            let _ ← popToken
            return .sequence (ofKind "seq") (← readBlockItems t.start n) start
        else if kind == .blockMappingStart && block then
          collection true do
            let _ ← popToken
            return .mapping (ofKind "map") (← readBlockFields t.start n) start
        else if p.start.isSome then scalar "" (tag.isNone || tag == some "!")
        else
          failAt (.parsing (if block then "a block node" else "a flow node")) start
            (.expectedContent kind.name) t.start

/-- The items of a block sequence. -/
def readBlockItems (start : Mark) : Nat → Read (List Node)
  | 0 => return []
  | n + 1 => do
    let t ← nextToken
    match t.kind with
    | .blockEntry =>
      let _ ← popToken
      let k ← nextKind
      let item ←
        if k == .blockEntry || k == .blockEnd then pure (emptyScalar t.stop)
        else readNode true false n
      return item :: (← readBlockItems start n)
    | .blockEnd =>
      let _ ← popToken
      return []
    | k => failAt (.parsing "a block collection") start (.expectedBlockEnd k.name) t.start

/-- The items of a block sequence at the indentation of the mapping around it. -/
def readIndentlessItems : Nat → Read (List Node)
  | 0 => return []
  | n + 1 => do
    let t ← nextToken
    match t.kind with
    | .blockEntry =>
      let _ ← popToken
      let k ← nextKind
      let item ←
        if k == .blockEntry || endsBlockEntry k then pure (emptyScalar t.stop)
        else readNode true false n
      return item :: (← readIndentlessItems n)
    | _ => return []

/-- The entries of a block mapping. -/
def readBlockFields (start : Mark) : Nat → Read (List (Node × Node))
  | 0 => return []
  | n + 1 => do
    let t ← nextToken
    match t.kind with
    | .key =>
      let _ ← popToken
      let key ←
        if endsBlockEntry (← nextKind) then pure (emptyScalar t.stop) else readNode true true n
      let u ← nextToken
      let value ←
        if u.kind == .value then do
          let _ ← popToken
          if endsBlockEntry (← nextKind) then pure (emptyScalar u.stop) else readNode true true n
        else pure (emptyScalar u.start)
      return (key, value) :: (← readBlockFields start n)
    | .blockEnd =>
      let _ ← popToken
      return []
    | k => failAt (.parsing "a block mapping") start (.expectedBlockEnd k.name) t.start

/-- The items of a flow sequence, the first of which needs no comma before it. A pair among the
items is a mapping of one entry. -/
def readFlowItems (start : Mark) (first : Bool) : Nat → Read (List Node)
  | 0 => return []
  | n + 1 => do
    let t ← nextToken
    if t.kind == .flowSequenceEnd then
      let _ ← popToken
      return []
    else
      if !first then
        if t.kind == .flowEntry then
          let _ ← popToken
        else
          failAt (.parsing "a flow sequence") start (.expectedSequenceEnd t.kind.name) t.start
      let t ← nextToken
      match t.kind with
      | .key =>
        let _ ← popToken
        let k ← nextKind
        let key ←
          if k == .value || endsFlowItem k then pure (emptyScalar t.stop)
          else inside (readNode false false n)
        let u ← nextToken
        let value ←
          if u.kind == .value then do
            let _ ← popToken
            if endsFlowItem (← nextKind) then pure (emptyScalar u.stop)
            else inside (readNode false false n)
          else pure (emptyScalar u.start)
        let item := Node.mapping (coreTag "map") [(key, value)] t.start
        return item :: (← readFlowItems start false n)
      | .flowSequenceEnd =>
        let _ ← popToken
        return []
      | _ =>
        let item ← readNode false false n
        return item :: (← readFlowItems start false n)

/-- The entries of a flow mapping, the first of which needs no comma before it. -/
def readFlowFields (start : Mark) (first : Bool) : Nat → Read (List (Node × Node))
  | 0 => return []
  | n + 1 => do
    let t ← nextToken
    if t.kind == .flowMappingEnd then
      let _ ← popToken
      return []
    else
      if !first then
        if t.kind == .flowEntry then
          let _ ← popToken
        else
          failAt (.parsing "a flow mapping") start (.expectedMappingEnd t.kind.name) t.start
      let t ← nextToken
      match t.kind with
      | .key =>
        let _ ← popToken
        let k ← nextKind
        let key ←
          if k == .value || endsFlowField k then pure (emptyScalar t.stop)
          else readNode false false n
        let u ← nextToken
        let value ←
          if u.kind == .value then do
            let _ ← popToken
            if endsFlowField (← nextKind) then pure (emptyScalar u.stop)
            else readNode false false n
          else pure (emptyScalar u.start)
        return (key, value) :: (← readFlowFields start false n)
      | .flowMappingEnd =>
        let _ ← popToken
        return []
      | _ =>
        let key ← readNode false false n
        let u ← nextToken
        return (key, emptyScalar u.start) :: (← readFlowFields start false n)

end

/-- Read the directives before a document; by a count. -/
def readDirectives (version : Bool) (handles : List (String × String)) :
    Nat → Read (List (String × String))
  | 0 => return handles
  | n + 1 => do
    let t ← nextToken
    match t.kind with
    | .directive d =>
      let _ ← popToken
      match d with
      | .version major _ =>
        if version then throw (.marked none .duplicateVersion t.start)
        else if major != 1 then throw (.marked none .incompatibleVersion t.start)
        else readDirectives true handles n
      | .tag handle stem =>
        if (handles.lookup handle).isSome then
          throw (.marked none (.duplicateHandle handle) t.start)
        else readDirectives version (handles ++ [(handle, stem)]) n
      | .other _ => readDirectives version handles n
    | _ => return handles

/-- Past the ends of documents; by a count. -/
def skipDocumentEnds : Nat → Read Unit
  | 0 => return
  | n + 1 => do
    if (← nextKind) == .documentEnd then
      let _ ← popToken
      skipDocumentEnds n

/-- The explicit start of a document, or nothing at the end of the stream. -/
def readDocumentStart (count : Nat) : Read (Option Mark) := do
  skipDocumentEnds count
  let t ← nextToken
  if t.kind == .streamEnd then return none
  else
    let handles ← readDirectives false [] count
    let u ← nextToken
    if u.kind != .documentStart then
      throw (.marked none (.expectedDocumentStart u.kind.name) u.start)
    else
      let _ ← popToken
      modify fun s => { s with handles := handles ++ defaultHandles }
      return some t.start

/-- Whether a document starts with a token of its own, or the stream ends. -/
def opensDocument : TokenKind → Bool
  | .directive _ | .documentStart | .streamEnd => true
  | _ => false

/-- The root of a document after its explicit start. -/
def readRoot (count : Nat) : Read Node := do
  let t ← nextToken
  if opensDocument t.kind || t.kind == .documentEnd then return emptyScalar t.start
  else readNode true false count

/-- The only document of a stream, or nothing if the stream is empty. -/
def readDocument (count : Nat) : Read (Option Node) := do
  let _ ← popToken
  let explicit := opensDocument (← nextKind)
  let root? ←
    if explicit then
      match ← readDocumentStart count with
      | none => pure none
      | some _ => some <$> readRoot count
    else some <$> readNode true false count
  match root? with
  | none => return none
  | some root =>
    let t ← nextToken
    if t.kind == .documentEnd then
      let _ ← popToken
    match ← readDocumentStart count with
    | none => return some root
    | some second =>
      failAt .singleDocument root.place .anotherDocument second

/-- A character that a document may hold. -/
def isPermitted (c : Char) : Bool :=
  let n := c.toNat
  n == 9 || n == 10 || n == 13 || (0x20 ≤ n && n ≤ 0x7e) || n == 0x85 ||
    (0xa0 ≤ n && n ≤ 0xd7ff) || (0xe000 ≤ n && n ≤ 0xfffd) || 0x10000 ≤ n

/-- The node of the only document of a text, or nothing if there is no document. -/
def Node.ofText? (text : List Char) : Except Failure (Option Node) :=
  match text.dropWhile isPermitted with
  | c :: _ => .error (.unprintable c.toNat (text.takeWhile isPermitted).length)
  | [] =>
    let s : NodeReader := ⟨Lexer.start text, defaultHandles, [], 0⟩
    match readDocument (8 * text.length + 64) s with
    | .ok (root, _) => .ok root
    | .error e => .error e

end DocAudit.Yaml
