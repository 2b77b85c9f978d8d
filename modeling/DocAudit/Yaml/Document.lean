import DocAudit.Yaml.Node.Reader

/-!
# From nodes to values

A node denotes a value if every scalar has one, every tag is known and fits its node, every key is a
scalar, and merges name mappings only. Of several faults the one in the outermost collection is
reported, and among those of one depth the first. `Value.ofYaml?` reads the value of a text.

Two kinds of texts are not covered (`Yaml.isCovered`): those in which a collection refers back to
one around it, and those with an escape that denotes half of a pair.
-/

namespace DocAudit.Yaml

open Text

/-! ## Scalars and tags -/

/-- The text of a scalar, also of a mapping that has a scalar under the value mark. -/
def Node.scalarText? : Node → Option String
  | .scalar _ text _ => some text
  | .mapping _ entries _ =>
    entries.findSome? fun
      | (.scalar t _ _, .scalar _ text _) => if t == coreTag "value" then some text else none
      | _ => none
  | _ => none

/-- The tags that denote scalars. -/
def scalarTags : List String :=
  ["null", "bool", "int", "float", "binary", "timestamp", "str"].map coreTag

/-- The tags that denote collections. -/
def collectionTags : List String := ["seq", "map", "set", "omap", "pairs"].map coreTag

/-- The truth value that a word denotes. -/
def truthOf (text : List Char) : Except ScalarFault Bool :=
  let word := String.ofList (lower text)
  match truthWords.lookup word with
  | some b => .ok b
  | none => .error (.notABoolean word)

/-- A fault of a scalar as a failure. -/
def scalarFailure {α : Type} (x : Except ScalarFault α) : Except Failure α := x.mapError .scalar

/-- The value of a scalar's text under a tag for scalars. -/
def scalarValue (tag : String) (text : List Char) (place : Mark) : Except Failure Value :=
  if tag == coreTag "null" then .ok .null
  else if tag == coreTag "bool" then scalarFailure ((truthOf text).map .bool)
  else if tag == coreTag "int" then scalarFailure ((integerOf text).map .int)
  else if tag == coreTag "float" then scalarFailure ((numberOf text).map .float)
  else if tag == coreTag "timestamp" then scalarFailure (timestampOf text)
  else if tag == coreTag "binary" then
    match bytesOf text with
    | .ok bs => .ok (.bytes bs)
    | .error problem => .error (.marked none problem place)
  else .ok (.str (String.ofList text))

/-- The value of a node with a tag for scalars, or a placeholder for a collection, whose own faults
belong to a deeper level. -/
def Node.scalarValue (node : Node) : Except Failure Value :=
  if scalarTags.contains node.tag then
    match node.scalarText? with
    | some text => Yaml.scalarValue node.tag text.toList node.place
    | none => .error (.marked none (.expectedNode "scalar" node.kind) node.place)
  else if collectionTags.contains node.tag then .ok .null
  else .error (.marked none (.unknownTag node.tag) node.place)

/-- Whether a node denotes a scalar. -/
def Node.isScalar (node : Node) : Bool := scalarTags.contains node.tag

/-! ## Merging -/

/-- Whether a node is a merge key. -/
def Node.isMergeKey : Node → Bool
  | .scalar t _ _ => t == coreTag "merge"
  | _ => false

/-- A key under the value mark is the text of that mark. -/
def Node.asKey : Node → Node
  | .scalar t text m => .scalar (if t == coreTag "value" then coreTag "str" else t) text m
  | node => node

mutual

/-- The entries of a mapping with the entries of merged mappings in front of them, later merges of a
list first. -/
def mergedEntries : Node → List (Node × Node)
  | .mapping _ entries _ => mergesOf entries ++ ownEntries entries
  | _ => []

/-- The entries that the merge keys of a mapping bring in. -/
def mergesOf : List (Node × Node) → List (Node × Node)
  | [] => []
  | (k, v) :: rest => (if k.isMergeKey then mergedFrom v else []) ++ mergesOf rest

/-- The entries that one merge brings in. -/
def mergedFrom : Node → List (Node × Node)
  | .mapping _ entries _ => mergesOf entries ++ ownEntries entries
  | .sequence _ items _ => mergedItems items
  | _ => []

/-- The entries that a merge of several mappings brings in, the last mapping first. -/
def mergedItems : List Node → List (Node × Node)
  | [] => []
  | item :: rest => mergedItems rest ++ mergedEntries item

/-- The entries of a mapping that are no merges. -/
def ownEntries : List (Node × Node) → List (Node × Node)
  | [] => []
  | (k, v) :: rest => (if k.isMergeKey then [] else [(k.asKey, v)]) ++ ownEntries rest

end

mutual

/-- The first merge inside a mapping at `place` that names something else than mappings. -/
def mergeFault (place : Mark) : List (Node × Node) → Option Failure
  | [] => none
  | (k, v) :: rest =>
    (if k.isMergeKey then mergeFaultOf place v else none).or (mergeFault place rest)

/-- The fault of one merge. -/
def mergeFaultOf (place : Mark) : Node → Option Failure
  | .mapping _ entries inner => mergeFault inner entries
  | .sequence _ items _ => mergeItemsFault place items
  | .enclosing true _ => none
  | .enclosing false m =>
    some (.marked (some (.constructing "a mapping", some place)) (.mergeOfNonMapping "sequence") m)
  | .scalar _ _ m =>
    some (.marked (some (.constructing "a mapping", some place)) (.mergeOfNonMappings "scalar") m)

/-- The fault of a merge of several mappings. -/
def mergeItemsFault (place : Mark) : List Node → Option Failure
  | [] => none
  | .mapping _ entries inner :: rest => (mergeFault inner entries).or (mergeItemsFault place rest)
  | .enclosing true _ :: rest => mergeItemsFault place rest
  | .enclosing false m :: _ =>
    some (.marked (some (.constructing "a mapping", some place)) (.mergeOfNonMapping "sequence") m)
  | .scalar _ _ m :: _ =>
    some (.marked (some (.constructing "a mapping", some place)) (.mergeOfNonMapping "scalar") m)
  | .sequence _ _ m :: _ =>
    some (.marked (some (.constructing "a mapping", some place)) (.mergeOfNonMapping "sequence") m)

end

/-! ## Faults by depth -/

/-- The failure of a result. -/
def failureOf {α : Type} : Except Failure α → Option Failure
  | .ok _ => none
  | .error e => some e

/-- The first fault among the keys and values of a mapping at `place`. -/
def entriesFault (place : Mark) : List (Node × Node) → Option Failure
  | [] => none
  | (k, v) :: rest =>
    (failureOf k.scalarValue).or <|
      if !k.isScalar then
        some (.marked (some (.constructing "a mapping", some place)) .unhashableKey k.place)
      else (failureOf v.scalarValue).or (entriesFault place rest)

/-- The first fault among the entries of an ordered mapping at `place`. -/
def pairsFault (what : String) (place : Mark) : List Node → Option Failure
  | [] => none
  | item :: rest =>
    let fault (problem : Problem) : Option Failure :=
      some (.marked (some (.constructing what, some place)) problem item.place)
    match item with
    | .mapping _ [(k, v)] _ =>
      (failureOf k.scalarValue).or ((failureOf v.scalarValue).or (pairsFault what place rest))
    | .mapping _ entries _ => fault (.expectedSingleEntry entries.length)
    | _ => fault (.expectedSingleMapping item.kind)

/-- The fault of a collection by itself: its tag does not fit, a merge is wrong, a key is no scalar,
or a scalar directly in it has no value. -/
def Node.ownFault (node : Node) : Option Failure :=
  let tag := node.tag
  let misfit (wanted : String) : Option Failure :=
    some (.marked none (.expectedNode wanted node.kind) node.place)
  if tag == coreTag "map" || tag == coreTag "set" then
    match node with
    | .mapping _ entries m => (mergeFault m entries).or (entriesFault m (mergedEntries node))
    | .enclosing true _ => none
    | _ => misfit "mapping"
  else if tag == coreTag "seq" then
    match node with
    | .sequence _ items _ => items.findSome? fun item => failureOf item.scalarValue
    | .enclosing false _ => none
    | _ => misfit "sequence"
  else if tag == coreTag "omap" || tag == coreTag "pairs" then
    let what := if tag == coreTag "omap" then "an ordered map" else "pairs"
    match node with
    | .sequence _ items m => pairsFault what m items
    | .enclosing false _ => none
    | _ =>
      some (.marked (some (.constructing what, some node.place)) (.expectedSequence node.kind)
        node.place)
  else none

/-- The collections directly inside a collection, in the order in which they are read. -/
def Node.inner (node : Node) : List Node :=
  let parts : List Node :=
    match node with
    | .mapping _ _ _ => (mergedEntries node).flatMap fun (k, v) => [k, v]
    | .sequence tag items _ =>
      if tag == coreTag "omap" || tag == coreTag "pairs" then
        items.flatMap fun
          | .mapping _ [(k, v)] _ => [k, v]
          | _ => []
      else items
    | _ => []
  parts.filter fun n => !n.isScalar

/-- The first fault of the collections of one level, or else of the levels below; by a count of
levels. -/
def levelFault : Nat → List Node → Option Failure
  | 0, _ => none
  | n + 1, nodes =>
    if nodes.isEmpty then none
    else (nodes.findSome? Node.ownFault).or (levelFault n (nodes.flatMap Node.inner))

/-- The fault that a document is refused for. -/
def Node.fault (levels : Nat) (node : Node) : Option Failure :=
  (failureOf node.scalarValue).or <|
    if node.isScalar then none else levelFault levels [node]

/-! ## Values -/

/-- The value of a node, by a count of levels. Faulty parts, of which a document without a fault has
none, are null. -/
def Node.value : Nat → Node → Value
  | 0, _ => .null
  | n + 1, node =>
    if node.isScalar then
      match node.scalarValue with
      | .ok v => v
      | .error _ => .null
    else
      match node with
      | .enclosing isMapping _ => .enclosing isMapping
      | .mapping tag _ _ =>
        let entries := (mergedEntries node).map fun (k, v) => (k.value n, v.value n)
        if tag == coreTag "set" then .set ((Value.ofEntries entries).map Prod.fst)
        else .dict (Value.ofEntries entries)
      | .sequence tag items _ =>
        if tag == coreTag "omap" || tag == coreTag "pairs" then
          .list <| items.filterMap fun
            | .mapping _ [(k, v)] _ => some (.pair (k.value n) (v.value n))
            | _ => none
        else .list (items.map fun item => item.value n)
      | .scalar _ _ _ => .null

end DocAudit.Yaml

namespace DocAudit

open Yaml

/-- The value of the only document of a text; a text without a document is null. -/
def Value.ofYaml? (text : List Char) : Except Failure Value :=
  match Node.ofText? text with
  | .error e => .error e
  | .ok none => .ok .null
  | .ok (some node) =>
    let levels := text.length + 2
    match node.fault levels with
    | some e => .error e
    | none => .ok (node.value levels)

/-- Whether what is read of a text is all that is in it: no collection refers back to one around it,
and no escape denotes half of a pair. -/
def Yaml.isCovered (text : List Char) : Bool :=
  match Node.ofText? text with
  | .ok (some node) => node.isTree
  | .error (.scalar .halfOfPair) => false
  | _ => true

end DocAudit
