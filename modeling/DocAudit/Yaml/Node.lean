import DocAudit.Yaml.Scalar

/-!
# Nodes

A document is a tree of scalars, sequences and mappings, each with a tag and a place. An alias is a
copy of the node it names. An alias of a collection inside that collection is a reference back to
it, which is not followed: only the documents without one (`Node.isTree`) are modelled in full.
-/

namespace DocAudit.Yaml

/-- A node of a document. -/
inductive Node where
  | scalar (tag text : String) (place : Mark)
  | sequence (tag : String) (items : List Node) (place : Mark)
  | mapping (tag : String) (entries : List (Node × Node)) (place : Mark)
  | enclosing (isMapping : Bool) (place : Mark)
  deriving Inhabited

namespace Node

/-- Where a node begins. -/
def place : Node → Mark
  | scalar _ _ m | sequence _ _ m | mapping _ _ m | enclosing _ m => m

/-- The kind of a node in messages. -/
def kind : Node → String
  | scalar _ _ _ => "scalar"
  | sequence _ _ _ => "sequence"
  | mapping _ _ _ => "mapping"
  | enclosing isMapping _ => if isMapping then "mapping" else "sequence"

/-- The tag of a node. -/
def tag : Node → String
  | scalar t _ _ | sequence t _ _ | mapping t _ _ => t
  | enclosing isMapping _ => coreTag (if isMapping then "map" else "seq")

mutual

/-- Whether no collection refers back to one around it. -/
def isTree : Node → Bool
  | scalar _ _ _ => true
  | sequence _ items _ => areTrees items
  | mapping _ entries _ => areTreeEntries entries
  | enclosing _ _ => false

/-- The same of the items of a sequence. -/
def areTrees : List Node → Bool
  | [] => true
  | item :: rest => isTree item && areTrees rest

/-- The same of the entries of a mapping. -/
def areTreeEntries : List (Node × Node) → Bool
  | [] => true
  | (k, v) :: rest => isTree k && isTree v && areTreeEntries rest

end

end Node

end DocAudit.Yaml
