import DocAudit.Path
import DocAudit.Project

/-!
# Specification files

A specification is a file whose name ends in one of eight endings; the ending tells its format and
kind, and what stands before it is its stem. Main statement: the name of a specification is its stem
followed by the ending of its format and kind.
-/

namespace DocAudit.Spec

open Text

/-- The notation of a specification. -/
inductive Format where
  | yaml
  | markdown
  deriving DecidableEq, Repr

/-- What a specification is about. -/
inductive Kind where
  | brd
  | featureRequest
  | architecture
  | testPlan
  | deployment
  deriving DecidableEq, Repr

/-- The word for a format. -/
def Format.word : Format → String
  | yaml => "yaml"
  | markdown => "markdown"

/-- The word for a kind. -/
def Kind.word : Kind → String
  | brd => "brd"
  | featureRequest => "feature_request"
  | architecture => "architecture"
  | testPlan => "test_plan"
  | deployment => "deployment"

/-- All formats. -/
def Format.all : List Format := [yaml, markdown]

/-- All kinds. -/
def Kind.all : List Kind := [brd, featureRequest, architecture, testPlan, deployment]

/-- The format of a word. -/
def Format.ofWord? (w : String) : Option Format := Format.all.find? fun f => f.word == w

/-- The kind of a word. -/
def Kind.ofWord? (w : String) : Option Kind := Kind.all.find? fun k => k.word == w

/-- The kinds of documents that follow a requirement. -/
def Kind.phases : List Kind := [architecture, testPlan, deployment]

/-- The endings of a format with the kinds that they tell. -/
def endings : Format → List (String × Kind)
  | .yaml =>
    [(".spec.yaml", .featureRequest), (".arch.yaml", .architecture), (".test.yaml", .testPlan),
     (".deploy.yaml", .deployment)]
  | .markdown =>
    [(".spec", .featureRequest), (".arch", .architecture), (".test", .testPlan),
     (".deploy", .deployment)]

/-- The ending of a kind in a format; an inventory has that of a requirement. -/
def ending (kind : Kind) (format : Format) : String :=
  let kind := if kind = .brd then .featureRequest else kind
  ((endings format).find? fun e => e.2 = kind).elim "" Prod.fst

/-- A specification by its path. -/
structure File where
  path : String
  format : Format
  kind : Kind
  stem : String
  deriving DecidableEq, Repr

/-- The stem of an inventory of domains. -/
def inventoryStem : String := "brd"

/-- The stem of a name and what its ending tells, if it has one and is longer than that. -/
def splitName (name : String) : Option (String × Format × Kind) :=
  Format.all.findSome? fun format =>
    (endings format).findSome? fun (e, kind) =>
      let n := name.toList
      let k := n.length - e.toList.length
      if e.toList.isSuffixOf n && k != 0 then some (String.ofList (n.take k), format, kind)
      else none

/-- The name of a path without its ending. -/
def stemOf (path : String) : String :=
  let name := Path.nameOf path
  (splitName name).elim name fun (stem, _, _) => stem

/-- The specification at a path, if its name is that of one. -/
def File.ofPath? (path : String) : Option File :=
  (splitName (Path.nameOf path)).map fun (stem, format, kind) =>
    let kind := if kind = .featureRequest ∧ stem = inventoryStem then .brd else kind
    ⟨path, format, kind, stem⟩

/-- The specifications among some paths, in ascending order of their paths. -/
def File.among (paths : List String) : List File :=
  (paths.filterMap File.ofPath?).mergeSort fun f g => decide (f.path ≤ g.path)

/-- Whether a reference has the ending of a specification. -/
def hasEnding (reference : String) : Bool := (splitName (Path.nameOf reference)).isSome

/-- Whether a reference is a path and not an identifier. -/
def isPathReference (reference : String) : Bool :=
  reference.toList.contains '/' || hasEnding reference

/-- The directory of a specification. -/
def File.directory (f : File) : String := Path.directoryOf f.path

/-- The word of a kind reads back as the kind. -/
theorem Kind.ofWord?_word (k : Kind) : Kind.ofWord? k.word = some k := by
  cases k <;> decide

/-- The word of a format reads back as the format. -/
theorem Format.ofWord?_word (f : Format) : Format.ofWord? f.word = some f := by
  cases f <;> decide

end DocAudit.Spec
