import DocAudit.Schema
import DocAudit.Spec.File
import DocAudit.Markdown.Link

/-!
# Specification documents

What a specification says. A YAML specification is read from a mapping, whose keys may be written in
snake case or in camel case; texts may be given as numbers. A Markdown specification is a set of
labels, links and table rows. Main statement: the word of a kind selects the content of that kind.
-/

namespace DocAudit.Spec

open Text

/-- A file that a specification builds on, with what it takes from there. -/
structure Dependency where
  ref : Option String
  file : Option String
  deriving DecidableEq, Repr

/-- A specification listed under a domain. -/
structure DomainEntry where
  file : Option String
  id : Option String
  title : Option String
  deriving DecidableEq, Repr

/-- A domain of an inventory. -/
structure Domain where
  name : Option String
  specCount : Option Int
  specs : Option (List DomainEntry)
  path : Option String
  deriving DecidableEq, Repr

/-- A single requirement. -/
structure Requirement where
  id : Option String
  title : Option String
  description : Option String
  priority : Option String
  acceptance : Option String
  deriving DecidableEq, Repr

/-- A component of an architecture. -/
structure Component where
  name : Option String
  tracesTo : Option String
  description : Option String
  deriving DecidableEq, Repr

/-- A test case of a test plan. -/
structure TestCase where
  id : Option String
  description : Option String
  verifies : Option String
  deriving DecidableEq, Repr

/-- An environment that is deployed to. -/
structure Environment where
  name : Option String
  description : Option String
  deriving DecidableEq, Repr

/-- What a document of a kind holds besides the fields of all kinds. -/
inductive Content where
  | brd (domains : Option (List Domain))
  | featureRequest (status priority : Option String) (requirements : Option (List Requirement))
  | architecture (spec : Option String) (components : Option (List Component))
  | testPlan (spec : Option String) (cases : Option (List TestCase))
  | deployment (spec : Option String) (environments : Option (List Environment))
  deriving DecidableEq, Repr

/-- The kind of a content. -/
def Content.kind : Content → Kind
  | brd .. => .brd
  | featureRequest .. => .featureRequest
  | architecture .. => .architecture
  | testPlan .. => .testPlan
  | deployment .. => .deployment

/-- A document in YAML. -/
structure Record where
  schemaVersion : Option String
  title : Option String
  id : Option String
  dependencies : List Dependency
  relatedDocuments : List String
  content : Content
  deriving DecidableEq, Repr

/-- A test case in a row of a table. -/
structure TestRow where
  id : String
  description : String
  verifies : String
  line : Nat
  deriving DecidableEq, Repr

/-- A domain in a row of a table. -/
structure DomainRow where
  domain : String
  count : Option Nat
  links : List Markdown.Link
  line : Nat
  deriving DecidableEq, Repr

/-- A document in Markdown. -/
structure Page where
  title : Option String
  version : Option String
  status : Option String
  related : Option String
  specLink : Option Markdown.Link
  archLink : Option Markdown.Link
  requirements : Option String
  requirementIds : List String
  testCases : List TestRow
  inventory : List DomainRow
  deriving DecidableEq, Repr

/-- What a document holds, by its format. -/
inductive Body where
  | record (r : Record)
  | page (p : Page)
  deriving DecidableEq, Repr

/-- A document with the file that it was read from. -/
structure Document where
  origin : File
  body : Body
  deriving DecidableEq, Repr

/-! ## Reading records -/

/-- Read a text, which may be given as a number, or nothing. -/
def textField : Reader (Option String)
  | .null => .ok none
  | .int n =>
    if (toString n.natAbs).length > maxDigits then .fail .unprintableInteger
    else .ok (some (toString n))
  | .float x => .ok (some x.render)
  | v => (Reader.string v).map some

/-- A text under the first of some keys that is there. -/
def textUnder (keys : List String) (entries : Entries) : Checked (Option String) :=
  Reader.optional keys none textField entries

/-- A list of records, or nothing, under the first of some keys that is there. -/
def recordsUnder {α : Type} (keys : List String) (name : String) (f : Entries → Checked α)
    (entries : Entries) : Checked (Option (List α)) :=
  Reader.optional keys none (Reader.nullable (Reader.list (Reader.record name f))) entries

/-- Read a dependency. -/
def Dependency.ofEntries (e : Entries) : Checked Dependency :=
  Dependency.mk <$> textUnder ["ref"] e <*> textUnder ["file"] e

/-- Read an entry of a domain. -/
def DomainEntry.ofEntries (e : Entries) : Checked DomainEntry :=
  DomainEntry.mk <$> textUnder ["file"] e <*> textUnder ["id"] e <*> textUnder ["title"] e

/-- Read a domain. -/
def Domain.ofEntries (e : Entries) : Checked Domain :=
  Domain.mk <$> textUnder ["name"] e
    <*> Reader.optional ["specCount", "spec_count"] none (Reader.nullable Reader.integer) e
    <*> recordsUnder ["specs"] "BrdSpecEntry" DomainEntry.ofEntries e
    <*> textUnder ["path"] e

/-- Read a requirement. -/
def Requirement.ofEntries (e : Entries) : Checked Requirement :=
  Requirement.mk <$> textUnder ["id"] e <*> textUnder ["title"] e <*> textUnder ["description"] e
    <*> textUnder ["priority"] e <*> textUnder ["acceptance"] e

/-- Read a component. -/
def Component.ofEntries (e : Entries) : Checked Component :=
  Component.mk <$> textUnder ["name"] e <*> textUnder ["tracesTo", "traces_to"] e
    <*> textUnder ["description"] e

/-- Read a test case. -/
def TestCase.ofEntries (e : Entries) : Checked TestCase :=
  TestCase.mk <$> textUnder ["id"] e <*> textUnder ["description", "test"] e
    <*> textUnder ["verifies"] e

/-- Read an environment. -/
def Environment.ofEntries (e : Entries) : Checked Environment :=
  Environment.mk <$> textUnder ["name"] e <*> textUnder ["description"] e

/-- Read what a document of a kind holds. -/
def Content.ofEntries (kind : Kind) (e : Entries) : Checked Content :=
  match kind with
  | .brd => .brd <$> recordsUnder ["domains"] "BrdDomain" Domain.ofEntries e
  | .featureRequest =>
    .featureRequest <$> textUnder ["status"] e <*> textUnder ["priority"] e
      <*> recordsUnder ["requirements"] "Requirement" Requirement.ofEntries e
  | .architecture =>
    .architecture <$> textUnder ["spec"] e
      <*> recordsUnder ["components"] "ArchComponent" Component.ofEntries e
  | .testPlan =>
    .testPlan <$> textUnder ["spec"] e
      <*> recordsUnder ["testCases", "test_cases"] "TestCase" TestCase.ofEntries e
  | .deployment =>
    .deployment <$> textUnder ["spec"] e
      <*> recordsUnder ["environments"] "Environment" Environment.ofEntries e

/-- Read the description of a specification file. -/
def File.ofEntries (e : Entries) : Checked File :=
  File.mk <$> Reader.required ["path"] Reader.string e
    <*> Reader.required ["format"] (Reader.oneOf (Format.all.map fun f => (f.word, f))) e
    <*> Reader.required ["kind"] (Reader.oneOf (Kind.all.map fun k => (k.word, k))) e
    <*> Reader.required ["stem"] Reader.string e

/-- Read a document of a kind. An origin may be given and must have the form of one, but it is the
file that counts. -/
def Record.ofEntries (kind : Kind) (e : Entries) : Checked Record :=
  (fun version title id dependencies related (_ : Option File) content =>
      (⟨version, title, id, dependencies, related, content⟩ : Record))
    <$> textUnder ["schemaVersion", "schema_version"] e
    <*> textUnder ["title"] e
    <*> textUnder ["id"] e
    <*> Reader.optional ["dependencies"] []
      (Reader.list (Reader.record "Dependency" Dependency.ofEntries)) e
    <*> Reader.optional ["relatedDocuments", "related_documents"] []
      (Reader.list Reader.string) e
    <*> Reader.optional ["origin"] none
      (Reader.nullable (Reader.record "DiscoveredSpec" File.ofEntries)) e
    <*> Content.ofEntries kind e

theorem Content.kind_ofEntries {k : Kind} {e : Entries} {c : Content}
    (h : Content.ofEntries k e = .ok c) : c.kind = k := by
  cases k <;> simp only [Content.ofEntries, Checked.map_eq_ok_iff, Checked.seq_eq_ok_iff] at h
  · obtain ⟨_, _, rfl⟩ := h
    rfl
  · obtain ⟨_, _, ⟨_, _, ⟨_, _, rfl⟩, _, rfl⟩, _, rfl⟩ := h
    rfl
  all_goals
    obtain ⟨_, _, ⟨_, _, rfl⟩, _, rfl⟩ := h
    rfl

end DocAudit.Spec
