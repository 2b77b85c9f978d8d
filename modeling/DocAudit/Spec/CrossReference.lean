import DocAudit.Spec.Validation

/-!
# Cross-references between specifications

Six categories of assertions about what specifications say of one another, each of which holds or
fails. A reference is resolved from the directory of the document first and from the root of the
project second. Main statement: an assertion fails exactly when it carries a breach.
-/

namespace DocAudit.Spec

open Markdown Text

/-- The categories of assertions. -/
inductive Category where
  | dependency
  | sdlcChain
  | inventory
  | testTrace
  | archTrace
  | relatedDocs
  deriving DecidableEq, Repr

/-- The word for a category. -/
def Category.word : Category → String
  | dependency => "dependency"
  | sdlcChain => "sdlc_chain"
  | inventory => "inventory"
  | testTrace => "test_trace"
  | archTrace => "arch_trace"
  | relatedDocs => "related_docs"

/-- All categories, in the order of a report. -/
def Category.all : List Category :=
  [dependency, sdlcChain, inventory, testTrace, archTrace, relatedDocs]

/-- Why an assertion fails. -/
inductive Breach where
  | incompleteDependency
  | noFile (reference : String)
  | notDeclaredBy (path id : String)
  | declaredNowhere (id : String)
  | noPhase (phase : Kind) (expected stem : String)
  | otherCount (line : Option Nat) (declared : Int) (actual : Nat) (directory : String)
  | noRequirement (label : String)
  | notDeclaredIn (id source : String)
  | noReference
  | notARequirement (reference : String)
  | noDocument (reference : String)
  deriving DecidableEq, Repr

/-- The name of a phase in messages. -/
def Kind.label : Kind → String
  | testPlan => "test plan"
  | k => k.word

/-- The breach in words. -/
def Breach.message : Breach → String
  | incompleteDependency => "Dependency must declare both 'ref' and 'file'"
  | noFile reference => s!"File '{reference}' does not exist"
  | notDeclaredBy path id => s!"'{path}' does not declare '{id}'"
  | declaredNowhere id => s!"No other spec file declares '{id}'"
  | noPhase phase expected stem => s!"Missing {phase.label} file '{expected}' for stem '{stem}'"
  | otherCount none declared actual directory =>
    s!"Declared {declared} specs but found {actual} in '{directory}'"
  | otherCount (some line) declared actual directory =>
    s!"Line {line}: declared {declared} specs but found {actual} in '{directory}'"
  | noRequirement label => s!"Cannot resolve requirement spec '{label}'"
  | notDeclaredIn id source => s!"'{id}' is not declared in '{source}'"
  | noReference => "No requirement spec reference declared"
  | notARequirement reference => s!"'{reference}' does not resolve to a requirement spec"
  | noDocument reference => s!"'{reference}' does not exist"

/-- An assertion; one that fails has details. -/
structure Assertion where
  category : Category
  description : String
  details : Option String
  deriving DecidableEq, Repr

/-- An assertion that fails. -/
def Assertion.fails (a : Assertion) : Bool := a.details.isSome

/-- The assertion of a category that fails for a breach, if there is one. -/
def Assertion.of (category : Category) (description : String) (breach : Option Breach) :
    Assertion :=
  ⟨category, description, breach.map Breach.message⟩

/-- Whether a file stands at a path: an assertion holds if it does. -/
def missingUnless {α : Type} (found : Option α) (breach : Breach) : Option Breach :=
  if found.isSome then none else some breach

namespace Corpus

/-- The first of some paths where a file stands. -/
def firstFile (c : Corpus) : List String → Except Fault (Option String)
  | [] => .ok none
  | path :: rest => do if ← c.project.isFile path then return some path else c.firstFile rest

/-- The paths that a reference may mean, read from a directory. -/
def candidates (directory reference : String) : List String :=
  let r := trim (before '#' reference.toList)
  if r.isEmpty then []
  else
    (if r.head? == some '/' then [] else [String.ofList (Path.follow directory.toList r)]) ++
      [String.ofList (Path.normalize (r.dropWhile (· == '/')))]

/-- The file that a reference means, read from a directory. -/
def resolve (c : Corpus) (directory reference : String) : Except Fault (Option String) :=
  c.firstFile (candidates directory reference)

/-- The text of a file, if it can be had. -/
def text? (c : Corpus) (path : String) : Option String := (c.project.read path).toOption

/-! ## Dependencies -/

/-- Whether a dependency holds. -/
def dependencyBreach (c : Corpus) (directory : String) (ref file : String) :
    Except Fault (Option Breach) := do
  if ref.isEmpty || file.isEmpty then return some .incompleteDependency
  match ← c.resolve directory file with
  | none => return some (.noFile file)
  | some path =>
    match c.text? path with
    | some text => return if contains text ref then none else some (.notDeclaredBy path ref)
    | none => return some (.notDeclaredBy path ref)

/-- A text, or a question mark for none. -/
def orUnknown (text : String) : String := if text.isEmpty then "?" else text

/-- Whether what a Markdown document relates to is there: the file that it links to, which declares
the text of the link, or any other specification that declares it. -/
def relatedBreach (c : Corpus) (origin : File) (related : String) :
    Except Fault (Option Breach) := do
  let elsewhere : Option Breach :=
    let declares (f : File) : Bool :=
      f.path != origin.path && (c.text? f.path).any fun text => contains text related
    if c.files.any declares then none else some (.declaredNowhere related)
  match Link.ofString? related with
  | none => return elsewhere
  | some link =>
    if link.text = link.target ∧ !isPathReference link.target then return elsewhere
    match ← c.resolve origin.directory link.target with
    | none => return some (.noFile link.target)
    | some path =>
      if link.text ≠ link.target ∧ !contains ((c.text? path).getD "") link.text then
        return some (.notDeclaredBy path link.text)
      return none

/-- The assertions about the dependencies of a document. -/
def dependenciesOf (c : Corpus) (d : Document) : Except Fault (List Assertion) :=
  match d.body with
  | .page p =>
    match p.related with
    | none | some "" => .ok []
    | some related => do
      let breach ← c.relatedBreach d.origin related
      return [.of .dependency s!"{d.origin.path}: related {related}" breach]
  | .record r =>
    r.dependencies.mapM fun dependency => do
      let ref := dependency.ref.getD ""
      let file := dependency.file.getD ""
      let breach ← c.dependencyBreach d.origin.directory ref file
      return .of .dependency
        s!"{d.origin.path}: dependency {orUnknown ref} -> {orUnknown file}" breach

/-! ## Chains of phases -/

/-- The assertion that a phase follows a requirement. -/
def phaseOf (c : Corpus) (f : File) (phase : Kind) : Assertion :=
  let found := c.files.any fun g => g.format = f.format ∧ g.kind = phase ∧ g.stem = f.stem
  .of .sdlcChain s!"{f.stem} ({f.format.word}): {phase.label} document"
    (if found then none else some (.noPhase phase (f.stem ++ ending phase f.format) f.stem))

/-- The assertions about the phases that follow the requirements. -/
def chains (c : Corpus) : List Assertion :=
  (c.files.filter fun f => f.kind = .featureRequest).flatMap fun f => Kind.phases.map (c.phaseOf f)

/-! ## Inventories -/

/-- The number of requirements of a format below a directory, a given one not counted. -/
def countBelow (c : Corpus) (directory : String) (format : Format) (except : String) : Nat :=
  ((c.project.filesUnder directory).filter fun f =>
    endsWith f (ending .featureRequest format) && f != except).length

/-- Whether a number of specifications is right. -/
def countBreach (c : Corpus) (origin : File) (directory : String) (line : Option Nat)
    (declared : Int) : Except Fault (Option Breach) :=
  let actual := c.countBelow directory origin.format origin.path
  if (actual : Int) = declared then .ok none
  else if Nat.pow 10 maxDigits ≤ declared.natAbs then .error .longInteger
  else .ok (some (.otherCount line declared actual directory))

/-- The directory of a domain. -/
def domainDirectory (origin : File) (place : String) : String :=
  String.ofList (Path.follow origin.directory.toList place.toList)

/-- The assertions about a domain of a YAML inventory. -/
def domainAssertions (c : Corpus) (origin : File) (d : Domain) : Except Fault (List Assertion) :=
  match d.name with
  | none => .ok []
  | some name => do
    let place := match d.path with | none | some "" => name | some p => p
    let directory := domainDirectory origin place
    let about := s!"{origin.path}: domain '{name}'"
    let count ←
      match d.specCount with
      | none => pure []
      | some declared => do
        let breach ← c.countBreach origin directory none declared
        pure [Assertion.of .inventory s!"{about} spec count" breach]
    let files := ((d.specs.getD []).filterMap DomainEntry.file).filter fun f => !f.isEmpty
    let listed ← files.mapM fun file => do
      let found ←
        match ← c.resolve directory file with
        | some path => pure (some path)
        | none => c.resolve origin.directory file
      return Assertion.of .inventory s!"{about} lists '{file}'" (missingUnless found (.noFile file))
    return count ++ listed

/-- The assertions about a row of a Markdown inventory. -/
def rowAssertions (c : Corpus) (origin : File) (row : DomainRow) :
    Except Fault (List Assertion) := do
  let about := s!"{origin.path}: domain '{row.domain}'"
  let count ←
    match row.count with
    | none => pure []
    | some declared => do
      let breach ← c.countBreach origin (domainDirectory origin row.domain)
          (some row.line) declared
      pure [Assertion.of .inventory s!"{about} spec count" breach]
  let links ← row.links.mapM fun link => do
    let found ← c.resolve origin.directory link.target
    return Assertion.of .inventory s!"{about} links '{link.target}'"
      (missingUnless found (.noFile link.target))
  return count ++ links

/-- The assertions about an inventory. -/
def inventoryOf (c : Corpus) (d : Document) : Except Fault (List Assertion) :=
  match d.body with
  | .record ⟨_, _, _, _, _, .brd domains⟩ =>
    ((domains.getD []).mapM (c.domainAssertions d.origin)).map List.flatten
  | .record _ => .ok []
  | .page p => (p.inventory.mapM (c.rowAssertions d.origin)).map List.flatten

/-! ## Traces to requirements -/

/-- The requirement that a reference of a document means, by identifier or by path; without a
reference the one of the same stem and format. -/
def linkedRequirement (c : Corpus) (origin : File) (reference : Option String) :
    Except Fault (Option Document) :=
  let requirements := c.ofKind .featureRequest
  match reference with
  | none | some "" =>
    .ok <| requirements.find? fun d =>
      d.origin.stem = origin.stem ∧ d.origin.format = origin.format
  | some r =>
    if isPathReference r then do
      match ← c.resolve origin.directory r with
      | none => return none
      | some path => return (c.document? path).filter fun d => d.origin.kind = .featureRequest
    else
      .ok <| requirements.find? fun d =>
        match d.body with
        | .record ⟨_, _, id, _, _, .featureRequest ..⟩ => id = some r
        | _ => false

/-- The name of the requirement that is looked for. -/
def requirementLabel (origin : File) (reference : Option String) : String :=
  match reference with
  | none | some "" => origin.stem ++ ending .featureRequest origin.format
  | some r => r

/-- The identifiers that a document declares. -/
def identifiersOf (d : Document) : List String :=
  match d.body with
  | .record ⟨_, _, id, _, _, .featureRequest _ _ requirements⟩ =>
    (((requirements.getD []).filterMap Requirement.id) ++ id.toList).filter fun i => !i.isEmpty
  | .record _ => []
  | .page p => p.requirementIds

/-- The reference of a test plan and its cases, by their names and by what they verify. -/
def testCasesOf (d : Document) : Option (Option String × List (String × String)) :=
  match d.body with
  | .record ⟨_, _, _, _, _, .testPlan spec cases⟩ =>
    some (spec, (cases.getD []).filterMap fun t =>
      match t.verifies with
      | none | some "" => none
      | some verifies => some (orUnknown (t.id.getD ""), verifies))
  | .record _ => none
  | .page p => some (p.specLink.map Link.target, p.testCases.map fun t => (t.id, t.verifies))

/-- The assertions about the cases of a test plan. -/
def testTracesOf (c : Corpus) (d : Document) : Except Fault (List Assertion) :=
  match testCasesOf d with
  | none | some (_, []) => .ok []
  | some (reference, cases) => do
    match ← c.linkedRequirement d.origin reference with
    | none =>
      return [.of .testTrace s!"{d.origin.path}: linked requirement spec"
        (some (.noRequirement (requirementLabel d.origin reference)))]
    | some requirement =>
      let declared := identifiersOf requirement
      return cases.map fun (name, verifies) =>
        .of .testTrace s!"{d.origin.path}: {name} verifies {verifies}"
          (if declared.contains verifies then none
          else some (.notDeclaredIn verifies requirement.origin.path))

/-- The reference of an architecture to its requirement; nothing for a document that is none. -/
def architectureReference (d : Document) : Option (Option String) :=
  match d.body with
  | .record ⟨_, _, _, _, _, .architecture spec _⟩ => some spec
  | .record _ => none
  | .page p => some (p.specLink.map Link.target)

/-- The assertion about the reference of an architecture. -/
def architectureTraceOf (c : Corpus) (d : Document) : Except Fault (List Assertion) :=
  let description := s!"{d.origin.path}: requirement spec reference"
  match architectureReference d with
  | none => .ok []
  | some none | some (some "") => .ok [.of .archTrace description (some .noReference)]
  | some (some reference) => do
    let found ← c.linkedRequirement d.origin (some reference)
    return [.of .archTrace description (missingUnless found (.notARequirement reference))]

/-! ## Related documents -/

/-- The documents that a document refers to. -/
def relatedTargets (d : Document) : List String :=
  match d.body with
  | .record r => r.relatedDocuments
  | .page p => (p.specLink.toList ++ p.archLink.toList).map Link.target

/-- The assertions about the documents that a document refers to. -/
def relatedOf (c : Corpus) (d : Document) : Except Fault (List Assertion) :=
  (relatedTargets d).mapM fun target => do
    let found ← c.resolve d.origin.directory target
    return .of .relatedDocs s!"{d.origin.path}: related document '{target}'"
      (missingUnless found (.noDocument target))

/-- The assertions of a category. -/
def assertions (c : Corpus) (category : Category) : Except Fault (List Assertion) :=
  let each (documents : List Document) (f : Document → Except Fault (List Assertion)) :=
    (documents.mapM f).map List.flatten
  match category with
  | .dependency => each c.documents c.dependenciesOf
  | .sdlcChain => .ok c.chains
  | .inventory => each (c.ofKind .brd) c.inventoryOf
  | .testTrace => each (c.ofKind .testPlan) c.testTracesOf
  | .archTrace => each (c.ofKind .architecture) c.architectureTraceOf
  | .relatedDocs => each c.documents c.relatedOf

end Corpus

/-- The assertions of all categories and how many hold. -/
structure CrossReferenceReport where
  categories : List (Category × List Assertion)
  passed : Int
  failed : Int
  total : Int
  deriving DecidableEq, Repr

/-- The report of some assertions by category. -/
def CrossReferenceReport.of (categories : List (Category × List Assertion)) :
    CrossReferenceReport :=
  let all := categories.flatMap Prod.snd
  { categories := categories
    passed := (all.filter fun a => !a.fails).length
    failed := (all.filter Assertion.fails).length
    total := all.length }

/-- Check all references between the specifications of a corpus. -/
def Corpus.crossReference (c : Corpus) : Except Fault CrossReferenceReport := do
  let categories ← Category.all.mapM fun category =>
    (c.assertions category).map fun as => (category, as)
  return .of categories

/-- Whether an assertion fails. -/
def CrossReferenceReport.hasFailures (r : CrossReferenceReport) : Bool := r.failed > 0

/-- The assertions that fail, category by category. -/
def CrossReferenceReport.failures (r : CrossReferenceReport) : List Assertion :=
  (r.categories.flatMap Prod.snd).filter Assertion.fails

theorem Assertion.fails_of (category : Category) (description : String) (breach : Option Breach) :
    (Assertion.of category description breach).fails = breach.isSome := by
  cases breach <;> rfl

end DocAudit.Spec
