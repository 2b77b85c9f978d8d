/-!
# Rules

A rule says what a project's documentation must look like. Its shape holds what is looked at; a
built-in shape names one of the checks that need more than data. The words for all choices are those
of the rule documents. Main statement: every word reads back as what it stands for.
-/

namespace DocAudit

/-- How grave a violation is. -/
inductive Severity where
  | error
  | warning
  | info
  deriving DecidableEq, Repr

/-- Whether a project is open source. -/
inductive ProjectType where
  | openSource
  | internal
  deriving DecidableEq, Repr

/-- How much documentation a project is to have. -/
inductive Scope where
  | small
  | medium
  | large
  deriving DecidableEq, Repr

/-- The checks that are built in. -/
inductive Handler where
  | moduleDocsPlural
  | moduleDocsNotBoth
  | sdlcPhaseNumbering
  | sdlcPhaseOrder
  | checklistCompleteness
  | openSourceCommunityFiles
  | openSourceGithubTemplates
  | templatesPopulated
  | snakeLowerCase
  | filenameUnderscores
  | filenameNoSpaces
  | guideNaming
  | testingFilePlacement
  | tldrRequired
  | tldrUnnecessary
  | glossaryFormat
  | glossaryAlphabetized
  | glossaryAcronyms
  | w3hHub
  | hubLinksPhases
  | noDeepLinks
  | linkResolution
  | relativeLinkResolution
  | adrNaming
  | adrIndexCompleteness
  | phaseArtifactPresence
  | designTracesRequirements
  | planTracesDesign
  | specSchemaValid
  | specCrossReferences
  deriving DecidableEq, Repr

/-- The word for a severity. -/
def Severity.word : Severity → String
  | error => "error"
  | warning => "warning"
  | info => "info"

/-- The word for a type of projects. -/
def ProjectType.word : ProjectType → String
  | openSource => "open_source"
  | internal => "internal"

/-- The word for a scope. -/
def Scope.word : Scope → String
  | small => "small"
  | medium => "medium"
  | large => "large"

/-- The scopes in ascending order. -/
def Scope.rank : Scope → Nat
  | small => 0
  | medium => 1
  | large => 2

/-- The word for a built-in check. -/
def Handler.word : Handler → String
  | moduleDocsPlural => "module_docs_plural"
  | moduleDocsNotBoth => "module_docs_not_both"
  | sdlcPhaseNumbering => "sdlc_phase_numbering"
  | sdlcPhaseOrder => "sdlc_phase_order"
  | checklistCompleteness => "checklist_completeness"
  | openSourceCommunityFiles => "open_source_community_files"
  | openSourceGithubTemplates => "open_source_github_templates"
  | templatesPopulated => "templates_populated"
  | snakeLowerCase => "snake_lower_case"
  | filenameUnderscores => "filename_underscores"
  | filenameNoSpaces => "filename_no_spaces"
  | guideNaming => "guide_naming"
  | testingFilePlacement => "testing_file_placement"
  | tldrRequired => "tldr_required"
  | tldrUnnecessary => "tldr_unnecessary"
  | glossaryFormat => "glossary_format"
  | glossaryAlphabetized => "glossary_alphabetized"
  | glossaryAcronyms => "glossary_acronyms"
  | w3hHub => "w3h_hub"
  | hubLinksPhases => "hub_links_phases"
  | noDeepLinks => "no_deep_links"
  | linkResolution => "link_resolution"
  | relativeLinkResolution => "relative_link_resolution"
  | adrNaming => "adr_naming"
  | adrIndexCompleteness => "adr_index_completeness"
  | phaseArtifactPresence => "phase_artifact_presence"
  | designTracesRequirements => "design_traces_requirements"
  | planTracesDesign => "plan_traces_design"
  | specSchemaValid => "spec_schema_valid"
  | specCrossReferences => "spec_cross_references"

/-- All severities. -/
def Severity.all : List Severity := [error, warning, info]

/-- All types of projects. -/
def ProjectType.all : List ProjectType := [openSource, internal]

/-- All scopes. -/
def Scope.all : List Scope := [small, medium, large]

/-- All built-in checks. -/
def Handler.all : List Handler :=
  [moduleDocsPlural, moduleDocsNotBoth, sdlcPhaseNumbering, sdlcPhaseOrder, checklistCompleteness,
   openSourceCommunityFiles, openSourceGithubTemplates, templatesPopulated, snakeLowerCase,
   filenameUnderscores, filenameNoSpaces, guideNaming, testingFilePlacement, tldrRequired,
   tldrUnnecessary, glossaryFormat, glossaryAlphabetized, glossaryAcronyms, w3hHub, hubLinksPhases,
   noDeepLinks, linkResolution, relativeLinkResolution, adrNaming, adrIndexCompleteness,
   phaseArtifactPresence, designTracesRequirements, planTracesDesign, specSchemaValid,
   specCrossReferences]

/-- The severity of a word. -/
def Severity.ofWord? (w : String) : Option Severity := all.find? fun s => s.word == w

/-- The type of projects of a word. -/
def ProjectType.ofWord? (w : String) : Option ProjectType := all.find? fun t => t.word == w

/-- The scope of a word. -/
def Scope.ofWord? (w : String) : Option Scope := all.find? fun s => s.word == w

/-- The built-in check of a word. -/
def Handler.ofWord? (w : String) : Option Handler := all.find? fun h => h.word == w

/-- What a rule looks at. -/
inductive Shape where
  | fileExists (path : String)
  | dirExists (path : String)
  | dirNotExists (path : String) (message : Option String)
  | fileContentMatches (path pattern : String)
  | fileContentNotMatches (path pattern : String)
  | globContentMatches (glob pattern : String)
  | globContentNotMatches (glob pattern : String) (excludePattern : Option String)
  | globNamingMatches (glob pattern : String)
  | globNamingNotMatches (glob pattern : String) (excludePaths : List String)
      (message : Option String)
  | manifestKeyExists (key manifest : String)
  | manifestKeyMatches (key pattern manifest : String)
  | builtin (handler : Handler)
  deriving DecidableEq, Repr

/-- The word for the type of a shape. -/
def Shape.word : Shape → String
  | fileExists .. => "file_exists"
  | dirExists .. => "dir_exists"
  | dirNotExists .. => "dir_not_exists"
  | fileContentMatches .. => "file_content_matches"
  | fileContentNotMatches .. => "file_content_not_matches"
  | globContentMatches .. => "glob_content_matches"
  | globContentNotMatches .. => "glob_content_not_matches"
  | globNamingMatches .. => "glob_naming_matches"
  | globNamingNotMatches .. => "glob_naming_not_matches"
  | manifestKeyExists .. => "cargo_key_exists"
  | manifestKeyMatches .. => "cargo_key_matches"
  | builtin .. => "builtin"

/-- A rule. Rules that it depends on come before it, and when one of them fails it is skipped. -/
structure Rule where
  id : Int
  category : String
  description : String
  severity : Severity
  shape : Shape
  appliesTo : Option ProjectType
  scope : Option Scope
  dependsOn : List Int
  deriving DecidableEq, Repr

/-- The rules of a document in the order in which they are checked. -/
structure RuleSet where
  rules : List Rule
  /-- Where the rules come from, as messages show it. -/
  source : String
  deriving DecidableEq, Repr

/-- The rule of an identifier. -/
def RuleSet.get? (s : RuleSet) (id : Int) : Option Rule := s.rules.find? fun r => r.id == id

/-- The number of rules. -/
def RuleSet.size (s : RuleSet) : Nat := s.rules.length

theorem Severity.ofWord?_word (s : Severity) : ofWord? s.word = some s := by
  cases s <;> decide

theorem ProjectType.ofWord?_word (t : ProjectType) : ofWord? t.word = some t := by
  cases t <;> decide

theorem Scope.ofWord?_word (s : Scope) : ofWord? s.word = some s := by
  cases s <;> decide

theorem Handler.ofWord?_word (h : Handler) : ofWord? h.word = some h := by
  cases h <;> decide

end DocAudit
