import DocAudit.Rule.Document

/-!
# The default rules

The rule document that is used unless another one is asked for, section by section.
-/

namespace DocAudit

/-- The comment that opens the document. -/
def introduction : List String :=
  ["# doc-engine 既定ルール定義",
   "#",
   "# 各ルールは id / category / description / severity / type を持ち、",
   "# type ごとの判定フィールドを続けて書く。",
   "#   applies_to: open_source | internal  (省略時は全プロジェクト)",
   "#   scope:      small | medium | large  (設定スコープ以下のルールのみ実行)",
   "#   depends_on: 前提ルールID。前提がfailした場合はskipになる",
   "",
   "rules:"]

/-- Rules about directories. -/
def structureRules : List String :=
  ["  # --- structure ---------------------------------------------------------",
   "  - id: 1",
   "    category: structure",
   "    description: docs/ directory exists",
   "    severity: error",
   "    type: dir_exists",
   "    path: docs",
   "",
   "  - id: 2",
   "    category: structure",
   "    description: Root README exists",
   "    severity: error",
   "    type: file_exists",
   "    path: README.md",
   "",
   "  - id: 3",
   "    category: structure",
   "    description: Documentation hub README exists",
   "    severity: error",
   "    type: file_exists",
   "    path: docs/README.md",
   "    depends_on: [1]",
   "",
   "  - id: 4",
   "    category: structure",
   "    description: Requirements phase directory exists",
   "    severity: error",
   "    type: dir_exists",
   "    path: docs/1-requirements",
   "    depends_on: [1]",
   "    scope: medium",
   "",
   "  - id: 5",
   "    category: structure",
   "    description: Design phase directory exists",
   "    severity: warning",
   "    type: dir_exists",
   "    path: docs/3-design",
   "    depends_on: [1]",
   "    scope: medium",
   "",
   "  - id: 6",
   "    category: structure",
   "    description: Testing phase directory exists",
   "    severity: warning",
   "    type: dir_exists",
   "    path: docs/5-testing",
   "    depends_on: [1]",
   "    scope: large",
   "",
   "  - id: 7",
   "    category: structure",
   "    description: Legacy singular doc/ folder is not used at the root",
   "    severity: warning",
   "    type: dir_not_exists",
   "    path: doc",
   "    message: Use 'docs/' instead of 'doc/' for documentation",
   "",
   "  - id: 8",
   "    category: structure",
   "    description: Module documentation folders are named docs/",
   "    severity: warning",
   "    type: builtin",
   "    handler: module_docs_plural",
   "",
   "  - id: 9",
   "    category: structure",
   "    description: Modules do not carry both doc/ and docs/",
   "    severity: error",
   "    type: builtin",
   "    handler: module_docs_not_both",
   "",
   "  - id: 10",
   "    category: structure",
   "    description: SDLC phase directories are numbered 1 through 7",
   "    severity: error",
   "    type: builtin",
   "    handler: sdlc_phase_numbering",
   "    depends_on: [1]",
   "",
   "  - id: 11",
   "    category: structure",
   "    description: SDLC phase numbers are unique and ascending",
   "    severity: error",
   "    type: builtin",
   "    handler: sdlc_phase_order",
   "    depends_on: [10]",
   "",
   "  - id: 12",
   "    category: structure",
   "    description: Compliance checklist has at least ten items",
   "    severity: info",
   "    type: builtin",
   "    handler: checklist_completeness",
   "    depends_on: [5]",
   "    scope: large",
   "",
   "  - id: 13",
   "    category: structure",
   "    description: Document templates directory is populated",
   "    severity: info",
   "    type: builtin",
   "    handler: templates_populated",
   "    depends_on: [1]",
   ""]

/-- Rules about names. -/
def namingRules : List String :=
  ["  # --- naming ------------------------------------------------------------",
   "  - id: 14",
   "    category: naming",
   "    description: Documentation filenames are lowercase",
   "    severity: warning",
   "    type: builtin",
   "    handler: snake_lower_case",
   "    depends_on: [1]",
   "",
   "  - id: 15",
   "    category: naming",
   "    description: Documentation filenames use underscores instead of hyphens",
   "    severity: warning",
   "    type: builtin",
   "    handler: filename_underscores",
   "    depends_on: [1]",
   "",
   "  - id: 16",
   "    category: naming",
   "    description: Documentation filenames contain no spaces",
   "    severity: error",
   "    type: builtin",
   "    handler: filename_no_spaces",
   "    depends_on: [1]",
   "",
   "  - id: 17",
   "    category: naming",
   "    description: Guides follow name_\x7bphase\x7d_guide.md",
   "    severity: info",
   "    type: builtin",
   "    handler: guide_naming",
   "    depends_on: [1]",
   "",
   "  - id: 18",
   "    category: naming",
   "    description: Testing documents live under the testing phase",
   "    severity: warning",
   "    type: builtin",
   "    handler: testing_file_placement",
   "    depends_on: [1]",
   "",
   "  - id: 19",
   "    category: naming",
   "    description: No uppercase markdown filenames under docs/ except conventional ones",
   "    severity: info",
   "    type: glob_naming_not_matches",
   "    glob: \"docs/**/*.md\"",
   "    pattern: \"[A-Z]\x7b2,\x7d[a-z]\"",
   "    exclude_paths: [\"docs/3-design/adr/\"]",
   "    message: Mixed-case documentation filename",
   "",
   "  - id: 20",
   "    category: naming",
   "    description: Spec files use lowercase snake_case stems",
   "    severity: warning",
   "    type: glob_naming_matches",
   "    glob: \"docs/**/*.spec\"",
   "    pattern: \"^[a-z0-9_]+\\\\.spec$\"",
   ""]

/-- Rules about texts. -/
def contentRules : List String :=
  ["  # --- content -----------------------------------------------------------",
   "  - id: 21",
   "    category: content",
   "    description: Long documents start with a TLDR",
   "    severity: info",
   "    type: builtin",
   "    handler: tldr_required",
   "    depends_on: [1]",
   "    scope: medium",
   "",
   "  - id: 22",
   "    category: content",
   "    description: Short documents do not carry a TLDR",
   "    severity: info",
   "    type: builtin",
   "    handler: tldr_unnecessary",
   "    depends_on: [1]",
   "    scope: large",
   "",
   "  - id: 23",
   "    category: content",
   "    description: Glossary entries use '**Term** - Definition'",
   "    severity: warning",
   "    type: builtin",
   "    handler: glossary_format",
   "    depends_on: [1]",
   "",
   "  - id: 24",
   "    category: content",
   "    description: Glossary terms are alphabetized",
   "    severity: info",
   "    type: builtin",
   "    handler: glossary_alphabetized",
   "    depends_on: [23]",
   "",
   "  - id: 25",
   "    category: content",
   "    description: Glossary acronyms carry their expansion",
   "    severity: info",
   "    type: builtin",
   "    handler: glossary_acronyms",
   "    depends_on: [23]",
   "",
   "  - id: 26",
   "    category: content",
   "    description: Root README has a title heading",
   "    severity: warning",
   "    type: file_content_matches",
   "    path: README.md",
   "    pattern: \"^# \\\\S\"",
   "    depends_on: [2]",
   "",
   "  - id: 27",
   "    category: content",
   "    description: Documentation carries no unresolved TODO markers",
   "    severity: info",
   "    type: glob_content_not_matches",
   "    glob: \"docs/**/*.md\"",
   "    pattern: \"\\\\bTODO\\\\b\"",
   "    exclude_pattern: \"^\\\\s*(\x60\x60\x60|    )\"",
   "    scope: large",
   "",
   "  - id: 28",
   "    category: content",
   "    description: Root README contains no placeholder text",
   "    severity: warning",
   "    type: file_content_not_matches",
   "    path: README.md",
   "    pattern: \"(?i)lorem ipsum\"",
   "",
   "  - id: 29",
   "    category: content",
   "    description: Requirement documents state their version",
   "    severity: info",
   "    type: glob_content_matches",
   "    glob: \"docs/1-requirements/**/*.md\"",
   "    pattern: \"\\\\*\\\\*Version:\\\\*\\\\*\"",
   "    depends_on: [4]",
   "    scope: large",
   ""]

/-- Rules about hubs. -/
def navigationRules : List String :=
  ["  # --- navigation --------------------------------------------------------",
   "  - id: 30",
   "    category: navigation",
   "    description: Hub README answers who, what, why and how",
   "    severity: warning",
   "    type: builtin",
   "    handler: w3h_hub",
   "    depends_on: [3]",
   "",
   "  - id: 31",
   "    category: navigation",
   "    description: Hub README mentions every phase directory",
   "    severity: warning",
   "    type: builtin",
   "    handler: hub_links_phases",
   "    depends_on: [3, 11]",
   "",
   "  - id: 32",
   "    category: navigation",
   "    description: Root README links the hub instead of deep phase documents",
   "    severity: info",
   "    type: builtin",
   "    handler: no_deep_links",
   "    depends_on: [2]",
   ""]

/-- Rules about links. -/
def linkRules : List String :=
  ["  # --- links -------------------------------------------------------------",
   "  - id: 33",
   "    category: links",
   "    description: Internal markdown links resolve",
   "    severity: error",
   "    type: builtin",
   "    handler: link_resolution",
   "    depends_on: [1]",
   "",
   "  - id: 34",
   "    category: links",
   "    description: Relative links of any kind resolve",
   "    severity: warning",
   "    type: builtin",
   "    handler: relative_link_resolution",
   "    depends_on: [33]",
   ""]

/-- Rules about decision records. -/
def adrRules : List String :=
  ["  # --- adr ---------------------------------------------------------------",
   "  - id: 35",
   "    category: adr",
   "    description: ADR files are named NNN-title.md",
   "    severity: warning",
   "    type: builtin",
   "    handler: adr_naming",
   "    depends_on: [5]",
   "    scope: medium",
   "",
   "  - id: 36",
   "    category: adr",
   "    description: Every ADR is listed in the ADR index",
   "    severity: warning",
   "    type: builtin",
   "    handler: adr_index_completeness",
   "    depends_on: [35]",
   "    scope: medium",
   ""]

/-- Rules about traces between phases. -/
def traceabilityRules : List String :=
  ["  # --- traceability ------------------------------------------------------",
   "  - id: 37",
   "    category: traceability",
   "    description: Populated phase directories hold their expected artifact",
   "    severity: warning",
   "    type: builtin",
   "    handler: phase_artifact_presence",
   "    depends_on: [11]",
   "    scope: medium",
   "",
   "  - id: 38",
   "    category: traceability",
   "    description: Design documents reference requirements",
   "    severity: info",
   "    type: builtin",
   "    handler: design_traces_requirements",
   "    depends_on: [5]",
   "    scope: large",
   "",
   "  - id: 39",
   "    category: traceability",
   "    description: Planning documents reference the architecture",
   "    severity: info",
   "    type: builtin",
   "    handler: plan_traces_design",
   "    depends_on: [5]",
   "    scope: large",
   ""]

/-- Rules for open-source projects. -/
def openSourceRules : List String :=
  ["  # --- open source -------------------------------------------------------",
   "  - id: 40",
   "    category: open_source",
   "    description: LICENSE file exists",
   "    severity: error",
   "    type: file_exists",
   "    path: LICENSE",
   "    applies_to: open_source",
   "",
   "  - id: 41",
   "    category: open_source",
   "    description: CONTRIBUTING guide exists",
   "    severity: warning",
   "    type: file_exists",
   "    path: CONTRIBUTING.md",
   "    applies_to: open_source",
   "",
   "  - id: 42",
   "    category: open_source",
   "    description: Code of conduct and support files exist",
   "    severity: warning",
   "    type: builtin",
   "    handler: open_source_community_files",
   "    applies_to: open_source",
   "",
   "  - id: 43",
   "    category: open_source",
   "    description: GitHub issue and pull request templates exist",
   "    severity: info",
   "    type: builtin",
   "    handler: open_source_github_templates",
   "    applies_to: open_source",
   "    scope: medium",
   "",
   "  - id: 44",
   "    category: open_source",
   "    description: SECURITY policy exists",
   "    severity: warning",
   "    type: file_exists",
   "    path: SECURITY.md",
   "    applies_to: open_source",
   "    scope: large",
   ""]

/-- Rules about manifests. -/
def manifestRules : List String :=
  ["  # --- manifest ----------------------------------------------------------",
   "  - id: 45",
   "    category: manifest",
   "    description: Cargo manifest declares a package description",
   "    severity: info",
   "    type: cargo_key_exists",
   "    key: package.description",
   "",
   "  - id: 46",
   "    category: manifest",
   "    description: Cargo manifest declares an SPDX license",
   "    severity: info",
   "    type: cargo_key_matches",
   "    key: package.license",
   "    pattern: \"^[A-Za-z0-9.+-]+( (OR|AND) [A-Za-z0-9.+-]+)*$\"",
   "    depends_on: [45]",
   "    applies_to: open_source",
   ""]

/-- Rules about specifications. -/
def specRules : List String :=
  ["  # --- specs -------------------------------------------------------------",
   "  - id: 47",
   "    category: specs",
   "    description: Spec files parse and satisfy their schema",
   "    severity: error",
   "    type: builtin",
   "    handler: spec_schema_valid",
   "",
   "  - id: 48",
   "    category: specs",
   "    description: Spec files reference each other consistently",
   "    severity: error",
   "    type: builtin",
   "    handler: spec_cross_references",
   "    depends_on: [47]",
   ""]

/-- The text of the document. -/
def defaultRulesText : String :=
  "\n".intercalate
    (introduction ++ structureRules ++ namingRules ++ contentRules ++ navigationRules ++
      linkRules ++ adrRules ++ traceabilityRules ++ openSourceRules ++ manifestRules ++ specRules)

end DocAudit
