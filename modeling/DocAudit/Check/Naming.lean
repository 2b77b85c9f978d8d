import DocAudit.Check.Basic

/-!
# Checks of names

What the names of documentation files must look like, and where guides and test documents belong.
-/

namespace DocAudit.Check

open Text

/-- Why there is nothing to look at. -/
def noDocuments : Verdict := .skipped "No .md files in docs/"

/-- The Markdown files below `docs`. -/
def documents (p : Project) : List String := (p.filesUnder "docs").filter fun f => endsWith f ".md"

/-- Files whose names are in capitals by convention. -/
def conventionalNames : List String :=
  ["README.md", "CHANGELOG.md", "CONTRIBUTING.md", "SECURITY.md"]

/-- The Markdown files whose names are looked at; decision records have a rule of their own. -/
def namedDocuments (p : Project) : List String :=
  (documents p).filter fun f =>
    !startsWith f "docs/3-design/adr/" && !conventionalNames.contains (Path.nameOf f)

/-- The findings among the Markdown files with a bad name. -/
def checkEachName (p : Project) (isBad : String → Bool) (message : String → String) : Verdict :=
  if (documents p).isEmpty then noDocuments
  else
    .found <| ((namedDocuments p).filter fun f => isBad (Path.nameOf f)).map fun f =>
      .at f (message (Path.nameOf f))

/-- Names are in lower case. -/
def lowerCaseNames (p : Project) : Verdict :=
  checkEachName p (fun name => withoutEnding name ".md" != lowered (withoutEnding name ".md"))
    fun name => s!"Filename '{name}' contains uppercase characters"

/-- Digits, then a hyphen. -/
def hasNumber (name : List Char) : Bool :=
  !(name.takeWhile isDecimal).isEmpty && (name.dropWhile isDecimal).head? == some '-'

/-- Names have no hyphens except behind a number. -/
def underscoredNames (p : Project) : Verdict :=
  checkEachName p
    (fun name =>
      let stem := (withoutEnding name ".md").toList
      stem.contains '-' && !hasNumber stem)
    fun name => s!"Filename '{name}' contains hyphens; use underscores"

/-- Names have no spaces. -/
def spacelessNames (p : Project) : Verdict :=
  checkEachName p (fun name => name.toList.contains ' ')
    fun name => s!"Filename '{name}' contains spaces"

/-- The text before an ending, behind which a line end is passed over. -/
def beforeEnding (ending s : List Char) : Option (List Char) :=
  if ending.isSuffixOf s then some (s.take (s.length - ending.length))
  else if (ending ++ ['\n']).isSuffixOf s then some (s.take (s.length - ending.length - 1))
  else none

/-- A small ASCII letter. -/
def isSmallLetter (c : Char) : Bool := 'a' ≤ c && c ≤ 'z'

/-- The name of a guide: words of small letters, the last of which is the phase, then the ending. -/
def isGuideName (name : List Char) : Bool :=
  match beforeEnding "_guide.md".toList name with
  | none => false
  | some words =>
    let phase := words.reverse.takeWhile (· != '_')
    let before := words.reverse.dropWhile (· != '_')
    words.all (fun c => isSmallLetter c || c == '_') && !phase.isEmpty && 2 ≤ before.length

/-- Guides are named by phase. -/
def guideNames (p : Project) : Verdict :=
  let guides := p.files.filter fun f => contains f "guide/" && endsWith f ".md"
  if guides.isEmpty then .skipped "No guide files found"
  else
    let bad := guides.filter fun f =>
      Path.nameOf f != "README.md" && !isGuideName (Path.nameOf f).toList
    .found <| bad.map fun f =>
      .at f ("Guide file '" ++ Path.nameOf f ++
        "' doesn't follow name_\x7bphase\x7d_guide.md convention")

/-- Test documents stand below the testing phase. -/
def testingPlacement (p : Project) : Verdict :=
  let bad := (p.filesUnder "docs").filter fun f =>
    contains (Path.nameOf f) "_testing_" && !contains f "5-testing"
  .found <| bad.map fun f => .at f s!"Testing file '{Path.nameOf f}' found outside 5-testing/"

end DocAudit.Check
