import DocAudit.Check.Structure

/-!
# Checks of hub documents

What the hub of the documentation answers and links to, and what the root document links to. Main
statement: a hub that names every phase directory has no findings.
-/

namespace DocAudit.Check

open Text

/-- Where the hub is. -/
def hubPath : String := "docs/README.md"

/-- The findings in the text of a document. -/
def checkText (p : Project) (path : String) (f : String → Verdict) : Except Fault Verdict := do
  if !(← p.isFile path) then return .skipped s!"{path} not found"
  match p.read path with
  | .error failure => return .skipped failure.message
  | .ok text => return f text

/-- The questions that a hub answers. -/
def hubQuestions : List String := ["who", "what", "why", "how"]

/-- Whether a word stands behind a number sign and blanks, on the line where the blanks end. -/
def isHeaded (word : List Char) : List Char → Bool
  | [] => false
  | c :: s =>
    (c == '#' && (s.head?).any isBlank &&
      occursIn word ((before '\n' (s.dropWhile isBlank)).map lowerChar)) || isHeaded word s

/-- Whether a text answers a question: in a heading or by a word in bold. -/
def answers (text word : String) : Bool :=
  isHeaded word.toList text.toList || contains (lowered text) s!"**{word}**"

/-- The hub answers all questions. -/
def hubAnswers (p : Project) : Except Fault Verdict :=
  checkText p hubPath fun text =>
    let missing := hubQuestions.filter fun word => !answers text word
    if missing.isEmpty then .clean
    else .one hubPath ("Hub document missing W3H sections: " ++ ", ".intercalate missing)

/-- The name of a phase directory: a number, a hyphen, small letters and underscores. A line end
behind it is passed over. -/
def isPhaseName (name : List Char) : Bool :=
  hasNumber name &&
    let word := (name.dropWhile isDecimal).drop 1
    let rest := word.dropWhile fun c => isSmallLetter c || c == '_'
    rest.length < word.length && (rest.isEmpty || rest == ['\n'])

/-- The phase directories that a text does not name. -/
def unnamedPhases (p : Project) (text : String) : List String :=
  (p.subdirectories "docs").filter fun name => isPhaseName name.toList && !contains text name

/-- The hub names every phase directory. -/
def hubLinks (p : Project) : Except Fault Verdict :=
  checkText p hubPath fun text =>
    .found <| (unnamedPhases p text).map fun name =>
      .at hubPath s!"Hub does not link to phase directory '{name}'"

/-- Whether a text begins with the end of a link to a phase document. -/
def startsDeepLink (s : List Char) : Bool :=
  let opening := "](docs/".toList
  opening.isPrefixOf s &&
    let r := s.drop opening.length
    hasNumber r &&
      match (r.dropWhile isDecimal).drop 1 with
      | c :: t => c != ')' && t.contains ')'
      | [] => false

/-- Whether a line links to a phase document. -/
def hasDeepLink : List Char → Bool
  | [] => false
  | c :: s => startsDeepLink (c :: s) || hasDeepLink s

/-- The root document links to no phase document. -/
def noDeepLinks (p : Project) : Except Fault Verdict :=
  checkText p "README.md" fun text =>
    .found <| (((splitLines text.toList).zipIdx 1).filter fun (line, _) => hasDeepLink line).map
      fun (_, i) => .at "README.md" s!"Line {i}: Root README deep-links into docs/ subdirectory"

/-- A hub that names every phase directory has no findings. -/
theorem unnamedPhases_eq_nil {p : Project} {text : String}
    (h : ∀ name ∈ p.subdirectories "docs", contains text name = true) :
    unnamedPhases p text = [] := by
  simp only [unnamedPhases, List.filter_eq_nil_iff]
  intro name hn
  simp [h name hn]

end DocAudit.Check
