import DocAudit.Check.Basic
import DocAudit.Glob
import DocAudit.Pattern.Reader
import DocAudit.Toml.Document

/-!
# Checks that need data only

What the rules of all shapes but the built-in one look for. A pattern that is none is a reason not
to look. Main statement: a rule that a file must exist finds nothing exactly when it does.
-/

namespace DocAudit

open Text

/-- The findings of a pattern, or the reason that it is none. -/
def withPattern (kind text : String) (f : Pattern → Except Fault Verdict) :
    Except Fault Verdict := do
  match ← Pattern.ofText text with
  | some p => f p
  | none => return .skipped s!"Invalid {kind} '{text}'"

/-- The files of a project that match a glob, with their texts; what cannot be read is left out. -/
def readMatches (p : Project) (glob : String) : List (String × String) :=
  (Glob.select glob p.files).filterMap fun path =>
    ((p.read path).toOption).map fun text => (path, text)

/-- Whether a text holds a pattern, in lines that do not hold another one if that is given. -/
def holdsForbidden (text : String) (p : Pattern) (exclude : Option Pattern) : Bool :=
  match exclude with
  | none => p.occursIn text
  | some e => (linesOf text).any fun line => !e.occursIn line && p.occursIn line

/-- What a rule about the text of a file finds. -/
def checkContent (ctx : Context) (path pattern : String)
    (wanted : Bool) : Except Fault Verdict := do
  if !(← ctx.project.isFile path) then
    return if wanted then .skipped s!"File '{path}' does not exist" else .clean
  match ctx.project.read path with
  | .error failure => return .skipped failure.message
  | .ok text =>
    withPattern "regex" pattern fun p =>
      return if p.occursIn text == wanted then .clean
        else if wanted then .one path s!"File '{path}' does not match pattern '{pattern}'"
        else .one path s!"File '{path}' contains forbidden pattern '{pattern}'"

/-- What a rule about the texts of files finds that must hold a pattern. -/
def checkContents (ctx : Context) (glob pattern : String) : Except Fault Verdict :=
  withPattern "regex" pattern fun p =>
    let bad := (readMatches ctx.project glob).filter fun (_, text) => !p.occursIn text
    return .found (bad.map fun (path, _) => .at path s!"File does not match pattern '{pattern}'")

/-- What a rule about the texts of files finds that must not hold a pattern. -/
def checkForbidden (ctx : Context) (glob pattern : String) (exclude : Option String) :
    Except Fault Verdict :=
  withPattern "regex" pattern fun p => do
    let findings (e : Option Pattern) : Verdict :=
      let bad := (readMatches ctx.project glob).filter fun (_, text) => holdsForbidden text p e
      .found (bad.map fun (path, _) => .at path s!"File contains forbidden pattern '{pattern}'")
    match exclude with
    | none => return findings none
    | some text => withPattern "exclude regex" text fun e => return findings (some e)

/-- What a rule about the names of files finds that must match a pattern. -/
def checkNames (ctx : Context) (glob pattern : String) : Except Fault Verdict :=
  withPattern "regex" pattern fun p =>
    let bad :=
      (Glob.select glob ctx.project.files).filter fun path => !p.occursIn (Path.nameOf path)
    return .found <| bad.map fun path =>
      .at path s!"Filename '{Path.nameOf path}' does not match pattern '{pattern}'"

/-- The given message, unless it is missing or empty. -/
def messageOr (given : Option String) (other : String) : String :=
  match given with
  | none | some "" => other
  | some m => m

/-- What a rule about the names of files finds that must not match a pattern. -/
def checkForbiddenNames (ctx : Context) (glob pattern : String) (excludePaths : List String)
    (message : Option String) : Except Fault Verdict :=
  withPattern "regex" pattern fun p =>
    let candidates := (Glob.select glob ctx.project.files).filter fun path =>
      !excludePaths.any fun e => startsWith path e
    let bad := candidates.filter fun path => p.occursIn (Path.nameOf path)
    return .found <| bad.map fun path =>
      .at path <| messageOr message
        s!"Filename '{Path.nameOf path}' matches forbidden pattern '{pattern}'"

/-- The value of a dotted key. -/
def dottedValue? : List (List Char) → Value → Option Value
  | [], v => some v
  | part :: parts, v =>
    match v with
    | .dict e => (Value.lookup (String.ofList part) e).bind (dottedValue? parts)
    | _ => none

/-- What is done with the value of a key of a manifest, if the manifest can be read. -/
def withManifest (ctx : Context) (manifest key : String)
    (f : Option Value → Except Fault Verdict) :
    Except Fault Verdict := do
  if !(← ctx.project.isFile manifest) then
    return .skipped s!"Manifest '{manifest}' does not exist"
  match ctx.project.read manifest with
  | .error failure => return .skipped failure.message
  | .ok text =>
    match ← Toml.readDocument text with
    | .error problem => return .skipped s!"Cannot parse '{manifest}': {problem}"
    | .ok table => f (dottedValue? (splitOn '.' key.toList) table)

/-- What a rule about a key of a manifest finds. -/
def checkKey (ctx : Context) (key manifest : String) : Except Fault Verdict :=
  withManifest ctx manifest key fun value =>
    return if value.isSome then .clean else .one manifest s!"Key '{key}' missing from '{manifest}'"

/-- What a rule about the value of a key of a manifest finds. -/
def checkKeyValue (ctx : Context) (key pattern manifest : String) : Except Fault Verdict :=
  withManifest ctx manifest key fun value =>
    match value with
    | none => return .skipped s!"Key '{key}' missing from '{manifest}'"
    | some v =>
      withPattern "regex" pattern fun p => do
        let text ← v.textOrFault
        return if p.occursIn text then .clean
          else .one manifest s!"Key '{key}' value '{text}' does not match pattern '{pattern}'"

/-- What a rule finds whose shape is not built in. -/
def Shape.check (ctx : Context) : Shape → Except Fault Verdict
  | fileExists path => do
    return if ← ctx.project.isFile path then .clean
      else .one path s!"File '{path}' does not exist"
  | dirExists path => do
    return if ← ctx.project.isDirectory path then .clean
      else .one path s!"Directory '{path}' does not exist"
  | dirNotExists path message => do
    return if ← ctx.project.isDirectory path then
        .one path (messageOr message s!"Directory '{path}' should not exist")
      else .clean
  | fileContentMatches path pattern => checkContent ctx path pattern true
  | fileContentNotMatches path pattern => checkContent ctx path pattern false
  | globContentMatches glob pattern => checkContents ctx glob pattern
  | globContentNotMatches glob pattern exclude => checkForbidden ctx glob pattern exclude
  | globNamingMatches glob pattern => checkNames ctx glob pattern
  | globNamingNotMatches glob pattern excludePaths message =>
    checkForbiddenNames ctx glob pattern excludePaths message
  | manifestKeyExists key manifest => checkKey ctx key manifest
  | manifestKeyMatches key pattern manifest => checkKeyValue ctx key pattern manifest
  | builtin _ => .ok .clean

/-- A rule that a file must exist finds nothing exactly when it does. -/
theorem Shape.check_fileExists_eq_clean_iff {ctx : Context} {path : String} :
    (fileExists path).check ctx = .ok .clean ↔ ctx.project.isFile path = .ok true := by
  simp only [check]
  cases h : ctx.project.isFile path with
  | error f => simp [bind, Except.bind]
  | ok b => cases b <;> simp [bind, Except.bind, pure, Except.pure, Verdict.clean, Verdict.one]

end DocAudit
