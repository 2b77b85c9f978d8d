import DocAudit.Rule.Default
import DocAudit.Rule.Document
import DocAudit.Text.Letter

/-!
# Settings

What the environment says about where the rules are, which projects they are for and how the server
listens. The names of variables count whatever the case of their letters, and of several spellings
the last one counts. Main statement: an environment without variables of the program leaves the
default settings.
-/

namespace DocAudit

open Text

/-- What the environment settles. -/
structure Settings where
  /-- Where the directory of rules is, if it is not the one that comes with the program. -/
  configDir : Option String
  /-- The rule document, if it is not the default one. -/
  rulesPath : Option String
  projectType : Option ProjectType
  scope : Scope
  host : String
  port : Int
  /-- The token that requests must carry; none need one if it is empty. -/
  token : String
  logLevel : String
  deriving DecidableEq, Repr

/-- The variables of an environment in order. -/
abbrev Environment := List (String × String)

/-- What the names of the program's variables begin with. -/
def variableStart : String := "DOC_ENGINE_"

/-- The fields of settings that an environment holds, by their names. -/
def Environment.fields (env : Environment) : Entries :=
  Value.ofEntries <| env.filterMap fun (name, value) =>
    let name := lowered name
    let start := lowered variableStart
    if startsWith name start then
      some (.str (String.ofList (name.toList.drop start.toList.length)), .str value)
    else none

/-- Read a path in messages' form. -/
def tidyPath : Reader String := fun v => (Reader.path v).map Path.tidy

/-- Read settings from their fields. -/
def Settings.ofEntries (e : Entries) : Checked Settings :=
  Settings.mk <$> Reader.optional ["config_dir"] none (fun v => (tidyPath v).map some) e
    <*> Reader.optional ["rules_path"] none (fun v => (tidyPath v).map some) e
    <*> Reader.optional ["project_type"] none
      (fun v => (Reader.oneOf (ProjectType.all.map fun t => (t.word, t)) v).map some) e
    <*> Reader.optional ["project_scope"] .large
      (Reader.oneOf (Scope.all.map fun s => (s.word, s))) e
    <*> Reader.optional ["host"] "0.0.0.0" Reader.string e
    <*> Reader.optional ["port"] 8000 Reader.integer e
    <*> Reader.optional ["url_token"] "" Reader.string e
    <*> Reader.optional ["log_level"] "WARNING" Reader.string e

/-- The settings that nothing was said about. -/
def Settings.standard : Settings :=
  ⟨none, none, none, .large, "0.0.0.0", 8000, "", "WARNING"⟩

/-- Read settings from an environment. -/
def Settings.ofEnvironment (env : Environment) : Except Error Settings :=
  match Settings.ofEntries env.fields with
  | .ok s => .ok s
  | .bad issues => .error (.misfit issues)

namespace Settings

/-- Where the default rule document is in a directory of rules. -/
def defaultRulesIn (directory : String) : String :=
  Path.tidy (String.ofList (Path.joinTo directory.toList "rules/default.yaml".toList))

/-- Where the default rule document is, if it is not the one that comes with the program. -/
def defaultRulesPath (s : Settings) : Option String := s.configDir.map defaultRulesIn

/-- Where the rule document is, if it is not the one that comes with the program. -/
def effectiveRulesPath (s : Settings) : Option String := s.rulesPath.or s.defaultRulesPath

/-- The text of the default rule document. -/
def defaultText (s : Settings) (w : World) : Except Fault String :=
  match s.defaultRulesPath with
  | some path => w.readText path
  | none => .ok defaultRulesText

/-- The rules that come with the program. -/
def givenRules : Except Error RuleSet := RuleSet.ofText "rules/default.yaml" defaultRulesText

/-- The rules of a document, or else those that the settings point to. -/
def rules (s : Settings) (w : World) (path : Option String) : Except Error RuleSet :=
  match path.or s.effectiveRulesPath with
  | some path => RuleSet.ofFile w path
  | none => givenRules

theorem ofEntries_nil : Settings.ofEntries [] = .ok standard := by
  rfl

/-- An environment without variables of the program leaves the default settings. -/
theorem ofEnvironment_of_fields {env : Environment} (h : env.fields = []) :
    ofEnvironment env = .ok standard := by
  unfold ofEnvironment
  rw [h, ofEntries_nil]

end Settings

end DocAudit
