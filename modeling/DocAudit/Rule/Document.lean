import DocAudit.Error
import DocAudit.Rule.Order
import DocAudit.World
import DocAudit.Yaml.Document

/-!
# Rule documents

A rule document lists its rules as flat records: the fields that all rules have beside those of
their shape. Main statement: the record of a rule names the type of its shape.
-/

namespace DocAudit

open Text

/-! ## Reading -/

/-- Read a string under a key. -/
def stringUnder (key : String) (e : Entries) : Checked String :=
  Reader.required [key] Reader.string e

/-- Read a string or nothing under a key. -/
def maybeStringUnder (key : String) (e : Entries) : Checked (Option String) :=
  Reader.optional [key] none (Reader.nullable Reader.string) e

/-- The manifest that is looked into unless a rule says otherwise. -/
def defaultManifest : String := "Cargo.toml"

/-- Read a manifest. -/
def manifestUnder (e : Entries) : Checked String :=
  Reader.optional ["manifest"] defaultManifest Reader.string e

/-- The types of shapes with the readers of their fields. -/
def Shape.readers : List (String × (Entries → Checked Shape)) :=
  [("file_exists", fun e => .fileExists <$> stringUnder "path" e),
   ("dir_exists", fun e => .dirExists <$> stringUnder "path" e),
   ("dir_not_exists",
   fun e => .dirNotExists <$> stringUnder "path" e <*> maybeStringUnder "message" e),
   ("file_content_matches", fun e =>
      .fileContentMatches <$> stringUnder "path" e <*> stringUnder "pattern" e),
   ("file_content_not_matches", fun e =>
      .fileContentNotMatches <$> stringUnder "path" e <*> stringUnder "pattern" e),
   ("glob_content_matches", fun e =>
      .globContentMatches <$> stringUnder "glob" e <*> stringUnder "pattern" e),
   ("glob_content_not_matches", fun e =>
      .globContentNotMatches <$> stringUnder "glob" e <*> stringUnder "pattern" e
        <*> maybeStringUnder "exclude_pattern" e),
   ("glob_naming_matches", fun e =>
      .globNamingMatches <$> stringUnder "glob" e <*> stringUnder "pattern" e),
   ("glob_naming_not_matches", fun e =>
      .globNamingNotMatches <$> stringUnder "glob" e <*> stringUnder "pattern" e
        <*> Reader.optional ["exclude_paths"] [] (Reader.tuple Reader.string) e
        <*> maybeStringUnder "message" e),
   ("cargo_key_exists", fun e => .manifestKeyExists <$> stringUnder "key" e <*> manifestUnder e),
   ("cargo_key_matches", fun e =>
      .manifestKeyMatches <$> stringUnder "key" e <*> stringUnder "pattern" e <*> manifestUnder e),
   ("builtin", fun e =>
      .builtin <$> Reader.required ["handler"]
        (Reader.oneOf (Handler.all.map fun h => (h.word, h))) e)]

/-- Whether a value is left out or null. -/
def isAbsent : Option Value → Bool
  | none | some .null => true
  | some _ => false

/-- Read what a rule depends on; null is nothing. -/
def dependsOnUnder (e : Entries) : Checked (List Int) :=
  if isAbsent (Value.lookup "depends_on" e) then .ok []
  else Reader.required ["depends_on"] (Reader.tuple Reader.integer) e

/-- Read a rule from the entries of its record. -/
def Rule.ofEntries (e : Entries) : Checked Rule :=
  Rule.mk <$> Reader.required ["id"] Reader.positive e
    <*> stringUnder "category" e
    <*> stringUnder "description" e
    <*> Reader.required ["severity"] (Reader.oneOf (Severity.all.map fun s => (s.word, s))) e
    <*> Reader.tagged "type" Shape.readers (.dict e)
    <*> Reader.optional ["applies_to", "project_type"] none
      (Reader.nullable (Reader.oneOf (ProjectType.all.map fun t => (t.word, t)))) e
    <*> Reader.optional ["scope"] none
      (Reader.nullable (Reader.oneOf (Scope.all.map fun s => (s.word, s)))) e
    <*> dependsOnUnder e

/-- The identifier by which messages name a record, if it has one. -/
def labelOf (e : Entries) : Option Int :=
  match Value.lookup "id" e with
  | some (.int n) => some n
  | _ => none

/-- The text of a value that may be left out. -/
def textOf (v : Option Value) : Except Error String := orFault (v.getD .null).textOrFault

/-- Check the type of a record and, if it is built in, its handler. -/
def checkType (e : Entries) : Except Error Unit := do
  let kind := Value.lookup "type" e
  match kind.bind Value.string? with
  | some word =>
    if (Shape.readers.lookup word).isNone then .error (.rules (.unknownType (labelOf e) word))
    else if word == "builtin" then
      let handler := Value.lookup "handler" e
      if isAbsent handler then .error (.rules (.noHandler (labelOf e)))
      else if ((handler.bind Value.string?).bind Handler.ofWord?).isSome then .ok ()
      else do .error (.rules (.unknownHandler (labelOf e) (← textOf handler)))
    else .ok ()
  | none => .error (.rules (.unknownType (labelOf e) (← textOf kind)))

/-- Read the rule of a number in its document. -/
def Rule.ofValue (index : Nat) (v : Value) : Except Error Rule :=
  match v with
  | .dict e => do
    checkType e
    match Rule.ofEntries e with
    | .ok r => return r
    | .bad issues => .error (.rules (.misfits (labelOf e) issues))
  | _ => .error (.rules (.notMapping index))

/-- Read records one after the other, no two of which may have one identifier. -/
def rulesFrom (index : Nat) (seen : List Int) : List Value → Except Error (List Rule)
  | [] => .ok []
  | v :: vs => do
    let r ← Rule.ofValue index v
    if seen.contains r.id then .error (.rules (.duplicateId r.id))
    else
      let rest ← rulesFrom (index + 1) (r.id :: seen) vs
      return r :: rest

/-- The first rule that depends on an identifier which no rule has, with that. -/
def unknownParent? (rules : List Rule) : Option (Int × Int) :=
  let ids := rules.map Rule.id
  rules.findSome? fun r => (r.dependsOn.find? fun d => !ids.contains d).map fun d => (r.id, d)

/-- The rules in their order. The error of a circle spells the identifiers of the rules in it. -/
def Rule.order (rules : List Rule) : Except Error (List Rule) :=
  (Rule.inOrder rules).mapError fun ids => Error.raised (.rules (.cyclic ids))

/-- Put rules in order, if they depend on one another only. -/
def RuleSet.ofRules (source : String) (rules : List Rule) : Except Error RuleSet :=
  match unknownParent? rules with
  | some (id, parent) => .error (Error.raised (.rules (.unknownParent id parent)))
  | none => (Rule.order rules).map fun ordered => ⟨ordered, source⟩

/-- The list of records in a document. -/
def recordsOf (v : Value) : Option (List Value) :=
  match v with
  | .dict e =>
    match Value.lookup "rules" e with
    | some (.list records) => some records
    | _ => none
  | _ => none

/-- Read the rules of a document. -/
def RuleSet.ofValue (source : String) (v : Value) : Except Error RuleSet :=
  match recordsOf v with
  | none => .error (.rules (.noRules source))
  | some records => (do RuleSet.ofRules source (← rulesFrom 0 [] records)).mapError Error.raised

/-- Read the rules of a document in YAML. -/
def RuleSet.ofText (source text : String) : Except Error RuleSet :=
  match Value.ofYaml? text.toList with
  | .ok v => RuleSet.ofValue source v
  | .error (.scalar f) => .error (.fault (.scalar f))
  | .error .tooDeep => .error (.fault .tooDeep)
  | .error e => .error (.rules (.illFormed source (e.message text.toList)))

/-- Read the rules of a file. That the file is not there is an error of the rules; that its bytes
are no text is a fault. -/
def RuleSet.ofFile (w : World) (path : String) : Except Error RuleSet :=
  match w.readText path with
  | .ok text => RuleSet.ofText (Path.tidy path) text
  | .error (.refused shown r) => .error (.rules (.unreadable shown r))
  | .error f => .error (.fault f)

/-! ## Writing -/

/-- A string or null. -/
def maybeStr (s : Option String) : Value := (s.map Value.str).getD .null

/-- The fields of a shape. -/
def Shape.fields (s : Shape) : List (String × Value) :=
  ("type", .str s.word) ::
    match s with
    | fileExists path => [("path", .str path)]
    | dirExists path => [("path", .str path)]
    | dirNotExists path message => [("path", .str path), ("message", maybeStr message)]
    | fileContentMatches path pattern => [("path", .str path), ("pattern", .str pattern)]
    | fileContentNotMatches path pattern => [("path", .str path), ("pattern", .str pattern)]
    | globContentMatches glob pattern => [("glob", .str glob), ("pattern", .str pattern)]
    | globContentNotMatches glob pattern exclude =>
      [("glob", .str glob), ("pattern", .str pattern), ("exclude_pattern", maybeStr exclude)]
    | globNamingMatches glob pattern => [("glob", .str glob), ("pattern", .str pattern)]
    | globNamingNotMatches glob pattern excludes message =>
      [("glob", .str glob), ("pattern", .str pattern),
       ("exclude_paths", .list (excludes.map .str)), ("message", maybeStr message)]
    | manifestKeyExists key manifest => [("key", .str key), ("manifest", .str manifest)]
    | manifestKeyMatches key pattern manifest =>
      [("key", .str key), ("pattern", .str pattern), ("manifest", .str manifest)]
    | builtin handler => [("handler", .str handler.word)]

/-- A mapping with texts for keys. -/
def Value.ofFields (fields : List (String × Value)) : Value :=
  .dict (fields.map fun (k, v) => (.str k, v))

/-- The record of a rule. -/
def Rule.record (r : Rule) : Value :=
  .ofFields <|
    [("id", .int r.id), ("category", .str r.category), ("description", .str r.description),
     ("severity", .str r.severity.word)] ++ r.shape.fields ++
    (r.appliesTo.map fun t => ("applies_to", .str t.word)).toList ++
    (r.scope.map fun s => ("scope", .str s.word)).toList ++
    if r.dependsOn.isEmpty then [] else [("depends_on", .list (r.dependsOn.map .int))]

/-- The document of rules. -/
def RuleSet.document (s : RuleSet) : Value :=
  .ofFields [("rules", .list (s.rules.map Rule.record))]

/-- A rule on one line. -/
def Rule.line (r : Rule) : String :=
  let id := toString r.id
  let extras := (r.appliesTo.map ProjectType.word).toList ++
    (r.scope.map fun s => s!"scope={s.word}").toList ++
    if r.dependsOn.isEmpty then []
    else ["depends_on=" ++ ",".intercalate (r.dependsOn.map toString)]
  "".pushn ' ' (4 - id.length) ++
    s!"{id} [{r.severity.word}] {r.category}/{r.shape.word}: {r.description}" ++
    if extras.isEmpty then "" else " (" ++ "; ".intercalate extras ++ ")"

/-- The rules, one on a line. -/
def RuleSet.text (s : RuleSet) : String := "\n".intercalate (s.rules.map Rule.line)

/-- The integers that the lines of rules spell. -/
def RuleSet.integers (s : RuleSet) : List Int := s.rules.flatMap fun r => r.id :: r.dependsOn

/-- The rules, one on a line, if all their integers can be written. -/
def RuleSet.textOrFault (s : RuleSet) : Except Fault String :=
  if Value.anyHoldsLongInteger (s.integers.map .int) then .error .longInteger else .ok s.text

/-- The record of a rule names the type of its shape. -/
theorem Shape.head_fields (s : Shape) : s.fields.head? = some ("type", .str s.word) := rfl

end DocAudit
