import DocAudit.Project
import DocAudit.Schema

/-!
# Errors

Why a run gives no report. All but a fault are reported to the caller as what they are.
-/

namespace DocAudit

/-- Why a text is no rule document. -/
inductive RuleError where
  | unreadable (path : String) (refusal : Refusal)
  | illFormed (source problem : String)
  | noRules (source : String)
  | notMapping (index : Nat)
  | unknownType (label : Option Int) (word : String)
  | noHandler (label : Option Int)
  | unknownHandler (label : Option Int) (word : String)
  | misfits (label : Option Int) (issues : List Issue)
  | duplicateId (id : Int)
  | unknownParent (id parent : Int)
  | cyclic (ids : List Int)
  deriving DecidableEq, Repr

namespace RuleError

/-- The rule that is at fault. -/
def ruleId? : RuleError → Option Int
  | unknownType label _ | noHandler label | unknownHandler label _ | misfits label _ => label
  | duplicateId id | unknownParent id _ => some id
  | _ => none

/-- An issue of a rule in words. -/
def issueText (i : Issue) : String :=
  let place := if i.path.isEmpty then "record" else ".".intercalate i.path
  s!"{place}: {i.cause.message}"

/-- What is wrong, without the rule. -/
def reason : RuleError → String
  | unreadable path r => s!"Cannot read rules file '{path}': {r.message path}"
  | illFormed source problem => s!"Invalid YAML in {source}: {problem}"
  | noRules source => s!"{source}: expected a mapping with a 'rules' list"
  | notMapping index => s!"rule #{index + 1} is not a mapping"
  | unknownType _ word => s!"unknown rule type '{word}'"
  | noHandler _ => "builtin rule requires 'handler'"
  | unknownHandler _ word => s!"unknown builtin handler '{word}'"
  | misfits _ issues => "; ".intercalate (issues.map issueText)
  | duplicateId _ => "duplicate rule id"
  | unknownParent _ parent => s!"depends_on references unknown rule {parent}"
  | cyclic ids => "Cyclic depends_on between rules: " ++ ", ".intercalate (ids.map toString)

/-- The error in words. -/
def message (e : RuleError) : String :=
  match e.ruleId? with
  | some id => s!"Rule {id}: {e.reason}"
  | none => e.reason

/-- The integers that the message spells. -/
def integers : RuleError → List Int
  | unknownType label _ | noHandler label | unknownHandler label _ | misfits label _ => label.toList
  | duplicateId id => [id]
  | unknownParent id parent => [id, parent]
  | cyclic ids => ids
  | unreadable .. | illFormed .. | noRules _ | notMapping _ => []

/-- Whether the message spells an integer that is too long for it. -/
def spellsLongInteger (e : RuleError) : Bool := Value.anyHoldsLongInteger (e.integers.map .int)

end RuleError

/-- Why a run gives no report. -/
inductive Error where
  | rules (error : RuleError)
  | noProject (path : String)
  | badFilter (expression : String)
  | misfit (issues : List Issue)
  | fault (fault : Fault)
  deriving DecidableEq, Repr

/-- The error in words. -/
def Error.message : Error → String
  | rules e => e.message
  | noProject path => s!"Path '{path}' does not exist or is not a directory"
  | badFilter expression => s!"Invalid check filter '{expression}'"
  | misfit issues => "; ".intercalate (issues.map RuleError.issueText)
  | fault f => f.message

/-- Whether the error is one that is reported to the caller. -/
def Error.isReported : Error → Bool
  | rules _ | noProject _ | badFilter _ => true
  | misfit _ | fault _ => false

/-- The error that is raised for an error: a message that cannot be written is a fault. -/
def Error.raised : Error → Error
  | rules e => if e.spellsLongInteger then fault .longInteger else rules e
  | e => e

/-- A result whose fault is an error. -/
def orFault {α : Type} (x : Except Fault α) : Except Error α := x.mapError .fault

end DocAudit
