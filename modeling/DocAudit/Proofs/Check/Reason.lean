import DocAudit.Check.Builtin
import DocAudit.Proofs.Except

/-!
# Reasons of checks

A check that does not look gives a reason, and so does a run that does not come to a check. A reader
of a report can tell the two apart: no check gives a reason that begins as those of a run do
(`Rule.not_isReasonOfRun_of_check`).
-/

namespace DocAudit

open Text

/-- A reason begins as that of a rule which does not apply to the project. -/
def isMismatchReason (reason : String) : Bool := startsWith reason "Skipped: requires "

/-- A reason begins as that of a rule which depends on one that failed. -/
def isDependencyReason (reason : String) : Bool := startsWith reason "dependency check "

/-- A reason begins as one that a run gives. -/
def isReasonOfRun (reason : String) : Bool := isMismatchReason reason || isDependencyReason reason

/-- If a check does not look, it has a reason of its own for that. -/
def HasOwnReason (x : Except Fault Verdict) : Prop :=
  ∀ reason, x = .ok (.skipped reason) → isReasonOfRun reason = false

/-- The beginnings of a run's reasons are told by their first two letters. -/
theorem not_isReasonOfRun {reason : String} (h : reason.toList.take 2 ≠ ['S', 'k'])
    (h' : reason.toList.take 2 ≠ ['d', 'e']) : isReasonOfRun reason = false := by
  have hof : ∀ start : String, startsWith reason start = true → 2 ≤ start.toList.length →
      reason.toList.take 2 = start.toList.take 2 := by
    intro start hstart hlength
    obtain ⟨rest, hrest⟩ := List.isPrefixOf_iff_prefix.1 hstart
    rw [← hrest, List.take_append_of_le_length hlength]
  refine Bool.or_eq_false_iff.2 ⟨?_, ?_⟩
  · exact Bool.eq_false_iff.2 fun hstart => h (hof _ hstart (by decide))
  · exact Bool.eq_false_iff.2 fun hstart => h' (hof _ hstart (by decide))

/-- What a file cannot be read for is no reason of a run. -/
theorem not_isReasonOfRun_message (f : ReadFailure) : isReasonOfRun f.message = false :=
  not_isReasonOfRun (by simp [ReadFailure.message, toString])
    (by simp [ReadFailure.message, toString])

namespace HasOwnReason

theorem found (findings : List Finding) : HasOwnReason (.ok (.found findings)) := by
  intro reason h
  cases h

theorem error (f : Fault) : HasOwnReason (.error f) := by
  intro reason h
  cases h

theorem skipped {reason : String} (h : reason.toList.take 2 ≠ ['S', 'k'])
    (h' : reason.toList.take 2 ≠ ['d', 'e']) : HasOwnReason (.ok (.skipped reason)) := by
  intro reason' heq
  cases heq
  exact not_isReasonOfRun h h'

theorem unreadable (f : ReadFailure) : HasOwnReason (.ok (.skipped f.message)) := by
  intro reason h
  cases h
  exact not_isReasonOfRun_message f

theorem bind {α : Type} {x : Except Fault α} {f : α → Except Fault Verdict}
    (h : ∀ a, HasOwnReason (f a)) : HasOwnReason (x >>= f) := by
  cases x with
  | error e => exact error e
  | ok a => exact h a

/-- Nothing is wrong, or something is. -/
theorem ite {c : Prop} [Decidable c] (fs fs' : List Finding) :
    HasOwnReason (.ok (if c then .found fs else .found fs')) := by
  split
  · exact found fs
  · exact found fs'

end HasOwnReason

open HasOwnReason

/-! ## Checks that need data only -/

theorem hasOwnReason_withPattern (kind text : String) {f : Pattern → Except Fault Verdict}
    (hf : ∀ p, HasOwnReason (f p)) : HasOwnReason (withPattern kind text f) := by
  refine .bind fun found => ?_
  cases found with
  | some p => exact hf p
  | none => exact .skipped (by simp [toString]) (by simp [toString])

/-- A check of the text of a file has its own reason if the file is not there or cannot be read. -/
theorem hasOwnReason_withText {p : Project} {path : String} {absent : Verdict}
    {f : String → Except Fault Verdict} (habsent : HasOwnReason (.ok absent))
    (hf : ∀ text, HasOwnReason (f text)) :
    HasOwnReason (do
      if !(← p.isFile path) then return absent
      match p.read path with
      | .error failure => return .skipped failure.message
      | .ok text => f text) := by
  refine .bind fun isFile => ?_
  split
  · exact habsent
  · split
    · exact .unreadable _
    · exact hf _

theorem hasOwnReason_checkContent (ctx : Context) (path pattern : String) (wanted : Bool) :
    HasOwnReason (checkContent ctx path pattern wanted) := by
  refine hasOwnReason_withText ?_ fun text => hasOwnReason_withPattern _ _ fun p => ?_
  · split
    · exact .skipped (by simp [toString]) (by simp [toString])
    · exact .found []
  · change HasOwnReason (.ok _)
    split
    · exact .found []
    · exact .ite _ _

theorem hasOwnReason_checkContents (ctx : Context) (glob pattern : String) :
    HasOwnReason (checkContents ctx glob pattern) :=
  hasOwnReason_withPattern _ _ fun _ => .found _

theorem hasOwnReason_checkForbidden (ctx : Context) (glob pattern : String)
    (exclude : Option String) :
    HasOwnReason (checkForbidden ctx glob pattern exclude) := by
  refine hasOwnReason_withPattern _ _ fun p => ?_
  cases exclude with
  | none => exact .found _
  | some text => exact hasOwnReason_withPattern _ _ fun e => .found _

theorem hasOwnReason_checkNames (ctx : Context) (glob pattern : String) :
    HasOwnReason (checkNames ctx glob pattern) :=
  hasOwnReason_withPattern _ _ fun _ => .found _

theorem hasOwnReason_checkForbiddenNames (ctx : Context) (glob pattern : String)
    (excludePaths : List String) (message : Option String) :
    HasOwnReason (checkForbiddenNames ctx glob pattern excludePaths message) :=
  hasOwnReason_withPattern _ _ fun _ => .found _

theorem hasOwnReason_withManifest (ctx : Context) (manifest key : String)
    {f : Option Value → Except Fault Verdict} (hf : ∀ v, HasOwnReason (f v)) :
    HasOwnReason (withManifest ctx manifest key f) := by
  refine hasOwnReason_withText ?_ fun text => .bind fun read => ?_
  · exact .skipped (by simp [toString]) (by simp [toString])
  · split
    · exact .skipped (by simp [toString]) (by simp [toString])
    · exact hf _

theorem hasOwnReason_checkKey (ctx : Context) (key manifest : String) :
    HasOwnReason (checkKey ctx key manifest) :=
  hasOwnReason_withManifest _ _ _ fun _ => .ite _ _

theorem hasOwnReason_checkKeyValue (ctx : Context) (key pattern manifest : String) :
    HasOwnReason (checkKeyValue ctx key pattern manifest) := by
  refine hasOwnReason_withManifest _ _ _ fun value => ?_
  cases value with
  | none => exact .skipped (by simp [toString]) (by simp [toString])
  | some v => exact hasOwnReason_withPattern _ _ fun p => .bind fun text => .ite _ _

theorem Shape.hasOwnReason_check (ctx : Context) (s : Shape) : HasOwnReason (s.check ctx) := by
  cases s with
  | fileExists => exact .bind fun _ => .ite _ _
  | dirExists => exact .bind fun _ => .ite _ _
  | dirNotExists => exact .bind fun _ => .ite _ _
  | fileContentMatches path pattern => exact hasOwnReason_checkContent ctx path pattern true
  | fileContentNotMatches path pattern => exact hasOwnReason_checkContent ctx path pattern false
  | globContentMatches glob pattern => exact hasOwnReason_checkContents ctx glob pattern
  | globContentNotMatches glob pattern exclude =>
    exact hasOwnReason_checkForbidden ctx glob pattern exclude
  | globNamingMatches glob pattern => exact hasOwnReason_checkNames ctx glob pattern
  | globNamingNotMatches glob pattern excludes message =>
    exact hasOwnReason_checkForbiddenNames ctx glob pattern excludes message
  | manifestKeyExists key manifest => exact hasOwnReason_checkKey ctx key manifest
  | manifestKeyMatches key pattern manifest =>
    exact hasOwnReason_checkKeyValue ctx key pattern manifest
  | builtin => exact .found []

/-! ## Built-in checks -/

namespace Check

theorem hasOwnReason_checkEachName (p : Project) (isBad : String → Bool)
    (message : String → String) :
    HasOwnReason (.ok (checkEachName p isBad message)) := by
  unfold checkEachName
  split
  · exact .skipped (by decide) (by decide)
  · exact .found _

theorem hasOwnReason_guideNames (p : Project) : HasOwnReason (.ok (guideNames p)) := by
  unfold guideNames
  dsimp only
  split
  · exact .skipped (by decide) (by decide)
  · exact .found _

theorem hasOwnReason_checkExtents (p : Project) (isBad : Extent → Bool)
    (message : Nat → String) :
    HasOwnReason (.ok (checkExtents p isBad message)) := by
  unfold checkExtents
  split
  · exact .skipped (by decide) (by decide)
  · exact .found _

theorem hasOwnReason_checkGlossary (p : Project) (f : List (List Char × Nat) → List String) :
    HasOwnReason (checkGlossary p f) :=
  hasOwnReason_withText (.skipped (by decide) (by decide)) fun _ => .found _

theorem hasOwnReason_checkText (p : Project) {path : String} (f : String → Verdict)
    (hpath : HasOwnReason (.ok (.skipped s!"{path} not found")))
    (hf : ∀ text, HasOwnReason (.ok (f text))) : HasOwnReason (checkText p path f) :=
  hasOwnReason_withText hpath hf

theorem hasOwnReason_checkPhases (p : Project) (f : List Phase → List Finding) :
    HasOwnReason (checkPhases p f) := by
  refine .bind fun isDirectory => ?_
  split
  · exact .found _
  · exact .skipped (by decide) (by decide)

theorem hasOwnReason_checklist (p : Project) : HasOwnReason (checklist p) :=
  hasOwnReason_withText (.skipped (by decide) (by decide)) fun _ => .ite _ _

theorem hasOwnReason_templates (p : Project) : HasOwnReason (templates p) := by
  refine .bind fun isDirectory => ?_
  split
  · exact .skipped (by decide) (by decide)
  · exact .ite _ _

theorem hasOwnReason_checkLinks (p : Project) (applies : LocalLink → Bool) (kind : String) :
    HasOwnReason (checkLinks p applies kind) := by
  unfold checkLinks
  dsimp only
  split
  · exact .skipped (by decide) (by decide)
  · exact .bind fun _ => .found _

theorem hasOwnReason_decisionNames (p : Project) : HasOwnReason (decisionNames p) := by
  refine .bind fun isDirectory => ?_
  split
  · exact .skipped (by decide) (by decide)
  · dsimp only
    split
    · exact .skipped (by decide) (by decide)
    · exact .found _

theorem hasOwnReason_decisionIndex (p : Project) : HasOwnReason (decisionIndex p) := by
  refine .bind fun isDirectory => ?_
  split
  · exact .skipped (by decide) (by decide)
  · refine .bind fun index => ?_
    split
    · exact .skipped (by decide) (by decide)
    · split
      · exact .unreadable _
      · exact .found _

theorem hasOwnReason_artifacts (p : Project) : HasOwnReason (artifacts p) := by
  refine .bind fun existing => ?_
  split
  · exact .skipped (by decide) (by decide)
  · exact .found _

theorem TraceRule.hasOwnReason_check {r : TraceRule} (p : Project)
    (hdirectory : HasOwnReason (.ok (.skipped s!"{r.directory}/ does not exist"))) :
    HasOwnReason (r.check p) := by
  refine .bind fun isDirectory => ?_
  split
  · exact hdirectory
  · dsimp only
    split
    · exact .skipped (by simp [toString]) (by simp [toString])
    · exact .found _

theorem hasOwnReason_withSpecs (p : Project) (f : Spec.Corpus → Except Fault (List Finding)) :
    HasOwnReason (withSpecs p f) := by
  refine .bind fun corpus => ?_
  split
  · exact .skipped (by decide) (by decide)
  · exact .bind fun _ => .found _

end Check

open Check in
/-- No built-in check gives a reason of a run. -/
theorem Handler.hasOwnReason_registry (p : Project) :
    ∀ entry ∈ registry, HasOwnReason (entry.2 p) := by
  simp only [registry, List.forall_mem_cons, List.not_mem_nil, false_implies, implies_true,
    and_true]
  refine ⟨.found _, .found _, hasOwnReason_checkPhases p _, hasOwnReason_checkPhases p _,
    hasOwnReason_checklist p, .bind fun _ => .bind fun _ => .found _,
    .bind fun _ => .bind fun _ => .found _, hasOwnReason_templates p,
    hasOwnReason_checkEachName p _ _, hasOwnReason_checkEachName p _ _,
    hasOwnReason_checkEachName p _ _, hasOwnReason_guideNames p, .found _,
    hasOwnReason_checkExtents p _ _, hasOwnReason_checkExtents p _ _,
    hasOwnReason_checkGlossary p _, hasOwnReason_checkGlossary p _, hasOwnReason_checkGlossary p _,
    ?_, ?_, ?_, hasOwnReason_checkLinks p _ _, hasOwnReason_checkLinks p _ _,
    hasOwnReason_decisionNames p, hasOwnReason_decisionIndex p, hasOwnReason_artifacts p, ?_, ?_,
    hasOwnReason_withSpecs p _, hasOwnReason_withSpecs p _⟩
  · exact hasOwnReason_checkText p _ (.skipped (by decide) (by decide)) fun _ => .ite _ _
  · exact hasOwnReason_checkText p _ (.skipped (by decide) (by decide)) fun _ => .found _
  · exact hasOwnReason_checkText p _ (.skipped (by decide) (by decide)) fun _ => .found _
  · exact TraceRule.hasOwnReason_check p (.skipped (by decide) (by decide))
  · exact TraceRule.hasOwnReason_check p (.skipped (by decide) (by decide))

theorem mem_of_lookup {α β : Type} [BEq α] [LawfulBEq α] {k : α} {v : β}
    {entries : List (α × β)} (h : entries.lookup k = some v) : (k, v) ∈ entries := by
  obtain ⟨before, after, rfl, -⟩ := List.lookup_eq_some_iff.1 h
  simp

/-- What looks for the breaches of a rule is registered for its handler, or is told by its shape. -/
theorem Rule.look_cases (r : Rule) :
    (∃ handler look, r.shape = .builtin handler ∧ (handler, look) ∈ Handler.registry ∧
      ∀ ctx, r.toCheck.look ctx = look ctx.project) ∨
        ∀ ctx, r.toCheck.look ctx = r.shape.check ctx := by
  have hcheck : Check.ofRule r = .ok r.toCheck := Check.ofRule_eq r
  unfold Check.ofRule at hcheck
  split at hcheck
  · rename_i handler hshape
    split at hcheck
    · rename_i look hlook
      refine .inl ⟨handler, look, hshape, mem_of_lookup hlook, fun ctx => ?_⟩
      rw [← Except.ok.inj hcheck]
    · cases hcheck
  · rw [← Except.ok.inj hcheck]
    exact .inr fun _ => rfl

/-- A rule of a handler is checked by what is registered for it. -/
theorem Rule.check_of_builtin {r : Rule} {handler : Handler}
    {look : Project → Except Fault Verdict}
    (hshape : r.shape = .builtin handler) (hlook : Handler.registry.lookup handler = some look)
    (ctx : Context) : r.check ctx = (look ctx.project).map r.result := by
  have hcheck := Check.ofRule_eq r
  rw [Check.ofRule, hshape] at hcheck
  dsimp only at hcheck
  rw [hlook] at hcheck
  rw [Rule.check, Check.run, ← Except.ok.inj hcheck]

theorem Rule.hasOwnReason_look (r : Rule) (ctx : Context) : HasOwnReason (r.toCheck.look ctx) := by
  obtain ⟨handler, look, -, hlook, heq⟩ | heq := r.look_cases
  · rw [heq]
    exact Handler.hasOwnReason_registry ctx.project _ hlook
  · rw [heq]
    exact r.shape.hasOwnReason_check ctx

/-- No check gives a reason that begins as those of a run do. -/
theorem Rule.not_isReasonOfRun_of_check {r : Rule} {ctx : Context} {reason : String}
    (h : r.check ctx = .ok (.skip reason)) : isReasonOfRun reason = false := by
  rw [check, Check.run, rule_toCheck] at h
  obtain ⟨v, hlook, hresult⟩ := map_eq_ok_iff.1 h
  unfold Rule.result at hresult
  split at hresult
  · cases hresult
    exact r.hasOwnReason_look ctx reason hlook
  · cases hresult
  · cases hresult

end DocAudit
