import DocAudit.Proofs.Check.Reason
import DocAudit.Proofs.Rule.Writing
import DocAudit.Proofs.Scan.Run
import Std.Data.String.ToInt

/-!
# Reports

A report accounts for every selected rule (`Accounted`): it says that the rule does not apply to the
project, or names the first of the rules it depends on that fails in the same report, or gives what
the check of the rule gives. Which of these it is can be told from the reason alone, as the reasons
of a run differ from one another and from those of all checks. `RuleSet.runChecks_of_ofText` says so
of all sets of rules that are read from a document.
-/

namespace DocAudit

/-! ## Reasons -/

theorem isMismatchReason_typeReason (wanted detected : ProjectType) :
    isMismatchReason (typeReason wanted detected) := by
  -- the texts are laid open first, since `simp` would compare them folded by evaluation
  unfold isMismatchReason typeReason Text.startsWith
  simp only [toString]
  simp

theorem isMismatchReason_scopeReason (wanted configured : Scope) :
    isMismatchReason (scopeReason wanted configured) := by
  unfold isMismatchReason scopeReason Text.startsWith
  simp only [toString]
  simp

theorem isDependencyReason_failedReason (d : Int) : isDependencyReason (failedReason d) := by
  unfold isDependencyReason failedReason Text.startsWith
  simp only [toString]
  simp

theorem isMismatchReason_failedReason (d : Int) : isMismatchReason (failedReason d) = false := by
  unfold isMismatchReason failedReason Text.startsWith
  simp only [toString]
  simp [List.isPrefixOf]

/-- A reason tells which type of projects a rule is for. -/
theorem typeReason_inj {t t' detected : ProjectType} :
    typeReason t detected = typeReason t' detected ↔ t = t' := by
  unfold typeReason
  simp only [toString]
  cases t <;> cases t' <;> simp [ProjectType.word]

/-- A reason tells which scope a rule is for. -/
theorem scopeReason_inj {k k' configured : Scope} :
    scopeReason k configured = scopeReason k' configured ↔ k = k' := by
  unfold scopeReason
  simp only [toString]
  cases k <;> cases k' <;> simp [Scope.word]

theorem typeReason_ne_scopeReason (t detected : ProjectType) (k configured : Scope) :
    typeReason t detected ≠ scopeReason k configured := by
  unfold typeReason scopeReason
  simp only [toString]
  cases t <;> cases k <;> cases detected <;> cases configured <;>
    simp [ProjectType.word, Scope.word]

theorem typeReason_ne_failedReason (t detected : ProjectType) (d : Int) :
    typeReason t detected ≠ failedReason d := by
  intro h
  simpa [h, isMismatchReason_failedReason] using isMismatchReason_typeReason t detected

theorem scopeReason_ne_failedReason (k configured : Scope) (d : Int) :
    scopeReason k configured ≠ failedReason d := by
  intro h
  simpa [h, isMismatchReason_failedReason] using isMismatchReason_scopeReason k configured

/-- A reason tells which rule has failed. -/
theorem failedReason_inj {d d' : Int} : failedReason d = failedReason d' ↔ d = d' := by
  unfold failedReason
  simp only [toString]
  simp

/-! ## Outcomes -/

variable {ctx : Context} {report done es : List Entry} {c : Check} {cs : List Check}
    {result : Result}

/-- A rule applies to a project: it is not for projects of another type or of a larger scope. -/
structure Rule.Suits (ctx : Context) (r : Rule) : Prop where
  type : ∀ t, r.appliesTo = some t → t = ctx.projectType
  scope : ∀ k, r.scope = some k → k.rank ≤ ctx.scope.rank

/-- The first rule that another one names among those it depends on and that fails. -/
def Rule.FirstFailure (report : List Entry) (r : Rule) (d : Int) : Prop :=
  ∃ pre post, r.dependsOn = pre ++ d :: post ∧ (∀ d' ∈ pre, ¬Fails report d') ∧
    Fails report d

/-- What comes of a check beside the other entries of a report. -/
inductive Outcome (ctx : Context) (report : List Entry) (c : Check) : Result → Prop where
  | wrongType {t : ProjectType} (wanted : c.rule.appliesTo = some t)
      (differs : t ≠ ctx.projectType) :
    Outcome ctx report c (.skip (typeReason t ctx.projectType))
  | aboveScope {k : Scope} (type : ∀ t, c.rule.appliesTo = some t → t = ctx.projectType)
      (wanted : c.rule.scope = some k) (above : ctx.scope.rank < k.rank) :
    Outcome ctx report c (.skip (scopeReason k ctx.scope))
  | blocked {d : Int} (suits : c.rule.Suits ctx) (first : c.rule.FirstFailure report d) :
    Outcome ctx report c (.skip (failedReason d))
  | checked {result : Result} (suits : c.rule.Suits ctx)
      (free : ∀ d ∈ c.rule.dependsOn, ¬Fails report d) (run : c.run ctx = .ok result) :
    Outcome ctx report c result

/-- There is but one first failure. -/
theorem Rule.FirstFailure.unique {r : Rule} {d d' : Int} (h : r.FirstFailure report d)
    (h' : r.FirstFailure report d') : d = d' := by
  obtain ⟨pre, post, hsplit, hpre, hfails⟩ := h
  obtain ⟨pre', post', hsplit', hpre', hfails'⟩ := h'
  obtain ⟨as, rfl, has⟩ | ⟨as, rfl, has⟩ :=
    List.append_eq_append_iff.1 (hsplit.symm.trans hsplit')
  · cases as with
    | nil => exact (List.cons.inj has).1
    | cons a as =>
      obtain rfl := (List.cons.inj has).1
      exact absurd hfails (hpre' d (by simp))
  · cases as with
    | nil => exact (List.cons.inj has).1.symm
    | cons a as =>
      obtain rfl := (List.cons.inj has).1
      exact absurd hfails' (hpre d' (by simp))

theorem Rule.appliesTo_filter_eq_none_iff {r : Rule} :
    r.appliesTo.filter (· ≠ ctx.projectType) = none ↔
      ∀ t, r.appliesTo = some t → t = ctx.projectType := by
  simp [Option.filter_eq_none_iff]

/-- Each result that a check has after the entries of a report is one of the outcomes. -/
theorem outcome_of_resultAfter (hids : (report.map Entry.id).Nodup)
    (h : c.resultAfter ctx report = .ok result) : Outcome ctx report c result := by
  unfold Check.resultAfter Rule.mismatch? at h
  cases htype : c.rule.appliesTo.filter (· ≠ ctx.projectType) with
  | some t =>
    obtain ⟨hwanted, hdiffers⟩ := Option.filter_eq_some_iff.1 htype
    simp only [htype, Except.ok.injEq] at h
    subst h
    exact .wrongType hwanted (by simpa using hdiffers)
  | none =>
    have hsame := Rule.appliesTo_filter_eq_none_iff.1 htype
    cases hscope : c.rule.scope.filter (fun s => s.rank > ctx.scope.rank) with
    | some k =>
      obtain ⟨hwanted, habove⟩ := Option.filter_eq_some_iff.1 hscope
      simp only [htype, hscope, Option.map_some, Except.ok.injEq] at h
      subst h
      exact .aboveScope hsame hwanted (by simpa using habove)
    | none =>
      have hsuits : c.rule.Suits ctx :=
        ⟨hsame, by simpa [Option.filter_eq_none_iff] using hscope⟩
      simp only [htype, hscope, Option.map_none] at h
      cases hfind : c.rule.dependsOn.find? (hasFailed report) with
      | some d =>
        obtain ⟨hfails, pre, post, hsplit, hpre⟩ := List.find?_eq_some_iff_append.1 hfind
        simp only [hfind] at h
        obtain rfl := eq_skip_of_blockedBy h
        refine .blocked hsuits ⟨pre, post, hsplit, fun d' hd' hfail => ?_, ?_⟩
        · simpa [(hasFailed_eq_true_iff hids).2 hfail] using hpre d' hd'
        · exact (hasFailed_eq_true_iff hids).1 hfails
      | none =>
        simp only [hfind] at h
        refine .checked hsuits (fun d hd hfail => ?_) h
        exact List.find?_eq_none.1 hfind d hd ((hasFailed_eq_true_iff hids).2 hfail)

namespace Outcome

/-- The reasons of the check of a rule are its own. -/
theorem reason_ne (h : c.run ctx = .ok result) (hown : c.rule.toCheck = c) {reason : String}
    (hrun : isReasonOfRun reason) : result ≠ .skip reason := by
  rintro rfl
  rw [← hown] at h
  simpa [hrun] using Rule.not_isReasonOfRun_of_check h

/-- A rule is reported to be for another type of projects exactly if it is. -/
theorem eq_typeReason_iff (h : Outcome ctx report c result) (hown : c.rule.toCheck = c)
    {t : ProjectType} :
    result = .skip (typeReason t ctx.projectType) ↔
      c.rule.appliesTo = some t ∧ t ≠ ctx.projectType := by
  cases h with
  | @wrongType t' wanted differs =>
    rw [Result.skip.injEq, typeReason_inj, wanted, Option.some.injEq]
    exact ⟨fun h => ⟨h, h ▸ differs⟩, And.left⟩
  | @aboveScope k type wanted above =>
    rw [Result.skip.injEq]
    exact iff_of_false (typeReason_ne_scopeReason _ _ _ _).symm fun ⟨h, hne⟩ => hne (type t h)
  | @blocked d suits first =>
    rw [Result.skip.injEq]
    exact iff_of_false (typeReason_ne_failedReason _ _ _).symm fun ⟨h, hne⟩ =>
      hne (suits.type t h)
  | checked suits free run =>
    refine iff_of_false (reason_ne run hown ?_) fun ⟨h, hne⟩ => hne (suits.type t h)
    simp [isReasonOfRun, isMismatchReason_typeReason]

/-- A rule is reported to be for a larger scope exactly if it is, and for the type of the
project. -/
theorem eq_scopeReason_iff (h : Outcome ctx report c result) (hown : c.rule.toCheck = c)
    {k : Scope} :
    result = .skip (scopeReason k ctx.scope) ↔
      (∀ t, c.rule.appliesTo = some t → t = ctx.projectType) ∧ c.rule.scope = some k ∧
        ctx.scope.rank < k.rank := by
  cases h with
  | @wrongType t' wanted differs =>
    rw [Result.skip.injEq]
    exact iff_of_false (typeReason_ne_scopeReason _ _ _ _) fun ⟨h, _⟩ => differs (h t' wanted)
  | @aboveScope k' type wanted above =>
    rw [Result.skip.injEq, scopeReason_inj, wanted, Option.some.injEq]
    exact ⟨fun h => ⟨type, h, h ▸ above⟩, fun h => h.2.1⟩
  | @blocked d suits first =>
    rw [Result.skip.injEq]
    refine iff_of_false (scopeReason_ne_failedReason _ _ _).symm ?_
    exact fun ⟨_, h, hlt⟩ => hlt.not_ge (suits.scope k h)
  | checked suits free run =>
    refine iff_of_false (reason_ne run hown ?_) fun ⟨_, h, hlt⟩ => hlt.not_ge (suits.scope k h)
    simp [isReasonOfRun, isMismatchReason_scopeReason]

/-- A rule is reported to depend on a failed one exactly if it applies to the project and that one
is the first of those it names that fails. -/
theorem eq_failedReason_iff (h : Outcome ctx report c result) (hown : c.rule.toCheck = c)
    {d : Int} :
    result = .skip (failedReason d) ↔ c.rule.Suits ctx ∧ c.rule.FirstFailure report d := by
  cases h with
  | @wrongType t wanted differs =>
    rw [Result.skip.injEq]
    exact iff_of_false (typeReason_ne_failedReason _ _ _) fun ⟨h, _⟩ =>
      differs (h.type t wanted)
  | @aboveScope k type wanted above =>
    rw [Result.skip.injEq]
    exact iff_of_false (scopeReason_ne_failedReason _ _ _) fun ⟨h, _⟩ =>
      above.not_ge (h.scope k wanted)
  | @blocked d' suits first =>
    rw [Result.skip.injEq, failedReason_inj]
    refine ⟨fun h => ⟨suits, h ▸ first⟩, fun ⟨_, first'⟩ => ?_⟩
    exact first.unique first'
  | checked suits free run =>
    refine iff_of_false (reason_ne run hown ?_) ?_
    · simp [isReasonOfRun, isDependencyReason_failedReason]
    · rintro ⟨-, pre, post, hsplit, -, hfails⟩
      exact free d (by simp [hsplit]) hfails

end Outcome

/-! ## Whole reports -/

/-- An entry of a report accounts for the rule of a check: with what the rule says of itself, and
with a result that follows from the project, from the other entries or from the check alone. -/
structure Accounted (ctx : Context) (report : List Entry) (c : Check) (e : Entry) : Prop where
  id : e.id = c.rule.id
  category : e.category = c.rule.category
  description : e.description = c.rule.description
  severity : e.severity = c.rule.severity
  wrongType : ∀ t, e.result = .skip (typeReason t ctx.projectType) ↔
    c.rule.appliesTo = some t ∧ t ≠ ctx.projectType
  aboveScope : ∀ k, e.result = .skip (scopeReason k ctx.scope) ↔
    (∀ t, c.rule.appliesTo = some t → t = ctx.projectType) ∧ c.rule.scope = some k ∧
      ctx.scope.rank < k.rank
  blocked : ∀ d, e.result = .skip (failedReason d) ↔
    c.rule.Suits ctx ∧ c.rule.FirstFailure report d
  checked : c.rule.Suits ctx → (∀ d ∈ c.rule.dependsOn, ¬Fails report d) →
    c.run ctx = .ok e.result

theorem Outcome.accounted (h : Outcome ctx report c result) (hown : c.rule.toCheck = c) :
    Accounted ctx report c (c.rule.entry result) where
  id := rfl
  category := rfl
  description := rfl
  severity := rfl
  wrongType _ := h.eq_typeReason_iff hown
  aboveScope _ := h.eq_scopeReason_iff hown
  blocked _ := h.eq_failedReason_iff hown
  checked hsuits hfree := by
    cases h with
    | wrongType wanted differs => exact absurd (hsuits.type _ wanted) differs
    | aboveScope type wanted above => exact absurd (hsuits.scope _ wanted) above.not_ge
    | blocked suits first =>
      obtain ⟨pre, post, hsplit, -, hfails⟩ := first
      exact absurd hfails (hfree _ (by simp [hsplit]))
    | checked suits free run => exact run

/-- A rule that fails depends on none that does. -/
theorem Outcome.not_fails (h : Outcome ctx report c result) (hfail : result.isFail) :
    ∀ d ∈ c.rule.dependsOn, ¬Fails report d := by
  cases h with
  | checked suits free run => exact free
  | wrongType => simp [Result.isFail] at hfail
  | aboveScope => simp [Result.isFail] at hfail
  | blocked => simp [Result.isFail] at hfail

/-- Rules that stand after all that they depend on make checks that go forward. -/
theorem Rule.Settled.forward {rules : List Rule} (h : Settled rules) :
    Forward (rules.map Rule.toCheck) where
  self c hc hdep := by
    obtain ⟨r, hr, rfl⟩ := List.mem_map.1 hc
    rw [rule_toCheck] at hdep
    exact (h.idxOf_lt ⟨r, hr, rfl, hdep⟩).ne rfl
  later := by
    refine List.pairwise_map.2 (List.pairwise_iff_getElem.2 fun i j hi hj hij => ?_)
    simp only [rule_toCheck]
    intro hdep
    have hlt := h.idxOf_lt ⟨rules[i], List.getElem_mem hi, rfl, hdep⟩
    have hidx : ∀ k (hk : k < rules.length), (rules.map Rule.id).idxOf rules[k].id = k := by
      intro k hk
      have hmap := h.nodup.idxOf_getElem k (by simpa using hk)
      rwa [List.getElem_map] at hmap
    rw [hidx i hi, hidx j hj] at hlt
    exact hlt.not_gt hij

/-- The rules of a set that is read from a document stand after all that they depend on. -/
theorem RuleSet.settled_of_ofText {source text : String} {s : RuleSet}
    (h : RuleSet.ofText source text = .ok s) : Rule.Settled s.rules := by
  obtain ⟨v, -, hv⟩ := exists_ofValue_of_ofText h
  obtain ⟨records, rules, ordered, -, -, hclosed, hplacing, rfl⟩ :=
    ofValue_eq_ok_iff_placing.1 hv
  exact hplacing.settled hclosed.nodup

/-- The checks of the rules that are selected. -/
theorem filter_map_toCheck (selection : Option (List Int)) (rules : List Rule) :
    (rules.map Rule.toCheck).filter (fun c => isSelected selection c.rule) =
      (rules.filter (isSelected selection)).map Rule.toCheck := by
  simp [List.filter_map, Function.comp_def]

theorem Rule.Settled.sublist_forward {rules part : List Rule} (h : Settled rules)
    (hsub : part.Sublist rules) : Forward (part.map Rule.toCheck) :=
  h.forward.sublist (hsub.map _)

theorem map_id_runAfter_toCheck {rules : List Rule}
    (h : runAfter ctx done (rules.map Rule.toCheck) = .ok es) :
    es.map Entry.id = rules.map Rule.id := by
  simpa [Function.comp_def] using map_id_runAfter h

/-- Each rule of a selection has its outcome in the report of the run. -/
theorem Rule.Settled.forall₂_outcome {rules part : List Rule} (h : Settled rules)
    (hsub : part.Sublist rules) (hes : runAfter ctx [] (part.map Rule.toCheck) = .ok es) :
    List.Forall₂ (fun r e => Outcome ctx es r.toCheck e.result ∧ e = r.entry e.result)
      part es := by
  have hids : (es.map Entry.id).Nodup := by
    rw [map_id_runAfter_toCheck hes]
    exact h.nodup.sublist (hsub.map Rule.id)
  have hresults := (h.sublist_forward hsub).forall₂_resultAfter hes
  refine (List.forall₂_map_left_iff.1 hresults).imp fun r e he => ⟨?_, by simpa using he.2⟩
  exact outcome_of_resultAfter hids (by simpa using he.1)

/-- The report of a selection from rules that are read from a document. If all checks give a result
that the run comes to, then there is a report, unless the run comes to a rule that it has to skip
for one whose identifier is too long to be named: then it ends with a fault. A report has one entry
for each selected rule, in the order of the rules, which accounts for it. No rule fails that depends
on one that does, a rule that is skipped for another one stands beside the failure of that one, and
the summary adds up to the number of selected rules. -/
theorem RuleSet.runChecks_of_ofText {source text : String} {s : RuleSet}
    (h : RuleSet.ofText source text = .ok s) :
    ∃ checks, s.checks = .ok checks ∧ checks.map Check.rule = s.rules ∧
      ∀ (ctx : Context) (selection : Option (List Int)),
        (∀ c, Invokes ctx [] (checks.filter fun c => isSelected selection c.rule) c →
          ∃ result, c.run ctx = .ok result) →
        ((∃ es, runChecks ctx selection checks = .ok es) ↔
          ¬Stumbles ctx [] (checks.filter fun c => isSelected selection c.rule)) ∧
        (Stumbles ctx [] (checks.filter fun c => isSelected selection c.rule) →
          runChecks ctx selection checks = .error .longInteger) ∧
        ∀ es, runChecks ctx selection checks = .ok es →
          List.Forall₂ (Accounted ctx es)
            (checks.filter fun c => isSelected selection c.rule) es ∧
          (∀ e ∈ es, e.result.isFail → ∀ r ∈ s.rules, r.id = e.id →
            ∀ d ∈ r.dependsOn, ¬Fails es d) ∧
          (∀ e ∈ es, ∀ d, e.result = .skip (failedReason d) →
            d ∈ es.map Entry.id ∧ ∀ e' ∈ es, e'.id = d → e'.result.isFail) ∧
          (Summary.of es).total =
            (Summary.of es).passed + (Summary.of es).failed + (Summary.of es).skipped ∧
          (Summary.of es).total = (s.rules.filter (isSelected selection)).length := by
  have hsettled := settled_of_ofText h
  refine ⟨s.rules.map Rule.toCheck, s.checks_eq, by simp [Function.comp_def], ?_⟩
  intro ctx selection hrun
  refine ⟨exists_runAfter_eq_ok_iff hrun, fun hstumbles => hstumbles.runAfter_eq_error, ?_⟩
  intro es hes
  unfold runChecks at hes
  rw [filter_map_toCheck] at hes ⊢
  have hsub : (s.rules.filter (isSelected selection)).Sublist s.rules := List.filter_sublist
  have hids := map_id_runAfter_toCheck hes
  have hnodup : (es.map Entry.id).Nodup := by
    rw [hids]
    exact hsettled.nodup.sublist (hsub.map Rule.id)
  have houtcomes := hsettled.forall₂_outcome hsub hes
  refine ⟨?_, ?_, ?_, Summary.total_of es, ?_⟩
  · refine List.forall₂_map_left_iff.2 (houtcomes.imp fun r e ⟨houtcome, he⟩ => ?_)
    rw [he]
    simpa using houtcome.accounted (by simp)
  · intro e he hfail r hr hid
    obtain ⟨r', hr', houtcome, heq⟩ := exists_of_forall₂ houtcomes he
    have hid' : e.id = r'.id := congrArg Entry.id heq
    obtain rfl := Rule.eq_of_id_eq hsettled.nodup hr (hsub.subset hr') (hid.trans hid')
    simpa using houtcome.not_fails hfail
  · intro e he d hskip
    obtain ⟨r, -, houtcome, -⟩ := exists_of_forall₂ houtcomes he
    obtain ⟨-, pre, post, -, -, e', he', hid, hfail⟩ :=
      (houtcome.eq_failedReason_iff (by simp)).1 hskip
    refine ⟨List.mem_map.2 ⟨e', he', hid⟩, fun e'' he'' hid' => ?_⟩
    rwa [List.inj_on_of_nodup_map hnodup he'' he' (hid'.trans hid.symm)]
  · have hlength : es.length = (s.rules.filter (isSelected selection)).length := by
      simpa using congrArg List.length hids
    simp [Summary.of, hlength]

/-- A project in which there is nothing. -/
def emptyContext : Context := ⟨⟨"", .dir [], [], [], []⟩, .internal, .small⟩

theorem exists_check_twoRules :
    ∀ r ∈ twoRules, ∃ result, r.check emptyContext = .ok result := by
  simp only [twoRules, List.forall_mem_cons, List.not_mem_nil, false_implies, implies_true,
    and_true]
  exact ⟨⟨_, rfl⟩, ⟨_, rfl⟩⟩

theorem runChecks_twoRules :
    runChecks emptyContext none (twoRules.map Rule.toCheck) =
      .ok [⟨1, "a", "b", .error, .fail [⟨1, some "q", "File 'q' does not exist", .error⟩]⟩,
        ⟨2, "a", "b", .info, .skip (failedReason 1)⟩] :=
  toOption_eq_some_iff.1 (by decide +kernel)

/-- Where there is nothing, the first of two rules fails and the second is skipped for it. -/
theorem RuleSet.runChecks_of_ofText_twoRulesText :
    RuleSet.ofText "" twoRulesText = .ok ⟨twoRules, ""⟩ ∧
      ∃ checks e e', RuleSet.checks ⟨twoRules, ""⟩ = .ok checks ∧
        runChecks emptyContext none checks = .ok [e, e'] ∧
        List.Forall₂ (Accounted emptyContext [e, e']) checks [e, e'] ∧
        e.result.isFail ∧ e'.result = .skip (failedReason 1) ∧
        (Summary.of [e, e']).total = 2 := by
  have hok := ofText_twoRulesText
  obtain ⟨checks, hchecks, hrules, hreport⟩ := RuleSet.runChecks_of_ofText hok
  obtain rfl : twoRules.map Rule.toCheck = checks :=
    Except.ok.inj ((RuleSet.checks_eq ⟨twoRules, ""⟩).symm.trans hchecks)
  have hall : (twoRules.map Rule.toCheck).filter (fun c => isSelected none c.rule) =
      twoRules.map Rule.toCheck := by
    simp [isSelected]
  have hspec := hreport emptyContext none
  rw [hall] at hspec
  obtain ⟨-, -, hentries⟩ := hspec <| by
    rintro c ⟨pre, post, es, hsplit, -⟩
    obtain ⟨r, hr, rfl⟩ := List.mem_map.1 (hsplit ▸ by simp : c ∈ twoRules.map Rule.toCheck)
    exact exists_check_twoRules r hr
  obtain ⟨haccounted, -, -, -, htotal⟩ := hentries _ runChecks_twoRules
  exact ⟨hok, _, _, _, hchecks, runChecks_twoRules, haccounted, rfl, rfl, htotal⟩

/-- Two rules, of which the second one depends on the first, which has the least identifier that is
too long for a text. -/
def longRules : List Rule :=
  [⟨leastLong, "a", "b", .error, .fileExists "q", none, none, []⟩,
   ⟨1, "a", "b", .info, .dirExists "p", none, none, [leastLong]⟩]

theorem ofValue_longRules :
    RuleSet.ofValue "" (RuleSet.document ⟨longRules, ""⟩) = .ok ⟨longRules, ""⟩ := by
  have hclosed : Rule.Closed longRules := ⟨by decide +kernel, by decide +kernel⟩
  have horder : Rule.inOrder longRules = .ok longRules :=
    toOption_eq_some_iff.1 (by decide +kernel)
  exact RuleSet.ofValue_document_of_placing (by decide +kernel) hclosed
    ((Rule.inOrder_eq_ok_iff hclosed.nodup).1 horder)

theorem exists_run_longRules :
    ∀ c ∈ longRules.map Rule.toCheck, ∃ result, c.run emptyContext = .ok result := by
  unfold longRules
  generalize leastLong = n
  simp only [List.map_cons, List.map_nil, List.forall_mem_cons, List.not_mem_nil, false_implies,
    implies_true, and_true]
  exact ⟨⟨_, rfl⟩, ⟨_, rfl⟩⟩

theorem stumbles_longRules : Stumbles emptyContext [] (longRules.map Rule.toCheck) := by
  have hlong := not_fitsText_leastLong
  unfold longRules
  generalize leastLong = n at hlong ⊢
  refine ⟨[_], _, [], _, n, rfl, rfl, rfl, ?_, hlong⟩
  simp [hasFailed, Rule.entry, Rule.result, Verdict.one, Result.isFail]

/-- Where there is nothing, both rules of this set can be checked, but there is no report of
them. -/
theorem RuleSet.runChecks_longRules :
    RuleSet.ofValue "" (RuleSet.document ⟨longRules, ""⟩) = .ok ⟨longRules, ""⟩ ∧
      ∃ checks, RuleSet.checks ⟨longRules, ""⟩ = .ok checks ∧
        (∀ c ∈ checks, ∃ result, c.run emptyContext = .ok result) ∧
        runChecks emptyContext none checks = .error .longInteger := by
  exact ⟨ofValue_longRules, _, RuleSet.checks_eq _, exists_run_longRules,
    (ends_of_run exists_run_longRules).fault stumbles_longRules⟩

end DocAudit
