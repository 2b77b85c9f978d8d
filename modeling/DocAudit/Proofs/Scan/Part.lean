import DocAudit.Proofs.Scan.Report

/-!
# Parts of a set of rules

A part of a set of rules that nothing in it depends on the rest of can be had in three ways: read
from the records of the part alone, selected from the whole set, or found among the entries of the
whole set. All three agree (`RuleSet.agrees_of_ofText`), since the order of the rules restricts to
the part (`RuleSet.ofValue_of_filter`) and the run never looks outside it (`runAfter_filter`). Only
where the whole set has no report, since a failed rule in it has an identifier that is too long to
be named, may the part still have one.
-/

namespace DocAudit

variable {part : Int → Bool}

/-! ## Documents -/

/-- A record is that of a rule whose identifier is in a part. -/
def recordIn (part : Int → Bool) (record : Value) : Bool :=
  match Rule.ofValue 0 record with
  | .ok r => part r.id
  | .error _ => false

theorem Rule.IsOf.recordIn_eq {r : Rule} {record : Value} (h : r.IsOf record) :
    recordIn part record = part r.id := by
  simp only [recordIn, h 0]

/-- The rules of a part are read from the records of the part. -/
theorem forall₂_isOf_filter {rules : List Rule} {records : List Value}
    (h : List.Forall₂ Rule.IsOf rules records) :
    List.Forall₂ Rule.IsOf (rules.filter fun r => part r.id)
      (records.filter (recordIn part)) := by
  refine List.rel_filter (fun r record hr => ?_) h
  simp [hr.recordIn_eq]

/-- Rules of a part that depends on nothing else depend on one another only. -/
theorem Rule.Closed.filter {rules : List Rule} (h : Closed rules)
    (hpart : ∀ r ∈ rules, part r.id → ∀ d ∈ r.dependsOn, part d) :
    Closed (rules.filter fun r => part r.id) where
  nodup := h.nodup.sublist (List.filter_sublist.map Rule.id)
  known r hr d hd := by
    obtain ⟨hmem, hin⟩ := List.mem_filter.1 hr
    obtain ⟨q, hq, rfl⟩ := List.mem_map.1 (h.known r hmem d hd)
    exact List.mem_map_of_mem (List.mem_filter.2 ⟨hq, hpart r hmem hin _ hd⟩)

/-- From the records of a part that depends on nothing else its rules are read in the order that
they have among all. -/
theorem RuleSet.ofValue_of_filter {source source' : String} {v v' : Value} {s : RuleSet}
    {records : List Value} (h : RuleSet.ofValue source v = .ok s)
    (hrecords : recordsOf v = some records)
    (hpart : ∀ r ∈ s.rules, part r.id → ∀ d ∈ r.dependsOn, part d)
    (hrecords' : recordsOf v' = some (records.filter (recordIn part))) :
    RuleSet.ofValue source' v' = .ok ⟨s.rules.filter fun r => part r.id, source'⟩ := by
  obtain ⟨records₀, rules, ordered, heq, hall, hclosed, hplacing, rfl⟩ :=
    ofValue_eq_ok_iff_placing.1 h
  obtain rfl := Option.some.inj (heq.symm.trans hrecords)
  have hperm : rules.Perm ordered := by simpa using hplacing.perm hclosed.nodup
  have hpart' : ∀ r ∈ rules, part r.id → ∀ d ∈ r.dependsOn, part d := fun r hr =>
    hpart r (hperm.mem_iff.1 hr)
  exact ofValue_eq_ok_iff_placing.2 ⟨_, _, _, hrecords', forall₂_isOf_filter hall,
    hclosed.filter hpart', by simpa using hplacing.filter part hpart', rfl⟩

/-! ## Runs -/

variable {ctx : Context} {done es : List Entry} {cs : List Check}

/-- Whether a rule of a part has failed is seen among the entries of the part. -/
theorem hasFailed_filter {d : Int} (hd : part d) :
    hasFailed (done.filter fun e => part e.id) d = hasFailed done d := by
  have hfind : (done.filter fun e => part e.id).find? (fun e => e.id == d) =
      done.find? fun e => e.id == d := by
    rw [List.find?_filter]
    refine List.find?_congr fun e _ => ?_
    by_cases hid : e.id = d <;> simp [hid, hd]
  rw [hasFailed, hfind, hasFailed]

/-- A run over the checks of a part that depends on nothing else gives the entries of the part. -/
theorem runAfter_filter
    (hpart : ∀ c ∈ cs, part c.rule.id → ∀ d ∈ c.rule.dependsOn, part d)
    (h : runAfter ctx done cs = .ok es) :
    runAfter ctx (done.filter fun e => part e.id) (cs.filter fun c => part c.rule.id) =
      .ok (es.filter fun e => part e.id) := by
  induction cs generalizing done es with
  | nil =>
    obtain rfl : [] = es := by simpa [runAfter] using h
    rfl
  | cons c cs ih =>
    obtain ⟨result, rest, hresult, hrest, rfl⟩ := runAfter_cons_eq_ok_iff.1 h
    have hcs := ih (fun c' hc' => hpart c' (List.mem_cons_of_mem c hc')) hrest
    have hid : (c.rule.entry result).id = c.rule.id := rfl
    cases hin : part c.rule.id with
    | true =>
      have hdeps := hpart c List.mem_cons_self hin
      simp only [List.filter_cons, hid, hin, if_true]
      refine runAfter_cons_eq_ok_iff.2 ⟨result, _, ?_, ?_, rfl⟩
      · exact (resultAfter_congr fun d hd => hasFailed_filter (hdeps d hd)).trans hresult
      · simpa [List.filter_append, hid, hin] using hcs
    | false =>
      simp only [List.filter_cons, hid, hin, Bool.false_eq_true, if_false]
      simpa [List.filter_append, hid, hin] using hcs

/-! ## The three ways -/

/-- A text is a document that holds a list of records. -/
def Holds (text : String) (records : List Value) : Prop :=
  ∃ v, Value.ofYaml? text.toList = .ok v ∧ recordsOf v = some records

/-- A part of a set of rules agrees with the whole: its records alone are read as the rules of the
part in the order of the whole, and a run of these alone is what comes of the whole when the part is
selected. If the whole has a report, it is the entries of the part among all; and there is one
unless the run stumbles over an identifier that is too long. -/
structure RuleSet.Agrees (s : RuleSet) (records : List Value) (part : Int → Bool) : Prop where
  value : ∀ source v, recordsOf v = some (records.filter (recordIn part)) →
    RuleSet.ofValue source v = .ok ⟨s.rules.filter fun r => part r.id, source⟩
  text : ∀ source text, Holds text (records.filter (recordIn part)) →
    RuleSet.ofText source text = .ok ⟨s.rules.filter fun r => part r.id, source⟩
  run : ∀ ctx, (∀ r ∈ s.rules, ∃ result, r.check ctx = .ok result) →
    ∀ ids : List Int, (∀ r ∈ s.rules, r.id ∈ ids ↔ part r.id) →
    ∃ checks checks', s.checks = .ok checks ∧
      RuleSet.checks ⟨s.rules.filter fun r => part r.id, s.source⟩ = .ok checks' ∧
      runChecks ctx (some ids) checks = runChecks ctx none checks' ∧
      (∀ es, runChecks ctx none checks = .ok es →
        runChecks ctx none checks' = .ok (es.filter fun e => part e.id)) ∧
      Ends ctx checks ∧ Ends ctx checks'

/-- A part that depends on nothing else agrees with the whole. -/
theorem RuleSet.agrees_of_ofValue {source : String} {v : Value} {s : RuleSet} {records : List Value}
    (h : RuleSet.ofValue source v = .ok s) (hrecords : recordsOf v = some records)
    (hpart : ∀ r ∈ s.rules, part r.id → ∀ d ∈ r.dependsOn, part d) :
    s.Agrees records part where
  value source' v' hrecords' := ofValue_of_filter h hrecords hpart hrecords'
  text source' text' := by
    rintro ⟨v', hv', hrecords'⟩
    rw [ofText_of_ofYaml? hv']
    exact ofValue_of_filter h hrecords hpart hrecords'
  run ctx hrun ids hids := by
    have hends : ∀ rules : List Rule, (∀ r ∈ rules, ∃ result, r.check ctx = .ok result) →
        Ends ctx (rules.map Rule.toCheck) := by
      refine fun rules hrules => ends_of_run fun c hc => ?_
      obtain ⟨r, hr, rfl⟩ := List.mem_map.1 hc
      exact hrules r hr
    have hfilter : ((s.rules.map Rule.toCheck).filter fun c => part c.rule.id) =
        (s.rules.filter fun r => part r.id).map Rule.toCheck := by
      simp [List.filter_map, Function.comp_def]
    have hdeps : ∀ c ∈ s.rules.map Rule.toCheck, part c.rule.id →
        ∀ d ∈ c.rule.dependsOn, part d := by
      simpa using hpart
    refine ⟨_, _, s.checks_eq, RuleSet.checks_eq _, ?_, fun es hes => ?_, hends _ hrun,
      hends _ fun r hr => hrun r (List.mem_of_mem_filter hr)⟩
    · have hselected : ((s.rules.map Rule.toCheck).filter fun c => isSelected (some ids) c.rule) =
          (s.rules.map Rule.toCheck).filter fun c => part c.rule.id := by
        refine List.filter_congr fun c hc => ?_
        obtain ⟨r, hr, rfl⟩ := List.mem_map.1 hc
        rw [Bool.eq_iff_iff]
        simpa [isSelected] using hids r hr
      rw [runChecks_none, runChecks, hselected, hfilter]
    · rw [runChecks_none] at hes ⊢
      simpa [hfilter] using runAfter_filter hdeps hes

/-- For every document that is accepted, each part of its rules that depends on nothing else agrees
with the whole; and so do, if nothing depends on a rule, all the others. -/
theorem RuleSet.agrees_of_ofText {source text : String} {s : RuleSet}
    (h : RuleSet.ofText source text = .ok s) :
    ∃ records, Holds text records ∧
      (∀ part : Int → Bool, (∀ r ∈ s.rules, part r.id → ∀ d ∈ r.dependsOn, part d) →
        s.Agrees records part) ∧
      ∀ x, (∀ r ∈ s.rules, x ∉ r.dependsOn) → s.Agrees records (· != x) := by
  obtain ⟨v, hv, hs⟩ := exists_ofValue_of_ofText h
  obtain ⟨records, -, -, hrecords, -⟩ := ofValue_eq_ok_iff_placing.1 hs
  refine ⟨records, ⟨v, hv, hrecords⟩, fun part hpart => agrees_of_ofValue hs hrecords hpart,
    ?_⟩
  intro x hx
  refine agrees_of_ofValue hs hrecords fun r hr _ d hd => ?_
  simpa using fun heq : d = x => hx r hr (heq ▸ hd)

/-- Of two rules the first one, on which the second depends, agrees with both. -/
theorem RuleSet.agrees_of_ofText_twoRulesText :
    RuleSet.ofText "" twoRulesText = .ok ⟨twoRules, ""⟩ ∧
      ∃ records, Holds twoRulesText records ∧
        RuleSet.ofValue "" (.dict [(.str "rules", .list (records.filter (recordIn (· == 1))))]) =
          .ok ⟨[⟨1, "a", "b", .error, .fileExists "q", none, none, []⟩], ""⟩ ∧
        ∃ checks es, RuleSet.checks ⟨twoRules, ""⟩ = .ok checks ∧
          runChecks emptyContext none checks = .ok es ∧
          runChecks emptyContext (some [1]) checks = .ok (es.filter fun e => e.id == 1) := by
  have hok := ofText_twoRulesText
  obtain ⟨records, hholds, hparts, -⟩ := RuleSet.agrees_of_ofText hok
  have hagrees : RuleSet.Agrees ⟨twoRules, ""⟩ records (· == 1) := hparts _ (by decide)
  obtain ⟨checks, checks', hchecks, -, hselected, hfilter, -⟩ :=
    hagrees.run emptyContext exists_check_twoRules [1] (by decide)
  obtain rfl : twoRules.map Rule.toCheck = checks :=
    Except.ok.inj ((RuleSet.checks_eq ⟨twoRules, ""⟩).symm.trans hchecks)
  exact ⟨hok, records, hholds, hagrees.value "" _ rfl, _, _, hchecks, runChecks_twoRules,
    hselected.trans (hfilter _ runChecks_twoRules)⟩

/-- Where there is nothing, the first of the two rules can be run by itself although there is no
report of both. -/
theorem RuleSet.runChecks_part_of_longRules :
    RuleSet.ofValue "" (RuleSet.document ⟨longRules, ""⟩) = .ok ⟨longRules, ""⟩ ∧
      ∃ checks, RuleSet.checks ⟨longRules, ""⟩ = .ok checks ∧
        (∀ c ∈ checks, ∃ result, c.run emptyContext = .ok result) ∧
        runChecks emptyContext none checks = .error .longInteger ∧
        ∃ es, runChecks emptyContext (some [leastLong]) checks = .ok es := by
  refine ⟨ofValue_longRules, _, RuleSet.checks_eq _, exists_run_longRules,
    (ends_of_run exists_run_longRules).fault stumbles_longRules, ?_⟩
  have hfirst : longRules.filter (isSelected (some [leastLong])) =
      [⟨leastLong, "a", "b", .error, .fileExists "q", none, none, []⟩] := by
    decide +kernel
  refine (exists_runAfter_eq_ok_iff ?_).2 (not_stumbles_of_fits ?_)
  · rintro c ⟨pre, post, es, hsplit, -⟩
    have hc : c ∈ pre ++ c :: post := by simp
    rw [← hsplit] at hc
    exact exists_run_longRules c (List.mem_of_mem_filter hc)
  · rw [filter_map_toCheck, hfirst]
    simp

end DocAudit
