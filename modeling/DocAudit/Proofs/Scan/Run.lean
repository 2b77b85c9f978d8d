import DocAudit.Proofs.Except
import DocAudit.Proofs.Fault
import DocAudit.Scan.Run
import Mathlib.Data.List.Find
import Mathlib.Data.List.Forall2
import Mathlib.Data.List.Nodup

/-!
# Runs of checks

A run takes one check after the other (`runAfter_cons_eq_ok_iff`). If every check has a result that
it comes to, then it ends with a report, unless it has to skip a check for a failed one whose
identifier is too long to be named (`exists_runAfter_eq_ok_iff`). When no rule depends on a later
one, what a check is told of the entries before it is what the whole report says
(`Forward.forall₂_resultAfter`).
-/

namespace DocAudit

variable {ctx : Context} {done es : List Entry} {c : Check} {cs : List Check}

/-- The rule of an identifier has an entry that fails. -/
def Fails (report : List Entry) (id : Int) : Prop := ∃ e ∈ report, e.id = id ∧ e.result.isFail

/-- A run that goes on from some entries comes to a check: the rule of the check applies to the
project and depends on none that failed before. -/
def Invokes (ctx : Context) (done : List Entry) (cs : List Check) (c : Check) : Prop :=
  ∃ pre post es, cs = pre ++ c :: post ∧ runAfter ctx done pre = .ok es ∧
    c.rule.mismatch? ctx = none ∧ ∀ d ∈ c.rule.dependsOn, hasFailed (done ++ es) d = false

/-- A run that goes on from some entries comes to a check that it cannot skip: the rule of the check
applies to the project, and the first of those it depends on that failed before has an identifier
which is too long to be named. -/
def Stumbles (ctx : Context) (done : List Entry) (cs : List Check) : Prop :=
  ∃ pre c post es d, cs = pre ++ c :: post ∧ runAfter ctx done pre = .ok es ∧
    c.rule.mismatch? ctx = none ∧ c.rule.dependsOn.find? (hasFailed (done ++ es)) = some d ∧
    ¬FitsText d

/-! ## Steps -/

theorem blockedBy_of_fits {d : Int} (h : FitsText d) :
    blockedBy d = .ok (.skip (failedReason d)) := by
  rw [blockedBy, Value.holdsLongInteger_int.2 h]
  rfl

theorem blockedBy_of_not_fits {d : Int} (h : ¬FitsText d) : blockedBy d = .error .longInteger := by
  rw [blockedBy, if_pos]
  by_contra hshort
  exact h (Value.holdsLongInteger_int.1 (Bool.eq_false_iff.2 hshort))

theorem eq_skip_of_blockedBy {d : Int} {result : Result} (h : blockedBy d = .ok result) :
    result = .skip (failedReason d) := by
  by_cases hfits : FitsText d
  · rw [blockedBy_of_fits hfits] at h
    exact (Except.ok.inj h).symm
  · rw [blockedBy_of_not_fits hfits] at h
    cases h

/-- One check is run, then those that follow. -/
theorem runAfter_cons_eq_ok_iff :
    runAfter ctx done (c :: cs) = .ok es ↔ ∃ result rest,
      c.resultAfter ctx done = .ok result ∧
      runAfter ctx (done ++ [c.rule.entry result]) cs = .ok rest ∧
      es = c.rule.entry result :: rest := by
  simp only [runAfter, bind_eq_ok_iff, pure, Except.pure, Except.ok.injEq]
  constructor
  · rintro ⟨result, hresult, rest, hrest, rfl⟩
    exact ⟨result, rest, hresult, hrest, rfl⟩
  · rintro ⟨result, rest, hresult, hrest, rfl⟩
    exact ⟨result, hresult, rest, hrest, rfl⟩

/-- A fault of a run is that of the first check, or of the run over those that follow. -/
theorem runAfter_cons_eq_error_iff {fault : Fault} :
    runAfter ctx done (c :: cs) = .error fault ↔ c.resultAfter ctx done = .error fault ∨
      ∃ result, c.resultAfter ctx done = .ok result ∧
        runAfter ctx (done ++ [c.rule.entry result]) cs = .error fault := by
  simp [runAfter, bind_eq_error_iff, pure, Except.pure]

/-- A check has a result after some entries if it gives one where it is come to, unless it has to be
skipped for a rule that cannot be named. -/
theorem resultAfter_cases
    (h : c.rule.mismatch? ctx = none → (∀ d ∈ c.rule.dependsOn, hasFailed done d = false) →
      ∃ result, c.run ctx = .ok result) :
    (∃ result, c.resultAfter ctx done = .ok result) ∨
      c.resultAfter ctx done = .error .longInteger ∧ c.rule.mismatch? ctx = none ∧
        ∃ d, c.rule.dependsOn.find? (hasFailed done) = some d ∧ ¬FitsText d := by
  unfold Check.resultAfter
  split
  · exact .inl ⟨_, rfl⟩
  · rename_i happlies
    split
    · rename_i d hd
      by_cases hfits : FitsText d
      · exact .inl ⟨_, blockedBy_of_fits hfits⟩
      · exact .inr ⟨blockedBy_of_not_fits hfits, happlies, d, hd, hfits⟩
    · rename_i hnone
      exact .inl (h happlies fun d hd => by simpa using List.find?_eq_none.1 hnone d hd)

/-- If every check gives a result that a run comes to, there is a report, or the run stumbles. -/
theorem runAfter_cases
    (h : ∀ c, Invokes ctx done cs c → ∃ result, c.run ctx = .ok result) :
    (∃ es, runAfter ctx done cs = .ok es) ∨
      runAfter ctx done cs = .error .longInteger ∧ Stumbles ctx done cs := by
  induction cs generalizing done with
  | nil => exact .inl ⟨[], rfl⟩
  | cons c cs ih =>
    have hgives : c.rule.mismatch? ctx = none →
        (∀ d ∈ c.rule.dependsOn, hasFailed done d = false) →
        ∃ result, c.run ctx = .ok result := fun happlies hdeps =>
      h c ⟨[], cs, [], rfl, rfl, happlies, by simpa using hdeps⟩
    rcases resultAfter_cases hgives with
      ⟨result, hresult⟩ | ⟨herror, happlies, d, hd, hlong⟩
    · have hrest : ∀ c', Invokes ctx (done ++ [c.rule.entry result]) cs c' →
          ∃ result, c'.run ctx = .ok result := by
        rintro c' ⟨pre, post, es, rfl, hes, happlies, hdeps⟩
        refine h c' ⟨c :: pre, post, c.rule.entry result :: es, rfl, ?_,
          happlies, by simpa using hdeps⟩
        exact runAfter_cons_eq_ok_iff.2 ⟨result, es, hresult, hes, rfl⟩
      rcases ih hrest with ⟨rest, hok⟩ | ⟨herror, pre, c', post, es, d, rfl, hes, hstumbles⟩
      · exact .inl ⟨_, runAfter_cons_eq_ok_iff.2 ⟨result, rest, hresult, hok, rfl⟩⟩
      · refine .inr ⟨runAfter_cons_eq_error_iff.2 (.inr ⟨result, hresult, herror⟩), ?_⟩
        refine ⟨c :: pre, c', post, c.rule.entry result :: es, d, rfl,
          ?_, by simpa using hstumbles⟩
        exact runAfter_cons_eq_ok_iff.2 ⟨result, es, hresult, hes, rfl⟩
    · exact .inr ⟨runAfter_cons_eq_error_iff.2 (.inl herror),
        [], c, cs, [], d, rfl, rfl, happlies, by simpa using hd, hlong⟩

/-- A run that stumbles ends with a fault. -/
theorem Stumbles.runAfter_eq_error (h : Stumbles ctx done cs) :
    runAfter ctx done cs = .error .longInteger := by
  obtain ⟨pre, c, post, es, d, rfl, hes, happlies, hd, hlong⟩ := h
  induction pre generalizing done es with
  | nil =>
    cases hes
    rw [List.append_nil] at hd
    refine runAfter_cons_eq_error_iff.2 (.inl ?_)
    simp only [Check.resultAfter, happlies, hd, blockedBy_of_not_fits hlong]
  | cons c' pre ih =>
    obtain ⟨result, rest, hresult, hrest, rfl⟩ := runAfter_cons_eq_ok_iff.1 hes
    exact runAfter_cons_eq_error_iff.2
      (.inr ⟨result, hresult, ih rest hrest (by simpa using hd)⟩)

/-- If every check gives a result that a run comes to, there is a report unless the run stumbles. -/
theorem exists_runAfter_eq_ok_iff
    (h : ∀ c, Invokes ctx done cs c → ∃ result, c.run ctx = .ok result) :
    (∃ es, runAfter ctx done cs = .ok es) ↔ ¬Stumbles ctx done cs := by
  constructor
  · rintro ⟨es, hes⟩ hstumbles
    cases hes.symm.trans hstumbles.runAfter_eq_error
  · exact fun hnot => (runAfter_cases h).resolve_right fun ⟨_, hstumbles⟩ => hnot hstumbles

/-- A run over checks from the start ends with a report exactly if it does not stumble, and
otherwise with the fault of an integer that is too long. -/
structure Ends (ctx : Context) (cs : List Check) : Prop where
  report_iff : (∃ es, runChecks ctx none cs = .ok es) ↔ ¬Stumbles ctx [] cs
  fault : Stumbles ctx [] cs → runChecks ctx none cs = .error .longInteger

theorem runChecks_none : runChecks ctx none cs = runAfter ctx [] cs := by
  simp [runChecks, isSelected]

theorem ends_of_run (h : ∀ c ∈ cs, ∃ result, c.run ctx = .ok result) : Ends ctx cs where
  report_iff := by
    rw [runChecks_none]
    refine exists_runAfter_eq_ok_iff ?_
    rintro c ⟨pre, post, es, rfl, -⟩
    exact h c (by simp)
  fault hstumbles := by
    rw [runChecks_none]
    exact hstumbles.runAfter_eq_error

/-- A run does not stumble where all that rules depend on can be named. -/
theorem not_stumbles_of_fits (h : ∀ c ∈ cs, ∀ d ∈ c.rule.dependsOn, FitsText d) :
    ¬Stumbles ctx done cs := by
  rintro ⟨pre, c, post, es, d, rfl, -, -, hd, hlong⟩
  exact hlong (h c (by simp) d (List.mem_of_find?_eq_some hd))

/-! ## What is known of the entries so far -/

theorem hasFailed_append_of_not_mem {d : Int} (h : d ∉ es.map Entry.id) :
    hasFailed (done ++ es) d = hasFailed done d := by
  have hnone : es.find? (fun e => e.id == d) = none :=
    List.find?_eq_none.2 fun e he hid => h (List.mem_map.2 ⟨e, he, by simpa using hid⟩)
  simp [hasFailed, List.find?_append, hnone]

/-- When no rule has two entries, the first entry of a rule is its only one. -/
theorem hasFailed_eq_true_iff (h : (es.map Entry.id).Nodup) {d : Int} :
    hasFailed es d = true ↔ Fails es d := by
  unfold hasFailed Fails
  cases hfind : es.find? (fun e => e.id == d) with
  | none =>
    have hnone : ∀ e ∈ es, e.id ≠ d := by simpa using List.find?_eq_none.1 hfind
    simp only [Option.any_none, Bool.false_eq_true, false_iff]
    rintro ⟨e, he, hid, -⟩
    exact hnone e he hid
  | some e =>
    have he : e ∈ es := List.mem_of_find?_eq_some hfind
    have hid : e.id = d := by simpa using List.find?_some hfind
    simp only [Option.any_some]
    refine ⟨fun hfail => ⟨e, he, hid, hfail⟩, ?_⟩
    rintro ⟨e', he', hid', hfail⟩
    rwa [List.inj_on_of_nodup_map h he he' (hid.trans hid'.symm)]

/-- The result of a check depends on the entries so far by what its rule depends on. -/
theorem resultAfter_congr {done' : List Entry}
    (h : ∀ d ∈ c.rule.dependsOn, hasFailed done d = hasFailed done' d) :
    c.resultAfter ctx done = c.resultAfter ctx done' := by
  have hfind : c.rule.dependsOn.find? (hasFailed done) = c.rule.dependsOn.find? (hasFailed done') :=
    List.find?_congr h
  simp only [Check.resultAfter, hfind]

/-- No check's rule depends on itself or on the rule of a later check. -/
structure Forward (cs : List Check) : Prop where
  self : ∀ c ∈ cs, c.rule.id ∉ c.rule.dependsOn
  later : cs.Pairwise fun c c' => c'.rule.id ∉ c.rule.dependsOn

theorem Forward.sublist {cs' : List Check} (h : Forward cs) (hsub : cs'.Sublist cs) : Forward cs' :=
  ⟨fun c hc => h.self c (hsub.subset hc), h.later.sublist hsub⟩

/-- What a check is told of the entries before it is what the whole report says. -/
theorem Forward.forall₂_resultAfter (h : Forward cs) (hes : runAfter ctx done cs = .ok es) :
    List.Forall₂ (fun c e => c.resultAfter ctx (done ++ es) = .ok e.result ∧
      e = c.rule.entry e.result) cs es := by
  induction cs generalizing done es with
  | nil =>
    obtain rfl : [] = es := by simpa [runAfter] using hes
    exact .nil
  | cons c cs ih =>
    have hids := map_id_runAfter hes
    obtain ⟨result, rest, hresult, hrest, rfl⟩ := runAfter_cons_eq_ok_iff.1 hes
    have hself := h.self c List.mem_cons_self
    have hlater := (List.pairwise_cons.1 h.later).1
    refine .cons ⟨?_, rfl⟩ ?_
    · refine (resultAfter_congr fun d hd => hasFailed_append_of_not_mem fun hmem =>
        ?_).trans hresult
      rw [hids, List.map_cons] at hmem
      rcases List.mem_cons.1 hmem with rfl | hmem
      · exact hself hd
      · obtain ⟨c', hc', rfl⟩ := List.mem_map.1 hmem
        exact hlater c' hc' hd
    · simpa using ih (h.sublist (List.sublist_cons_self c cs)) hrest

end DocAudit
