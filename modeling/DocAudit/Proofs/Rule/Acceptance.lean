import DocAudit.Check.Builtin
import DocAudit.Proofs.Rule.Refusal

/-!
# What a rule document must be

A document is accepted exactly if it lists records of rules that can be told apart, that depend on
one another only and that do so without a circle. Then the set holds the rule of each record, and
each rule has its check. Every other document is refused for an error of its rules, unless its
message had to spell an integer that is too long or a type or handler that is nested too deeply
(`RuleSet.ofText_accepts_iff`).
-/

namespace DocAudit

/-- A document of two rules, of which the first one depends on the second. -/
def twoRulesText : String :=
  "rules: [\x7bid: 2, category: a, description: b, severity: info, type: dir_exists, path: p, " ++
    "depends_on: [1]\x7d, \x7bid: 1, category: a, description: b, severity: error, " ++
    "type: file_exists, path: q\x7d]"

/-- The two rules in their order. -/
def twoRules : List Rule :=
  [⟨1, "a", "b", .error, .fileExists "q", none, none, []⟩,
   ⟨2, "a", "b", .info, .dirExists "p", none, none, [1]⟩]

theorem any_ofYaml?_twoRulesText :
    (Value.ofYaml? twoRulesText.toList).toOption.any (fun v =>
      !v.holdsLongInteger && (RuleSet.ofValue "" v).toOption == some ⟨twoRules, ""⟩) =
        true := by
  decide +kernel

theorem exists_ofYaml?_twoRulesText :
    ∃ v, Value.ofYaml? twoRulesText.toList = .ok v ∧ v.holdsLongInteger = false ∧
      RuleSet.ofValue "" v = .ok ⟨twoRules, ""⟩ := by
  obtain ⟨v, hv, hread⟩ := (Option.any_eq_true _ _).1 any_ofYaml?_twoRulesText
  simp only [Bool.and_eq_true, Bool.not_eq_true', beq_iff_eq, toOption_eq_some_iff] at hv hread
  exact ⟨v, hv, hread⟩

theorem ofText_twoRulesText : RuleSet.ofText "" twoRulesText = .ok ⟨twoRules, ""⟩ := by
  obtain ⟨v, hv, -, hs⟩ := exists_ofYaml?_twoRulesText
  rw [RuleSet.ofText_of_ofYaml? hv, hs]

/-- The rules of an accepted document are those of its records, in another order. -/
theorem RuleSet.exists_perm_of_ofValue {source : String} {v : Value} {s : RuleSet}
    (h : RuleSet.ofValue source v = .ok s) :
    ∃ records rules, recordsOf v = some records ∧ List.Forall₂ Rule.IsOf rules records ∧
      s.rules.Perm rules ∧ Rule.Closed rules := by
  obtain ⟨records, rules, ordered, hrecords, hall, hclosed, hplacing, rfl⟩ :=
    ofValue_eq_ok_iff_placing.1 h
  have hperm : rules.Perm ordered := by simpa using hplacing.perm hclosed.nodup
  exact ⟨records, rules, hrecords, hall, hperm.symm, hclosed⟩

/-- A document is accepted exactly if it is a mapping with a list of records, each of them that of a
rule, no two rules having one identifier, all depending on rules of the document and none on itself
through others. An accepted document gives each record's rule once, all with positive identifiers,
and each rule its check. A document that is not accepted is refused for an error of the rules, or it
meets a fault because the type or the handler of one of its records is nested too deeply for a
message. A text of which a collection or a character is not read in full is left out. -/
theorem RuleSet.ofText_accepts_iff {source text : String} {v : Value}
    (_hcovered : Yaml.isCovered text.toList = true) (hv : Value.ofYaml? text.toList = .ok v)
    (hshort : v.holdsLongInteger = false) :
    ((∃ s, RuleSet.ofText source text = .ok s) ↔
      ∃ entries records rules, v = .dict entries ∧
        Value.lookup "rules" entries = some (.list records) ∧
        List.Forall₂ Rule.IsOf rules records ∧
        (rules.map Rule.id).Nodup ∧
        (∀ r ∈ rules, ∀ d ∈ r.dependsOn, ∃ q ∈ rules, q.id = d) ∧
        Rule.Acyclic rules) ∧
    (∀ s, RuleSet.ofText source text = .ok s →
      (∃ entries records rules, v = .dict entries ∧
        Value.lookup "rules" entries = some (.list records) ∧
        List.Forall₂ Rule.IsOf rules records ∧ s.rules.Perm rules ∧
        (s.rules.map Rule.id).Nodup) ∧ (∀ r ∈ s.rules, 0 < r.id) ∧
      ∃ checks, s.checks = .ok checks ∧ checks.map Check.rule = s.rules) ∧
    ((¬∃ s, RuleSet.ofText source text = .ok s) →
      (∃ e, RuleSet.ofText source text = .error (.rules e)) ∨
        v.ListsDeeply ∧ RuleSet.ofText source text = .error (.fault .tooDeep)) := by
  rw [RuleSet.ofText_of_ofYaml? hv]
  refine ⟨⟨fun hs => ?_, ?_⟩, fun s hs => ⟨?_, ?_, ?_⟩, fun hnot => ?_⟩
  · obtain ⟨records, rules, hrecords, hall, hclosed, hacyclic⟩ := exists_ofValue_eq_ok_iff.1 hs
    obtain ⟨entries, rfl, hlookup⟩ := recordsOf_eq_some_iff.1 hrecords
    exact ⟨entries, records, rules, rfl, hlookup, hall, hclosed.nodup,
      fun r hr d hd => List.mem_map.1 (hclosed.known r hr d hd), hacyclic⟩
  · rintro ⟨entries, records, rules, rfl, hlookup, hall, hnodup, hknown, hacyclic⟩
    have hclosed : Rule.Closed rules :=
      ⟨hnodup, fun r hr d hd => List.mem_map.2 (hknown r hr d hd)⟩
    exact exists_ofValue_eq_ok_iff.2 ⟨records, rules,
      recordsOf_eq_some_iff.2 ⟨entries, rfl, hlookup⟩, hall, hclosed, hacyclic⟩
  · obtain ⟨records, rules, hrecords, hall, hperm, hclosed⟩ := exists_perm_of_ofValue hs
    obtain ⟨entries, rfl, hlookup⟩ := recordsOf_eq_some_iff.1 hrecords
    exact ⟨entries, records, rules, rfl, hlookup, hall, hperm,
      (hperm.map Rule.id).nodup_iff.2 hclosed.nodup⟩
  · obtain ⟨records, rules, -, hall, hperm, -⟩ := exists_perm_of_ofValue hs
    exact fun r hr => Rule.id_pos_of_forall₂ hall r (hperm.mem_iff.1 hr)
  · exact ⟨_, s.checks_eq, by simp [Function.comp_def]⟩
  · cases heq : RuleSet.ofValue source v with
    | ok s => exact absurd ⟨s, heq⟩ hnot
    | error err =>
      cases failsOnly_ofValue err heq with
      | rules => exact .inl ⟨_, rfl⟩
      | longInteger hlong => exact absurd hshort hlong
      | tooDeep hdeep => exact .inr ⟨hdeep, rfl⟩

/-- The document of two rules is accepted for what it is. -/
theorem RuleSet.ofText_accepts_iff_twoRulesText :
    ∃ v, Yaml.isCovered twoRulesText.toList = true ∧
    Value.ofYaml? twoRulesText.toList = .ok v ∧ v.holdsLongInteger = false ∧
      RuleSet.ofText "" twoRulesText = .ok ⟨twoRules, ""⟩ ∧ (∀ r ∈ twoRules, 0 < r.id) ∧
      ∃ entries records rules, v = .dict entries ∧
        Value.lookup "rules" entries = some (.list records) ∧
        List.Forall₂ Rule.IsOf rules records ∧ Rule.Acyclic rules := by
  have hcovered : Yaml.isCovered twoRulesText.toList = true := by decide +kernel
  obtain ⟨v, hv, hshort, -⟩ := exists_ofYaml?_twoRulesText
  have hok := ofText_twoRulesText
  obtain ⟨haccepts, hspec, -⟩ := @RuleSet.ofText_accepts_iff "" _ _ hcovered hv hshort
  obtain ⟨entries, records, rules, hdict, hlookup, hall, -, -, hacyclic⟩ :=
    haccepts.1 ⟨_, hok⟩
  exact ⟨v, hcovered, hv, hshort, hok, (hspec _ hok).2.1, entries, records, rules, hdict, hlookup,
    hall, hacyclic⟩

/-- So many lists inside one another. -/
def nestedLists : Nat → Value
  | 0 => .list []
  | n + 1 => .list [nestedLists n]

theorem nesting_nestedLists (n : Nat) : (nestedLists n).nesting = n + 1 := by
  induction n with
  | zero => rfl
  | succ n ih => simp [nestedLists, Value.nesting, Value.nestingAmong, ih]

theorem holdsLongInteger_nestedLists (n : Nat) : (nestedLists n).holdsLongInteger = false := by
  induction n with
  | zero => rfl
  | succ n ih => simp [nestedLists, Value.holdsLongInteger, Value.anyHoldsLongInteger, ih]

/-- A document of a record whose type is so many lists inside one another. -/
def nestedType (n : Nat) : Value :=
  .dict [(.str "rules", .list [.dict [(.str "type", nestedLists n)]])]

/-- A type that is nested too deeply is not reported as an error of the rules. -/
theorem RuleSet.ofValue_nestedType : (nestedType Value.maxNesting).holdsLongInteger = false ∧
    RuleSet.ofValue "" (nestedType Value.maxNesting) = .error (.fault .tooDeep) := by
  have hshort := holdsLongInteger_nestedLists Value.maxNesting
  have hdeep : (nestedLists Value.maxNesting).textOrFault = .error .tooDeep := by
    rw [Value.textOrFault_eq_error_iff, Value.textFault?_of_not_holdsLongInteger hshort,
      nesting_nestedLists, if_pos (Nat.lt_succ_self _)]
  have hstring : (nestedLists Value.maxNesting).string? = none := rfl
  unfold nestedType
  generalize nestedLists Value.maxNesting = word at hshort hdeep hstring
  have htype : Value.lookup "type" [(.str "type", word)] = some word := rfl
  have hrule : Rule.ofValue 0 (.dict [(.str "type", word)]) = .error (.fault .tooDeep) := by
    simp only [Rule.ofValue, checkType, htype, Option.bind_some, hstring, textOf,
      Option.getD_some, hdeep]
    rfl
  constructor
  · simp [Value.holdsLongInteger, Value.anyHoldsLongInteger,
      Value.anyEntryHoldsLongInteger, hshort]
  · have hrecords : recordsOf (.dict [(.str "rules", .list [.dict [(.str "type", word)]])]) =
        some [.dict [(.str "type", word)]] := rfl
    simp only [RuleSet.ofValue, hrecords, rulesFrom, hrule]
    rfl

end DocAudit
