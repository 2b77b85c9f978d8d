import DocAudit.Proofs.Rule.Acceptance
import DocAudit.Proofs.Value

/-!
# Writing rule documents

What is written is read back. The record of a rule is a list of named fields, of which those of the
shape have other names than those that all rules have (`Shape.lookup_fields_of_common`). So each
reader finds what was written for it, and the rule of a written record is the rule that was written
(`Rule.isOf_record`). A set of rules that was read from a document stands in its order already, so
its own document is read as the same set, and writing it again gives the same document
(`RuleSet.ofText_document`).
-/

namespace DocAudit

/-! ## Fields -/

theorem Value.sameKey_str (s t : String) : (Value.str s).sameKey (.str t) = (s == t) := rfl

/-- A field is looked up by its name. -/
theorem Value.lookup_fields (key : String) (fields : List (String × Value)) :
    Value.lookup key (fields.map fun (k, v) => (.str k, v)) = fields.lookup key := by
  induction fields with
  | nil => rfl
  | cons field fields ih =>
    obtain ⟨k, v⟩ := field
    by_cases h : k = key
    · rw [h, List.lookup_cons_self]
      simp [Value.lookup, Value.sameKey_str]
    · rw [List.lookup_cons, beq_false_of_ne (Ne.symm h), ← ih]
      simp [Value.lookup, Value.sameKey_str, h]

/-- The names of the fields that every record begins with. -/
def firstNames : List String := ["id", "category", "description", "severity"]

/-- The names of the fields that every record may end with. -/
def lastNames : List String := ["applies_to", "project_type", "scope", "depends_on"]

/-- No field of a shape has the name of one that all rules have. -/
theorem Shape.lookup_fields_of_common (s : Shape) {key : String}
    (h : key ∈ firstNames ++ lastNames) : s.fields.lookup key = none := by
  have hnames : ∀ field ∈ s.fields, field.1 ∉ firstNames ++ lastNames := by
    cases s <;> simp [fields, firstNames, lastNames]
  refine List.lookup_eq_none_iff.2 fun field hfield => ?_
  have hne : key ≠ field.1 := fun heq => hnames field hfield (heq ▸ h)
  simpa using hne

namespace Rule

variable (r : Rule)

/-- The fields of the record of a rule that come before those of its shape. -/
def firstFields : List (String × Value) :=
  [("id", .int r.id), ("category", .str r.category), ("description", .str r.description),
    ("severity", .str r.severity.word)]

/-- The fields of the record of a rule that come behind those of its shape, each only if there is
something to say. -/
def lastFields : List (String × Value) :=
  (r.appliesTo.map fun t => ("applies_to", .str t.word)).toList ++
    ((r.scope.map fun s => ("scope", .str s.word)).toList ++
      if r.dependsOn.isEmpty then [] else [("depends_on", .list (r.dependsOn.map .int))])

/-- The entries of the record of a rule. -/
def entries : Entries :=
  (r.firstFields ++ (r.shape.fields ++ r.lastFields)).map fun (k, v) => (.str k, v)

theorem record_eq : r.record = .dict r.entries := by
  simp [record, Value.ofFields, entries, firstFields, lastFields]

theorem lookup_entries (key : String) :
    Value.lookup key r.entries =
      (r.firstFields.lookup key).or ((r.shape.fields.lookup key).or (r.lastFields.lookup key)) := by
  rw [entries, Value.lookup_fields, List.lookup_append, List.lookup_append]

theorem lookup_firstFields_eq_none {key : String} (h : key ∉ firstNames) :
    r.firstFields.lookup key = none := by
  refine List.lookup_eq_none_iff.2 fun field hfield => ?_
  have hmem : field.1 ∈ firstNames := List.mem_map_of_mem (f := Prod.fst) hfield
  have hne : key ≠ field.1 := fun heq => h (heq ▸ hmem)
  simpa using hne

/-- The first fields are found in the record. -/
theorem lookup_entries_of_first {key : String} {v : Value} (h : r.firstFields.lookup key = some v) :
    Value.lookup key r.entries = some v := by
  rw [lookup_entries, h, Option.some_or]

/-- The fields of a shape are found in the record of its rule. -/
theorem lookup_entries_of_shape {key : String} {v : Value}
    (h : r.shape.fields.lookup key = some v) : Value.lookup key r.entries = some v := by
  have hfirst : r.firstFields.lookup key = none := by
    refine r.lookup_firstFields_eq_none fun hmem => ?_
    rw [r.shape.lookup_fields_of_common (List.mem_append_left _ hmem)] at h
    cases h
  rw [lookup_entries, hfirst, h, Option.none_or, Option.some_or]

/-- What a rule says or does not say in its last fields is found in the record. -/
theorem lookup_entries_of_last {key : String} (h : key ∈ lastNames) :
    Value.lookup key r.entries = r.lastFields.lookup key := by
  have hdisjoint : ∀ k ∈ lastNames, k ∉ firstNames := by decide
  rw [lookup_entries, r.lookup_firstFields_eq_none (hdisjoint key h),
    r.shape.lookup_fields_of_common (List.mem_append_right _ h), Option.none_or, Option.none_or]

theorem lookup_appliesTo :
    Value.lookup "applies_to" r.entries = r.appliesTo.map fun t => .str t.word := by
  rw [r.lookup_entries_of_last (by decide), lastFields]
  cases r.appliesTo <;> cases r.scope <;> cases r.dependsOn <;> rfl

theorem lookup_projectType : Value.lookup "project_type" r.entries = none := by
  rw [r.lookup_entries_of_last (by decide), lastFields]
  cases r.appliesTo <;> cases r.scope <;> cases r.dependsOn <;> rfl

theorem lookup_scope : Value.lookup "scope" r.entries = r.scope.map fun s => .str s.word := by
  rw [r.lookup_entries_of_last (by decide), lastFields]
  cases r.appliesTo <;> cases r.scope <;> cases r.dependsOn <;> rfl

theorem lookup_dependsOn :
    Value.lookup "depends_on" r.entries =
      if r.dependsOn.isEmpty then none else some (.list (r.dependsOn.map .int)) := by
  rw [r.lookup_entries_of_last (by decide), lastFields]
  cases r.appliesTo <;> cases r.scope <;> cases r.dependsOn <;> rfl

end Rule

/-! ## Readers -/

namespace Reader

variable {α : Type} {key : String} {keys : List String} {e : Entries} {v : Value} {r : Reader α}
    {a : α}

theorem required_of_lookup (hv : Value.lookup key e = some v) (ha : r v = .ok a) :
    required (key :: keys) r e = .ok a := by
  simp [required, find?, hv, ha]

theorem optional_of_lookup {default : α} (hv : Value.lookup key e = some v) (ha : r v = .ok a) :
    optional (key :: keys) default r e = .ok a := by
  simp [optional, find?, hv, ha]

theorem optional_of_not {default : α} (h : ∀ key ∈ keys, Value.lookup key e = none) :
    optional keys default r e = .ok default := by
  have hfind : find? keys e = none := List.findSome?_eq_none_iff.2 fun key hkey => by
    rw [h key hkey, Option.map_none]
  rw [optional, hfind]

/-- A word is read as what it stands for. -/
theorem oneOf_word {word : α → String} {all : List α}
    (h : all.find? (fun b => word b == word a) = some a) :
    oneOf (all.map fun b => (word b, b)) (.str (word a)) = .ok a := by
  have hlookup : ∀ as : List α, (as.map fun b => (word b, b)).lookup (word a) =
      as.find? fun b => word b == word a := by
    intro as
    induction as with
    | nil => rfl
    | cons b as ih =>
      rw [List.map_cons, List.lookup_cons, List.find?_cons, ih, BEq.comm]
  rw [oneOf, Value.string?, Option.bind_some, hlookup, h]

/-- A word that is written only if there is one is read as what was written. -/
theorem optional_word {word : α → String} {all : List α}
    (hword : ∀ a, all.find? (fun b => word b == word a) = some a) {x : Option α}
    (hkey : Value.lookup key e = x.map fun a => .str (word a))
    (hkeys : ∀ k ∈ keys, Value.lookup k e = none) :
    optional (key :: keys) none (nullable (oneOf (all.map fun b => (word b, b)))) e = .ok x := by
  cases x with
  | none => exact optional_of_not (List.forall_mem_cons.2 ⟨hkey, hkeys⟩)
  | some a =>
    have hread : nullable (oneOf (all.map fun b => (word b, b))) (.str (word a)) = .ok (some a) :=
      congrArg (Checked.map some) (oneOf_word (hword a))
    exact optional_of_lookup hkey hread

/-- The items of a list are read if each of them is. -/
theorem readItems_map {f : α → Value} (h : ∀ a, r (f a) = .ok a) (as : List α) :
    readItems r (as.map f) = .ok as := by
  have hread : ∀ a (n : Nat), (r (f a)).under (toString n) = .ok a := by
    intro a n
    rw [h]
    rfl
  unfold readItems
  generalize 0 = n
  induction as generalizing n with
  | nil => rfl
  | cons a as ih =>
    simp only [List.map_cons, List.zipIdx_cons, Checked.all, hread, ih]
    rfl

end Reader

theorem stringUnder_of_lookup {key text : String} {e : Entries}
    (h : Value.lookup key e = some (.str text)) : stringUnder key e = .ok text :=
  Reader.required_of_lookup h rfl

theorem maybeStringUnder_of_lookup {key : String} {text : Option String} {e : Entries}
    (h : Value.lookup key e = some (maybeStr text)) : maybeStringUnder key e = .ok text := by
  refine Reader.optional_of_lookup h ?_
  cases text <;> rfl

theorem manifestUnder_of_lookup {text : String} {e : Entries}
    (h : Value.lookup "manifest" e = some (.str text)) : manifestUnder e = .ok text :=
  Reader.optional_of_lookup h rfl

/-! ## Shapes -/

namespace Shape

variable {s : Shape} {e : Entries}

/-- A shape is read from all entries among which its fields are found. -/
theorem exists_reader_of_lookup
    (h : ∀ key v, s.fields.lookup key = some v → Value.lookup key e = some v) :
    ∃ f, readers.lookup s.word = some f ∧ f e = .ok s := by
  cases s with
  | fileExists path =>
    refine ⟨_, rfl, ?_⟩
    rw [stringUnder_of_lookup (h "path" _ rfl)]
    rfl
  | dirExists path =>
    refine ⟨_, rfl, ?_⟩
    rw [stringUnder_of_lookup (h "path" _ rfl)]
    rfl
  | dirNotExists path message =>
    refine ⟨_, rfl, ?_⟩
    rw [stringUnder_of_lookup (h "path" _ rfl), maybeStringUnder_of_lookup (h "message" _ rfl)]
    rfl
  | fileContentMatches path pattern =>
    refine ⟨_, rfl, ?_⟩
    rw [stringUnder_of_lookup (h "path" _ rfl), stringUnder_of_lookup (h "pattern" _ rfl)]
    rfl
  | fileContentNotMatches path pattern =>
    refine ⟨_, rfl, ?_⟩
    rw [stringUnder_of_lookup (h "path" _ rfl), stringUnder_of_lookup (h "pattern" _ rfl)]
    rfl
  | globContentMatches glob pattern =>
    refine ⟨_, rfl, ?_⟩
    rw [stringUnder_of_lookup (h "glob" _ rfl), stringUnder_of_lookup (h "pattern" _ rfl)]
    rfl
  | globContentNotMatches glob pattern exclude =>
    refine ⟨_, rfl, ?_⟩
    rw [stringUnder_of_lookup (h "glob" _ rfl), stringUnder_of_lookup (h "pattern" _ rfl),
      maybeStringUnder_of_lookup (h "exclude_pattern" _ rfl)]
    rfl
  | globNamingMatches glob pattern =>
    refine ⟨_, rfl, ?_⟩
    rw [stringUnder_of_lookup (h "glob" _ rfl), stringUnder_of_lookup (h "pattern" _ rfl)]
    rfl
  | globNamingNotMatches glob pattern excludes message =>
    have hexcludes : Reader.tuple Reader.string (.list (excludes.map .str)) = .ok excludes :=
      Reader.readItems_map (f := .str) (fun _ => rfl) excludes
    refine ⟨_, rfl, ?_⟩
    rw [stringUnder_of_lookup (h "glob" _ rfl), stringUnder_of_lookup (h "pattern" _ rfl),
      Reader.optional_of_lookup (h "exclude_paths" _ rfl) hexcludes,
      maybeStringUnder_of_lookup (h "message" _ rfl)]
    rfl
  | manifestKeyExists key manifest =>
    refine ⟨_, rfl, ?_⟩
    rw [stringUnder_of_lookup (h "key" _ rfl), manifestUnder_of_lookup (h "manifest" _ rfl)]
    rfl
  | manifestKeyMatches key pattern manifest =>
    refine ⟨_, rfl, ?_⟩
    rw [stringUnder_of_lookup (h "key" _ rfl), stringUnder_of_lookup (h "pattern" _ rfl),
      manifestUnder_of_lookup (h "manifest" _ rfl)]
    rfl
  | builtin handler =>
    refine ⟨_, rfl, ?_⟩
    rw [Reader.required_of_lookup (h "handler" _ rfl) (Reader.oneOf_word handler.ofWord?_word)]
    rfl

/-- A shape is told by its type. -/
theorem tagged_of_lookup
    (h : ∀ key v, s.fields.lookup key = some v → Value.lookup key e = some v) :
    Reader.tagged "type" readers (.dict e) = .ok s := by
  obtain ⟨f, hf, hread⟩ := exists_reader_of_lookup h
  have htype : Value.lookup "type" e = some (.str s.word) := h "type" _ rfl
  simp [Reader.tagged, htype, Value.string?, hf, hread]

/-- The type of a shape is known, and so is its handler. -/
theorem checkType_of_lookup
    (h : ∀ key v, s.fields.lookup key = some v → Value.lookup key e = some v) :
    checkType e = .ok () := by
  obtain ⟨f, hf, -⟩ := exists_reader_of_lookup h
  have htype : Value.lookup "type" e = some (.str s.word) := h "type" _ rfl
  have hhandler : s.word = "builtin" → ∃ handler : Handler,
      Value.lookup "handler" e = some (.str handler.word) := by
    cases s with
    | builtin handler => exact fun _ => ⟨handler, h "handler" _ rfl⟩
    | _ => simp [word]
  simp only [checkType, htype, Option.bind_some, Value.string?, hf, Option.isNone_some,
    Bool.false_eq_true, if_false, beq_iff_eq]
  split_ifs with hbuiltin habsent hknown
  · obtain ⟨handler, hlookup⟩ := hhandler hbuiltin
    simp [hlookup, isAbsent] at habsent
  · rfl
  · obtain ⟨handler, hlookup⟩ := hhandler hbuiltin
    simp [hlookup, Value.string?, handler.ofWord?_word] at hknown
  · rfl

end Shape

/-! ## Rules -/

namespace Rule

variable (r : Rule)

theorem dependsOnUnder_entries : dependsOnUnder r.entries = .ok r.dependsOn := by
  have hints : Reader.tuple Reader.integer (.list (r.dependsOn.map .int)) = .ok r.dependsOn :=
    Reader.readItems_map (f := .int) (fun _ => rfl) r.dependsOn
  have hlookup := r.lookup_dependsOn
  unfold dependsOnUnder
  split_ifs at hlookup with hempty
  · rw [hlookup, List.isEmpty_iff.1 hempty]
    rfl
  · rw [if_neg (by simp [hlookup, isAbsent]), Reader.required_of_lookup hlookup hints]

theorem appliesTo_entries :
    Reader.optional ["applies_to", "project_type"] none
      (Reader.nullable (Reader.oneOf (ProjectType.all.map fun t => (t.word, t)))) r.entries =
      .ok r.appliesTo :=
  Reader.optional_word ProjectType.ofWord?_word r.lookup_appliesTo (by simp [r.lookup_projectType])

theorem scope_entries :
    Reader.optional ["scope"] none
      (Reader.nullable (Reader.oneOf (Scope.all.map fun k => (k.word, k)))) r.entries =
      .ok r.scope :=
  Reader.optional_word Scope.ofWord?_word r.lookup_scope (by simp)

/-- A rule with a positive identifier is read from the entries of its record. -/
theorem ofEntries_entries (hpos : 0 < r.id) : ofEntries r.entries = .ok r := by
  have hid : Reader.positive (.int r.id) = .ok r.id := by
    simp [Reader.positive, Reader.integer, Checked.andThen, hpos]
  rw [ofEntries, Reader.required_of_lookup (r.lookup_entries_of_first rfl) hid,
    stringUnder_of_lookup (r.lookup_entries_of_first rfl),
    stringUnder_of_lookup (r.lookup_entries_of_first rfl),
    Reader.required_of_lookup (r.lookup_entries_of_first rfl)
      (Reader.oneOf_word r.severity.ofWord?_word),
    Shape.tagged_of_lookup fun _ _ => r.lookup_entries_of_shape,
    r.appliesTo_entries, r.scope_entries, r.dependsOnUnder_entries]
  rfl

/-- The record of a rule with a positive identifier is that of the rule. -/
theorem isOf_record (hpos : 0 < r.id) : r.IsOf r.record := fun index => by
  rw [ofValue_eq_ok_iff]
  exact ⟨r.entries, r.record_eq, Shape.checkType_of_lookup fun _ _ => r.lookup_entries_of_shape,
    r.ofEntries_entries hpos⟩

end Rule

/-! ## Sets of rules -/

/-- Rules in their order get their places in that order. -/
theorem Rule.Placing.self {rules ordered : List Rule} (h : Placing [] rules ordered [])
    (hnodup : (rules.map Rule.id).Nodup) : Placing [] ordered ordered [] := by
  obtain ⟨left, hleft, hplacing⟩ := h.of_perm (by simpa using h.perm hnodup)
  obtain rfl := hleft.nil_eq
  exact hplacing

theorem Rule.Closed.of_perm {rules rules' : List Rule} (h : Closed rules)
    (hperm : rules.Perm rules') :
    Closed rules' where
  nodup := (hperm.map Rule.id).nodup_iff.1 h.nodup
  known r hr d hd := (hperm.map Rule.id).mem_iff.1 (h.known r (hperm.mem_iff.2 hr) d hd)

/-- Rules that get their places are read from the document that lists them. -/
theorem RuleSet.ofValue_document_of_placing {source source' : String} {rules ordered : List Rule}
    (hpos : ∀ r ∈ rules, 0 < r.id) (hclosed : Rule.Closed rules)
    (hplacing : Rule.Placing [] rules ordered []) :
    RuleSet.ofValue source' (RuleSet.document ⟨rules, source⟩) =
      .ok ⟨ordered, source'⟩ := by
  refine ofValue_eq_ok_iff_placing.2 ⟨rules.map Rule.record, rules, ordered, rfl, ?_, hclosed,
    hplacing, rfl⟩
  rw [List.forall₂_map_right_iff, List.forall₂_same]
  exact fun r hr => r.isOf_record (hpos r hr)

/-- A set of rules that was read from a document is read from its own document. -/
theorem RuleSet.ofValue_document {source source' : String} {v : Value} {s : RuleSet}
    (h : RuleSet.ofValue source v = .ok s) :
    RuleSet.ofValue source' s.document = .ok ⟨s.rules, source'⟩ := by
  obtain ⟨records, rules, ordered, -, hall, hclosed, hplacing, rfl⟩ :=
    ofValue_eq_ok_iff_placing.1 h
  have hperm : rules.Perm ordered := by simpa using hplacing.perm hclosed.nodup
  have hpos : ∀ r ∈ ordered, 0 < r.id := fun r hr =>
    Rule.id_pos_of_forall₂ hall r (hperm.mem_iff.2 hr)
  exact ofValue_document_of_placing hpos (hclosed.of_perm hperm) (hplacing.self hclosed.nodup)

/-- A rule that depends on nothing is accepted by itself. -/
theorem RuleSet.ofValue_alone {r : Rule} (hpos : 0 < r.id) (hfree : r.dependsOn = [])
    (source : String) :
    RuleSet.ofValue source (RuleSet.document ⟨[r], source⟩) = .ok ⟨[r], source⟩ := by
  have hrest : Rule.without r [r] = [] := by simp [Rule.without]
  have hplacing : Rule.Placing [] [r] [r] [] := by
    refine .place ⟨List.mem_cons_self, by simp [Rule.Ready, hfree], by simp⟩ ?_
    rw [hrest]
    exact .stop (by simp)
  exact ofValue_document_of_placing (by simpa using hpos) ⟨by simp, by simp [hfree]⟩ hplacing

/-- Writing is undone by reading. For every set of rules that was read from a document, a text that
spells its own document is read as the same rules in the same order, and their document is the same
again. -/
theorem RuleSet.ofText_document {source text : String} {s : RuleSet}
    (h : RuleSet.ofText source text = .ok s) {source' text' : String}
    (hspells : Value.ofYaml? text'.toList = .ok s.document) :
    ∃ s', RuleSet.ofText source' text' = .ok s' ∧ s'.rules = s.rules ∧
    s'.document = s.document := by
  obtain ⟨v, -, hs⟩ := exists_ofValue_of_ofText h
  refine ⟨⟨s.rules, source'⟩, ?_, rfl, rfl⟩
  rw [ofText_of_ofYaml? hspells]
  exact ofValue_document hs

/-- The document of two rules in their order. -/
def twoRulesAgainText : String :=
  "rules: [\x7bid: 1, category: a, description: b, severity: error, type: file_exists, " ++
    "path: q\x7d, \x7bid: 2, category: a, description: b, severity: info, type: dir_exists, " ++
    "path: p, depends_on: [1]\x7d]"

theorem any_ofYaml?_twoRulesAgainText :
    (Value.ofYaml? twoRulesAgainText.toList).toOption.any
      (Value.isSamePlain (RuleSet.document ⟨twoRules, ""⟩)) = true := by
  decide +kernel

/-- The two rules, written in their order, are read as they were. -/
theorem RuleSet.ofText_document_twoRules :
    RuleSet.ofText "" twoRulesText = .ok ⟨twoRules, ""⟩ ∧
      Value.ofYaml? twoRulesAgainText.toList = .ok (RuleSet.document ⟨twoRules, ""⟩) ∧
      ∃ s', RuleSet.ofText "again" twoRulesAgainText = .ok s' ∧ s'.rules = twoRules := by
  have hspells : Value.ofYaml? twoRulesAgainText.toList =
      .ok (RuleSet.document ⟨twoRules, ""⟩) := by
    obtain ⟨v, hv, hsame⟩ := (Option.any_eq_true _ _).1 any_ofYaml?_twoRulesAgainText
    rw [Value.eq_of_isSamePlain hsame]
    exact toOption_eq_some_iff.1 hv
  obtain ⟨s', hs', hrules, -⟩ := RuleSet.ofText_document ofText_twoRulesText hspells
  exact ⟨ofText_twoRulesText, hspells, s', hs', hrules⟩

end DocAudit
