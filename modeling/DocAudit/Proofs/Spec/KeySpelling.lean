import DocAudit.Proofs.Schema.CamelCase
import DocAudit.Proofs.Spec.Record
import DocAudit.Proofs.Value

/-!
# The spelling of keys

A record is read like the same record with all its keys in camel case (`Record.readsSame`). So two
texts that differ in nothing but the spelling of their keys give the same document or equally many
diagnostics (`Document.outcome_eq_of_respelled`), as long as no level of the record has a field
under both of its names.
-/

namespace DocAudit.Spec

open Reader Value FieldName

variable {α : Type} {e d : Entries} {keys : List String} {name what : String} {p : FieldName}

theorem blind_textField : Blind textField := by
  intro v
  cases v <;> exact .refl _

theorem readsSame_textUnder (h : FindsSame keys e) : ReadsSame (textUnder keys) e :=
  readsSame_optional h fun _ v _ => blind_textField v

theorem readsSame_recordsUnder {f : Entries → Checked α} (h : FindsSame keys e)
    (hf : ∀ k v items d, find? keys e = some (k, v) → items? v = some items →
      .dict d ∈ items → ReadsSame f d) :
    ReadsSame (recordsUnder keys what f) e := by
  refine readsSame_optional h fun k v hfind => alike_nullable
    (alike_list fun items hitems w hw => ?_)
  refine alike_record fun d hd => ?_
  subst hd
  exact hf k v items d hfind hitems hw

/-! ## Records -/

theorem readsSame_text (h : ∀ name ∈ keys, IsPlain name) (e : Entries) :
    ReadsSame (textUnder keys) e :=
  readsSame_textUnder (findsSame_of_isPlain h e)

theorem Dependency.readsSame (e : Entries) : ReadsSame Dependency.ofEntries e :=
  ((readsSame_text (by decide) e).map _).seq (readsSame_text (by decide) e)

theorem DomainEntry.readsSame (e : Entries) : ReadsSame DomainEntry.ofEntries e :=
  (((readsSame_text (by decide) e).map _).seq (readsSame_text (by decide) e)).seq
    (readsSame_text (by decide) e)

theorem Requirement.readsSame (e : Entries) : ReadsSame Requirement.ofEntries e :=
  (((((readsSame_text (by decide) e).map _).seq (readsSame_text (by decide) e)).seq
    (readsSame_text (by decide) e)).seq (readsSame_text (by decide) e)).seq
      (readsSame_text (by decide) e)

theorem TestCase.readsSame (e : Entries) : ReadsSame TestCase.ofEntries e :=
  (((readsSame_text (by decide) e).map _).seq (readsSame_text (by decide) e)).seq
    (readsSame_text (by decide) e)

theorem Environment.readsSame (e : Entries) : ReadsSame Environment.ofEntries e :=
  ((readsSame_text (by decide) e).map _).seq (readsSame_text (by decide) e)

theorem File.readsSame (e : Entries) : ReadsSame File.ofEntries e :=
  ((((readsSame_required (findsSame_of_isPlain (by decide) e) blind_string).map _).seq
    (readsSame_required (findsSame_of_isPlain (by decide) e) (blind_oneOf _))).seq
    (readsSame_required (findsSame_of_isPlain (by decide) e) (blind_oneOf _))).seq
    (readsSame_required (findsSame_of_isPlain (by decide) e) blind_string)

theorem Component.readsSame (h : Single FieldName.tracesTo.camel (camelCaseEntries e)) :
    ReadsSame Component.ofEntries e := by
  have htraces : ReadsSame (textUnder ["tracesTo", "traces_to"]) e :=
    readsSame_textUnder (findsSame_of_single (p := FieldName.tracesTo) (by decide) h)
  exact (((readsSame_text (by decide) e).map _).seq htraces).seq (readsSame_text (by decide) e)

theorem Domain.readsSame (h : Single FieldName.specCount.camel (camelCaseEntries e)) :
    ReadsSame Domain.ofEntries e := by
  have hname : ReadsSame (textUnder ["name"]) e := readsSame_text (by decide) e
  have hcount : ReadsSame (optional ["specCount", "spec_count"] none (nullable integer)) e :=
    readsSame_optional (findsSame_of_single (p := FieldName.specCount) (by decide) h)
      fun _ v _ => blind_integer.nullable v
  have hspecs : ReadsSame (recordsUnder ["specs"] "BrdSpecEntry" DomainEntry.ofEntries) e :=
    readsSame_recordsUnder (findsSame_of_isPlain (by decide) e) fun _ _ _ d _ _ _ =>
      DomainEntry.readsSame d
  have hpath : ReadsSame (textUnder ["path"]) e := readsSame_text (by decide) e
  exact (((hname.map _).seq hcount).seq hspecs).seq hpath

/-! ## Levels of a record -/

/-- A mapping is an item of the list that stands under a name. -/
def HasItem (name : String) (e d : Entries) : Prop :=
  ∃ v items, Value.lookup name e = some v ∧ items? v = some items ∧ .dict d ∈ items

/-- A mapping is a level of a record where a field with two names belongs. -/
inductive HasField (e : Entries) : FieldName → Entries → Prop
  | schemaVersion : HasField e schemaVersion e
  | relatedDocuments : HasField e relatedDocuments e
  | testCases (hkind : Value.lookup "kind" e = some (.str Kind.testPlan.word)) :
      HasField e testCases e
  | specCount {d : Entries} (hkind : Value.lookup "kind" e = some (.str Kind.brd.word))
    (hitem : HasItem "domains" e d) : HasField e specCount d
  | tracesTo {d : Entries} (hkind : Value.lookup "kind" e = some (.str Kind.architecture.word))
    (hitem : HasItem "components" e d) : HasField e tracesTo d

/-- No level of a record has a field under both of its names. -/
def SpelledOnce (e : Entries) : Prop := ∀ p d, HasField e p d → p.Once d

/-- No level of a record has two entries for a field. -/
def HasSingles (e : Entries) : Prop :=
  ∀ p d, HasField e p d → Single p.camel (camelCaseEntries d)

theorem HasField.mem_all (h : HasField e p d) : p ∈ FieldName.all := by
  cases h <;> decide

theorem HasItem.isDistinct (h : HasItem name e d) (he : (Value.dict e).IsDistinct) :
    (Value.dict d).IsDistinct := by
  obtain ⟨v, items, hlookup, hitems, hd⟩ := h
  exact (he.of_mem_entries (mem_of_lookup hlookup)).of_mem_items hitems hd

theorem HasField.isDistinct (h : HasField e p d) (he : (Value.dict e).IsDistinct) :
    (Value.dict d).IsDistinct := by
  cases h with
  | schemaVersion => exact he
  | relatedDocuments => exact he
  | testCases => exact he
  | specCount _ hitem => exact hitem.isDistinct he
  | tracesTo _ hitem => exact hitem.isDistinct he

/-- A mapping with distinct keys has one entry at most for a field that does not stand under both of
its names. -/
theorem single_of_once (hp : p ∈ FieldName.all) (hdistinct : Distinct d) (h : p.Once d) :
    Single p.camel (camelCaseEntries d) := by
  have hname : ∀ k : Value, camelKey k = .str p.camel →
      k = .str p.snake ∨ k = .str p.camel := by
    intro k hk
    obtain ⟨t, rfl, ht⟩ := camelKey_eq_str_iff.1 hk
    exact ((camelOf_eq_camel_iff hp).1 ht).imp (congrArg _) (congrArg _)
  have hboth : ∀ a ∈ d, ∀ b ∈ d, ¬(a.1 = .str p.snake ∧ b.1 = .str p.camel) := by
    rintro ⟨_, v⟩ ha ⟨_, w⟩ hb ⟨rfl, rfl⟩
    rcases h with h | h
    · exact lookup_eq_none_iff.1 h v ha
    · exact lookup_eq_none_iff.1 h w hb
  rw [Single, camelCaseEntries_eq_map, List.pairwise_map]
  refine hdistinct.imp_of_mem fun {a b} ha hb hdiffer hsame => ?_
  have hsameKey : ∀ s, a.1 = .str s → b.1 ≠ .str s := by
    intro s ha hb
    rw [ha, hb, sameKey_str_iff.2 rfl] at hdiffer
    cases hdiffer
  rcases hname a.1 hsame.1 with ha' | ha' <;> rcases hname b.1 hsame.2 with hb' | hb'
  · exact hsameKey _ ha' hb'
  · exact hboth a ha b hb ⟨ha', hb'⟩
  · exact hboth b hb a ha ⟨hb', ha'⟩
  · exact hsameKey _ ha' hb'

theorem SpelledOnce.hasSingles (h : SpelledOnce e) (he : (Value.dict e).IsDistinct) :
    HasSingles e := by
  intro p d hfield
  exact single_of_once hfield.mem_all (hfield.isDistinct he _ .self) (h p d hfield)

/-! ## Respelled mappings -/

/-- Two mappings differ in nothing but whether the names of fields are in snake case or in camel
case, in any of the mappings inside of them. -/
def Respelled (e e' : Entries) : Prop := camelCaseEntries e = camelCaseEntries e'

variable {e' : Entries}

theorem Respelled.lookup_kind {s : String} (h : Respelled e e') :
    Value.lookup "kind" e = some (.str s) ↔ Value.lookup "kind" e' = some (.str s) := by
  have hcamel : ∀ e, Value.lookup "kind" e = some (.str s) ↔
      Value.lookup "kind" (camelCaseEntries e) = some (.str s) := by
    intro e
    rw [lookup_camelCaseEntries_of_isPlain (by decide), Option.map_eq_some_iff]
    simp only [camelCase_eq_str_iff, exists_eq_right]
  rw [hcamel e, hcamel e', h]

theorem Respelled.exists_hasItem (h : Respelled e e') (hname : IsPlain name)
    (hitem : HasItem name e' d) :
    ∃ d₀, HasItem name e d₀ ∧ Respelled d₀ d := by
  obtain ⟨v', items', hlookup', hitems', hd⟩ := hitem
  have hlookup : (Value.lookup name e).map camelCase = some v'.camelCase := by
    rw [← lookup_camelCaseEntries_of_isPlain hname, h, lookup_camelCaseEntries_of_isPlain hname,
      hlookup']
    rfl
  obtain ⟨v, hv, hcamel⟩ := Option.map_eq_some_iff.1 hlookup
  have hitems : (items? v).map (fun vs => vs.map camelCase) = some (items'.map camelCase) := by
    rw [← items?_camelCase, hcamel, items?_camelCase, hitems']
    rfl
  obtain ⟨items, hitems, hmap⟩ := Option.map_eq_some_iff.1 hitems
  have hmem : camelCase (.dict d) ∈ items.map camelCase := hmap ▸ List.mem_map_of_mem hd
  obtain ⟨w, hw, heq⟩ := List.mem_map.1 hmem
  obtain ⟨d₀, rfl, hd₀⟩ := camelCase_eq_dict_iff.1 heq
  exact ⟨d₀, ⟨v, items, hv, hitems, hw⟩, hd₀⟩

/-- The levels of a respelled record are the levels of the record, respelled. -/
theorem Respelled.exists_hasField (h : Respelled e e') (hfield : HasField e' p d) :
    ∃ d₀, HasField e p d₀ ∧ Respelled d₀ d := by
  cases hfield with
  | schemaVersion => exact ⟨e, .schemaVersion, h⟩
  | relatedDocuments => exact ⟨e, .relatedDocuments, h⟩
  | testCases hkind => exact ⟨e, .testCases (h.lookup_kind.2 hkind), h⟩
  | specCount hkind hitem =>
    obtain ⟨d₀, hitem, hd⟩ := h.exists_hasItem (by decide) hitem
    exact ⟨d₀, .specCount (h.lookup_kind.2 hkind) hitem, hd⟩
  | tracesTo hkind hitem =>
    obtain ⟨d₀, hitem, hd⟩ := h.exists_hasItem (by decide) hitem
    exact ⟨d₀, .tracesTo (h.lookup_kind.2 hkind) hitem, hd⟩

theorem HasSingles.respelled (hsingles : HasSingles e) (h : Respelled e e') : HasSingles e' := by
  intro p d hfield
  obtain ⟨d₀, hfield₀, hd⟩ := h.exists_hasField hfield
  exact hd ▸ hsingles p d₀ hfield₀

/-! ## Reading in camel case -/

theorem readsSame_items {f : Entries → Checked α} (hname : IsPlain name)
    (hf : ∀ d, HasItem name e d → ReadsSame f d) :
    ReadsSame (recordsUnder [name] what f) e := by
  refine readsSame_recordsUnder (findsSame_of_isPlain (by simpa using hname) e)
    fun k v items d hfind hitems hd => hf d ⟨v, items, ?_, hitems, hd⟩
  unfold find? at hfind
  cases hlookup : Value.lookup name e with
  | none => simp [hlookup] at hfind
  | some w => simp_all

theorem Content.readsSame {kind : Kind} (hkind : Value.lookup "kind" e = some (.str kind.word))
    (h : HasSingles e) : ReadsSame (Content.ofEntries kind) e := by
  have hspec : ReadsSame (textUnder ["spec"]) e := readsSame_text (by decide) e
  cases kind with
  | brd =>
    have hdomains : ReadsSame (recordsUnder ["domains"] "BrdDomain" Domain.ofEntries) e :=
      readsSame_items (by decide) fun d hd => Domain.readsSame (h _ d (.specCount hkind hd))
    exact hdomains.map _
  | featureRequest =>
    have hrequirements :
        ReadsSame (recordsUnder ["requirements"] "Requirement" Requirement.ofEntries) e :=
      readsSame_items (by decide) fun d _ => Requirement.readsSame d
    exact (((readsSame_text (by decide) e).map _).seq (readsSame_text (by decide) e)).seq
      hrequirements
  | architecture =>
    have hcomponents :
        ReadsSame (recordsUnder ["components"] "ArchComponent" Component.ofEntries) e :=
      readsSame_items (by decide) fun d hd => Component.readsSame (h _ d (.tracesTo hkind hd))
    exact (hspec.map _).seq hcomponents
  | testPlan =>
    have hcases :
        ReadsSame (recordsUnder ["testCases", "test_cases"] "TestCase" TestCase.ofEntries) e :=
      readsSame_recordsUnder
        (findsSame_of_single (p := FieldName.testCases) (by decide) (h _ e (.testCases hkind)))
        fun _ _ _ d _ _ _ => TestCase.readsSame d
    exact (hspec.map _).seq hcases
  | deployment =>
    have henvironments :
        ReadsSame (recordsUnder ["environments"] "Environment" Environment.ofEntries) e :=
      readsSame_items (by decide) fun d _ => Environment.readsSame d
    exact (hspec.map _).seq henvironments

/-- A record is read like the same record with all its keys in camel case. -/
theorem Record.readsSame {kind : Kind} (hkind : Value.lookup "kind" e = some (.str kind.word))
    (h : HasSingles e) : ReadsSame (Record.ofEntries kind) e := by
  have hversion : ReadsSame (textUnder ["schemaVersion", "schema_version"]) e :=
    readsSame_textUnder
      (findsSame_of_single (p := FieldName.schemaVersion) (by decide) (h _ e .schemaVersion))
  have htitle : ReadsSame (textUnder ["title"]) e := readsSame_text (by decide) e
  have hid : ReadsSame (textUnder ["id"]) e := readsSame_text (by decide) e
  have hdependencies : ReadsSame (optional ["dependencies"] []
      (list (record "Dependency" Dependency.ofEntries))) e :=
    readsSame_optional (findsSame_of_isPlain (by decide) e)
      fun _ v _ => alike_list fun _ _ w _ => alike_record fun d _ => Dependency.readsSame d
  have hrelated :
      ReadsSame (optional ["relatedDocuments", "related_documents"] [] (list string)) e :=
    readsSame_optional
      (findsSame_of_single (p := FieldName.relatedDocuments) (by decide) (h _ e .relatedDocuments))
      fun _ v _ => alike_list fun _ _ w _ => blind_string w
  have horigin :
      ReadsSame (optional ["origin"] none (nullable (record "DiscoveredSpec" File.ofEntries))) e :=
    readsSame_optional (findsSame_of_isPlain (by decide) e)
      fun _ v _ => alike_nullable (alike_record fun d _ => File.readsSame d)
  exact ((((((hversion.map _).seq htitle).seq hid).seq hdependencies).seq hrelated).seq horigin).seq
    (Content.readsSame hkind h)

/-! ## Outcomes -/

/-- The record that a value holds, or how many flaws it has. -/
def Record.tally (v : Value) : Except Fault (Except Nat Record) :=
  (Record.ofValue v).map (Except.mapError List.length)

theorem Record.tally_of_word {word : Value} (hword : Value.lookup "kind" e = some word)
    (hnull : word ≠ .null) :
    Record.tally (.dict e) =
      match word.string?.bind Kind.ofWord? with
      | some kind => .ok (Record.ofEntries kind e).tally
      | none => (word.textOrFault).map fun _ => .error 1 := by
  unfold Record.tally Record.ofValue
  dsimp only
  rw [hword]
  split
  · rename_i h
    cases h
  · rename_i h
    exact absurd (Option.some.inj h) hnull
  · rename_i h
    cases h
    cases word.string?.bind Kind.ofWord? with
    | some kind =>
      dsimp only
      cases Record.ofEntries kind e with
      | ok r => rfl
      | bad issues => simp [Except.map, Except.mapError, Checked.tally]
    | none =>
      dsimp only
      cases word.textOrFault <;> rfl

theorem Record.tally_camelCase (h : HasSingles e) :
    Record.tally (.dict (camelCaseEntries e)) = Record.tally (.dict e) := by
  have hlookup : Value.lookup "kind" (camelCaseEntries e) = (Value.lookup "kind" e).map camelCase :=
    lookup_camelCaseEntries_of_isPlain (by decide) e
  cases hword : Value.lookup "kind" e with
  | none =>
    rw [hword] at hlookup
    simp only [Record.tally, Record.ofValue, hword, hlookup, Option.map_none]
  | some word =>
    rw [hword] at hlookup
    by_cases hnull : word = .null
    · subst hnull
      simp only [Record.tally, Record.ofValue, hword, hlookup, Option.map_some, camelCase]
    · rw [Record.tally_of_word hword hnull,
        Record.tally_of_word hlookup fun h => hnull (camelCase_eq_null_iff.1 h),
        string?_camelCase]
      cases hkind : word.string?.bind Kind.ofWord? with
      | none =>
        dsimp only
        rw [textOrFault, textOrFault, textFault?_camelCase]
        cases word.textFault? <;> rfl
      | some kind =>
        have hsame : ReadsSame (Record.ofEntries kind) e :=
          Record.readsSame (by rw [hword, eq_str_of_ofWord? hkind]) h
        exact congrArg Except.ok hsame.tally_eq.symm

/-- The document of a text, or how many diagnostics the text gives. -/
def Document.outcome (f : File) (text : String) : Except Fault (Except Nat Document) :=
  (Document.ofText f text).map fun r => r.mapError fun flaws =>
    (diagnosticsOf (f, .error flaws)).length

variable {f : File} {text text' : String}

theorem Document.outcome_of_value {v : Value} (hf : f.format = .yaml)
    (h : Value.ofYaml? text.toList = .ok v) :
    Document.outcome f text = (Record.tally v).map fun r => r.map fun r => ⟨f, .record r⟩ := by
  rw [Document.outcome, Document.ofText_yaml hf, Record.ofText, h, Record.tally]
  dsimp only
  rcases Record.ofValue v with fault | flaws | r
  · rfl
  · simp [Except.map, Except.mapError, diagnosticsOf]
  · rfl

/-- Two texts that differ in nothing but the spelling of their keys have the same outcome, if no
level of the record that one of them holds has a field under both of its names. -/
theorem Document.outcome_eq_of_respelled (hf : f.format = .yaml)
    (h : Value.ofYaml? text.toList = .ok (.dict e))
    (h' : Value.ofYaml? text'.toList = .ok (.dict e'))
    (hsame : Respelled e e') (honce : SpelledOnce e) :
    Document.outcome f text = Document.outcome f text' := by
  have hsingles : HasSingles e := honce.hasSingles (isDistinct_of_ofYaml? h)
  have htally : Record.tally (.dict e) = Record.tally (.dict e') := by
    calc Record.tally (.dict e)
      _ = Record.tally (.dict (camelCaseEntries e)) := (Record.tally_camelCase hsingles).symm
      _ = Record.tally (.dict (camelCaseEntries e')) := by rw [hsame]
      _ = Record.tally (.dict e') := Record.tally_camelCase (hsingles.respelled hsame)
  rw [Document.outcome_of_value hf h, Document.outcome_of_value hf h', htally]

/-- An inventory with both spellings of one field in two of its domains. -/
def domainsText : String :=
  "kind: brd\nschema_version: 1\ndomains:\n- spec_count: 2\n- specCount: 3\n"

/-- The same inventory with each of these keys in its other spelling. -/
def domainsTextAgain : String :=
  "kind: brd\nschemaVersion: 1\ndomains:\n- specCount: 2\n- spec_count: 3\n"

/-- The mapping of an inventory with two domains, by the keys of its fields. -/
def domainsEntries (version first second : String) : Entries :=
  [(.str "kind", .str "brd"), (.str version, .int 1),
    (.str "domains", .list [.dict [(.str first, .int 2)], .dict [(.str second, .int 3)]])]

theorem any_ofYaml?_domainsText :
    (Value.ofYaml? domainsText.toList).toOption.any
        (isSamePlain (.dict (domainsEntries "schema_version" "spec_count" "specCount"))) = true ∧
      (Value.ofYaml? domainsTextAgain.toList).toOption.any
        (isSamePlain (.dict (domainsEntries "schemaVersion" "specCount" "spec_count"))) = true := by
  decide +kernel

theorem spelledOnce_domainsEntries :
    SpelledOnce (domainsEntries "schema_version" "spec_count" "specCount") := by
  intro p d hfield
  cases hfield with
  | schemaVersion => exact .inr rfl
  | relatedDocuments => exact .inl rfl
  | testCases hkind => exact absurd (Value.str.inj (Option.some.inj hkind)) (by decide)
  | specCount hkind hitem =>
    obtain ⟨v, items, hlookup, hitems, hd⟩ := hitem
    cases hlookup
    cases hitems
    rcases List.mem_pair.1 hd with hd | hd
    · cases hd
      exact .inr rfl
    · cases hd
      exact .inl rfl
  | tracesTo hkind => exact absurd (Value.str.inj (Option.some.inj hkind)) (by decide)

/-- Both spellings of the inventory give the same document. -/
theorem Document.outcome_eq_of_respelled_domains :
    (∃ d, Document.outcome ⟨"brd.spec.yaml", .yaml, .brd, "brd"⟩ domainsText =
      .ok (.ok d)) ∧ Document.outcome ⟨"brd.spec.yaml", .yaml, .brd, "brd"⟩ domainsText =
        Document.outcome ⟨"brd.spec.yaml", .yaml, .brd, "brd"⟩ domainsTextAgain := by
  have hvalue : ∀ {text v}, (Value.ofYaml? text).toOption.any (isSamePlain v) = true →
      Value.ofYaml? text = .ok v := by
    intro text v h
    obtain ⟨w, hw, hsame⟩ := (Option.any_eq_true _ _).1 h
    rw [Value.eq_of_isSamePlain hsame]
    exact toOption_eq_some_iff.1 hw
  refine ⟨?_, Document.outcome_eq_of_respelled rfl (hvalue any_ofYaml?_domainsText.1)
    (hvalue any_ofYaml?_domainsText.2) rfl spelledOnce_domainsEntries⟩
  have hsome :
      ((Document.outcome ⟨"brd.spec.yaml", .yaml, .brd, "brd"⟩ domainsText).toOption.bind
      Except.toOption).isSome = true := by
    decide +kernel
  obtain ⟨d, hd⟩ := Option.isSome_iff_exists.1 hsome
  obtain ⟨result, hresult, hd⟩ := Option.bind_eq_some_iff.1 hd
  rw [toOption_eq_some_iff] at hresult hd
  exact ⟨d, hd ▸ hresult⟩

end DocAudit.Spec
