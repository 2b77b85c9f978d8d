import DocAudit.Proofs.Fault
import DocAudit.Proofs.Spec.Corpus

/-!
# Records

The text of a YAML file is a record of the kind that it declares, or it has diagnostics that name
the file, unless it meets a fault: a scalar that denotes no value, nesting that is too deep, or
something for a kind that cannot be written (`Document.recordOutcome`). A fault in one file ends the
reading of the whole project.
-/

namespace DocAudit.Spec

/-- A text meets a fault when it is read as a record. -/
inductive Record.Meets (text : String) : Fault → Prop
  /-- A scalar denotes no value. -/
  | scalar {fault : Yaml.ScalarFault} (h : Value.ofYaml? text.toList = .error (.scalar fault)) :
    Meets text (.scalar fault)
  /-- Collections are nested too deeply. -/
  | tooDeep (h : Value.ofYaml? text.toList = .error .tooDeep) : Meets text .tooDeep
  /-- What is given for the kind is no word for one, and cannot be written in the message either: it
  holds an integer that is too long or is nested too deeply. -/
  | kind {entries : Entries} {word : Value} {fault : Fault}
    (h : Value.ofYaml? text.toList = .ok (.dict entries))
    (hword : Value.lookup "kind" entries = some word) (hfault : word.textFault? = some fault) :
    Meets text fault

/-- A text is a mapping that declares a kind. -/
def Declares (text : String) (kind : Kind) : Prop :=
  ∃ entries, Value.ofYaml? text.toList = .ok (.dict entries) ∧
    Value.lookup "kind" entries = some (.str kind.word)

theorem Kind.word_of_ofWord? {word : String} {kind : Kind} (h : Kind.ofWord? word = some kind) :
    kind.word = word := by
  simpa using List.find?_some h

/-- A value is the word for a kind. -/
theorem eq_str_of_ofWord? {word : Value} {kind : Kind}
    (h : word.string?.bind Kind.ofWord? = some kind) : word = .str kind.word := by
  obtain ⟨w, hw, hkind⟩ := Option.bind_eq_some_iff.1 h
  rw [Kind.word_of_ofWord? hkind]
  cases word with
  | str w' => exact congrArg Value.str (Option.some.inj hw)
  | _ => cases hw

variable {text : String} {value : Value} {fault : Fault} {f : File} {p : Project}

namespace Record

theorem kind_of_ofEntries {kind : Kind} {e : Entries} {r : Record}
    (h : Record.ofEntries kind e = .ok r) : r.content.kind = kind := by
  simp only [Record.ofEntries, Checked.map_eq_ok_iff, Checked.seq_eq_ok_iff] at h
  obtain ⟨_, _, ⟨_, _, ⟨_, _, ⟨_, _, ⟨_, _, ⟨_, _, ⟨_, _, rfl⟩,
    -, rfl⟩, -, rfl⟩, -, rfl⟩, -, rfl⟩, -, rfl⟩, hcontent, rfl⟩ := h
  exact Content.kind_ofEntries hcontent

/-- A record is of the kind that its value declares. -/
theorem lookup_kind_of_ofValue {r : Record} (h : Record.ofValue value = .ok (.ok r)) :
    ∃ entries, value = .dict entries ∧
      Value.lookup "kind" entries = some (.str r.content.kind.word) := by
  unfold Record.ofValue at h
  split at h
  · split at h
    · cases h
    · cases h
    · rename_i entries _ word _ hword
      split at h
      · rename_i kind hkind
        split at h
        · rename_i hr
          cases h
          exact ⟨entries, rfl, by rw [hword, eq_str_of_ofWord? hkind, kind_of_ofEntries hr]⟩
        · cases h
      · obtain ⟨_, -, htext⟩ := map_eq_ok_iff.1 h
        cases htext
  · cases h

/-- Only a kind that cannot be written keeps a value from being read. -/
theorem ofValue_eq_error_iff : Record.ofValue value = .error fault ↔
    ∃ entries word, value = .dict entries ∧
      Value.lookup "kind" entries = some word ∧ word.textFault? = some fault := by
  unfold Record.ofValue
  split
  · split
    · rename_i hword
      simp [hword]
    · rename_i hword
      simp [hword, Value.textFault?_null]
    · rename_i word _ hword
      split
      · rename_i kind hkind
        have hnone : word.textFault? = none := by rw [eq_str_of_ofWord? hkind, Value.textFault?_str]
        split <;> simp [hword, hnone]
      · rw [map_eq_error_iff, Value.textOrFault_eq_error_iff]
        simp [hword]
  · rename_i hnot
    simp only [reduceCtorEq, false_iff]
    rintro ⟨entries, word, rfl, -⟩
    exact hnot entries rfl

/-- A text that is read as a record declares the kind of the record. -/
theorem declares_of_ofText {r : Record} (h : Record.ofText text = .ok (.ok r)) :
    Declares text r.content.kind := by
  unfold Record.ofText at h
  split at h
  · rename_i value hvalue
    obtain ⟨entries, rfl, hword⟩ := lookup_kind_of_ofValue h
    exact ⟨entries, hvalue, hword⟩
  all_goals cases h

theorem ofText_eq_error_iff : Record.ofText text = .error fault ↔ Meets text fault := by
  unfold Record.ofText
  constructor
  · intro h
    split at h
    · rename_i value hvalue
      obtain ⟨entries, word, rfl, hword, hfault⟩ := ofValue_eq_error_iff.1 h
      exact .kind hvalue hword hfault
    · rename_i hscalar
      cases h
      exact .scalar hscalar
    · rename_i hdeep
      cases h
      exact .tooDeep hdeep
    · cases h
  · rintro (hscalar | hdeep | ⟨hvalue, hword, hfault⟩)
    · rw [hscalar]
    · rw [hdeep]
    · rw [hvalue]
      exact ofValue_eq_error_iff.2 ⟨_, _, rfl, hword, hfault⟩

end Record

/-! ## Files -/

/-- What comes of the text of a YAML file. -/
structure RecordOutcome (f : File) (text : String) : Prop where
  /-- A document has the file as its origin and is a record of the kind that the text declares. -/
  document : ∀ d, Document.ofText f text = .ok (.ok d) →
    d.origin = f ∧ ∃ r, d.body = .record r ∧ Declares text r.content.kind
  /-- If there is no document, there are diagnostics, and all of them name the file. -/
  flawed : ∀ flaws, Document.ofText f text = .ok (.error flaws) →
    diagnosticsOf (f, .error flaws) ≠ [] ∧ ∀ g ∈ diagnosticsOf (f, .error flaws),
    g.file = f.path
  /-- Nothing else ends the reading than a fault that the text meets. -/
  fault_iff : ∀ fault, Document.ofText f text = .error fault ↔ Record.Meets text fault
  /-- Such a fault, and nothing else about the text, keeps a project of other good files from being
  read. -/
  load_iff : ∀ p, f ∈ File.among p.files → p.read f.path = .ok text →
    (∀ g ∈ File.among p.files, g ≠ f → ∃ r, g.read p = .ok r) →
    ((∃ c, Corpus.load p = .ok c) ↔ ∀ fault, ¬Record.Meets text fault)

theorem Document.ofText_yaml (hf : f.format = .yaml) (text : String) :
    Document.ofText f text = (Record.ofText text).map fun r => r.map fun r =>
      ⟨f, .record r⟩ := by
  rw [Document.ofText, hf]

theorem File.read_of_text (h : p.read f.path = .ok text) : f.read p = Document.ofText f text := by
  rw [File.read, h]

/-- The text of a YAML file is a record of the kind that it declares, or has diagnostics that name
the file, unless it meets a fault. A text of which a collection or a character is not read in full
is left out. -/
theorem Document.recordOutcome (hf : f.format = .yaml) (text : String)
    (_hcovered : Yaml.isCovered text.toList = true) : RecordOutcome f text := by
  have hread := Document.ofText_yaml hf text
  have hfault : ∀ fault, Document.ofText f text = .error fault ↔ Record.Meets text fault := by
    intro fault
    rw [hread, map_eq_error_iff, Record.ofText_eq_error_iff]
  refine ⟨fun d hd => ?_, fun flaws hflaws => ?_, hfault, fun p hmem htext hothers => ?_⟩
  · rw [hread] at hd
    obtain ⟨result, hresult, hd⟩ := map_eq_ok_iff.1 hd
    obtain ⟨r, rfl, rfl⟩ := map_eq_ok_iff.1 hd
    exact ⟨rfl, r, rfl, Record.declares_of_ofText hresult⟩
  · refine ⟨?_, fun g hg => ?_⟩
    · simpa [diagnosticsOf] using Document.flaws_ne_nil_of_ofText hflaws
    · obtain ⟨flaw, -, rfl⟩ := List.mem_map.1 hg
      rfl
  · have hf' : (∃ r, f.read p = .ok r) ↔ ∀ fault, ¬Record.Meets text fault := by
      simp only [File.read_of_text htext, exists_eq_ok_iff, ne_eq, hfault]
    rw [Corpus.exists_load_iff, ← hf']
    constructor
    · exact fun hall => hall f hmem
    · intro hr g hg
      by_cases hgf : g = f
      · exact hgf ▸ hr
      · exact hothers g hg hgf

/-- The file of a requirement in YAML. -/
def requirementFile : File := ⟨"a.spec.yaml", .yaml, .featureRequest, "a"⟩

theorem Document.recordOutcome_requirementFile :
    Yaml.isCovered "kind: feature_request\ntitle: A\n".toList = true ∧ ∃ d r,
      Document.ofText requirementFile "kind: feature_request\ntitle: A\n" = .ok (.ok d) ∧
      d.origin = requirementFile ∧ d.body = .record r ∧
      Declares "kind: feature_request\ntitle: A\n" r.content.kind := by
  have hcovered : Yaml.isCovered "kind: feature_request\ntitle: A\n".toList = true := by
    decide +kernel
  have hsome : ((Document.ofText requirementFile "kind: feature_request\ntitle: A\n").toOption.bind
      Except.toOption).isSome = true := by
    decide +kernel
  obtain ⟨d, hd⟩ := Option.isSome_iff_exists.1 hsome
  obtain ⟨result, hresult, hd⟩ := Option.bind_eq_some_iff.1 hd
  rw [toOption_eq_some_iff] at hresult hd
  subst hd
  obtain ⟨horigin, r, hr, hdeclares⟩ := (Document.recordOutcome (f := requirementFile) rfl
    "kind: feature_request\ntitle: A\n" hcovered).document d hresult
  exact ⟨hcovered, d, r, hresult, horigin, hr, hdeclares⟩

/-- A date that is not in the calendar keeps a text from being read. -/
theorem Document.ofText_noSuchDay : File.ofPath? "a.spec.yaml" = some requirementFile ∧
    Document.ofText requirementFile
      "kind: feature_request\nid: FR-001\ntitle: T\ndate: 2024-02-30\n" =
        .error (.scalar (.noSuchTime .day)) := by
  refine ⟨by decide +kernel, errorOf?_eq_some_iff.1 ?_⟩
  decide +kernel

end DocAudit.Spec
