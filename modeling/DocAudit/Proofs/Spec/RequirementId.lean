import DocAudit.Proofs.Spec.Completeness

/-!
# Identifiers of requirements

What a validation says of the identifier of a requirement: that it is missing, that it does not have
the form of one, or nothing at all (`Corpus.idOutcome`). Every identifier of the right form is
taken. So are those with decimal digits of other scripts and those with a line end behind them,
which are not of that form (`Corpus.idReports_strayIds`); among texts of ASCII characters that do
not end with a line end there are no others.
-/

namespace DocAudit.Spec

open Text

variable {id : String} {c : Corpus} {d : Document} {r : Record}

/-! ## The form of an identifier -/

/-- The form that an identifier should have: a capital, further capitals and ASCII digits, a hyphen,
and three ASCII digits or more. -/
def HasIdForm (id : String) : Prop :=
  ∃ first word number, id.toList = first :: (word ++ '-' :: number) ∧ isCapital first = true ∧
    (∀ c ∈ word, (isCapital c || isAsciiDigit c) = true) ∧
    (∀ c ∈ number, isAsciiDigit c = true) ∧ 3 ≤ number.length

theorem HasIdForm.isNumbered (h : HasIdForm id) : IsNumbered id := by
  obtain ⟨first, word, number, htext, hfirst, hword, hnumber, hlength⟩ := h
  refine ⟨first, word, number, [], ?_, hfirst, hword, fun c hc => ?_, hlength, .inl rfl⟩
  · rw [List.append_nil, htext]
  · exact isDecimal_of_isAsciiDigit (hnumber c hc)

theorem HasIdForm.forall_mem (h : HasIdForm id) :
    ∀ c ∈ id.toList, (isCapital c || isAsciiDigit c || c == '-') = true := by
  obtain ⟨first, word, number, htext, hfirst, hword, hnumber, -⟩ := h
  simp only [htext, List.forall_mem_cons, List.forall_mem_append]
  refine ⟨by simp [hfirst], fun c hc => by simp [hword c hc], by simp,
    fun c hc => by simp [hnumber c hc]⟩

/-- Among ASCII texts only a line end tells what is taken for an identifier from what has the form
of one. -/
theorem isNumbered_iff_of_ascii (hascii : ∀ c ∈ id.toList, c.toNat < 128)
    (hend : id.toList.getLast? ≠ some '\n') : IsNumbered id ↔ HasIdForm id := by
  refine ⟨?_, HasIdForm.isNumbered⟩
  rintro ⟨first, word, number, ending, htext, hfirst, hword, hnumber, hlength, hending⟩
  obtain rfl : ending = [] := by
    refine hending.resolve_right fun hline => hend ?_
    rw [htext, hline, List.append_cons, ← List.append_assoc, ← List.cons_append,
      List.getLast?_concat]
  rw [List.append_nil] at htext
  refine ⟨first, word, number, htext, hfirst, hword, fun c hc => ?_, hlength⟩
  have hmem : c ∈ id.toList := by simp [htext, hc]
  exact isAsciiDigit_of_isDecimal (hnumber c hc) (hascii c hmem)

/-! ## Defects of identifiers -/

/-- A message says something of the identifier of a document by itself. -/
def isOnId (message : String) : Bool :=
  message == "Missing required field 'id'" || startsWith message "ID '"

/-- A defect of something else than the identifier of a requirement. -/
inductive Defect.IsElse : Defect → Prop
  | missing {field : String} (h : field ≠ "id") : IsElse (.missing field)
  | otherKind (kind expected : Kind) : IsElse (.otherKind kind expected)
  | missingIn (index : Nat) (field : String) : IsElse (.missingIn "requirements" index field)
  | sharedId (id : String) (paths : List String) : IsElse (.sharedId id paths)

theorem isOnId_eq_false_of_head? {message : String} {c : Char} (h : message.toList.head? = some c)
    (hc : c ≠ 'I') (hne : message ≠ "Missing required field 'id'") :
    isOnId message = false := by
  rw [isOnId, Bool.or_eq_false_iff]
  refine ⟨beq_false_of_ne hne, Bool.eq_false_iff.2 fun hstart => hc ?_⟩
  obtain ⟨rest, hrest⟩ := List.isPrefixOf_iff_prefix.1 hstart
  rw [← hrest] at h
  exact (Option.some.inj h).symm

theorem ne_of_head? {message : String} {c : Char} (h : message.toList.head? = some c)
    (hc : c ≠ 'M') :
    message ≠ "Missing required field 'id'" := by
  rintro rfl
  exact hc (Option.some.inj h).symm

/-- What is said of something else is told by its words from what is said of the identifier. -/
theorem Defect.IsElse.isOnId_message {defect : Defect} (h : defect.IsElse) :
    isOnId defect.message = false := by
  cases h with
  | @missing field hfield =>
    have hhead : (Defect.missing field).message.toList.head? = some 'M' := by
      iterate 2 apply head?_toList_append
      decide
    refine isOnId_eq_false_of_head? hhead (by decide) fun heq => hfield ?_
    have heq : "Missing required field '" ++ field ++ "'" =
        "Missing required field '" ++ "id" ++ "'" := heq
    exact (String.append_right_inj _).1 ((String.append_left_inj _).1 heq)
  | otherKind kind expected =>
    have hhead : (Defect.otherKind kind expected).message.toList.head? = some 'K' := by
      iterate 4 apply head?_toList_append
      decide
    exact isOnId_eq_false_of_head? hhead (by decide) (ne_of_head? hhead (by decide))
  | missingIn index field =>
    have hhead : (Defect.missingIn "requirements" index field).message.toList.head? = some 'r' := by
      iterate 5 apply head?_toList_append
      decide
    exact isOnId_eq_false_of_head? hhead (by decide) (ne_of_head? hhead (by decide))
  | sharedId id paths =>
    have hhead : (Defect.sharedId id paths).message.toList.head? = some 'D' := by
      rw [Corpus.message_sharedId]
      iterate 3 apply head?_toList_append
      decide
    exact isOnId_eq_false_of_head? hhead (by decide) (ne_of_head? hhead (by decide))

/-- Whether a defect is said to be one of the identifier. -/
abbrev Defect.isOfId (defect : Defect) : Bool := isOnId defect.message

section Filter

variable {defect : Defect} {p : Prop} [Decidable p]

theorem filter_ite (h : defect.IsElse) :
    (if p then [defect] else []).filter Defect.isOfId = [] := by
  split_ifs <;> simp [Defect.isOfId, h.isOnId_message]

theorem filter_ite' (h : defect.IsElse) :
    (if p then [] else [defect]).filter Defect.isOfId = [] := by
  split_ifs <;> simp [Defect.isOfId, h.isOnId_message]

theorem filter_required {α : Type} {field : String} (h : field ≠ "id") (value : Option α) :
    (required field value).filter Defect.isOfId = [] :=
  filter_ite (.missing h)

end Filter

theorem isOnId_malformedId (id : String) : isOnId (Defect.malformedId id).message = true := by
  have hmessage : (Defect.malformedId id).message =
      "ID '" ++ (id ++ "' does not match the PREFIX-### format") :=
    String.append_assoc
  rw [hmessage, isOnId, Bool.or_eq_true, startsWith, List.isPrefixOf_iff_prefix,
    String.toList_append]
  exact .inr (List.prefix_append _ _)

theorem filter_idDefects (id : Option String) :
    (idDefects id).filter Defect.isOfId = idDefects id := by
  refine List.filter_eq_self.2 fun defect hdefect => ?_
  unfold idDefects at hdefect
  split at hdefect
  · obtain rfl := List.mem_singleton.1 hdefect
    decide
  · obtain rfl := List.mem_singleton.1 hdefect
    decide
  · split_ifs at hdefect
    · cases hdefect
    · obtain rfl := List.mem_singleton.1 hdefect
      exact isOnId_malformedId _

/-- Of all that a document of a requirement lacks, this concerns its identifier. -/
theorem Document.filter_defects (hbody : d.body = .record r)
    (hkind : r.content.kind = .featureRequest) :
    d.defects.filter Defect.isOfId = idDefects r.id := by
  cases hcontent : r.content with
  | featureRequest status priority requirements =>
    have hitems : ((requirements.getD []).zipIdx.flatMap fun e =>
        requiredIn "requirements" e.2 "id" (isBare e.1.id)).filter Defect.isOfId = [] := by
      rw [List.filter_flatMap, List.flatMap_eq_nil_iff]
      exact fun item _ => filter_ite (.missingIn _ _)
    rw [Document.defects, hbody]
    dsimp only
    rw [hcontent, Content.defects]
    simp only [List.filter_append, hitems, filter_idDefects]
    rw [filter_ite (.missing (by decide)), filter_ite (.missing (by decide)),
      filter_ite' (.otherKind _ _), filter_required (by decide), filter_required (by decide),
      filter_required (by decide)]
    simp only [List.nil_append, List.append_nil]
  | _ =>
    rw [hcontent] at hkind
    cases hkind

/-! ## What a validation says -/

namespace Corpus

/-- What the validation of a corpus says of the identifier of the file at a path. -/
def idReports (c : Corpus) (path : String) : List Diagnostic :=
  c.validate.filter fun g => g.file == path && isOnId g.message

/-- What is said of the identifier of a document, besides of its being shared, are its own
defects. -/
theorem idReports_eq (hkeyed : c.Keyed) (hd : d ∈ c.documents) : c.idReports d.origin.path =
    (d.defects.filter Defect.isOfId).map fun defect =>
      ⟨d.origin.path, none, .schemaError, defect.message⟩ := by
  have hshared : c.sharedIds.filter (fun g => g.file == d.origin.path && isOnId g.message) =
      [] := by
    refine List.filter_eq_nil_iff.2 fun g hg => ?_
    obtain ⟨id, -, hg⟩ := List.mem_filterMap.1 hg
    split at hg
    · cases hg
      simp [(Defect.IsElse.sharedId _ _).isOnId_message]
    · cases hg
  have hothers : ∀ documents : List Document,
      (∀ e ∈ documents, e.origin.path ≠ d.origin.path) →
      (documents.flatMap fun e => e.defects.map fun defect =>
        (⟨e.origin.path, none, .schemaError, defect.message⟩ : Diagnostic)).filter
          (fun g => g.file == d.origin.path && isOnId g.message) = [] := by
    intro documents hne
    refine List.filter_eq_nil_iff.2 fun g hg => ?_
    obtain ⟨e, he, hg⟩ := List.mem_flatMap.1 hg
    obtain ⟨defect, -, rfl⟩ := List.mem_map.1 hg
    simp [hne e he]
  obtain ⟨before, after, hdocuments⟩ := List.append_of_mem hd
  rw [Keyed, hdocuments, List.pairwise_append, List.pairwise_cons] at hkeyed
  obtain ⟨-, ⟨hafter, -⟩, hbefore⟩ := hkeyed
  rw [idReports, validate, hdocuments, List.filter_append, hshared, List.append_nil,
    List.flatMap_append, List.flatMap_cons, List.filter_append, List.filter_append]
  rw [hothers before fun e he heq => String.lt_irrefl _ (heq ▸ hbefore e he d List.mem_cons_self),
    hothers after fun e he heq => String.lt_irrefl _ (heq ▸ hafter e he), List.nil_append,
    List.append_nil, List.filter_map]
  refine congrArg _ (List.filter_congr fun defect _ => ?_)
  simp

/-- What the validation of a corpus says of the identifier of the requirement at a path. -/
structure IdOutcome (c : Corpus) (path : String) (id : Option String) : Prop where
  /-- An identifier that is not there, or an empty one, is missing. -/
  missing : id = none ∨ id = some "" →
    c.idReports path = [⟨path, none, .schemaError, "Missing required field 'id'"⟩]
  /-- Nothing is said of an identifier of the form of one. Digits may be of any script here, and a
  line end may stand behind them. -/
  accepted_iff : ∀ text, id = some text → (c.idReports path = [] ↔ IsNumbered text)
  /-- Any other text is refused. -/
  refused : ∀ text, id = some text → text ≠ "" → ¬IsNumbered text →
    c.idReports path =
      [⟨path, none, .schemaError, s!"ID '{text}' does not match the PREFIX-### format"⟩]
  /-- An identifier of the form that it should have is taken. -/
  documented : ∀ text, id = some text → HasIdForm text → c.idReports path = []
  /-- An ASCII text that does not end with a line end is taken only if it has that form. -/
  ascii_iff : ∀ text, id = some text → (∀ ch ∈ text.toList, ch.toNat < 128) →
    text.toList.getLast? ≠ some '\n' → (c.idReports path = [] ↔ HasIdForm text)

/-- What becomes of the identifier of a requirement in YAML, for every corpus. -/
theorem idOutcome (hkeyed : c.Keyed) (hd : d ∈ c.documents) (hbody : d.body = .record r)
    (hkind : r.content.kind = .featureRequest) : c.IdOutcome d.origin.path r.id := by
  have hreports := idReports_eq hkeyed hd
  rw [Document.filter_defects hbody hkind] at hreports
  have hiff : ∀ text, r.id = some text →
      (c.idReports d.origin.path = [] ↔ IsNumbered text) := by
    intro text hid
    rw [hreports, List.map_eq_nil_iff, idDefects_eq_nil_iff, hid]
    simp
  refine ⟨?_, hiff, fun text hid hne hnot => ?_, fun text hid hform => ?_,
    fun text hid hascii hend => ?_⟩
  · rintro (hid | hid)
    · rw [hreports, hid]
      rfl
    · rw [hreports, hid]
      rfl
  · have hrefused : isRequirementId text.toList = false := by
      rwa [← Bool.not_eq_true, isRequirementId_toList_iff]
    have hdefects : idDefects (some text) = [.malformedId text] := by
      unfold idDefects
      split
      · rename_i heq
        cases heq
      · rename_i heq
        exact absurd (Option.some.inj heq) hne
      · rename_i heq
        cases heq
        rw [hrefused, if_neg Bool.false_ne_true]
    rw [hreports, hid, hdefects]
    rfl
  · exact (hiff text hid).2 hform.isNumbered
  · rw [hiff text hid, isNumbered_iff_of_ascii hascii hend]

/-- The document of a requirement with an identifier. -/
def identified (stem id : String) : Document :=
  ⟨⟨stem ++ ".spec.yaml", .yaml, .featureRequest, stem⟩, .record
    ⟨some "1", some "A", some id, [], [], .featureRequest (some "draft") (some "high")
      (some [])⟩⟩

/-- Two requirements. -/
def identifiedCorpus (id id' : String) : Corpus where
  project := .scan "." (.dir [])
  files := []
  documents := [identified "a" id, identified "b" id']
  diagnostics := []

theorem keyed_identifiedCorpus (id id' : String) : (identifiedCorpus id id').Keyed := by
  have hpaths : ("a.spec.yaml" : String) < "b.spec.yaml" := by decide
  exact List.pairwise_pair.2 hpaths

theorem idOutcome_hyphens :
    (identifiedCorpus "FR-001" "F-R-002").IdOutcome "b.spec.yaml" (some "F-R-002") ∧
    (identifiedCorpus "FR-001" "F-R-002").idReports "b.spec.yaml" =
      [⟨"b.spec.yaml", none, .schemaError,
        "ID 'F-R-002' does not match the PREFIX-### format"⟩] := by
  have houtcome :=
    idOutcome (d := identified "b" "F-R-002") (keyed_identifiedCorpus "FR-001" "F-R-002")
    (.tail _ (.head _)) rfl rfl
  have hnot : ¬IsNumbered "F-R-002" := by
    rw [← isRequirementId_toList_iff]
    decide
  exact ⟨houtcome, houtcome.refused "F-R-002" rfl (by decide) hnot⟩

/-- The text of a requirement with what stands for its identifier. -/
def identifiedText (id : String) : String :=
  "kind: feature_request\nschema_version: '1'\ntitle: A\nid: " ++ id ++
    "\nstatus: draft\npriority: high\nrequirements: []\n"

/-- Nothing is said of an identifier in a block, which has a line end behind it, and of one with
digits of another script. -/
theorem idReports_strayIds :
    Document.ofText ⟨"a.spec.yaml", .yaml, .featureRequest, "a"⟩
      (identifiedText "|\n  FR-001") = .ok (.ok (identified "a" "FR-001\n")) ∧
    Document.ofText ⟨"b.spec.yaml", .yaml, .featureRequest, "b"⟩
      (identifiedText "FR-\u0660\u0660\u0662") =
        .ok (.ok (identified "b" "FR-\u0660\u0660\u0662")) ∧
    ¬HasIdForm "FR-001\n" ∧ ¬HasIdForm "FR-\u0660\u0660\u0662" ∧
    (identifiedCorpus "FR-001\n" "FR-\u0660\u0660\u0662").idReports "a.spec.yaml" = [] ∧
    (identifiedCorpus "FR-001\n" "FR-\u0660\u0660\u0662").idReports "b.spec.yaml" = [] := by
  have hread : ∀ {f : File} {text : String} {d : Document},
      (Document.ofText f text).toOption.bind Except.toOption = some d →
      Document.ofText f text = .ok (.ok d) := by
    intro f text d h
    obtain ⟨result, hresult, h⟩ := Option.bind_eq_some_iff.1 h
    rw [toOption_eq_some_iff] at hresult h
    rw [hresult, h]
  refine ⟨hread (by decide +kernel), hread (by decide +kernel), fun h => ?_, fun h => ?_,
    ?_, ?_⟩
  · exact absurd (h.forall_mem '\n' (by decide)) (by decide)
  · exact absurd (h.forall_mem '\u0660' (by decide)) (by decide)
  · exact (idReports_eq (d := identified "a" _) (keyed_identifiedCorpus _ _) (.head _)).trans
      (by decide +kernel)
  · exact (idReports_eq (d := identified "b" _) (keyed_identifiedCorpus _ _)
      (.tail _ (.head _))).trans
      (by decide +kernel)

end Corpus

end DocAudit.Spec
