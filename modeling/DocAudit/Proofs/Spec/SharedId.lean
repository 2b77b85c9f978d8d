import DocAudit.Proofs.Spec.Corpus
import DocAudit.Spec.Validation
import Mathlib.Data.Finset.Card

/-!
# Identifiers that several documents declare

What a validation says of identifiers that several documents declare: each such identifier is
reported once, in ascending order, with all paths that declare it (`Corpus.ReportsShared`). Nothing
else that a validation says looks like such a report (`filter_validate`).
-/

namespace DocAudit.Spec

open Text

/-- Whether a diagnostic is about an identifier that several documents declare. -/
def Diagnostic.isShared (g : Diagnostic) : Bool := startsWith g.message "Duplicate ID '"

/-! ## Defects of a document by itself -/

/-- A defect that a document has by itself. -/
def Defect.IsOwn : Defect → Prop
  | missingIn list _ _ => list ∈ ["domains", "requirements", "test_cases"]
  | sharedId .. => False
  | _ => True

theorem head?_toList_append {s t : String} {c : Char} (h : s.toList.head? = some c) :
    (s ++ t).toList.head? = some c := by
  rw [String.toList_append, List.head?_append, h, Option.some_or]

/-- What a document lacks by itself is said in words of its own. -/
theorem Defect.IsOwn.exists_head? {defect : Defect} (h : defect.IsOwn) :
    ∃ c, defect.message.toList.head? = some c ∧ c ≠ 'D' := by
  cases defect with
  | missing field =>
    refine ⟨'M', ?_, by decide⟩
    iterate 2 apply head?_toList_append
    decide
  | otherKind kind expected =>
    refine ⟨'K', ?_, by decide⟩
    iterate 4 apply head?_toList_append
    decide
  | malformedId id =>
    refine ⟨'I', ?_, by decide⟩
    iterate 2 apply head?_toList_append
    decide
  | missingIn list index field =>
    obtain ⟨c, hc, hne⟩ : ∃ c, list.toList.head? = some c ∧ c ≠ 'D' := by
      simp only [IsOwn, List.mem_cons, List.not_mem_nil, or_false] at h
      rcases h with rfl | rfl | rfl
      · exact ⟨'d', by decide, by decide⟩
      · exact ⟨'r', by decide, by decide⟩
      · exact ⟨'t', by decide, by decide⟩
    refine ⟨c, ?_, hne⟩
    iterate 5 apply head?_toList_append
    exact hc
  | noHeading => exact ⟨'M', by decide, by decide⟩
  | noLabel label =>
    refine ⟨'M', ?_, by decide⟩
    iterate 2 apply head?_toList_append
    decide
  | sharedId id paths => exact h.elim

theorem Defect.IsOwn.startsWith_message {defect : Defect} (h : defect.IsOwn) :
    startsWith defect.message "Duplicate ID '" = false := by
  obtain ⟨c, hc, hne⟩ := h.exists_head?
  refine Bool.eq_false_iff.2 fun hstart => hne ?_
  obtain ⟨rest, hrest⟩ := List.isPrefixOf_iff_prefix.1 hstart
  rw [← hrest] at hc
  exact (Option.some.inj hc).symm

/-- Defects that a document has by itself. -/
def AreOwn (defects : List Defect) : Prop := ∀ defect ∈ defects, defect.IsOwn

namespace AreOwn

theorem append {l l' : List Defect} (h : AreOwn l) (h' : AreOwn l') : AreOwn (l ++ l') :=
  List.forall_mem_append.2 ⟨h, h'⟩

theorem flatMap {α : Type} {l : List α} {f : α → List Defect} (h : ∀ a ∈ l, AreOwn (f a)) :
    AreOwn (l.flatMap f) :=
  List.forall_mem_flatMap.2 h

theorem ite {p : Prop} [Decidable p] {defect : Defect} (h : defect.IsOwn) :
    AreOwn (if p then [defect] else []) := by
  split_ifs <;> simp [AreOwn, h]

theorem ite' {p : Prop} [Decidable p] {defect : Defect} (h : defect.IsOwn) :
    AreOwn (if p then [] else [defect]) := by
  split_ifs <;> simp [AreOwn, h]

theorem required {α : Type} (field : String) (value : Option α) :
    AreOwn (required field value) :=
  ite trivial

theorem requiredIn (list : String) (h : list ∈ ["domains", "requirements", "test_cases"])
    (index : Nat) (field : String) (isMissing : Bool) :
    AreOwn (requiredIn list index field isMissing) :=
  ite h

theorem idDefects (id : Option String) : AreOwn (idDefects id) := by
  unfold Spec.idDefects
  split
  · exact List.forall_mem_singleton.2 trivial
  · exact List.forall_mem_singleton.2 trivial
  · exact ite' trivial

theorem contentDefects (id : Option String) (content : Content) : AreOwn (content.defects id) := by
  cases content with
  | brd domains =>
    cases domains with
    | none => exact List.forall_mem_singleton.2 trivial
    | some domains =>
      have hin := requiredIn "domains" (by decide)
      exact flatMap fun _ _ => ((hin _ _ _).append (hin _ _ _)).append (hin _ _ _)
  | featureRequest status priority requirements =>
    have hin := requiredIn "requirements" (by decide)
    exact ((((idDefects id).append (required _ _)).append (required _ _)).append
      (required _ _)).append (flatMap fun _ _ => hin _ _ _)
  | architecture spec components => exact (required _ _).append (required _ _)
  | testPlan spec cases =>
    have hin := requiredIn "test_cases" (by decide)
    exact ((required _ _).append (required _ _)).append
      (flatMap fun _ _ => (hin _ _ _).append (hin _ _ _))
  | deployment spec environments => exact (required _ _).append (required _ _)

theorem documentDefects (d : Document) : AreOwn d.defects := by
  unfold Document.defects
  split
  · refine ((ite ?_).append (ite ?_)).append (ite ?_) <;> exact trivial
  · refine (((ite ?_).append (ite ?_)).append (ite' ?_)).append (contentDefects _ _) <;>
      exact trivial

end AreOwn

/-! ## Owners of identifiers -/

/-- A document that declares nothing: a page of a later phase, or one with no identifier or an empty
one. -/
inductive Document.Silent (d : Document) : Prop
  | phase (page : Page) (body : d.body = .page page) (kind : d.origin.kind ∈ Kind.phases)
  | noId (absent : d.declaredId? = none)
  | emptyId (empty : d.declaredId? = some "")

theorem Document.Silent.eq_empty {d : Document} (h : d.Silent) {id : String}
    (hid : d.declaredId? = some id) : id = "" := by
  cases h with
  | phase page hbody hkind =>
    have hfirst : ¬(d.origin.kind = .featureRequest ∨ d.origin.kind = .brd) := by
      rintro (heq | heq) <;> simp [heq, Kind.phases] at hkind
    simp only [declaredId?, hbody, if_neg hfirst] at hid
    cases hid
  | noId hnone =>
    rw [hnone] at hid
    cases hid
  | emptyId hempty =>
    rw [hempty] at hid
    exact (Option.some.inj hid).symm

namespace Corpus

variable {c : Corpus} {id path : String}

/-- Two documents declare the identifier. -/
def Shares (c : Corpus) (id : String) : Prop :=
  ∃ d ∈ c.documents, ∃ e ∈ c.documents, d ≠ e ∧ d.declaredId? = some id ∧
    e.declaredId? = some id

theorem mem_declaring_iff :
    path ∈ c.declaring id ↔ ∃ d ∈ c.documents,
      d.origin.path = path ∧ d.declaredId? = some id := by
  simp only [declaring, List.mem_map, List.mem_filter, beq_iff_eq]
  constructor
  · rintro ⟨d, ⟨hd, hid⟩, hpath⟩
    exact ⟨d, hd, hpath, hid⟩
  · rintro ⟨d, hd, hpath, hid⟩
    exact ⟨d, ⟨hd, hid⟩, hpath⟩

theorem pairwise_declaring (h : c.Keyed) (id : String) : (c.declaring id).Pairwise (· < ·) :=
  List.pairwise_map.2 (h.filter _)

theorem two_le_length_declaring_iff (h : c.Keyed) :
    2 ≤ (c.declaring id).length ↔ c.Shares id := by
  have hnodup : (c.documents.filter fun d => d.declaredId? == some id).Nodup :=
    nodup_of_pairwise_lt (fun d => d.origin.path) (h.filter _)
  rw [declaring, List.length_map, ← List.toFinset_card_of_nodup hnodup, Nat.succ_le_iff,
    Finset.one_lt_card]
  simp only [List.mem_toFinset, List.mem_filter, beq_iff_eq]
  constructor
  · rintro ⟨d, ⟨hd, hdid⟩, e, ⟨he, heid⟩, hne⟩
    exact ⟨d, hd, e, he, hne, hdid, heid⟩
  · rintro ⟨d, hd, e, he, hne, hdid, heid⟩
    exact ⟨d, ⟨hd, hdid⟩, e, ⟨he, heid⟩, hne⟩

theorem mem_declaredIds_iff :
    id ∈ c.declaredIds ↔ id ≠ "" ∧ ∃ d ∈ c.documents, d.declaredId? = some id := by
  simp [declaredIds, mem_withoutRepetition, mem_sorted, and_comm]

theorem pairwise_declaredIds (c : Corpus) : c.declaredIds.Pairwise (· < ·) :=
  pairwise_lt_withoutRepetition (pairwise_le_mergeSort (fun id => id) _)

theorem Keyed.eq_of_path_eq (h : c.Keyed) {d e : Document} (hd : d ∈ c.documents)
    (he : e ∈ c.documents) (hpath : d.origin.path = e.origin.path) : d = e := by
  have hnodup : (c.documents.map fun d => d.origin.path).Nodup :=
    nodup_of_pairwise_lt (fun path => path) (List.pairwise_map.2 h)
  exact List.inj_on_of_nodup_map hnodup hd he hpath

/-! ## Reports -/

theorem message_sharedId (id : String) (paths : List String) :
    (Defect.sharedId id paths).message =
      s!"Duplicate ID '{id}' declared in: " ++ joinWith ", " paths :=
  rfl

theorem startsWith_message_sharedId (id : String) (paths : List String) :
    startsWith (Defect.sharedId id paths).message "Duplicate ID '" = true := by
  rw [message_sharedId, startsWith, List.isPrefixOf_iff_prefix]
  simp only [toString, String.toList_append, List.append_assoc]
  exact List.prefix_append _ _

/-- The diagnostics about shared identifiers are those that a validation adds to the defects of the
documents. -/
theorem filter_validate (c : Corpus) : c.validate.filter Diagnostic.isShared = c.sharedIds := by
  have hown : (c.documents.flatMap fun d => d.defects.map fun defect =>
      (⟨d.origin.path, none, .schemaError, defect.message⟩ : Diagnostic)).filter
        Diagnostic.isShared = [] := by
    refine List.filter_eq_nil_iff.2 fun g hg => ?_
    obtain ⟨d, -, hg⟩ := List.mem_flatMap.1 hg
    obtain ⟨defect, hdefect, rfl⟩ := List.mem_map.1 hg
    exact Bool.eq_false_iff.1 (AreOwn.documentDefects d defect hdefect).startsWith_message
  have hshared : c.sharedIds.filter Diagnostic.isShared = c.sharedIds := by
    refine List.filter_eq_self.2 fun g hg => ?_
    obtain ⟨id, -, hg⟩ := List.mem_filterMap.1 hg
    split at hg
    · cases hg
      exact startsWith_message_sharedId _ _
    · cases hg
  rw [validate, List.filter_append, hown, hshared, List.nil_append]

/-- A diagnostic that names all owners of an identifier, in a message attached to the first. -/
structure Reports (c : Corpus) (id : String) (g : Diagnostic) : Prop where
  kind : g.kind = .schemaError
  line : g.line = none
  file : (c.declaring id).head? = some g.file
  message : g.message = s!"Duplicate ID '{id}' declared in: " ++ joinWith ", " (c.declaring id)

/-- The validation of a corpus reports the given identifiers as shared, and they are those that
are. -/
structure ReportsShared (c : Corpus) (ids : List String) : Prop where
  /-- The identifiers are in strictly ascending order. -/
  ascending : ids.Pairwise (· < ·)
  /-- They are those, not empty, that two documents declare. -/
  mem_iff : ∀ id, id ∈ ids ↔ id ≠ "" ∧ c.Shares id
  /-- Each has one diagnostic, in this order. -/
  reports : List.Forall₂ c.Reports ids (c.validate.filter Diagnostic.isShared)
  /-- The owners are in strictly ascending order of their paths. -/
  owners_ascending : ∀ id ∈ ids, (c.declaring id).Pairwise (· < ·)
  /-- They are the paths of the documents that declare the identifier. -/
  owners : ∀ id ∈ ids, ∀ path, path ∈ c.declaring id ↔
    ∃ d ∈ c.documents, d.origin.path = path ∧ d.declaredId? = some id
  /-- A document that declares nothing is no owner. -/
  silent : ∀ d ∈ c.documents, d.Silent → ∀ id ∈ ids, d.origin.path ∉ c.declaring id

theorem forall₂_filter_filterMap {α β : Type} {R : α → β → Prop} {q : α → Bool}
    {f : α → Option β} (hsome : ∀ a, q a = true → ∃ b, f a = some b ∧ R a b)
    (hnone : ∀ a, q a = false → f a = none)
    (l : List α) : List.Forall₂ R (l.filter q) (l.filterMap f) := by
  induction l with
  | nil => exact .nil
  | cons a l ih =>
    cases hq : q a with
    | true =>
      obtain ⟨b, hb, hab⟩ := hsome a hq
      rw [List.filter_cons_of_pos hq, List.filterMap_cons_some hb]
      exact .cons hab ih
    | false =>
      rw [List.filter_cons_of_neg (by simp [hq]), List.filterMap_cons_none (hnone a hq)]
      exact ih

theorem forall₂_reports_sharedIds (c : Corpus) :
    List.Forall₂ c.Reports (c.declaredIds.filter fun id => 2 ≤ (c.declaring id).length)
      c.sharedIds := by
  refine forall₂_filter_filterMap (fun id hid => ?_) (fun id hid => ?_) _
  · split
    · rename_i first second rest hpaths
      exact ⟨_, rfl, rfl, rfl, by rw [hpaths]; rfl, by rw [hpaths, message_sharedId]⟩
    · rename_i hshort
      cases hpaths : c.declaring id with
      | nil => simp [hpaths] at hid
      | cons first rest =>
        cases rest with
        | nil => simp [hpaths] at hid
        | cons second rest => exact absurd hpaths (hshort first second rest)
  · split
    · rename_i first second rest hpaths
      simp [hpaths] at hid
    · rfl

/-- Identifiers that several documents declare are reported once and completely, when the documents
stand in the order of their paths, as those of a project do (`accounts_of_load`). -/
theorem exists_reportsShared (h : c.Keyed) : ∃ ids, c.ReportsShared ids := by
  have hmem : ∀ id,
      id ∈ c.declaredIds.filter (fun id => decide (2 ≤ (c.declaring id).length)) ↔
      id ≠ "" ∧ c.Shares id := by
    intro id
    rw [List.mem_filter, decide_eq_true_eq, two_le_length_declaring_iff h, mem_declaredIds_iff]
    constructor
    · rintro ⟨⟨hne, -⟩, hshares⟩
      exact ⟨hne, hshares⟩
    · rintro ⟨hne, d, hd, e, he, hde, hdid, heid⟩
      exact ⟨⟨hne, d, hd, hdid⟩, d, hd, e, he, hde, hdid, heid⟩
  refine ⟨_, ?ascending, hmem, ?reports, ?ownersAscending, ?owners, ?silent⟩
  case ascending => exact (pairwise_declaredIds c).filter _
  case reports => exact filter_validate c ▸ forall₂_reports_sharedIds c
  case ownersAscending => exact fun id _ => pairwise_declaring h id
  case owners => exact fun id _ path => mem_declaring_iff
  case silent =>
    intro d hd hsilent id hid hpath
    obtain ⟨e, he, hpath, heid⟩ := mem_declaring_iff.1 hpath
    obtain rfl := h.eq_of_path_eq he hd hpath
    exact ((hmem id).1 hid).1 (hsilent.eq_empty heid)

/-- A page that relates to an identifier. -/
def relatedPage (id : String) : Page :=
  ⟨none, none, none, some id, none, none, none, [], [], []⟩

/-- A requirement and an architecture with one identifier, and the page of an architecture that only
relates to it. -/
def twoOwners : Corpus where
  project := .scan "." (.dir [])
  files := []
  documents := [
    ⟨⟨"a.spec", .markdown, .featureRequest, "a"⟩, .page (relatedPage "REQ-001")⟩,
    ⟨⟨"b.arch.yaml", .yaml, .architecture, "b"⟩,
      .record ⟨none, none, some "REQ-001", [], [], .architecture none none⟩⟩,
    ⟨⟨"c.arch", .markdown, .architecture, "c"⟩, .page (relatedPage "REQ-001")⟩]
  diagnostics := []

theorem exists_reportsShared_twoOwners :
    ∃ ids, twoOwners.ReportsShared ids ∧ "REQ-001" ∈ ids := by
  have hkeyed : twoOwners.Keyed := by
    unfold Keyed
    decide
  obtain ⟨ids, h⟩ := exists_reportsShared hkeyed
  refine ⟨ids, h, (h.mem_iff "REQ-001").2 ⟨by decide, _, .head _, _, .tail _ (.head _), ?_⟩⟩
  exact ⟨by decide, by decide +kernel, rfl⟩

end Corpus

end DocAudit.Spec
