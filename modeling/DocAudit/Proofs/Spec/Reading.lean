import DocAudit.Proofs.Except
import DocAudit.Proofs.Schema
import DocAudit.Spec.Corpus

/-!
# What comes of one specification

Reading a specification gives a document with the file as its origin (`File.origin_of_read`), or at
least one flaw (`File.flaws_ne_nil_of_read`).
-/

namespace DocAudit.Spec

open Reader

/-! ## Records -/

theorem explains_textField : Explains textField := by
  intro v
  unfold textField
  split
  · exact Checked.explains_ok _
  · exact .ite (Checked.explains_fail _) (Checked.explains_ok _)
  · exact Checked.explains_ok _
  · exact (explains_string _).map _

theorem explains_textUnder (keys : List String) (e : Entries) : (textUnder keys e).Explains :=
  explains_textField.optional keys none e

theorem explains_recordsUnder {α : Type} {f : Entries → Checked α} (h : ∀ e, (f e).Explains)
    (keys : List String) (name : String) (e : Entries) :
    (recordsUnder keys name f e).Explains :=
  (explains_record h).list.nullable.optional keys none e

theorem Dependency.explains_ofEntries (e : Entries) : (Dependency.ofEntries e).Explains :=
  ((explains_textUnder _ e).map _).seq (explains_textUnder _ e)

theorem DomainEntry.explains_ofEntries (e : Entries) : (DomainEntry.ofEntries e).Explains :=
  (((explains_textUnder _ e).map _).seq (explains_textUnder _ e)).seq (explains_textUnder _ e)

theorem Domain.explains_ofEntries (e : Entries) : (Domain.ofEntries e).Explains :=
  ((((explains_textUnder _ e).map _).seq (explains_integer.nullable.optional _ none e)).seq
    (explains_recordsUnder DomainEntry.explains_ofEntries _ _ e)).seq (explains_textUnder _ e)

theorem Requirement.explains_ofEntries (e : Entries) : (Requirement.ofEntries e).Explains :=
  (((((explains_textUnder _ e).map _).seq (explains_textUnder _ e)).seq
    (explains_textUnder _ e)).seq (explains_textUnder _ e)).seq (explains_textUnder _ e)

theorem Component.explains_ofEntries (e : Entries) : (Component.ofEntries e).Explains :=
  (((explains_textUnder _ e).map _).seq (explains_textUnder _ e)).seq (explains_textUnder _ e)

theorem TestCase.explains_ofEntries (e : Entries) : (TestCase.ofEntries e).Explains :=
  (((explains_textUnder _ e).map _).seq (explains_textUnder _ e)).seq (explains_textUnder _ e)

theorem Environment.explains_ofEntries (e : Entries) : (Environment.ofEntries e).Explains :=
  ((explains_textUnder _ e).map _).seq (explains_textUnder _ e)

theorem Content.explains_ofEntries (kind : Kind) (e : Entries) :
    (Content.ofEntries kind e).Explains := by
  have htext := fun keys => explains_textUnder keys e
  cases kind with
  | brd => exact (explains_recordsUnder Domain.explains_ofEntries _ _ e).map _
  | featureRequest =>
    exact (((htext _).map _).seq (htext _)).seq
      (explains_recordsUnder Requirement.explains_ofEntries _ _ e)
  | architecture =>
    exact ((htext _).map _).seq (explains_recordsUnder Component.explains_ofEntries _ _ e)
  | testPlan =>
    exact ((htext _).map _).seq (explains_recordsUnder TestCase.explains_ofEntries _ _ e)
  | deployment =>
    exact ((htext _).map _).seq (explains_recordsUnder Environment.explains_ofEntries _ _ e)

theorem File.explains_ofEntries (e : Entries) : (File.ofEntries e).Explains :=
  ((((explains_string.required _ e).map _).seq ((explains_oneOf _).required _ e)).seq
    ((explains_oneOf _).required _ e)).seq (explains_string.required _ e)

/-- A record that does not fit gives an issue. -/
theorem Record.explains_ofEntries (kind : Kind) (e : Entries) :
    (Record.ofEntries kind e).Explains := by
  have hdependencies : Explains (list (record "Dependency" Dependency.ofEntries)) :=
    (explains_record Dependency.explains_ofEntries).list
  have horigin : Explains (nullable (record "DiscoveredSpec" File.ofEntries)) :=
    (explains_record File.explains_ofEntries).nullable
  exact (((((((explains_textUnder _ e).map _).seq (explains_textUnder _ e)).seq
    (explains_textUnder _ e)).seq (hdependencies.optional _ [] e)).seq
    (explains_string.list.optional _ [] e)).seq (horigin.optional _ none e)).seq
    (Content.explains_ofEntries kind e)

/-! ## Texts -/

/-- A value that is no record has a flaw. -/
theorem Record.flaws_ne_nil_of_ofValue {value : Value} {flaws : List Flaw}
    (h : Record.ofValue value = .ok (.error flaws)) : flaws ≠ [] := by
  unfold Record.ofValue at h
  split at h
  · split at h
    · cases h
      simp
    · cases h
      simp
    · split at h
      · split at h
        · cases h
        · rename_i hbad
          cases h
          simpa using Record.explains_ofEntries _ _ _ hbad
      · obtain ⟨text, -, htext⟩ := map_eq_ok_iff.1 h
        cases htext
        simp
  · cases h
    simp

/-- A text that is no record has a flaw. -/
theorem Record.flaws_ne_nil_of_ofText {text : String} {flaws : List Flaw}
    (h : Record.ofText text = .ok (.error flaws)) : flaws ≠ [] := by
  unfold Record.ofText at h
  split at h
  · exact flaws_ne_nil_of_ofValue h
  · cases h
  · cases h
  · cases h
    simp

variable {f : File} {text : String} {d : Document} {flaws : List Flaw} {p : Project}

theorem Document.origin_of_ofText (h : Document.ofText f text = .ok (.ok d)) : d.origin = f := by
  unfold Document.ofText at h
  split at h
  · obtain ⟨r, -, hr⟩ := map_eq_ok_iff.1 h
    obtain ⟨record, -, rfl⟩ := map_eq_ok_iff.1 hr
    rfl
  · obtain ⟨page, -, hpage⟩ := map_eq_ok_iff.1 h
    cases hpage
    rfl

theorem Document.flaws_ne_nil_of_ofText (h : Document.ofText f text = .ok (.error flaws)) :
    flaws ≠ [] := by
  unfold Document.ofText at h
  split at h
  · obtain ⟨r, hr, hflaws⟩ := map_eq_ok_iff.1 h
    cases r with
    | ok record => cases hflaws
    | error flaws' =>
      cases hflaws
      exact Record.flaws_ne_nil_of_ofText hr
  · obtain ⟨page, -, hpage⟩ := map_eq_ok_iff.1 h
    cases hpage

/-! ## Files -/

/-- A document has the file that it was read from as its origin. -/
theorem File.origin_of_read (h : f.read p = .ok (.ok d)) : d.origin = f := by
  unfold File.read at h
  split at h
  · split at h <;> cases h
  · exact Document.origin_of_ofText h

/-- A file that gives no document has a flaw. -/
theorem File.flaws_ne_nil_of_read (h : f.read p = .ok (.error flaws)) : flaws ≠ [] := by
  unfold File.read at h
  split at h
  · split at h
    · cases h
    · cases h
      simp
  · exact Document.flaws_ne_nil_of_ofText h

end DocAudit.Spec
