import DocAudit.Proofs.Markdown.Heading
import DocAudit.Proofs.Spec.Page
import DocAudit.Spec.Validation

/-!
# Titles of pages

The title of a text without blank headings is that of its first heading, and a page of that text
lacks a heading exactly if no line is one (`TitledByHeadings`). A blank heading takes the place of
the headings behind it (`title?_blankHeading`); where there is one, it is the first line taken for a
heading that counts (`titleOutcome`).
-/

namespace DocAudit.Spec

open Markdown Text

variable {text : String} {d : Document} {page : Page} {f : File}

/-- The headings of a text tell its title and whether its pages lack one. -/
structure TitledByHeadings (text : String) : Prop where
  absent : title? text = none ↔ ∀ line ∈ newlineLines text.toList, ∀ s,
    ¬IsHeadingLine line s
  first : ∀ found, title? text = found ↔ IsFirstTitle HasTitle (newlineLines text.toList) found
  /-- The heading that a page needs is one with a text. -/
  page : ∀ f d, f.format = .markdown → Document.ofText f text = .ok (.ok d) →
    (Defect.noHeading ∉ d.defects ↔ ∃ line ∈ newlineLines text.toList, ∃ s,
    IsHeadingLine line s)

/-- What the lines of a text that are taken for headings tell. -/
structure TitleOutcome (text : String) : Prop where
  first : ∀ found, title? text = found ↔
    IsFirstTitle ReadsTitle (newlineLines text.toList) found
  page : ∀ f d, f.format = .markdown → Document.ofText f text = .ok (.ok d) →
    (Defect.noHeading ∉ d.defects ↔ ∃ line ∈ newlineLines text.toList,
      (∃ s, IsHeadingLine line s) ∨ ∃ c, IsBlankHeading line c)
  /-- Without blank headings it is the headings that count. -/
  titled : (∀ line ∈ newlineLines text.toList, ∀ c, ¬IsBlankHeading line c) →
    TitledByHeadings text

theorem Page.title_of_ofText {kind : Kind} (h : Page.ofText kind text = .ok page) :
    page.title = title? text := by
  obtain ⟨inventory, rfl⟩ := exists_inventory_of_ofText h
  rfl

theorem noHeading_mem_defects_iff (h : d.body = .page page) :
    Defect.noHeading ∈ d.defects ↔ page.title = none := by
  simp [Document.defects, h]

theorem noHeading_mem_iff_of_ofText (hf : f.format = .markdown)
    (h : Document.ofText f text = .ok (.ok d)) :
    Defect.noHeading ∈ d.defects ↔ title? text = none := by
  rw [Document.ofText, hf] at h
  obtain ⟨page, hpage, hd⟩ := map_eq_ok_iff.1 h
  cases hd
  rw [noHeading_mem_defects_iff rfl, Page.title_of_ofText hpage]

theorem title?_eq_none_iff : title? text = none ↔ ∀ line ∈ newlineLines text.toList,
    (∀ s, ¬IsHeadingLine line s) ∧ ∀ c, ¬IsBlankHeading line c := by
  rw [title?, Option.map_eq_none_iff, List.findSome?_eq_none_iff]
  refine forall₂_congr fun line _ => ⟨fun hnone => ⟨fun s hline => ?_, fun c hline => ?_⟩,
    fun hnot => ?_⟩
  · rw [heading?_of_isHeadingLine hline] at hnone
    cases hnone
  · rw [heading?_of_isBlankHeading hline] at hnone
    cases hnone
  · refine Option.eq_none_iff_forall_ne_some.2 fun title htitle => ?_
    rcases exists_of_heading?_eq_some htitle with ⟨s, hline⟩ | ⟨c, hline⟩
    · exact hnot.1 s hline
    · exact hnot.2 c hline

theorem titledByHeadings_of_not_blank
    (h : ∀ line ∈ newlineLines text.toList, ∀ c, ¬IsBlankHeading line c) :
    TitledByHeadings text := by
  have habsent : title? text = none ↔ ∀ line ∈ newlineLines text.toList, ∀ s,
      ¬IsHeadingLine line s := by
    rw [title?_eq_none_iff]
    exact forall₂_congr fun line hline => and_iff_left (h line hline)
  have hreads : ∀ line ∈ newlineLines text.toList, ∀ title, ReadsTitle line title ↔
      HasTitle line title := by
    refine fun line hline title => ⟨?_, .title⟩
    rintro (htitle | hblank)
    · exact htitle
    · exact absurd hblank (h line hline _)
  refine ⟨habsent, fun found => ?_, fun f d hf hd => ?_⟩
  · rw [title?_eq_iff]
    exact ⟨.congr hreads, .congr fun line hline title => (hreads line hline title).symm⟩
  · rw [noHeading_mem_iff_of_ofText hf hd, habsent]
    simp

/-- The title of a text, and whether a page of it lacks one, is told by the lines that are taken for
headings. -/
theorem titleOutcome (text : String) : TitleOutcome text where
  first _ := title?_eq_iff
  page f d hf hd := by
    rw [noHeading_mem_iff_of_ofText hf hd, title?_eq_none_iff]
    simp only [not_forall, not_and_or, not_not, exists_prop]
  titled := titledByHeadings_of_not_blank

example : title? "text\n## no\n#\t a # b ##\t\n# c" = some "a # b" := by decide +kernel

/-- A heading of two spaces is taken for one with the second space for its title, and hides the next
one. -/
theorem title?_blankHeading : title? "#  \n# A\n" = some " " ∧
    IsFirstTitle HasTitle (newlineLines "#  \n# A\n".toList) (some "A") ∧
      ¬TitledByHeadings "#  \n# A\n" := by
  have htitle : title? "#  \n# A\n" = some " " := by decide +kernel
  have hblank : ∀ title, ¬HasTitle ['#', ' ', ' '] title := by
    rintro title ⟨s, hline, hs⟩
    have hread : heading? ['#', ' ', ' '] = some title :=
      heading?_eq_some_iff.2 (.title ⟨s, hline, hs⟩)
    cases hread.symm.trans (by decide : heading? ['#', ' ', ' '] = some [' '])
    exact absurd (hs.last ' ' rfl) (by decide)
  have hfirst : IsFirstTitle HasTitle (newlineLines "#  \n# A\n".toList) (some "A") := by
    have hlines : newlineLines "#  \n# A\n".toList =
        [['#', ' ', ' ']] ++ ['#', ' ', 'A'] :: [[]] := by
      decide +kernel
    have hheading : IsHeadingLine ['#', ' ', 'A'] ['A'] :=
      ⟨[' '], by decide, by decide, rfl, 'A', rfl, by decide⟩
    exact .given hlines (by simpa using hblank)
      ⟨['A'], hheading, isTitleOf_headingText ⟨'A', rfl, by decide⟩⟩
  refine ⟨htitle, hfirst, fun h => ?_⟩
  have hnamed := (h.first (some "A")).2 hfirst
  rw [htitle] at hnamed
  exact absurd hnamed (by decide)

end DocAudit.Spec
