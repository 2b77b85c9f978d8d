import DocAudit.Proofs.Check.Links
import DocAudit.Proofs.Markdown.Link

/-!
# Titles of links

To the checks of links, all that stands between the parentheses of a link is its target. A title
that is added to a link changes nothing of what they find elsewhere, and nothing at all if the
target has a fragment, with which the title is cut off. Else the title becomes part of the path
(`linkTitleOutcome`): a link to a Markdown file that is missing is not reported any more, and a link
to a file that is there may be reported (`relativeLinkResolution_titled`).
-/

namespace DocAudit.Check

open Text Markdown

variable {p q : Project} {file : String} {target : List Char} {targets : List (List Char)}

/-! ## Titles -/

/-- All that stands between the parentheses of a link. -/
def rawTarget (l : WrittenLink) : List Char := l.target ++ l.title.elim [] LinkTitle.written

/-- A link with a title. -/
def titled (l : WrittenLink) (t : LinkTitle) : WrittenLink := { l with title := some t }

variable {l : WrittenLink} {t : LinkTitle}

theorem written_eq (l : WrittenLink) :
    l.written = '[' :: (l.text ++ ']' :: '(' :: (rawTarget l ++ [')'])) := by
  simp [WrittenLink.written, closingOf, rawTarget]

theorem rawTarget_titled (l : WrittenLink) (t : LinkTitle) :
    rawTarget (titled l t) = l.target ++ t.written := rfl

/-- A title begins with a blank. -/
theorem exists_written_eq_cons (t : LinkTitle) :
    ∃ c rest, t.written = c :: rest ∧ isBlank c = true := by
  obtain ⟨c, blanks, hblanks⟩ := List.exists_cons_of_ne_nil t.blanks_ne_nil
  refine ⟨c, blanks ++ '"' :: (t.text ++ ['"']), by simp [LinkTitle.written, hblanks], ?_⟩
  exact t.isBlank_of_mem c (by simp [hblanks])

theorem not_mem_blanks {c : Char} (hc : isBlank c = false) (t : LinkTitle) : c ∉ t.blanks := by
  intro hmem
  rw [t.isBlank_of_mem c hmem] at hc
  cases hc

/-- The target of a link is not trimmed. -/
theorem trim_rawTarget_of_untitled (h : l.title = none) : trim (rawTarget l) = l.target := by
  have hraw : rawTarget l = l.target := by simp [rawTarget, h]
  rw [hraw]
  exact trim_of_not_isBlank (fun c hc => (l.of_mem_target c (List.mem_of_head? hc)).2)
    fun c hc => (l.of_mem_target c (List.mem_of_getLast? hc)).2

/-- Neither is a target with a title. -/
theorem trim_rawTarget_titled (l : WrittenLink) (t : LinkTitle) :
    trim (rawTarget (titled l t)) = l.target ++ t.written := by
  rw [rawTarget_titled]
  refine trim_of_not_isBlank (fun c hc => ?_) fun c hc => ?_
  · rw [List.head?_append_of_ne_nil _ l.target_ne_nil] at hc
    exact (l.of_mem_target c (List.mem_of_head? hc)).2
  · have hlast : (l.target ++ t.written).getLast? = some '"' := by
      rw [LinkTitle.written, ← List.append_assoc, ← List.cons_append, ← List.append_assoc,
        List.getLast?_concat]
    rw [hlast] at hc
    cases hc
    decide

/-- A link that a text is scanned up to is read, and the scan goes on behind it. -/
theorem Scanned.targetsIn_link {pre : List Char} (h : Scanned pre targets)
    (hraw : ')' ∉ rawTarget l)
    (post : List Char) :
    targetsIn (pre ++ l.written ++ post) = targets ++ trim (rawTarget l) :: targetsIn post := by
  have hne : rawTarget l ≠ [] := by simp [rawTarget, l.target_ne_nil]
  rw [written_eq]
  simp only [List.append_assoc, List.cons_append, List.nil_append]
  rw [h.targetsIn_append,
    targetsIn_bracket_of_some (readTarget_link l.bracket_not_mem hne hraw post)]

/-! ## Where targets lead to -/

/-- A target is that of a web page, of a mail or in the same document. -/
def IsExternal (target : List Char) : Prop :=
  externalStarts.any (fun e => e.isPrefixOf target) = true

instance (target : List Char) : Decidable (IsExternal target) :=
  inferInstanceAs (Decidable (_ = true))

/-- What does not occur in a text can follow what begins with it, but cannot be needed for that. -/
theorem isPrefixOf_append_cons {start : List Char} {c : Char} (hc : c ∉ start)
    (target rest : List Char) :
    start.isPrefixOf (target ++ c :: rest) = start.isPrefixOf target := by
  rw [Bool.eq_iff_iff, List.isPrefixOf_iff_prefix, List.isPrefixOf_iff_prefix]
  refine ⟨fun hprefix => ?_, fun hprefix => hprefix.trans (List.prefix_append _ _)⟩
  by_cases hlength : start.length ≤ target.length
  · exact List.prefix_of_prefix_length_le hprefix (List.prefix_append _ _) hlength
  · have hwhole : target ++ [c] <+: target ++ c :: rest := ⟨rest, by simp⟩
    have hinside := List.prefix_of_prefix_length_le hwhole hprefix (by simp; omega)
    exact absurd (hinside.subset (by simp)) hc

/-- A title does not make a target external. -/
theorem isExternal_titled_iff : IsExternal (l.target ++ t.written) ↔ IsExternal l.target := by
  obtain ⟨c, rest, hwritten, hc⟩ := exists_written_eq_cons t
  have hstart : ∀ start ∈ externalStarts, c ∉ start := by
    have hblank : ∀ start ∈ externalStarts, ∀ d ∈ start, isBlank d = false := by decide
    intro start hmem hc'
    rw [hblank start hmem c hc'] at hc
    cases hc
  rw [IsExternal, IsExternal, hwritten]
  simp only [List.any_eq_true]
  refine exists_congr fun start => and_congr_right fun hmem => ?_
  rw [isPrefixOf_append_cons (hstart start hmem)]

/-- Where a target leads to that is not external and not a fragment only. -/
theorem localLink?_eq {directory : List Char} (hexternal : ¬IsExternal target)
    (hne : before '#' target ≠ []) :
    localLink? directory target = some
      (if (before '#' target).head? == some '/'
      then ⟨target, (before '#' target).dropWhile (· == '/'), true⟩
      else ⟨target, Path.follow directory (before '#' target), false⟩) := by
  rw [IsExternal] at hexternal
  rw [localLink?, if_neg hexternal]
  dsimp only
  rw [if_neg (by simpa using hne)]
  split_ifs <;> rfl

/-- A target that is not external names a path. -/
theorem before_target_ne_nil (hexternal : ¬IsExternal l.target) : before '#' l.target ≠ [] := by
  obtain ⟨c, s, htarget⟩ := List.exists_cons_of_ne_nil l.target_ne_nil
  intro hnil
  have hc : c = '#' := by
    by_contra hne
    simp [htarget, before, hne] at hnil
  subst hc
  exact hexternal (by simp [IsExternal, htarget, externalStarts])

theorem head?_before_append {s : List Char} (hne : before '#' s ≠ []) (rest : List Char) :
    (before '#' (s ++ rest)).head? = s.head? := by
  cases s with
  | nil => exact absurd rfl hne
  | cons c s =>
    by_cases hc : c = '#'
    · exact absurd (by simp [before, hc]) hne
    · simp [before, hc]

/-- Links that lead to Markdown files are looked up wherever they are read from. -/
theorem isBroken_markdown (hexternal : ¬IsExternal target) (hne : before '#' target ≠ []) :
    isBroken p LocalLink.isMarkdown file target =
      if ".md".toList.isSuffixOf (before '#' target) then
        (p.holds (String.ofList (if (before '#' target).head? == some '/' then
          (before '#' target).dropWhile (· == '/')
        else Path.follow (Path.parent file.toList) (before '#' target)))).map (!·)
      else .ok false := by
  rw [isBroken, localLink?_eq hexternal hne]
  dsimp only
  split_ifs <;> simp_all [LocalLink.isMarkdown]

/-- Links that are read from the directory of the file are looked up wherever they lead to. -/
theorem isBroken_relative (hexternal : ¬IsExternal target) (hne : before '#' target ≠ []) :
    isBroken p (fun l => !l.isAbsolute) file target =
      if (before '#' target).head? == some '/' then .ok false
      else
        (p.holds (String.ofList (Path.follow (Path.parent file.toList) (before '#' target)))).map
          (!·) := by
  rw [isBroken, localLink?_eq hexternal hne]
  by_cases habsolute : ((before '#' target).head? == some '/') = true
  · simp only [habsolute, if_true, Bool.not_true, Bool.false_eq_true, if_false]
  · simp only [habsolute, if_false, Bool.not_false, if_true, Bool.false_eq_true]

/-- A text ends with `.md` no sooner than behind its last quotation mark. -/
theorem isSuffixOf_append_quote {s rest : List Char} (h : ¬".md".toList <:+ rest) :
    ".md".toList.isSuffixOf (s ++ '"' :: rest) = false := by
  rw [Bool.eq_false_iff, Ne, List.isSuffixOf_iff_suffix]
  intro hsuffix
  have hwhole : '"' :: rest <:+ s ++ '"' :: rest := List.suffix_append _ _
  rcases List.suffix_or_suffix_of_suffix hsuffix hwhole with hinside | houtside
  · rcases List.suffix_cons_iff.1 hinside with heq | hinside
    · simp at heq
    · exact h hinside
  · exact absurd (houtside.subset List.mem_cons_self) (by decide)

/-- A target with a title, cut off at a number sign, is Markdown only if the title is so. -/
theorem isSuffixOf_titled (hfragment : '#' ∉ l.target)
    (htext : '#' ∈ t.text → ¬".md".toList <:+ before '#' t.text) :
    ".md".toList.isSuffixOf (before '#' (l.target ++ t.written)) = false := by
  have hblanks : '#' ∉ l.target ++ t.blanks ++ ['"'] := by
    simp [hfragment, not_mem_blanks (show isBlank '#' = false by decide) t]
  have hwritten : l.target ++ t.written = l.target ++ t.blanks ++ ['"'] ++ (t.text ++ ['"']) := by
    simp [LinkTitle.written]
  rw [hwritten, before_append_of_not_mem hblanks]
  by_cases hmem : '#' ∈ t.text
  · rw [before_append_of_mem hmem]
    simp only [List.append_assoc, List.cons_append, List.nil_append]
    rw [← List.append_assoc]
    exact isSuffixOf_append_quote (htext hmem)
  · rw [before_of_not_mem (by simp [hmem]), ← List.append_assoc]
    exact isSuffixOf_append_quote (by simp)

/-! ## Adding a title -/

/-- A link without a title in one file that is given a title. -/
structure Retitles (p q : Project) (file : String) (l : WrittenLink) (t : LinkTitle) : Prop
    extends DiffersAt p q file where
  untitled : l.title = none
  /-- The link is one that the checks come upon. -/
  texts : ∃ pre targets post, Scanned pre targets ∧
    p.read file = .ok (String.ofList (pre ++ l.written ++ post)) ∧
    q.read file = .ok (String.ofList (pre ++ (titled l t).written ++ post))

/-- What adding a title to a link makes of the findings of links. -/
structure LinkTitleOutcome (p q : Project) (file : String) (l : WrittenLink) (t : LinkTitle) :
    Prop where
  /-- The checks find the same before and after, but for what they find of the one link: before of
  its target, and after of its target with the title. -/
  runs : ∃ earlier later, ∀ applies kind,
    checkLinks p applies kind = verdictWith p applies kind file (earlier ++ l.target :: later) ∧
    checkLinks q applies kind =
      verdictWith p applies kind file (earlier ++ (l.target ++ t.written) :: later)
  /-- With its fragment the title of a link is left aside. -/
  fragment : '#' ∈ l.target →
    isBroken p LocalLink.isMarkdown file (l.target ++ t.written) =
      isBroken p LocalLink.isMarkdown file l.target ∧
    isBroken p (fun l => !l.isAbsolute) file (l.target ++ t.written) =
      isBroken p (fun l => !l.isAbsolute) file l.target
  /-- Without one the link is not taken for one to a Markdown file any more. -/
  missed : '#' ∉ l.target → ('#' ∈ t.text → ¬".md".toList <:+ before '#' t.text) →
    isBroken p LocalLink.isMarkdown file (l.target ++ t.written) = .ok false
  /-- If it is relative, it is reported unless something stands at the path of which the title is a
  part. -/
  sought : '#' ∉ l.target → l.target.head? ≠ some '/' →
    isBroken p (fun l => !l.isAbsolute) file (l.target ++ t.written) =
      (p.holds (String.ofList
        (Path.follow (Path.parent file.toList) (l.target ++ before '#' t.written)))).map (!·)
  /-- If it is absolute, it is not looked at as a relative one, with or without the title. -/
  absolute : l.target.head? = some '/' →
    isBroken p (fun l => !l.isAbsolute) file (l.target ++ t.written) = .ok false ∧
    isBroken p (fun l => !l.isAbsolute) file l.target = .ok false

/-- The scan comes upon the link in both files, and behind it goes on in the same way. -/
theorem Retitles.runs (h : Retitles p q file l t) (htitle : ')' ∉ t.text) :
    ∃ earlier later, ∀ applies kind,
      checkLinks p applies kind = verdictWith p applies kind file (earlier ++ l.target :: later) ∧
      checkLinks q applies kind =
        verdictWith p applies kind file (earlier ++ (l.target ++ t.written) :: later) := by
  obtain ⟨pre, targets, post, hpre, hread, hread'⟩ := h.texts
  have htarget : ')' ∉ l.target := fun hmem => (l.of_mem_target _ hmem).1 rfl
  have hplain : ')' ∉ rawTarget l := by simpa [rawTarget, h.untitled] using htarget
  have hraw : ')' ∉ rawTarget (titled l t) := by
    simp [rawTarget_titled, LinkTitle.written, htarget, htitle,
      not_mem_blanks (show isBlank ')' = false by decide) t]
  refine ⟨targets, targetsIn post, fun applies kind => ⟨?_, ?_⟩⟩
  · rw [(DiffersAt.refl p file).checkLinks_eq hread, String.toList_ofList,
      hpre.targetsIn_link hplain, trim_rawTarget_of_untitled h.untitled]
  · rw [h.toDiffersAt.checkLinks_eq hread', String.toList_ofList, hpre.targetsIn_link hraw,
      trim_rawTarget_titled]

/-- To the checks of links a title is a part of the target. -/
theorem linkTitleOutcome (h : Retitles p q file l t) (hexternal : ¬IsExternal l.target)
    (htitle : ')' ∉ t.text) :
    LinkTitleOutcome p q file l t := by
  have hplain : before '#' l.target ≠ [] := before_target_ne_nil hexternal
  have hhead : (before '#' l.target).head? = l.target.head? := by
    simpa using head?_before_append hplain []
  have hhead' : (before '#' (l.target ++ t.written)).head? = l.target.head? :=
    head?_before_append hplain _
  have hexternal' : ¬IsExternal (l.target ++ t.written) := isExternal_titled_iff.not.2 hexternal
  have hraw : before '#' (l.target ++ t.written) ≠ [] := by
    intro hnil
    rw [hnil, ← hhead] at hhead'
    exact hplain (List.head?_eq_none_iff.1 hhead'.symm)
  refine ⟨h.runs htitle, fun hfragment => ?_, fun hfragment htext => ?_,
    fun hfragment hrelative => ?_, fun habsolute => ?_⟩
  · have hbefore : before '#' (l.target ++ t.written) = before '#' l.target :=
      before_append_of_mem hfragment _
    rw [isBroken_markdown hexternal' hraw, isBroken_markdown hexternal hplain,
      isBroken_relative hexternal' hraw, isBroken_relative hexternal hplain, hbefore]
    exact ⟨rfl, rfl⟩
  · rw [isBroken_markdown hexternal' hraw, isSuffixOf_titled hfragment htext]
    rfl
  · rw [isBroken_relative hexternal' hraw, hhead', if_neg (by simpa using hrelative),
      before_append_of_not_mem hfragment]
  · rw [isBroken_relative hexternal' hraw, isBroken_relative hexternal hplain, hhead, hhead',
      habsolute]
    exact ⟨rfl, rfl⟩

/-! ## A link between two documents -/

/-- A link to a document that is there. -/
def presentLink : WrittenLink := ⟨['x'], "b.md".toList, none, by decide, by decide, by decide⟩

/-- A link to a document that is missing. -/
def missingLink : WrittenLink := ⟨['x'], "c.md".toList, none, by decide, by decide, by decide⟩

/-- A title of one letter. -/
def letterTitle : LinkTitle := ⟨[' '], ['B'], by decide, by decide, by decide⟩

/-- Two documents, of which the first one is a link and the second one is empty. -/
def twoDocuments (l : WrittenLink) : Tree :=
  .dir [("docs", .dir [("a.md", .file (encode l.written)), ("b.md", .file [])])]

theorem scan_twoDocuments (l : WrittenLink) : Project.scan "p" (twoDocuments l) =
    ⟨"p", twoDocuments l, ["docs/a.md", "docs/b.md"], ["docs"], []⟩ := by
  have hvisible : Project.found "p" (twoDocuments l) = ["docs/a.md", "docs/b.md"] := rfl
  rw [Project.scan_of_pairwise (by rw [hvisible]; decide), hvisible]
  rfl

theorem retitles_twoDocuments : Retitles (.scan "p" (twoDocuments presentLink))
    (.scan "p" (twoDocuments (titled presentLink letterTitle))) "docs/a.md" presentLink
      letterTitle := by
  have hshape : (twoDocuments presentLink).emptied =
      (twoDocuments (titled presentLink letterTitle)).emptied := rfl
  refine ⟨differsAt_scan hshape "p" fun other hmem hne => ?_, rfl, [], [], [], .nil, ?_, ?_⟩
  · have hdocuments : documents (.scan "p" (twoDocuments presentLink)) =
        ["docs/a.md", "docs/b.md"] := by
      rw [scan_twoDocuments]
      decide +kernel
    rw [hdocuments] at hmem
    obtain rfl : other = "docs/b.md" := by simpa [hne] using hmem
    rfl
  · rw [scan_twoDocuments]
    exact toOption_eq_some_iff.1 (by decide +kernel)
  · rw [scan_twoDocuments]
    exact toOption_eq_some_iff.1 (by decide +kernel)

/-- A link that leads to a document is reported for its title. -/
theorem linkTitleOutcome_twoDocuments :
    ¬IsExternal presentLink.target ∧ ')' ∉ letterTitle.text ∧
    LinkTitleOutcome (.scan "p" (twoDocuments presentLink))
      (.scan "p" (twoDocuments (titled presentLink letterTitle))) "docs/a.md" presentLink
        letterTitle :=
  ⟨by decide, by decide, linkTitleOutcome retitles_twoDocuments (by decide) (by decide)⟩

/-- With a title a link to a document that is there is reported, and one to a missing document is
not. -/
theorem relativeLinkResolution_titled :
    (relativeLinkResolution (.scan "p" (twoDocuments presentLink))).toOption = some (.found []) ∧
    (relativeLinkResolution (.scan "p" (twoDocuments (titled presentLink letterTitle)))).toOption =
      some (.found [.at "docs/a.md" "Broken relative link: 'b.md \"B\"' does not exist"]) ∧
    (linkResolution (.scan "p" (twoDocuments missingLink))).toOption =
      some (.found [.at "docs/a.md" "Broken link: 'c.md' does not exist"]) ∧
    (linkResolution (.scan "p" (twoDocuments (titled missingLink letterTitle)))).toOption =
      some (.found []) := by
  simp only [scan_twoDocuments]
  decide +kernel

end DocAudit.Check
