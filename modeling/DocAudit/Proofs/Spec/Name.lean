import DocAudit.Proofs.Path.Below
import DocAudit.Spec.File

/-!
# Names of specifications

The name of a specification is its stem and the ending of its kind and format behind it
(`File.IsNamed`). No ending is the end of another one, so a name tells them apart again, also if the
stem ends like a specification itself: what a path tells is the one specification that bears its
name (`File.ofPath?_eq_some_iff`).
-/

namespace DocAudit

open Text

namespace Spec

variable {path name stem : String} {format format' : Format} {kind : Kind} {f g : File}

/-! ## Endings -/

/-- All kinds but that of inventories have an ending of their own in each format. -/
theorem mem_endings_iff {e : String} :
    (e, kind) ∈ endings format ↔ kind ≠ .brd ∧ e = ending kind format := by
  cases format <;> cases kind <;> simp [endings, ending]

/-- No ending is the end of another one. -/
theorem eq_of_suffix_endings : ∀ e ∈ endings format, ∀ e' ∈ endings format',
    e.1.toList <:+ e'.1.toList → e = e' ∧ format = format' := by
  cases format <;> cases format' <;> decide

/-- An inventory has the ending of a requirement, and no other kind has. -/
theorem ending_eq_ending_featureRequest_iff :
    ending kind format = ending .featureRequest format ↔
    kind = .brd ∨ kind = .featureRequest := by
  cases format <;> cases kind <;> decide

theorem slash_not_mem_ending (kind : Kind) (format : Format) :
    '/' ∉ (ending kind format).toList := by
  cases format <;> cases kind <;> decide

/-- Two texts with endings behind them that are equal have the same ending. -/
theorem eq_of_append_endings {stem' : String} {e e' : String × Kind} (he : e ∈ endings format)
    (he' : e' ∈ endings format') (h : stem ++ e.1 = stem' ++ e'.1) :
    stem = stem' ∧ e = e' ∧ format = format' := by
  have hlists : stem.toList ++ e.1.toList = stem'.toList ++ e'.1.toList := by
    simpa using congrArg String.toList h
  have hsame : e = e' ∧ format = format' := by
    rcases List.suffix_or_suffix_of_suffix (List.suffix_append stem.toList e.1.toList)
      (hlists ▸ List.suffix_append stem'.toList e'.1.toList) with hsuffix | hsuffix
    · exact eq_of_suffix_endings e he e' he' hsuffix
    · obtain ⟨heq, hformat⟩ := eq_of_suffix_endings e' he' e he hsuffix
      exact ⟨heq.symm, hformat.symm⟩
  obtain ⟨rfl, rfl⟩ := hsame
  exact ⟨String.toList_injective (List.append_cancel_right hlists), rfl, rfl⟩

/-! ## Splitting names -/

theorem eq_append_of_splitName (h : splitName name = some (stem, format, kind)) :
    stem ≠ "" ∧ ∃ e, (e, kind) ∈ endings format ∧ name = stem ++ e := by
  obtain ⟨format', -, h⟩ := List.exists_of_findSome?_eq_some h
  obtain ⟨⟨e, kind'⟩, he, h⟩ := List.exists_of_findSome?_eq_some h
  dsimp only at h
  split_ifs at h with hsuffix
  cases h
  rw [Bool.and_eq_true, List.isSuffixOf_iff_suffix, bne_iff_ne] at hsuffix
  obtain ⟨hsuffix, hlength⟩ := hsuffix
  refine ⟨fun hempty => ?_, e, he, ?_⟩
  · have hnil := congrArg String.toList hempty
    rw [String.toList_ofList, String.toList_empty, List.take_eq_nil_iff] at hnil
    rcases hnil with hzero | hnil
    · exact hlength hzero
    · simp [hnil] at hlength
  · apply String.toList_injective
    rw [String.toList_append, String.toList_ofList, List.suffix_iff_eq_append.1 hsuffix]

theorem isSome_splitName (hstem : stem ≠ "") {e : String} (he : (e, kind) ∈ endings format) :
    (splitName (stem ++ e)).isSome := by
  refine List.findSome?_isSome_iff.2 ⟨format, by cases format <;> decide, ?_⟩
  refine List.findSome?_isSome_iff.2 ⟨(e, kind), he, ?_⟩
  simp [List.isSuffixOf_iff_suffix, hstem]

/-- A name splits into a stem and an ending in one way at most, and if it can be split it is. -/
theorem splitName_eq_some_iff : splitName name = some (stem, format, kind) ↔
    stem ≠ "" ∧ kind ≠ .brd ∧ name = stem ++ ending kind format := by
  constructor
  · intro h
    obtain ⟨hstem, e, he, rfl⟩ := eq_append_of_splitName h
    obtain ⟨hkind, rfl⟩ := mem_endings_iff.1 he
    exact ⟨hstem, hkind, rfl⟩
  · rintro ⟨hstem, hkind, rfl⟩
    have he : (ending kind format, kind) ∈ endings format := mem_endings_iff.2 ⟨hkind, rfl⟩
    obtain ⟨⟨stem', format', kind'⟩, h⟩ :=
      Option.isSome_iff_exists.1 (isSome_splitName hstem he)
    obtain ⟨-, e', he', heq⟩ := eq_append_of_splitName h
    obtain ⟨rfl, hsame, rfl⟩ := eq_of_append_endings he he' heq
    cases hsame
    exact h

/-! ## Specifications and their names -/

/-- A kind fits a stem: the requirement of one stem is an inventory. -/
def Kind.Fits : Kind → String → Prop
  | .brd, stem => stem = inventoryStem
  | .featureRequest, stem => stem ≠ inventoryStem
  | _, _ => True

/-- A specification bears a name. -/
structure File.IsNamed (f : File) (name : String) : Prop where
  name : name = f.stem ++ ending f.kind f.format
  stem : f.stem ≠ ""
  /-- It is an inventory exactly if it has the ending of a requirement and the stem of
  inventories. -/
  inventory : f.kind = .brd ↔
    ending f.kind f.format = ending .featureRequest f.format ∧ f.stem = inventoryStem

theorem Kind.fits_iff : kind.Fits stem ↔ (kind = .brd ↔
    ending kind format = ending .featureRequest format ∧ stem = inventoryStem) := by
  rw [ending_eq_ending_featureRequest_iff]
  cases kind <;> simp [Fits]

theorem File.isNamed_iff : f.IsNamed name ↔
    name = f.stem ++ ending f.kind f.format ∧ f.stem ≠ "" ∧ f.kind.Fits f.stem :=
  ⟨fun h => ⟨h.name, h.stem, Kind.fits_iff.2 h.inventory⟩,
    fun ⟨hname, hstem, hfits⟩ => ⟨hname, hstem, Kind.fits_iff.1 hfits⟩⟩

/-- The kind of a specification whose ending tells a kind, with its stem taken into account. -/
def Kind.withStem (told : Kind) (stem : String) : Kind :=
  if told = .featureRequest ∧ stem = inventoryStem then .brd else told

theorem ending_withStem (told : Kind) (stem : String) (format : Format) :
    ending (told.withStem stem) format = ending told format := by
  unfold Kind.withStem
  split_ifs with hinventory
  · rw [hinventory.1]
    rfl
  · rfl

theorem Kind.fits_withStem {told : Kind} (h : told ≠ .brd) : (told.withStem stem).Fits stem := by
  unfold withStem
  split_ifs with hinventory
  · exact hinventory.2
  · cases told with
    | brd => exact absurd rfl h
    | featureRequest => exact fun hstem => hinventory ⟨rfl, hstem⟩
    | _ => trivial

theorem Kind.exists_withStem_eq (h : kind.Fits stem) :
    ∃ told : Kind, told ≠ .brd ∧ told.withStem stem = kind := by
  cases kind with
  | brd => exact ⟨.featureRequest, by decide, if_pos ⟨rfl, h⟩⟩
  | featureRequest =>
    exact ⟨.featureRequest, by decide, if_neg fun hinventory => h hinventory.2⟩
  | architecture => exact ⟨.architecture, by decide, rfl⟩
  | testPlan => exact ⟨.testPlan, by decide, rfl⟩
  | deployment => exact ⟨.deployment, by decide, rfl⟩

theorem File.IsNamed.exists_splitName (h : f.IsNamed name) :
    ∃ told, splitName name = some (f.stem, f.format, told) ∧ told.withStem f.stem = f.kind := by
  obtain ⟨hname, hstem, hfits⟩ := isNamed_iff.1 h
  obtain ⟨told, htold, hkind⟩ := Kind.exists_withStem_eq hfits
  rw [← hkind, ending_withStem] at hname
  exact ⟨told, splitName_eq_some_iff.2 ⟨hstem, htold, hname⟩, hkind⟩

/-- What a path tells is the specification that bears its name. -/
theorem File.ofPath?_eq_some_iff :
    ofPath? path = some f ↔ f.path = path ∧ f.IsNamed (Path.nameOf path) := by
  rw [ofPath?, Option.map_eq_some_iff]
  constructor
  · rintro ⟨⟨stem, format, told⟩, hsplit, rfl⟩
    obtain ⟨hstem, htold, hname⟩ := splitName_eq_some_iff.1 hsplit
    rw [← ending_withStem told stem] at hname
    exact ⟨rfl, isNamed_iff.2 ⟨hname, hstem, Kind.fits_withStem htold⟩⟩
  · rintro ⟨rfl, hnamed⟩
    obtain ⟨told, hsplit, hkind⟩ := hnamed.exists_splitName
    exact ⟨_, hsplit, congrArg (File.mk f.path f.format · f.stem) hkind⟩

/-- But for its path, there is one specification at most that bears a name. -/
theorem File.IsNamed.unique (hf : f.IsNamed name) (hg : g.IsNamed name) :
    f.format = g.format ∧ f.kind = g.kind ∧ f.stem = g.stem := by
  obtain ⟨told, hsplit, hkind⟩ := hf.exists_splitName
  obtain ⟨told', hsplit', hkind'⟩ := hg.exists_splitName
  obtain ⟨hstem, hrest⟩ := Prod.mk.inj (Option.some.inj (hsplit.symm.trans hsplit'))
  obtain ⟨hformat, htold⟩ := Prod.mk.inj hrest
  exact ⟨hformat, by rw [← hkind, ← hkind', htold, hstem], hstem⟩

/-! ## Paths -/

/-- Telling a specification by its path and naming a specification are inverse to each other: a path
tells the specification that bears its name, a name after any directory tells the specification that
it was made for, and so no name belongs to two kinds or formats. -/
theorem File.ofPath?_inverse :
    (∀ path f, ofPath? path = some f ↔ f.path = path ∧ f.IsNamed (Path.nameOf path)) ∧
    (∀ lead stem format kind, Path.IsLead lead.toList → stem ≠ "" → '/' ∉ stem.toList →
      Kind.Fits kind stem → ofPath? (lead ++ (stem ++ ending kind format)) =
        some ⟨lead ++ (stem ++ ending kind format), format, kind, stem⟩) ∧
    ∀ name f g, IsNamed f name → IsNamed g name →
      f.format = g.format ∧ f.kind = g.kind ∧ f.stem = g.stem := by
  refine ⟨fun path f => ofPath?_eq_some_iff, ?_, fun name f g => IsNamed.unique⟩
  intro lead stem format kind hlead hstem hslash hfits
  have hname : '/' ∉ (stem ++ ending kind format).toList := by
    rw [String.toList_append, List.mem_append, not_or]
    exact ⟨hslash, slash_not_mem_ending kind format⟩
  refine ofPath?_eq_some_iff.2 ⟨rfl, isNamed_iff.2 ⟨?_, hstem, hfits⟩⟩
  exact Path.nameOf_append hlead hname

/-- A stem that ends like another specification is kept. -/
theorem File.ofPath?_inverse_nested :
    ofPath? "docs/brd.spec.yaml.arch" =
      some ⟨"docs/brd.spec.yaml.arch", .markdown, .architecture, "brd.spec.yaml"⟩ ∧
    ¬IsNamed ⟨"docs/brd.spec.yaml.arch", .yaml, .brd, "brd"⟩ "brd.spec.yaml.arch" := by
  have hlead : Path.IsLead "docs/".toList := .inr (by decide)
  have htold :=
    ofPath?_inverse.2.1 "docs/" "brd.spec.yaml" .markdown .architecture hlead (by decide)
    (by decide) trivial
  have hnamed := ((ofPath?_inverse.1 _ _).1 htold).2
  refine ⟨htold, fun hother => ?_⟩
  have hformat := (ofPath?_inverse.2.2 _ _ _ hnamed hother).1
  cases hformat

end Spec

end DocAudit
