import DocAudit.Check.Links
import DocAudit.Proofs.Project.Shape

/-!
# Findings of links

A link is found if the text before it is scanned up to it, whatever that holds, and every target
that is found is that of such a link (`exists_scanned_of_mem`). The checks put together what they
find of each link (`checkLinks_eq`), so that two projects with the same documents, of which one has
another text, differ in the findings of this document only.
-/

namespace DocAudit.Check

open Text Markdown

/-! ## Scanning for links -/

/-- Behind an opening bracket stands no link, whatever follows the text. -/
inductive IsDead : List Char → Prop
  | close {label : List Char} (hlabel : ']' ∉ label) : IsDead (label ++ [']'])
  | other {label rest : List Char} {c : Char} (hlabel : ']' ∉ label) (hc : c ≠ '(') :
    IsDead (label ++ ']' :: c :: rest)
  | empty {label rest : List Char} (hlabel : ']' ∉ label) :
      IsDead (label ++ ']' :: '(' :: ')' :: rest)

/-- A text is scanned up to its end, which no link in it crosses, and the targets of its links are
these. -/
inductive Scanned : List Char → List (List Char) → Prop
  | nil : Scanned [] []
  | other {c : Char} {s : List Char} {targets : List (List Char)} (hc : c ≠ '[')
      (h : Scanned s targets) :
    Scanned (c :: s) targets
  | bracket {s : List Char} {targets : List (List Char)} (hdead : IsDead s)
      (h : Scanned s targets) :
    Scanned ('[' :: s) targets
  | link {label target s : List Char} {targets : List (List Char)} (hlabel : ']' ∉ label)
    (hne : target ≠ []) (htarget : ')' ∉ target) (h : Scanned s targets) :
    Scanned ('[' :: (label ++ ']' :: '(' :: (target ++ ')' :: s))) (trim target :: targets)

variable {s label target rest : List Char} {targets : List (List Char)}

theorem readTarget_link (hlabel : ']' ∉ label) (hne : target ≠ []) (htarget : ')' ∉ target)
    (rest : List Char) :
    readTarget (label ++ ']' :: '(' :: (target ++ ')' :: rest)) = some (target, rest) := by
  have hempty : target.isEmpty = false := by simpa using hne
  simp [readTarget, cutAt_append_cons hlabel, cutAt_append_cons htarget, hempty]

theorem IsDead.readTarget_eq_none (h : IsDead s) (rest : List Char) :
    readTarget (s ++ '[' :: rest) = none := by
  cases h with
  | close hlabel => simp [readTarget, cutAt_append_cons hlabel]
  | other hlabel hc => simp [readTarget, cutAt_append_cons hlabel, hc]
  | empty hlabel => simp [readTarget, cutAt_append_cons hlabel, cutAt]

theorem targetsIn_cons_of_ne {c : Char} (hc : c ≠ '[') (s : List Char) :
    targetsIn (c :: s) = targetsIn s := by
  rw [targetsIn, if_neg (by simpa using hc)]

theorem targetsIn_bracket_of_none (h : readTarget s = none) :
    targetsIn ('[' :: s) = targetsIn s := by
  rw [targetsIn, if_pos (by decide)]
  split
  · rename_i htarget
    rw [h] at htarget
    cases htarget
  · rfl

theorem targetsIn_bracket_of_some (h : readTarget s = some (target, rest)) :
    targetsIn ('[' :: s) = trim target :: targetsIn rest := by
  rw [targetsIn, if_pos (by decide)]
  split
  · rename_i htarget
    rw [h] at htarget
    cases htarget
    rfl
  · rename_i htarget
    rw [h] at htarget
    cases htarget

/-- A text that is scanned up to its end gives its targets, whatever link follows it. -/
theorem Scanned.targetsIn_append (h : Scanned s targets) (rest : List Char) :
    targetsIn (s ++ '[' :: rest) = targets ++ targetsIn ('[' :: rest) := by
  induction h with
  | nil => rfl
  | other hc h ih => rw [List.cons_append, targetsIn_cons_of_ne hc, ih]
  | bracket hdead h ih =>
    rw [List.cons_append, targetsIn_bracket_of_none (hdead.readTarget_eq_none rest), ih]
  | link hlabel hne htarget h ih =>
    simp only [List.cons_append, List.append_assoc]
    rw [targetsIn_bracket_of_some (readTarget_link hlabel hne htarget _), ih]

theorem readTarget_ne_none {c : Char} (hlabel : ']' ∉ label) (hc : c ≠ ')')
    (hclose : ')' ∈ s) :
    readTarget (label ++ ']' :: '(' :: c :: s) ≠ none := by
  obtain ⟨⟨a, b⟩, hcut⟩ :=
    Option.ne_none_iff_exists'.1 fun hnone => cutAt_eq_none_iff.1 hnone hclose
  have hcut' : cutAt ')' (c :: s) = some (c :: a, b) := by simp [cutAt, hc, hcut]
  simp [readTarget, cutAt_append_cons hlabel, hcut']

/-- If a link that stands behind an opening bracket is not read from there, no link is, whatever
follows. -/
theorem IsDead.of_readTarget {pre raw post : List Char} (hlabel : ']' ∉ label) (hne : raw ≠ [])
    (hraw : ')' ∉ raw)
    (h : readTarget (pre ++ '[' :: (label ++ ']' :: '(' :: (raw ++ ')' :: post))) = none) :
    IsDead pre := by
  by_cases hclose : ']' ∈ pre
  · obtain ⟨⟨a, b⟩, hcut⟩ :=
      Option.ne_none_iff_exists'.1 fun hnone => cutAt_eq_none_iff.1 hnone hclose
    obtain ⟨rfl, ha⟩ := eq_append_of_cutAt hcut
    rcases b with _ | ⟨c, r⟩
    · exact .close ha
    by_cases hc : c = '('
    · subst hc
      rw [List.append_assoc, List.cons_append, List.cons_append] at h
      rcases r with _ | ⟨d, r⟩
      · exact absurd h (readTarget_ne_none ha (by decide) (by simp))
      by_cases hd : d = ')'
      · subst hd
        exact .empty ha
      · exact absurd h (readTarget_ne_none ha hd (by simp))
    · exact .other ha hc
  · have hlabel' : ']' ∉ pre ++ '[' :: label := by simp [hclose, hlabel]
    have hread := readTarget_link hlabel' hne hraw post
    rw [List.append_assoc, List.cons_append, h] at hread
    cases hread

theorem exists_of_readTarget (h : readTarget s = some (target, rest)) :
    ∃ label, s = label ++ ']' :: '(' :: (target ++ ')' :: rest) ∧ ']' ∉ label ∧
    target ≠ [] ∧ ')' ∉ target := by
  unfold readTarget at h
  split at h
  · rename_i label r hlabel
    split at h
    · rename_i raw post hraw
      split at h
      · cases h
      · rename_i hempty
        cases h
        obtain ⟨rfl, hlabel'⟩ := eq_append_of_cutAt hlabel
        obtain ⟨rfl, hraw'⟩ := eq_append_of_cutAt hraw
        exact ⟨label, rfl, hlabel', by simpa using hempty, hraw'⟩
    · cases h
  · cases h

/-- Every target that is found is that of a link behind a text that is scanned up to its end: by
induction on the scan. -/
theorem exists_scanned_of_mem (h : target ∈ targetsIn s) :
    ∃ pre label raw post targets,
      s = pre ++ '[' :: (label ++ ']' :: '(' :: (raw ++ ')' :: post)) ∧
      Scanned pre targets ∧ ']' ∉ label ∧ raw ≠ [] ∧ ')' ∉ raw ∧
      target = trim raw := by
  induction s using targetsIn.induct with
  | case1 => simp [targetsIn] at h
  | case2 c s hc raw rest hread _ ih =>
    obtain rfl : c = '[' := beq_iff_eq.1 hc
    obtain ⟨label, rfl, hlabel, hne, hraw⟩ := exists_of_readTarget hread
    rw [targetsIn_bracket_of_some hread] at h
    rcases List.mem_cons.1 h with rfl | h
    · exact ⟨[], label, raw, rest, [], rfl, .nil, hlabel, hne, hraw, rfl⟩
    · obtain ⟨pre, label', raw', post, targets, rfl, hpre, hlink⟩ := ih h
      refine ⟨'[' :: (label ++ ']' :: '(' :: (raw ++ ')' :: pre)), label', raw', post, _, by simp,
        .link hlabel hne hraw hpre, hlink⟩
  | case3 c s hc hread ih =>
    obtain rfl : c = '[' := beq_iff_eq.1 hc
    rw [targetsIn_bracket_of_none hread] at h
    obtain ⟨pre, label, raw, post, targets, rfl, hpre, hlabel, hne, hraw, htarget⟩ := ih h
    exact ⟨'[' :: pre, label, raw, post, _, rfl,
      .bracket (.of_readTarget hlabel hne hraw hread) hpre, hlabel, hne, hraw, htarget⟩
  | case4 c s hc ih =>
    have hne : c ≠ '[' := fun heq => hc (beq_iff_eq.2 heq)
    rw [targetsIn_cons_of_ne hne] at h
    obtain ⟨pre, label, raw, post, targets, rfl, hpre, hlink⟩ := ih h
    exact ⟨c :: pre, label, raw, post, _, rfl, .other hne hpre, hlink⟩

/-! ## Findings of links -/

variable {p q : Project} {applies : LocalLink → Bool} {kind file : String}

/-- Whether a check reports the link with a target in a file. -/
def isBroken (p : Project) (applies : LocalLink → Bool) (file : String) (target : List Char) :
    Except Fault Bool :=
  match localLink? (Path.parent file.toList) target with
  | none => .ok false
  | some link => if applies link then (p.holds (String.ofList link.path)).map (!·) else .ok false

/-- The findings of the link with a target in a file. -/
def linkFindings (p : Project) (applies : LocalLink → Bool) (kind file : String)
    (target : List Char) :
    Except Fault (List Finding) :=
  (isBroken p applies file target).map fun broken =>
    if broken then [.at file s!"Broken {kind}: '{String.ofList target}' does not exist"] else []

/-- The findings of the links with some targets in a file. -/
def findingsOf (p : Project) (applies : LocalLink → Bool) (kind file : String)
    (targets : List (List Char)) :
    Except Fault (List Finding) :=
  (targets.mapM (linkFindings p applies kind file)).map List.flatten

/-- The findings of the links of a file. -/
def findingsIn (p : Project) (applies : LocalLink → Bool) (kind file : String) :
    Except Fault (List Finding) :=
  match p.read file with
  | .error _ => .ok []
  | .ok text => findingsOf p applies kind file (targetsIn text.toList)

/-- The verdict on the documents by the findings in each of them. -/
def verdictOn (p : Project) (findings : String → Except Fault (List Finding)) :
    Except Fault Verdict :=
  if (documents p).isEmpty then .ok noDocuments
  else ((documents p).mapM findings).map fun found => .found found.flatten

/-- The verdict on the documents if the links of one file have some targets. -/
def verdictWith (p : Project) (applies : LocalLink → Bool) (kind file : String)
    (targets : List (List Char)) :
    Except Fault Verdict :=
  verdictOn p fun other =>
    if other = file then findingsOf p applies kind file targets else findingsIn p applies kind other

theorem target_of_localLink? {directory : List Char} {link : LocalLink}
    (h : localLink? directory target = some link) : link.target = target := by
  unfold localLink? at h
  split at h
  · cases h
  · dsimp only at h
    split at h
    · cases h
    · split at h <;> cases h <;> rfl

/-- Lists that are computed one after the other and put together. -/
theorem cons_flatten_eq {α : Type} (first : Except Fault (List α))
    (rest : Except Fault (List (List α))) :
    (first >>= fun found => (rest.map List.flatten).map (found ++ ·)) =
      (do return (← first) :: (← rest)).map List.flatten := by
  cases first <;> cases rest <;> rfl

theorem findingsOf_cons (target : List Char) (targets : List (List Char)) :
    findingsOf p applies kind file (target :: targets) =
      linkFindings p applies kind file target >>= fun found =>
        (findingsOf p applies kind file targets).map (found ++ ·) := by
  unfold findingsOf
  rw [List.mapM_cons]
  exact (cons_flatten_eq _ _).symm

/-- What is not looked up is not reported. -/
theorem linkFindings_eq_nil (h : isBroken p applies file target = .ok false) :
    linkFindings p applies kind file target = .ok [] := by
  rw [linkFindings, h]
  rfl

theorem linkFindings_of_applies {link : LocalLink}
    (hlink : localLink? (Path.parent file.toList) target = some link)
    (happlies : applies link = true) :
    linkFindings p applies kind file target =
      ((p.holds (String.ofList link.path)).map (!·)).map fun broken => if broken then
        [.at file s!"Broken {kind}: '{String.ofList link.target}' does not exist"] else [] := by
  rw [linkFindings, isBroken, hlink, target_of_localLink? hlink]
  dsimp only
  rw [if_pos happlies]

theorem findingsOf_cons_of_nil (h : linkFindings p applies kind file target = .ok [])
    (targets : List (List Char)) :
    findingsOf p applies kind file (target :: targets) =
      findingsOf p applies kind file targets := by
  rw [findingsOf_cons, h]
  change (findingsOf p applies kind file targets).map id = _
  cases findingsOf p applies kind file targets <;> rfl

/-- The links that are looked up and lead to nothing are those that are reported. -/
theorem findingsOf_eq (p : Project) (applies : LocalLink → Bool) (kind file : String)
    (targets : List (List Char)) : findingsOf p applies kind file targets =
      ((((targets.filterMap (localLink? (Path.parent file.toList))).filter applies).filterM
        fun l : LocalLink => (p.holds (String.ofList l.path)).map (!·)).map <| List.map
          fun l : LocalLink =>
            .at file s!"Broken {kind}: '{String.ofList l.target}' does not exist") := by
  rw [map_filterM_eq_flatten]
  induction targets with
  | nil => rfl
  | cons target targets ih =>
    cases hlink : localLink? (Path.parent file.toList) target with
    | none =>
      have hnone : isBroken p applies file target = .ok false := by rw [isBroken, hlink]
      rw [List.filterMap_cons_none hlink, findingsOf_cons_of_nil (linkFindings_eq_nil hnone), ih]
    | some link =>
      rw [List.filterMap_cons_some hlink]
      by_cases happlies : applies link = true
      · rw [List.filter_cons_of_pos happlies, List.mapM_cons,
          ← linkFindings_of_applies hlink happlies, findingsOf_cons, ih]
        exact cons_flatten_eq _ _
      · have hnot : isBroken p applies file target = .ok false := by
          rw [isBroken, hlink]
          exact if_neg happlies
        rw [List.filter_cons_of_neg happlies, findingsOf_cons_of_nil (linkFindings_eq_nil hnot), ih]

theorem findingsIn_of_read {text : String} (h : p.read file = .ok text) :
    findingsIn p applies kind file = findingsOf p applies kind file (targetsIn text.toList) := by
  rw [findingsIn, h]

/-- A check of links puts together what it finds of each link. -/
theorem checkLinks_eq (p : Project) (applies : LocalLink → Bool) (kind : String) :
    checkLinks p applies kind = verdictOn p (findingsIn p applies kind) := by
  have hfile : ∀ file, (do
      let missing ← ((localLinks p file).filter applies).filterM fun l : LocalLink => do
        return !(← p.holds (String.ofList l.path))
      return missing.map fun l : LocalLink =>
        Finding.at file s!"Broken {kind}: '{String.ofList l.target}' does not exist") =
      findingsIn p applies kind file := by
    intro file
    cases hread : p.read file with
    | error e =>
      simp only [findingsIn, localLinks, hread]
      rfl
    | ok text =>
      rw [findingsIn_of_read hread, findingsOf_eq]
      simp only [localLinks, hread]
      rfl
  rw [verdictOn, ← funext hfile]
  unfold checkLinks
  dsimp only
  split_ifs
  · rfl
  · rfl

/-! ## Projects with another text in one document -/

/-- Two projects with the same documents, with something at the same paths, and with the same texts
in all documents but one. -/
structure DiffersAt (p q : Project) (file : String) : Prop where
  documents : Check.documents q = Check.documents p
  holds : q.holds = p.holds
  read : ∀ other ∈ Check.documents p, other ≠ file → q.read other = p.read other

/-- Two trees with the same names that are looked through differ in one document if the others are
the same files. -/
theorem differsAt_scan {disk disk' : Tree} (h : disk.emptied = disk'.emptied) (root : String)
    (hfind : ∀ other ∈ documents (.scan root disk), other ≠ file →
      disk'.find (namesOf (Path.canonical other)) = disk.find (namesOf (Path.canonical other))) :
    DiffersAt (.scan root disk) (.scan root disk') file := by
  have hshape := Project.sameShape_scan h root
  refine ⟨?_, hshape.holds.symm, fun other hmem hne => Project.read_scan_congr
    (hfind other hmem hne)⟩
  simp only [documents, Project.filesUnder, hshape.files]

namespace DiffersAt

theorem refl (p : Project) (file : String) : DiffersAt p p file := ⟨rfl, rfl, fun _ _ _ => rfl⟩

theorem findingsOf_eq (h : DiffersAt p q file) : findingsOf q = findingsOf p := by
  funext applies kind file targets
  unfold findingsOf linkFindings isBroken
  rw [h.holds]

/-- What a check finds in the second project, in terms of the first one. -/
theorem checkLinks_eq {text : String} (h : DiffersAt p q file) (hread : q.read file = .ok text) :
    checkLinks q applies kind = verdictWith p applies kind file (targetsIn text.toList) := by
  rw [Check.checkLinks_eq, verdictWith, verdictOn, verdictOn, h.documents]
  refine if_congr Iff.rfl rfl (congrArg _ (mapM_congr fun other hmem => ?_))
  split_ifs with hother
  · subst hother
    rw [findingsIn_of_read hread, h.findingsOf_eq]
  · rw [findingsIn, findingsIn, h.read other hmem hother, h.findingsOf_eq]

end DiffersAt

end DocAudit.Check
