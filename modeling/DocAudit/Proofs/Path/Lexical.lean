import DocAudit.Proofs.Path.Plain
import Mathlib.Data.List.Induction

/-!
# Lexical resolution of paths

A relative path climbs out if somewhere on it more components have led up than down, and exactly
then a component that leads up is left of it (`Path.climbsOut_iff`). The form of a path inside a
project is its normal form, the root being the empty text (`Path.canonical_of_relative`). For an
absolute path it is absolute, unless nothing is left of the path (`Path.form_of_absolute`); and a
path that begins with `'.//'` is taken for an absolute one (`Path.canonical_of_hereSlash`).
-/

namespace DocAudit

open Text

namespace Path

/-! ## Components that lead up and down -/

/-- A component that leads one directory down. -/
def leadsDown (part : List Char) : Bool := !part.isEmpty && part != ['.'] && part != up

/-- At some point of a walk more components have led up than down. -/
def Exceeds (parts : List (List Char)) : Prop :=
  ∃ walked, walked <+: parts ∧ walked.countP leadsDown < walked.count up

/-- A path that climbs above the directory it is read from. -/
def ClimbsOut (p : List Char) : Prop := Exceeds (components p)

theorem leadsDown_cases (part : List Char) :
    (part = [] ∨ part = ['.']) ∨ part = up ∨
      (part ≠ [] ∧ part ≠ ['.'] ∧ part ≠ up) ∧ leadsDown part = true := by
  by_cases hempty : part = []
  · exact .inl (.inl hempty)
  · by_cases hhere : part = ['.']
    · exact .inl (.inr hhere)
    · by_cases hup : part = up
      · exact .inr (.inl hup)
      · exact .inr (.inr ⟨⟨hempty, hhere, hup⟩, by simp [leadsDown, hempty, hhere, hup]⟩)

variable {absolute : Bool} {trail parts : List (List Char)} {part : List Char}

theorem step_of_stays (h : part = [] ∨ part = ['.']) : step absolute trail part = trail := by
  rcases h with rfl | rfl <;> rfl

theorem step_of_down (h : part ≠ [] ∧ part ≠ ['.'] ∧ part ≠ up) :
    step absolute trail part = part :: trail := by
  simp [step, h.1, h.2.1, h.2.2]

theorem step_up_cons_up : step absolute (up :: trail) up = up :: up :: trail := rfl

theorem step_up_cons {last : List Char} (h : last ≠ up) :
    step absolute (last :: trail) up = trail := by
  have hlast : (last == up) = false := beq_false_of_ne h
  have hup : (up.isEmpty || up == ['.']) = false := rfl
  simp [step, hlast, hup]

/-- Once a component that leads up is left, it stays. -/
theorem up_mem_step (h : up ∈ trail) (part : List Char) : up ∈ step absolute trail part := by
  obtain hstays | rfl | ⟨hdown, -⟩ := leadsDown_cases part
  · rwa [step_of_stays hstays]
  · obtain ⟨last, rest, rfl⟩ := List.exists_cons_of_ne_nil (List.ne_nil_of_mem h)
    by_cases hlast : last = up
    · rw [hlast, step_up_cons_up]
      exact List.mem_cons_self
    · rw [step_up_cons hlast]
      exact (List.mem_cons.1 h).resolve_left (Ne.symm hlast)
  · rw [step_of_down hdown]
    exact List.mem_cons_of_mem _ h

/-- What a walk along the components of a relative path has come to: it has exceeded, and a
component that leads up is left; or it has not, and the components that are left count how far down
it is. -/
inductive Balance (parts trail : List (List Char)) : Prop
  | above (h : Exceeds parts) (hup : up ∈ trail)
  | inside (h : ¬Exceeds parts) (hup : up ∉ trail)
    (hlength : trail.length + parts.count up = parts.countP leadsDown)

theorem Exceeds.mono (h : Exceeds parts) (part : List Char) : Exceeds (parts ++ [part]) := by
  obtain ⟨walked, hwalked, hlt⟩ := h
  exact ⟨walked, hwalked.trans (List.prefix_append _ _), hlt⟩

theorem exceeds_append_singleton_iff : Exceeds (parts ++ [part]) ↔
    Exceeds parts ∨ (parts ++ [part]).countP leadsDown < (parts ++ [part]).count up := by
  constructor
  · rintro ⟨walked, hwalked, hlt⟩
    obtain heq | hwalked := List.prefix_concat_iff.1 hwalked
    · exact .inr (heq ▸ hlt)
    · exact .inl ⟨walked, hwalked, hlt⟩
  · rintro (h | h)
    · exact h.mono part
    · exact ⟨_, List.prefix_rfl, h⟩

theorem balance_step (h : Balance parts trail) (part : List Char) :
    Balance (parts ++ [part]) (step false trail part) := by
  cases h with
  | above h hup => exact .above (h.mono part) (up_mem_step hup part)
  | inside h hup hlength =>
    obtain hstays | rfl | ⟨hdown, htrue⟩ := leadsDown_cases part
    · have hcount : (parts ++ [part]).count up = parts.count up := by
        rcases hstays with rfl | rfl <;> simp [up]
      have hcountP : (parts ++ [part]).countP leadsDown = parts.countP leadsDown := by
        rcases hstays with rfl | rfl <;> simp [leadsDown]
      rw [step_of_stays hstays]
      refine .inside ?_ hup (by rw [hcount, hcountP, hlength])
      rw [exceeds_append_singleton_iff, hcount, hcountP]
      exact not_or.2 ⟨h, by omega⟩
    · have hcount : (parts ++ [up]).count up = parts.count up + 1 := by simp
      have hcountP : (parts ++ [up]).countP leadsDown = parts.countP leadsDown := by
        simp [leadsDown]
      cases trail with
      | nil =>
        rw [List.length_nil] at hlength
        refine .above (exceeds_append_singleton_iff.2 (.inr ?_)) List.mem_cons_self
        omega
      | cons last rest =>
        rw [List.mem_cons, not_or] at hup
        rw [List.length_cons] at hlength
        rw [step_up_cons (Ne.symm hup.1)]
        refine .inside ?_ hup.2 (by omega)
        rw [exceeds_append_singleton_iff, hcount, hcountP]
        exact not_or.2 ⟨h, by omega⟩
    · have hcount : (parts ++ [part]).count up = parts.count up := by
        simp [hdown.2.2]
      have hcountP : (parts ++ [part]).countP leadsDown = parts.countP leadsDown + 1 := by
        simp [htrue]
      rw [step_of_down hdown]
      refine .inside ?_ ?_ ?_
      · rw [exceeds_append_singleton_iff, hcount, hcountP]
        exact not_or.2 ⟨h, by omega⟩
      · rw [List.mem_cons, not_or]
        exact ⟨Ne.symm hdown.2.2, hup⟩
      · rw [List.length_cons, hcount, hcountP]
        omega

theorem balance_foldl (parts : List (List Char)) : Balance parts (parts.foldl (step false) []) := by
  induction parts using List.reverseRecOn with
  | nil =>
    refine .inside ?_ List.not_mem_nil rfl
    rintro ⟨walked, hwalked, hlt⟩
    rw [List.prefix_nil.1 hwalked] at hlt
    exact absurd hlt (by decide)
  | append_singleton parts part ih =>
    rw [List.foldl_concat]
    exact balance_step ih part

/-- A path climbs out exactly if a component that leads up is left of it. -/
theorem climbsOut_iff {p : List Char} : ClimbsOut p ↔ up ∈ resolved false (components p) := by
  rw [resolved, List.mem_reverse, ClimbsOut]
  cases balance_foldl (components p) with
  | above h hup => exact ⟨fun _ => hup, fun _ => h⟩
  | inside h hup => exact ⟨fun h' => absurd h' h, fun hup' => absurd hup' hup⟩

/-! ## Paths as they are read -/

/-- A path as it is read: with backslashes as slashes, and without the blanks around it. -/
def written (path : String) : List Char := trim (replaceChar '\\' ['/'] path.toList)

/-- A path that begins with a slash. -/
def IsAbsolute (p : List Char) : Prop := p.head? = some '/'

/-- An absolute path that leads to the top: none of its components is left. -/
def LeadsToTop (p : List Char) : Prop := resolved true (components p) = []

instance (p : List Char) : Decidable (IsAbsolute p) := inferInstanceAs (Decidable (_ = _))

instance (p : List Char) : Decidable (LeadsToTop p) := inferInstanceAs (Decidable (_ = _))

instance (p : List Char) : Decidable (ClimbsOut p) := decidable_of_iff _ climbsOut_iff.symm

/-- The form of a path that has lost a leading `'./'`. -/
def form (p : List Char) : List Char :=
  let n := if p.isEmpty then [] else normalize p
  if n == ['.'] then [] else dropTrailing (· == '/') n

variable {path : String} {p rest : List Char}

theorem canonical_eq_form (path : String) :
    canonical path = String.ofList (form (match written path with
    | '.' :: '/' :: rest => rest
    | other => other)) := rfl

theorem canonical_of_here (h : written path = '.' :: '/' :: rest) :
    canonical path = String.ofList (form rest) := by
  rw [canonical_eq_form]
  split
  · rename_i rest' heq
    cases h.symm.trans heq
    rfl
  · rename_i hnot
    exact absurd h (hnot rest)

theorem canonical_of_not_here (h : ∀ rest, written path ≠ '.' :: '/' :: rest) :
    canonical path = String.ofList (form (written path)) := by
  rw [canonical_eq_form]
  split
  · rename_i rest heq
    exact absurd heq (h rest)
  · rfl

/-! ## What is left of a path -/

theorem join_resolved_eq_nil_iff (absolute : Bool) (p : List Char) :
    join ['/'] (resolved absolute (components p)) = [] ↔
    resolved absolute (components p) = [] := by
  cases hresolved : resolved absolute (components p) with
  | nil => simp [join]
  | cons part parts =>
    have hpart : part ≠ [] :=
      (ne_of_mem_resolved (c := part) (hresolved ▸ List.mem_cons_self)).1
    cases parts <;> simp [join, hpart]

theorem join_resolved_ne_here (absolute : Bool) (p : List Char) :
    join ['/'] (resolved absolute (components p)) ≠ ['.'] := by
  intro heq
  have hnil : resolved absolute (components p) ≠ [] := by
    rw [Ne, ← join_resolved_eq_nil_iff, heq]
    exact List.cons_ne_nil _ _
  have hcomponents := splitOn_join hnil fun part hpart => slash_not_mem_of_mem_resolved hpart
  rw [heq] at hcomponents
  have hmem : ['.'] ∈ resolved absolute (components p) := by
    rw [← hcomponents]
    decide
  exact (ne_of_mem_resolved hmem).2 rfl

theorem getLast?_resolved_ne (absolute : Bool) (p : List Char) :
    (join ['/'] (resolved absolute (components p))).getLast? ≠ some '/' := by
  by_cases hnil : resolved absolute (components p) = []
  · rw [hnil]
    exact nofun
  · exact getLast?_join_ne hnil (fun hmem => (ne_of_mem_resolved hmem).1 rfl)
      fun c hc => slash_not_mem_of_mem_resolved hc

/-! ## Forms of relative paths -/

theorem leadingSlashes_eq_zero_iff : leadingSlashes p = 0 ↔ ¬IsAbsolute p := by
  cases p with
  | nil => simp [leadingSlashes, IsAbsolute]
  | cons c p =>
    unfold leadingSlashes IsAbsolute
    split
    · simp_all
    · simp_all
    · simp_all
    · rename_i hnot
      simpa using fun heq : c = '/' => hnot p (heq ▸ rfl)

/-- The normal form of a relative path: what is left of it, or `'.'`. -/
theorem normalize_of_relative (h : ¬IsAbsolute p) :
    normalize p = if resolved false (components p) = [] then ['.']
      else join ['/'] (resolved false (components p)) := by
  have hslashes := leadingSlashes_eq_zero_iff.2 h
  simp only [normalize, hslashes, List.replicate_zero, List.nil_append, bne_self_eq_false,
    List.isEmpty_iff, join_resolved_eq_nil_iff]

/-- The form of a relative path is what is left of it. -/
theorem form_of_relative (h : ¬IsAbsolute p) :
    form p = join ['/'] (resolved false (components p)) := by
  cases p with
  | nil => rfl
  | cons c p =>
    simp only [form, List.isEmpty_cons, Bool.false_eq_true, if_false, normalize_of_relative h]
    by_cases hnil : resolved false (components (c :: p)) = []
    · rw [if_pos hnil, hnil]
      rfl
    · rw [if_neg hnil, if_neg (mt beq_iff_eq.1 (join_resolved_ne_here false _))]
      refine dropTrailing_of_getLast? fun d hd => beq_eq_false_iff_ne.2 ?_
      rintro rfl
      exact getLast?_resolved_ne false (c :: p) hd

/-- A path that begins with `'./'` and then goes on from the top. -/
def HereSlash (p : List Char) : Prop := ['.', '/', '/'] <+: p

instance (p : List Char) : Decidable (HereSlash p) := inferInstanceAs (Decidable (_ <+: _))

theorem components_here (rest : List Char) :
    components ('.' :: '/' :: rest) = ['.'] :: components rest :=
  splitOn_append_cons (s := ['.']) (by decide) rest

/-- The form of a relative path inside a project is what is left of it. -/
theorem canonical_of_relative (h : ¬IsAbsolute (written path))
    (hslash : ¬HereSlash (written path)) :
    canonical path = String.ofList (join ['/'] (resolved false (components (written path)))) := by
  by_cases hhere : ∃ rest, written path = '.' :: '/' :: rest
  · obtain ⟨rest, hrest⟩ := hhere
    have hrelative : ¬IsAbsolute rest := by
      intro hhead
      obtain ⟨rest', rfl⟩ := List.head?_eq_some_iff.1 hhead
      exact hslash (hrest ▸ ⟨rest', rfl⟩)
    rw [canonical_of_here hrest, form_of_relative hrelative, hrest, components_here]
    rfl
  · rw [canonical_of_not_here (not_exists.1 hhere), form_of_relative h]

/-- The normal form of a path as it is read. -/
def normalForm (path : String) : String := String.ofList (normalize (written path))

/-- The form of a relative path is its normal form, but for the root. -/
theorem canonical_eq_normalForm (h : ¬IsAbsolute (written path))
    (hslash : ¬HereSlash (written path)) :
    canonical path = if normalForm path = "." then "" else normalForm path := by
  have hhere : String.ofList ['.'] = "." := rfl
  rw [canonical_of_relative h hslash, normalForm, normalize_of_relative h]
  by_cases hnil : resolved false (components (written path)) = []
  · rw [if_pos hnil, if_pos hhere, hnil]
    rfl
  · rw [if_neg hnil, if_neg]
    intro heq
    have hlist := congrArg String.toList heq
    rw [String.toList_ofList] at hlist
    exact join_resolved_ne_here false _ hlist

/-- A path that climbs out leaves the project. -/
theorem leaves_of_climbsOut (h : ¬IsAbsolute (written path)) (hslash : ¬HereSlash (written path))
    (hclimbs : ClimbsOut (written path)) : leaves (canonical path).toList = true := by
  have hup := climbsOut_iff.1 hclimbs
  rw [← Bool.not_eq_false, ← inside_iff, canonical_of_relative h hslash]
  intro hinside
  have hcomponents := splitOn_join (List.ne_nil_of_mem hup)
    fun part hpart => slash_not_mem_of_mem_resolved hpart
  have hnot := hinside.up_not_mem
  rw [String.toList_ofList, components, hcomponents] at hnot
  exact hnot hup

/-- Any other relative path leads to a path of names. -/
theorem inside_of_not_climbsOut (h : ¬IsAbsolute (written path))
    (hslash : ¬HereSlash (written path))
    (hclimbs : ¬ClimbsOut (written path)) : Inside (canonical path) := by
  rw [canonical_of_relative h hslash]
  exact inside_join (mt climbsOut_iff.2 hclimbs)

/-- If the normal form of such a path is plain, it has the same form inside a project. -/
theorem canonical_normalForm (h : ¬IsAbsolute (written path)) (hslash : ¬HereSlash (written path))
    (hclimbs : ¬ClimbsOut (written path)) (hplain : Plain (normalForm path)) :
    canonical (normalForm path) = canonical path := by
  have hinside := inside_of_not_climbsOut h hslash hclimbs
  rw [canonical_eq_normalForm h hslash] at hinside ⊢
  by_cases hhere : normalForm path = "."
  · rw [if_pos hhere, hhere]
    decide
  · rw [if_neg hhere] at hinside ⊢
    by_cases hempty : normalForm path = ""
    · rw [hempty]
      decide
    · exact (canonical_eq_self_iff hinside hempty).2 hplain

/-! ## Forms of absolute paths -/

theorem head?_normalize_of_absolute (h : IsAbsolute p) : (normalize p).head? = some '/' := by
  cases hslashes : leadingSlashes p with
  | zero => exact absurd h (leadingSlashes_eq_zero_iff.1 hslashes)
  | succ n =>
    simp only [normalize, hslashes, List.replicate_succ, List.cons_append, List.isEmpty_cons,
      Bool.false_eq_true, if_false, List.head?_cons]

/-- The form of an absolute path is its normal form, unless nothing is left of the path. -/
theorem form_of_absolute (h : IsAbsolute p) :
    form p = if LeadsToTop p then [] else normalize p := by
  have hne : p ≠ [] := by
    rintro rfl
    cases h
  have hslashes : (leadingSlashes p != 0) = true := by
    rw [bne_iff_ne, Ne, leadingSlashes_eq_zero_iff, not_not]
    exact h
  have hhead := head?_normalize_of_absolute h
  have hhere : normalize p ≠ ['.'] := by
    intro heq
    rw [heq] at hhead
    exact absurd hhead (by decide)
  have hform : form p = dropTrailing (· == '/') (normalize p) := by
    simp only [form, List.isEmpty_iff, hne, if_false, beq_iff_eq, hhere]
  have hnormalize : normalize p =
      List.replicate (leadingSlashes p) '/' ++ join ['/'] (resolved true (components p)) := by
    simp only [normalize, hslashes] at hhere ⊢
    split_ifs at hhere ⊢
    · exact absurd rfl hhere
    · rfl
  rw [hform]
  split_ifs with htop
  · rw [hnormalize, htop]
    simpa [join] using dropTrailing_replicate '/' _
  · refine dropTrailing_of_getLast? fun c hc => beq_eq_false_iff_ne.2 ?_
    rintro rfl
    rw [hnormalize, List.getLast?_append_of_ne_nil _ ?_] at hc
    · exact getLast?_resolved_ne true p hc
    · exact mt (join_resolved_eq_nil_iff true p).1 htop

theorem canonical_of_absolute (h : IsAbsolute (written path)) :
    canonical path = if LeadsToTop (written path) then "" else normalForm path := by
  rw [canonical_of_not_here, form_of_absolute h]
  · split_ifs
    · rfl
    · rfl
  · intro rest hrest
    rw [hrest] at h
    cases h

/-- An absolute path leaves the project, unless it leads to the top. -/
theorem leaves_of_absolute (h : IsAbsolute (written path)) (htop : ¬LeadsToTop (written path)) :
    leaves (canonical path).toList = true := by
  rw [canonical_of_absolute h, if_neg htop, normalForm, String.toList_ofList, leaves,
    head?_normalize_of_absolute h]
  rfl

/-! ## Paths that are taken for absolute ones -/

theorem backslash_not_mem_written (path : String) : '\\' ∉ written path :=
  fun hmem => not_mem_replaceChar (by decide) path.toList (mem_of_mem_trim hmem)

/-- What follows `'./'` at the beginning of a path is read as a path by itself, if it is
absolute. -/
theorem written_rest (h : written path = '.' :: '/' :: '/' :: rest) :
    written (String.ofList ('/' :: rest)) = '/' :: rest := by
  have hbackslash : '\\' ∉ '/' :: rest := by
    have hnot := backslash_not_mem_written path
    rw [h] at hnot
    exact fun hmem => hnot (List.mem_cons_of_mem _ (List.mem_cons_of_mem _ hmem))
  rw [written, String.toList_ofList, replaceChar_of_not_mem hbackslash]
  refine trim_of_not_isBlank (fun c hc => ?_) fun c hc => ?_
  · cases hc
    decide
  · rw [Bool.eq_false_iff]
    intro hblank
    -- a blank at the end would have been trimmed away
    have hlast : (written path).getLast? = some c := by
      rw [h, List.getLast?_cons_cons, List.getLast?_cons_cons]
      exact hc
    have hlt := length_trim_lt_of_getLast? hlast hblank
    rw [written, trim_trim] at hlt
    exact absurd hlt (Nat.lt_irrefl _)

/-- A path that begins with `'.//'` is taken for the absolute path behind the `'./'`. -/
theorem canonical_of_hereSlash (h : written path = '.' :: '/' :: '/' :: rest) :
    canonical path = canonical (String.ofList ('/' :: rest)) := by
  rw [canonical_of_here h, canonical_of_not_here, written_rest h]
  intro rest' heq
  rw [written_rest h] at heq
  cases heq

end Path

end DocAudit
