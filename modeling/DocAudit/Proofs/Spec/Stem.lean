import DocAudit.Proofs.Spec.Name
import Mathlib.Logic.Function.Iterate

/-!
# Stems

The stem of a path is its name without the ending of a specification. All specifications of a
subject have the same stem, whatever their kinds, formats and directories are. A stem may end like a
specification itself, though, and then its own stem is another one (`stemOutcome`): only when no
ending is left it stays the same.
-/

namespace DocAudit.Spec

variable {path lead stem : String}

/-! ## One stem -/

theorem ending_ne_empty (kind : Kind) (format : Format) : ending kind format ≠ "" := by
  cases format <;> cases kind <;> decide

theorem stemOf_of_not_hasEnding (h : hasEnding path = false) : stemOf path = Path.nameOf path := by
  rw [hasEnding, Option.isSome_eq_false_iff, Option.isNone_iff_eq_none] at h
  rw [stemOf, h, Option.elim_none]

theorem exists_ending_of_hasEnding (h : hasEnding path = true) :
    stemOf path ≠ "" ∧ ∃ kind format,
      Path.nameOf path = stemOf path ++ ending kind format := by
  obtain ⟨⟨stem, format, kind⟩, hsplit⟩ := Option.isSome_iff_exists.1 h
  obtain ⟨hstem, -, hname⟩ := splitName_eq_some_iff.1 hsplit
  have heq : stemOf path = stem := by rw [stemOf, hsplit, Option.elim_some]
  rw [heq]
  exact ⟨hstem, kind, format, hname⟩

theorem stemOf_append (hlead : Path.IsLead lead.toList) (hstem : stem ≠ "")
    (hslash : '/' ∉ stem.toList)
    (kind : Kind) (format : Format) : stemOf (lead ++ (stem ++ ending kind format)) = stem := by
  have hname : '/' ∉ (stem ++ ending kind format).toList := by
    rw [String.toList_append, List.mem_append, not_or]
    exact ⟨hslash, slash_not_mem_ending kind format⟩
  obtain ⟨told, htold, hending⟩ : ∃ told : Kind, told ≠ .brd ∧
      ending kind format = ending told format := by
    by_cases hkind : kind = .brd
    · exact ⟨.featureRequest, by decide, hkind ▸ rfl⟩
    · exact ⟨kind, hkind, rfl⟩
  have hsplit : splitName (stem ++ ending kind format) = some (stem, format, told) :=
    splitName_eq_some_iff.2 ⟨hstem, htold, by rw [hending]⟩
  rw [stemOf, Path.nameOf_append hlead hname, hsplit, Option.elim_some]

/-! ## Stems of stems -/

theorem slash_not_mem_stemOf (path : String) : '/' ∉ (stemOf path).toList := by
  have hslash := Path.slash_not_mem_nameOf path
  cases h : hasEnding path with
  | false => rwa [stemOf_of_not_hasEnding h]
  | true =>
    obtain ⟨-, kind, format, hname⟩ := exists_ending_of_hasEnding h
    rw [hname, String.toList_append, List.mem_append, not_or] at hslash
    exact hslash.1

theorem nameOf_stemOf (path : String) : Path.nameOf (stemOf path) = stemOf path := by
  have h : Path.nameOf ("" ++ stemOf path) = stemOf path :=
    Path.nameOf_append (.inl rfl) (slash_not_mem_stemOf path)
  rwa [String.empty_append] at h

theorem length_stemOf_lt (h : hasEnding (stemOf path) = true) :
    (stemOf (stemOf path)).length < (stemOf path).length := by
  obtain ⟨-, kind, format, hname⟩ := exists_ending_of_hasEnding h
  rw [nameOf_stemOf] at hname
  have hpos : (ending kind format).length ≠ 0 := by simpa using ending_ne_empty kind format
  have hlength := congrArg String.length hname
  rw [String.length_append] at hlength
  omega

/-- A stem is its own stem exactly if it has no ending. -/
theorem stemOf_stemOf_eq_iff :
    stemOf (stemOf path) = stemOf path ↔ hasEnding (stemOf path) = false := by
  cases h : hasEnding (stemOf path) with
  | false => exact iff_of_true ((stemOf_of_not_hasEnding h).trans (nameOf_stemOf path)) rfl
  | true =>
    refine iff_of_false (fun heq => ?_) (by decide)
    have hlt := length_stemOf_lt h
    rw [heq] at hlt
    exact Nat.lt_irrefl _ hlt

/-- Each stem is shorter than the one before as long as there is an ending, so in the end there is
none. -/
theorem exists_not_hasEnding_iterate (path : String) :
    ∃ n, hasEnding (stemOf^[n + 1] path) = false := by
  induction hlength : (stemOf path).length using Nat.strong_induction_on generalizing path with
  | _ length ih =>
    cases h : hasEnding (stemOf path) with
    | false => exact ⟨0, h⟩
    | true =>
      obtain ⟨n, hn⟩ := ih _ (hlength ▸ length_stemOf_lt h) (stemOf path) rfl
      exact ⟨n + 1, hn⟩

/-! ## What stems are -/

/-- What the stem of a path is, and which paths have the path as their stem. -/
structure StemOutcome (path : String) : Prop where
  /-- The name of the path is its stem if it has no ending, else it goes on with that behind the
  stem. -/
  name : if hasEnding path
    then stemOf path ≠ "" ∧ ∃ kind format,
      Path.nameOf path = stemOf path ++ ending kind format
    else Path.nameOf path = stemOf path
  /-- The specifications of a subject have one stem. -/
  shared : path ≠ "" → '/' ∉ path.toList → ∀ lead kind format, Path.IsLead lead.toList →
    stemOf (lead ++ (path ++ ending kind format)) = path
  /-- The stem is its own stem exactly if it has no ending. -/
  idempotent : stemOf (stemOf path) = stemOf path ↔ hasEnding (stemOf path) = false
  /-- The stem of the stem, and so on, comes to one that is its own. -/
  settles : ∃ n, stemOf^[n + 2] path = stemOf^[n + 1] path

/-- What becomes of every path. -/
theorem stemOutcome (path : String) : StemOutcome path where
  name := by
    split_ifs with h
    · exact exists_ending_of_hasEnding h
    · exact (stemOf_of_not_hasEnding (Bool.eq_false_iff.2 h)).symm
  shared hne hslash lead kind format hlead := stemOf_append hlead hne hslash kind format
  idempotent := stemOf_stemOf_eq_iff
  settles := by
    obtain ⟨n, hn⟩ := exists_not_hasEnding_iterate path
    refine ⟨n, ?_⟩
    rw [Function.iterate_succ_apply'] at hn
    rw [Function.iterate_succ_apply', Function.iterate_succ_apply']
    exact stemOf_stemOf_eq_iff.2 hn

/-- The stem of an architecture may be the name of a requirement. -/
theorem stemOf_stemOf_nested :
    stemOf "login.spec.arch" = "login.spec" ∧ stemOf "login.spec" = "login" := by
  decide

end DocAudit.Spec
