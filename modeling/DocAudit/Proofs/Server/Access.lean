import DocAudit.Proofs.Text.Letter
import DocAudit.Server.Access

/-!
# Who is let through

A request bears credentials if its first header for authorization has the right scheme, in any
letter case, a space and something behind it (`Server.credentials?_eq_some_iff`); its query gives a
token if this is the last value of the parameter (`Server.parameter?_eq_some_iff`). A server with a
token lets a request through that asks whether it is well, that bears the token, or that bears
nothing and whose query gives the token (`Server.accessOutcome`); so the query is not looked at
where other credentials are borne (`Server.guard_of_disagreement`).
-/

namespace DocAudit.Server

open Text

variable {token name value credentials : String} {inner : Request → Response} {r : Request}

/-! ## What a request carries -/

/-- The first value of a header. -/
def Request.HasHeader (r : Request) (name value : String) : Prop :=
  ∃ before after, r.headers = before ++ (name, value) :: after ∧ ∀ header ∈ before,
    header.1 ≠ name

/-- The last value of a parameter of the query. -/
def Request.HasParameter (r : Request) (name value : String) : Prop :=
  ∃ before after, parameters r.query.toList = before ++ (name.toList, value.toList) :: after ∧
    ∀ parameter ∈ after, parameter.1 ≠ name.toList

/-- The value of a header for authorization with credentials: the scheme in any letter case, a space
and the credentials, with any blanks around them. -/
def IsBearer (value credentials : String) : Prop :=
  ∃ scheme rest, value.toList = scheme ++ ' ' :: rest ∧
    List.Forall₂ IsCaseOf scheme "bearer".toList ∧ rest ≠ [] ∧
    credentials = String.ofList (trim rest)

/-- A request with such a header. -/
def Request.Bears (r : Request) (credentials : String) : Prop :=
  ∃ value, r.HasHeader "authorization" value ∧ IsBearer value credentials

theorem header?_eq_some_iff : r.header? name = some value ↔ r.HasHeader name value := by
  simp only [Request.header?, List.lookup_eq_some_iff, Request.HasHeader, bne_iff_ne, ne_comm]

theorem parameter?_eq_some_iff : r.parameter? name = some value ↔ r.HasParameter name value := by
  have hvalue : ∀ cs, String.ofList cs = value ↔ cs = value.toList := fun cs =>
    ⟨fun h => by rw [← h, String.toList_ofList], fun h => by rw [h, String.ofList_toList]⟩
  simp only [Request.parameter?, Option.map_eq_some_iff, hvalue, exists_eq_right,
    List.lookup_eq_some_iff, Request.HasParameter, bne_iff_ne]
  constructor
  · rintro ⟨after, before, hreverse, hafter⟩
    refine ⟨before.reverse, after.reverse, ?_, fun parameter hmem => ?_⟩
    · rw [← List.reverse_reverse (parameters r.query.toList), hreverse]
      simp
    · exact (hafter parameter (List.mem_reverse.1 hmem)).symm
  · rintro ⟨before, after, heq, hafter⟩
    refine ⟨after.reverse, before.reverse, ?_, fun parameter hmem => ?_⟩
    · rw [heq]
      simp
    · exact (hafter parameter (List.mem_reverse.1 hmem)).symm

/-- The scheme holds no space, so the value is cut behind it. -/
theorem isBearer_iff : IsBearer value credentials ↔ ∃ scheme c rest,
    cutAt ' ' value.toList = some (scheme, c :: rest) ∧ lower scheme = "bearer".toList ∧
      credentials = String.ofList (trim (c :: rest)) := by
  have hbearer : ∀ l ∈ "bearer".toList, l ∈ plainLetters :=
    List.all_iff_forall_prop.1 (by decide)
  have hspace : ∀ l ∈ plainLetters, ¬IsCaseOf ' ' l := List.all_iff_forall_prop.1 (by decide)
  constructor
  · rintro ⟨scheme, rest, hvalue, hscheme, hrest, rfl⟩
    obtain ⟨c, rest, rfl⟩ := List.exists_cons_of_ne_nil hrest
    refine ⟨scheme, c, rest, ?_, (lower_eq_iff hbearer).2 hscheme, rfl⟩
    rw [hvalue]
    refine cutAt_append_cons (fun hmem => ?_) _
    obtain ⟨l, hl, hcase⟩ := exists_of_forall₂ hscheme.flip hmem
    exact hspace l (hbearer l hl) hcase
  · rintro ⟨scheme, c, rest, hcut, hscheme, rfl⟩
    exact ⟨scheme, c :: rest, (eq_append_of_cutAt hcut).1, (lower_eq_iff hbearer).1 hscheme,
      List.cons_ne_nil c rest, rfl⟩

/-- The credentials of a request are those that it bears. -/
theorem credentials?_eq_some_iff : r.credentials? = some credentials ↔ r.Bears credentials := by
  simp only [Request.Bears, ← header?_eq_some_iff, isBearer_iff, Request.credentials?]
  cases hheader : r.header? "authorization" with
  | none => simp [cutAt]
  | some value =>
    simp only [Option.getD_some, Option.some.injEq, exists_eq_left']
    split
    · rename_i scheme c rest hcut
      simp only [hcut, Option.some.injEq, Prod.mk.injEq, List.cons.injEq]
      split_ifs with hscheme
      · have hlower := beq_iff_eq.1 hscheme
        constructor
        · intro heq
          exact ⟨scheme, c, rest, ⟨rfl, rfl, rfl⟩, hlower, (Option.some.inj heq).symm⟩
        · rintro ⟨_, _, _, ⟨rfl, rfl, rfl⟩, -, rfl⟩
          rfl
      · simp only [false_iff]
        rintro ⟨_, _, _, ⟨rfl, rfl, rfl⟩, hlower, -⟩
        exact hscheme (beq_iff_eq.2 hlower)
    · rename_i hnot
      simp only [reduceCtorEq, false_iff]
      rintro ⟨scheme, c, rest, hcut, -⟩
      exact hnot scheme c rest hcut

/-! ## Who is let through -/

/-- A request that a server with the given token lets through. -/
def Admissible (token : String) (r : Request) : Prop :=
  token = "" ∨ r.place = healthPath ∨ r.Bears token ∨
    (∀ credentials, ¬r.Bears credentials) ∧ r.HasParameter "token" token

theorem token_eq_iff (h : token ≠ "") : r.token = token ↔
    r.Bears token ∨ (∀ credentials, ¬r.Bears credentials) ∧
    r.HasParameter "token" token := by
  simp only [← credentials?_eq_some_iff, ← parameter?_eq_some_iff, Request.token]
  cases r.credentials? with
  | some credentials => simp
  | none =>
    cases r.parameter? "token" with
    | some value => simp
    | none => simpa using h.symm

theorem admits_iff : admits token r = true ↔ Admissible token r := by
  rw [admits, Bool.or_eq_true, Bool.or_eq_true, String.isEmpty_iff, beq_iff_eq, beq_iff_eq,
    or_assoc, Admissible]
  by_cases hempty : token = ""
  · simp only [hempty, true_or]
  · rw [token_eq_iff hempty]

/-- What becomes of a request in front of what would answer it. -/
structure AccessOutcome (token : String) (inner : Request → Response) (r : Request) : Prop where
  admitted : Admissible token r → guard token inner r = inner r
  refused : ¬Admissible token r → guard token inner r = refusal
  /-- Where the header and the query do not disagree, the token may stand in either. -/
  agreeing : (∀ credentials, r.Bears credentials → r.HasParameter "token" token →
    credentials = token) → (Admissible token r ↔
      token = "" ∨ r.place = healthPath ∨ r.Bears token ∨ r.HasParameter "token" token)

/-- A request is let through exactly if the server has no token, if it asks whether the server is
well, if it bears the token, or if it bears nothing and its query gives the token; any other one is
refused. -/
theorem accessOutcome (token : String) (inner : Request → Response) (r : Request) :
    AccessOutcome token inner r where
  admitted h := by rw [guard, if_pos (admits_iff.2 h)]
  refused h := by rw [guard, if_neg (mt admits_iff.1 h)]
  agreeing h := by
    refine or_congr_right (or_congr_right ⟨?_, ?_⟩)
    · exact Or.imp_right And.right
    · rintro (hbears | hquery)
      · exact .inl hbears
      · by_cases hnone : ∀ credentials, ¬r.Bears credentials
        · exact .inr ⟨hnone, hquery⟩
        · push Not at hnone
          obtain ⟨credentials, hbears⟩ := hnone
          exact .inl (h credentials hbears hquery ▸ hbears)

/-- A request whose query gives the token and whose header has something else. -/
def disagreeing (value : String) : Request := ⟨"/mcp", "token=s3", [("authorization", value)]⟩

/-- What stands behind the guard. -/
def unguarded (_ : Request) : Response := ⟨200, none, "inner"⟩

theorem hasParameter_disagreeing (value : String) :
    (disagreeing value).HasParameter "token" "s3" := by
  have hquery : parameters "token=s3".toList = [("token".toList, "s3".toList)] := by decide +kernel
  exact ⟨[], [], hquery, by simp⟩

/-- A request whose query gives the token is refused for the other credentials that it bears, even
if they are nothing but a blank. -/
theorem guard_of_disagreement :
    ((disagreeing "Bearer wrong").HasParameter "token" "s3" ∧
      guard "s3" unguarded (disagreeing "Bearer wrong") = refusal) ∧
    (disagreeing "Bearer  ").HasParameter "token" "s3" ∧
      guard "s3" unguarded (disagreeing "Bearer  ") = refusal :=
  ⟨⟨hasParameter_disagreeing _, by decide +kernel⟩,
    hasParameter_disagreeing _, by decide +kernel⟩

end DocAudit.Server
