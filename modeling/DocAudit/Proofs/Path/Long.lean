import DocAudit.Proofs.Path.Plain
import DocAudit.Proofs.Tree

/-!
# Long paths

A file below many directories has a path that is longer than the file system allows, although none
of the names on it is: a path has as many bytes as its names and the slashes between them
(`utf8ByteSize_joinWith`).
-/

namespace DocAudit

open Text

variable {names : List String} {c : Char}

/-! ## Bytes of paths -/

/-- The number of bytes of some names, with a slash behind each of them. -/
def bytesOf : List String → Nat
  | [] => 0
  | name :: names => name.utf8ByteSize + 1 + bytesOf names

theorem bytesOf_append (names names' : List String) :
    bytesOf (names ++ names') = bytesOf names + bytesOf names' := by
  induction names with
  | nil => exact (Nat.zero_add _).symm
  | cons name names ih =>
    rw [List.cons_append, bytesOf, bytesOf, ih]
    omega

theorem bytesOf_replicate (name : String) (n : Nat) :
    bytesOf (List.replicate n name) = n * (name.utf8ByteSize + 1) := by
  induction n with
  | zero => exact (Nat.zero_mul _).symm
  | succ n ih =>
    rw [List.replicate_succ, bytesOf, ih, Nat.succ_mul]
    omega

theorem utf8ByteSize_joinWith (hne : names ≠ []) :
    (joinWith "/" names).utf8ByteSize + 1 = bytesOf names := by
  have hslash : "/".utf8ByteSize = 1 := by decide
  induction names with
  | nil => exact absurd rfl hne
  | cons name names ih =>
    by_cases hnil : names = []
    · rw [hnil, joinWith_singleton]
      rfl
    · rw [joinWith_cons _ _ hnil, bytesOf, ← ih hnil, String.utf8ByteSize_append,
        String.utf8ByteSize_append, hslash]
      omega

/-! ## Names of letters -/

/-- A name of small letters. -/
def lettersOf (n : Nat) : String := String.ofList (List.replicate n 'a')

theorem toList_lettersOf (n : Nat) : (lettersOf n).toList = List.replicate n 'a' :=
  String.toList_ofList

theorem utf8ByteSize_lettersOf (n : Nat) : (lettersOf n).utf8ByteSize = n := by
  have hletter : (String.singleton 'a').utf8ByteSize = 1 := by decide
  induction n with
  | zero => rfl
  | succ n ih =>
    rw [lettersOf] at ih ⊢
    rw [List.replicate_succ, String.ofList_cons, String.utf8ByteSize_append, ih, hletter]
    omega

theorem eq_of_mem_lettersOf {n : Nat} (h : c ∈ (lettersOf n).toList) : c = 'a' := by
  rw [toList_lettersOf] at h
  exact List.eq_of_mem_replicate h

theorem isName_lettersOf {n : Nat} (h : 0 < n) : Path.IsName (lettersOf n) := by
  have hne : (lettersOf n).toList ≠ [] := by
    rw [toList_lettersOf, Ne, List.replicate_eq_nil_iff]
    omega
  have hother : ∀ name : String, '.' ∈ name.toList → lettersOf n ≠ name := by
    rintro name hmem rfl
    exact absurd (eq_of_mem_lettersOf hmem) (by decide)
  refine ⟨fun heq => hne (by rw [heq]; rfl), hother _ (by decide), hother _ (by decide),
    fun hmem => ?_⟩
  exact absurd (eq_of_mem_lettersOf hmem) (by decide)

theorem plain_lettersOf (n : Nat) : Path.Plain (lettersOf n) := by
  have hblank : ∀ c ∈ (lettersOf n).toList, isBlank c = false :=
    fun c hc => eq_of_mem_lettersOf hc ▸ by decide
  refine ⟨fun hmem => absurd (eq_of_mem_lettersOf hmem) (by decide), fun c hc => ?_,
    fun c hc => ?_⟩
  · exact hblank c (List.mem_of_head? hc)
  · exact hblank c (List.mem_of_getLast? hc)

theorem isSkipped_lettersOf (n : Nat) : isSkipped (lettersOf n) = false := by
  have hother : ∀ c, c ≠ 'a' → c ∉ (lettersOf n).toList :=
    fun c hc hmem => hc (eq_of_mem_lettersOf hmem)
  rw [isSkipped, Bool.or_eq_false_iff, Bool.eq_false_iff, Bool.eq_false_iff]
  constructor
  · intro hstart
    exact hother '.' (by decide) ((List.isPrefixOf_iff_prefix.1 hstart).subset (by decide))
  · intro hskipped
    -- each of these names has an `e` in it
    refine hother 'e' (by decide) ?_
    have hall : ∀ name ∈ ["target", "node_modules", "__pycache__"],
        'e' ∈ name.toList := by decide
    exact hall _ (List.contains_iff_mem.1 hskipped)

/-! ## Paths of many names -/

/-- A name, and so many names of 200 letters. -/
def deepNames (first : String) (n : Nat) : List String := first :: List.replicate n (lettersOf 200)

theorem deepNames_ne_nil (first : String) (n : Nat) : deepNames first n ≠ [] :=
  List.cons_ne_nil _ _

theorem forall_mem_deepNames {P : String → Prop} {first : String} (hfirst : P first)
    (hletters : P (lettersOf 200)) (n : Nat) : ∀ name ∈ deepNames first n, P name :=
  List.forall_mem_cons.2 ⟨hfirst, fun _ hname => List.eq_of_mem_replicate hname ▸ hletters⟩

theorem bytesOf_deepNames (first : String) (n : Nat) :
    bytesOf (deepNames first n) = first.utf8ByteSize + 1 + n * 201 := by
  rw [deepNames, bytesOf, bytesOf_replicate, utf8ByteSize_lettersOf]

theorem utf8ByteSize_deepNames {first : String} (h : first.utf8ByteSize ≤ Tree.maxNameBytes)
    (n : Nat) :
    ∀ name ∈ deepNames first n, name.utf8ByteSize ≤ Tree.maxNameBytes :=
  forall_mem_deepNames h (by rw [utf8ByteSize_lettersOf]; decide) n

/-- The names of letters are plain. -/
theorem letters_deepNames : Path.IsName (lettersOf 200) ∧ Path.Plain (lettersOf 200) ∧
    '\x00' ∉ (lettersOf 200).toList :=
  ⟨isName_lettersOf (by decide), plain_lettersOf 200,
    fun hmem => absurd (eq_of_mem_lettersOf hmem) (by decide)⟩

/-! ## Files below many directories -/

namespace Tree

variable {t : Tree}

/-- A tree in a directory, in a directory and so on, under the given names. -/
def nest (names : List String) (t : Tree) : Tree := names.foldr (fun name t => .dir [(name, t)]) t

theorem nest_cons (name : String) (names : List String) (t : Tree) :
    nest (name :: names) t = .dir [(name, nest names t)] := rfl

theorem valid_nest (h : ∀ name ∈ names, Path.IsName name) (ht : t.Valid) :
    (nest names t).Valid := by
  induction names with
  | nil => exact ht
  | cons name names ih =>
    obtain ⟨hname, hnames⟩ := List.forall_mem_cons.1 h
    exact .dir (List.forall_mem_singleton.2 hname) (List.nodup_singleton name)
      (List.forall_mem_singleton.2 (ih hnames))

theorem at?_nest (names more : List String) (t : Tree) :
    (nest names t).at? (names ++ more) = t.at? more := by
  induction names with
  | nil => rfl
  | cons name names ih =>
    rw [nest_cons, List.cons_append, at?, entry?, if_pos (beq_self_eq_true name)]
    exact ih

/-- No directories lie deeper inside one another than those around a tree and those in it. -/
theorem length_le_of_hasDirectory_nest {n : Nat} {more : List String}
    (ht : ∀ more, t.hasDirectory more = true → more.length ≤ n)
    (h : (nest names t).hasDirectory more = true) : more.length ≤ names.length + n := by
  induction names generalizing more with
  | nil => exact (ht more h).trans (Nat.le_add_left _ _)
  | cons name names ih =>
    cases more with
    | nil => exact Nat.zero_le _
    | cons next more =>
      obtain ⟨entries, hentries⟩ := hasDirectory_iff.1 h
      obtain ⟨u, hu, hmore⟩ := Option.bind_eq_some_iff.1 hentries
      obtain heq | hmem := List.mem_cons.1 (Tree.mem_of_entry? hu)
      · cases heq
        have hlength := ih (hasDirectory_iff.2 ⟨entries, hmore⟩)
        rw [List.length_cons, List.length_cons]
        omega
      · cases hmem

/-- Nothing is listed below a skipped directory. -/
theorem visible_nest_of_isSkipped {name : String} (h : isSkipped name = true) (hne : names ≠ [])
    (t : Tree) (enters : String → Bool) (trail : String) :
    (nest (name :: names) t).visible enters trail = [] := by
  obtain ⟨next, rest, rfl⟩ := List.exists_cons_of_ne_nil hne
  rw [nest_cons, nest_cons, visible, visibleAll, visibleEntry, h, Bool.true_or, if_pos rfl]
  rfl

end Tree

end DocAudit
