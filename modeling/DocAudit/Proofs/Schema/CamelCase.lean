import DocAudit.Proofs.Yaml.Mapping

/-!
# Keys in camel case

Some fields have two names, one in snake case and one in camel case. Every value has a form in which
all such names are in camel case, however deep they stand (`Value.camelCase`). A field that stands
under one of its names at most is found there (`Reader.findsSame_of_single`), so readers that look
it up under both names read the same (`Reader.readsSame_optional`): the same result, or equally many
issues.
-/

namespace DocAudit

/-! ## Checks with as many issues -/

namespace Checked

variable {α β : Type}

/-- Two checks have the same result, or equally many issues. -/
inductive Alike : Checked α → Checked α → Prop
  | ok (a : α) : Alike (ok a) (ok a)
  | bad {is js : List Issue} (h : is.length = js.length) : Alike (bad is) (bad js)

/-- The result of a check, or how many issues it has. -/
def tally : Checked α → Except Nat α
  | ok a => .ok a
  | bad is => .error is.length

namespace Alike

variable {x y : Checked α}

theorem refl (x : Checked α) : Alike x x := by
  cases x with
  | ok a => exact .ok a
  | bad is => exact .bad rfl

theorem map (h : Alike x y) (f : α → β) : Alike (f <$> x) (f <$> y) := by
  cases h with
  | ok a => exact .refl _
  | bad h => exact .bad h

theorem both {x' y' : Checked β} (h : Alike x y) (h' : Alike x' y') :
    Alike (x.both x') (y.both y') := by
  cases h with
  | ok a =>
    cases h' with
    | ok b => exact .refl _
    | bad h' => exact .bad h'
  | bad h =>
    cases h' with
    | ok b => exact .bad h
    | bad h' => exact .bad (by rw [List.length_append, List.length_append, h, h'])

theorem seq {f g : Checked (α → β)} (hf : Alike f g) (h : Alike x y) :
    Alike (f <*> x) (g <*> y) :=
  (hf.both h).map _

theorem under (h : Alike x y) (step step' : String) : Alike (x.under step) (y.under step') := by
  cases h with
  | ok a => exact .ok a
  | bad h => exact .bad (by rw [List.length_map, List.length_map, h])

theorem all {xs ys : List (Checked α)} (h : List.Forall₂ Alike xs ys) :
    Alike (Checked.all xs) (Checked.all ys) := by
  induction h with
  | nil => exact .refl _
  | cons hx _ ih => exact (hx.both ih).map _

theorem tally_eq (h : Alike x y) : x.tally = y.tally := by
  cases h with
  | ok a => rfl
  | bad h => rw [tally, tally, h]

end Alike

end Checked

/-! ## Names of fields -/

/-- A field with its two names. -/
structure FieldName where
  snake : String
  camel : String
  deriving DecidableEq

namespace FieldName

def schemaVersion : FieldName := ⟨"schema_version", "schemaVersion"⟩
def relatedDocuments : FieldName := ⟨"related_documents", "relatedDocuments"⟩
def specCount : FieldName := ⟨"spec_count", "specCount"⟩
def tracesTo : FieldName := ⟨"traces_to", "tracesTo"⟩
def testCases : FieldName := ⟨"test_cases", "testCases"⟩

/-- The fields that have two names. -/
def all : List FieldName := [schemaVersion, relatedDocuments, specCount, tracesTo, testCases]

/-- The name of a field in camel case; another name is kept. -/
def camelOf (name : String) : String :=
  ((all.find? fun p => p.snake == name).map camel).getD name

/-- Neither name of a field. -/
def IsPlain (name : String) : Prop := ∀ p ∈ all, p.snake ≠ name ∧ p.camel ≠ name

instance (name : String) : Decidable (IsPlain name) :=
  inferInstanceAs (Decidable (∀ p ∈ all, p.snake ≠ name ∧ p.camel ≠ name))

theorem camelOf_names : ∀ p ∈ all, camelOf p.snake = p.camel ∧ camelOf p.camel = p.camel := by
  decide

theorem eq_of_camel_eq : ∀ p ∈ all, ∀ q ∈ all, p.camel = q.camel → p = q := by
  decide

theorem snake_ne_camel : ∀ p ∈ all, ∀ q ∈ all, p.camel ≠ q.snake := by
  decide

variable {p : FieldName} {name s : String}

/-- A name is the name of a field in snake case, or it is kept. -/
theorem camelOf_cases (s : String) : (∃ q ∈ all, s = q.snake ∧ camelOf s = q.camel) ∨
    (∀ q ∈ all, s ≠ q.snake) ∧ camelOf s = s := by
  unfold camelOf
  cases hfind : all.find? fun p => p.snake == s with
  | some q =>
    have hs : q.snake = s := by simpa using List.find?_some hfind
    exact .inl ⟨q, List.mem_of_find?_eq_some hfind, hs.symm, rfl⟩
  | none =>
    refine .inr ⟨fun q hq heq => ?_, rfl⟩
    exact List.find?_eq_none.1 hfind q hq (beq_iff_eq.2 heq.symm)

theorem camelOf_eq_camel_iff (hp : p ∈ all) :
    camelOf s = p.camel ↔ s = p.snake ∨ s = p.camel := by
  constructor
  · intro h
    rcases camelOf_cases s with ⟨q, hq, hs, heq⟩ | ⟨-, heq⟩
    · rw [← eq_of_camel_eq q hq p hp (heq.symm.trans h)]
      exact .inl hs
    · exact .inr (heq.symm.trans h)
  · rintro (rfl | rfl)
    · exact (camelOf_names p hp).1
    · exact (camelOf_names p hp).2

theorem camelOf_ne_snake (hp : p ∈ all) (s : String) : camelOf s ≠ p.snake := by
  rcases camelOf_cases s with ⟨q, hq, -, heq⟩ | ⟨hs, heq⟩
  · rw [heq]
    exact snake_ne_camel q hq p hp
  · rw [heq]
    exact hs p hp

theorem camelOf_eq_iff_of_isPlain (h : IsPlain name) : camelOf s = name ↔ s = name := by
  rcases camelOf_cases s with ⟨q, hq, rfl, heq⟩ | ⟨-, heq⟩
  · rw [heq]
    exact iff_of_false (h q hq).2 (h q hq).1
  · rw [heq]

end FieldName

/-! ## Values in camel case -/

namespace Value

open FieldName (camelOf)

/-- A key in camel case. -/
def camelKey : Value → Value
  | str s => str (camelOf s)
  | k => k

mutual

/-- A value with the keys of all mappings in it in camel case. -/
def camelCase : Value → Value
  | list items => list (camelCaseAll items)
  | pair a b => pair (camelCase a) (camelCase b)
  | dict entries => dict (camelCaseEntries entries)
  | set members => set (camelCaseAll members)
  | v => v

/-- The same of the items of a list. -/
def camelCaseAll : List Value → List Value
  | [] => []
  | v :: vs => camelCase v :: camelCaseAll vs

/-- The same of the entries of a mapping. -/
def camelCaseEntries : List (Value × Value) → List (Value × Value)
  | [] => []
  | (k, v) :: rest => (camelKey k, camelCase v) :: camelCaseEntries rest

end

variable {k v w : Value} {e d d' : Entries} {name s : String} {p : FieldName}

theorem camelCaseAll_eq_map (vs : List Value) : camelCaseAll vs = vs.map camelCase := by
  induction vs with
  | nil => rfl
  | cons v vs ih => rw [camelCaseAll, ih, List.map_cons]

theorem camelCaseEntries_eq_map (e : Entries) :
    camelCaseEntries e = e.map fun x => (camelKey x.1, camelCase x.2) := by
  induction e with
  | nil => rfl
  | cons x e ih => rw [camelCaseEntries, ih, List.map_cons]

theorem camelKey_eq_str_iff : camelKey k = .str s ↔ ∃ t, k = .str t ∧ camelOf t = s := by
  cases k <;> simp [camelKey]

theorem camelCase_eq_str_iff : camelCase v = .str s ↔ v = .str s := by
  cases v <;> simp [camelCase]

theorem camelCase_eq_null_iff : camelCase v = .null ↔ v = .null := by
  cases v <;> simp [camelCase]

theorem camelCase_eq_dict_iff :
    camelCase v = .dict d ↔ ∃ e, v = .dict e ∧ camelCaseEntries e = d := by
  cases v <;> simp [camelCase]

theorem string?_camelCase (v : Value) : v.camelCase.string? = v.string? := by
  cases v <;> rfl

theorem items?_camelCase (v : Value) :
    Reader.items? v.camelCase = (Reader.items? v).map fun vs => vs.map camelCase := by
  cases v <;> simp [camelCase, Reader.items?, camelCaseAll_eq_map]

theorem faultWithin_camelKey (k : Value) (room : Nat) :
    k.camelKey.faultWithin room = k.faultWithin room := by
  cases k <;> cases room <;> rfl

mutual

theorem faultWithin_camelCase (v : Value) (room : Nat) :
    v.camelCase.faultWithin room = v.faultWithin room := by
  cases room with
  | zero => simp only [faultWithin]
  | succ room =>
    cases v with
    | list items => exact faultAmong_camelCaseAll items room
    | set members => exact faultAmong_camelCaseAll members room
    | pair a b =>
      rw [camelCase, faultWithin, faultWithin_camelCase a, faultWithin_camelCase b, faultWithin]
    | dict entries => exact faultAmongEntries_camelCaseEntries entries room
    | _ => rfl

theorem faultAmong_camelCaseAll (vs : List Value) (room : Nat) :
    faultAmong (camelCaseAll vs) room = faultAmong vs room := by
  cases vs with
  | nil => rfl
  | cons v vs =>
    rw [camelCaseAll, faultAmong, faultWithin_camelCase v, faultAmong_camelCaseAll vs, faultAmong]

theorem faultAmongEntries_camelCaseEntries (e : List (Value × Value)) (room : Nat) :
    faultAmongEntries (camelCaseEntries e) room = faultAmongEntries e room := by
  cases e with
  | nil => rfl
  | cons x e =>
    rw [camelCaseEntries, faultAmongEntries, faultWithin_camelKey, faultWithin_camelCase x.2,
      faultAmongEntries_camelCaseEntries e, faultAmongEntries]

end

theorem textFault?_camelCase (v : Value) : v.camelCase.textFault? = v.textFault? :=
  faultWithin_camelCase v _

end Value

/-! ## Fields under their names -/

/-- No two entries have the key. -/
def Single (name : String) (e : Entries) : Prop :=
  e.Pairwise fun a b => ¬(a.1 = .str name ∧ b.1 = .str name)

/-- A field does not stand under both of its names. -/
def FieldName.Once (p : FieldName) (e : Entries) : Prop :=
  Value.lookup p.snake e = none ∨ Value.lookup p.camel e = none

namespace Reader

open Value FieldName

variable {α : Type} {r : Reader α} {e : Entries} {keys : List String} {name : String}
    {p : FieldName}
  {v : Value}

theorem lookup_camelCaseEntries_of_isPlain (h : IsPlain name) (e : Entries) :
    lookup name (camelCaseEntries e) = (lookup name e).map camelCase := by
  induction e with
  | nil => rfl
  | cons x e ih =>
    obtain ⟨k, v⟩ := x
    have hkey : (camelKey k).sameKey (.str name) = k.sameKey (.str name) := by
      rw [Bool.eq_iff_iff, sameKey_str_iff, sameKey_str_iff, camelKey_eq_str_iff]
      simp [camelOf_eq_iff_of_isPlain h]
    rw [camelCaseEntries, lookup, lookup, hkey, ih]
    split_ifs <;> rfl

/-- What is found under some names is found under them too when the keys are in camel case. -/
def FindsSame (keys : List String) (e : Entries) : Prop :=
  (find? keys (camelCaseEntries e)).map Prod.snd = (find? keys e).map fun x => camelCase x.2

theorem findsSame_of_isPlain (h : ∀ name ∈ keys, IsPlain name) (e : Entries) :
    FindsSame keys e := by
  unfold FindsSame find?
  induction keys with
  | nil => rfl
  | cons name keys ih =>
    obtain ⟨hname, hkeys⟩ := List.forall_mem_cons.1 h
    rw [List.findSome?_cons, List.findSome?_cons, lookup_camelCaseEntries_of_isPlain hname]
    cases lookup name e with
    | some v => rfl
    | none => exact ih hkeys

theorem lookup_snake_camelCaseEntries (hp : p ∈ FieldName.all) (e : Entries) :
    lookup p.snake (camelCaseEntries e) = none := by
  rw [lookup_eq_none_iff, camelCaseEntries_eq_map]
  intro v hv
  obtain ⟨x, -, hx⟩ := List.mem_map.1 hv
  obtain ⟨t, -, ht⟩ := camelKey_eq_str_iff.1 (Prod.ext_iff.1 hx).1
  exact camelOf_ne_snake hp t ht

/-- A field that has one entry at most is found when the keys are in camel case: by induction on the
entries, of which those after the one of the field have no name of it. -/
theorem findsSame_of_single (hp : p ∈ FieldName.all) (h : Single p.camel (camelCaseEntries e)) :
    FindsSame [p.camel, p.snake] e := by
  have hcamel : FindsSame [p.camel, p.snake] e ↔
      lookup p.camel (camelCaseEntries e) =
        ((lookup p.camel e).or (lookup p.snake e)).map camelCase := by
    unfold FindsSame find?
    simp only [List.findSome?_cons, List.findSome?_nil, lookup_snake_camelCaseEntries hp]
    cases lookup p.camel (camelCaseEntries e) <;> cases lookup p.camel e <;>
      cases lookup p.snake e <;> rfl
  rw [hcamel]
  clear hcamel
  induction e with
  | nil => rfl
  | cons x e ih =>
    obtain ⟨k, v⟩ := x
    have hkey : k = .str p.camel ∨ k = .str p.snake ↔ camelKey k = .str p.camel := by
      rw [camelKey_eq_str_iff]
      cases k <;> simp [camelOf_eq_camel_iff hp, or_comm]
    obtain ⟨hhead, htail⟩ := List.pairwise_cons.1 h
    have ih := ih htail
    rw [camelCaseEntries, lookup, lookup, lookup]
    by_cases hk : camelKey k = .str p.camel
    · -- no later entry has a name of the field
      have hnone : lookup p.camel (camelCaseEntries e) = none :=
        lookup_eq_none_iff.2 fun w hw => hhead _ hw ⟨hk, rfl⟩
      rw [hnone, eq_comm, Option.map_eq_none_iff, Option.or_eq_none_iff] at ih
      rw [if_pos (sameKey_str_iff.2 hk), ih.1, ih.2]
      rcases hkey.2 hk with rfl | rfl
      · rw [if_pos (sameKey_str_iff.2 rfl)]
        rfl
      · rw [if_pos (sameKey_str_iff.2 rfl)]
        split_ifs <;> rfl
    · have hcamel : k.sameKey (.str p.camel) = false :=
        Bool.eq_false_iff.2 fun h => hk (hkey.1 (.inl (sameKey_str_iff.1 h)))
      have hsnake : k.sameKey (.str p.snake) = false :=
        Bool.eq_false_iff.2 fun h => hk (hkey.1 (.inr (sameKey_str_iff.1 h)))
      rw [if_neg fun h => hk (sameKey_str_iff.1 h), hcamel, hsnake]
      simpa using ih

/-! ## Readers -/

/-- A reader that the spelling of keys makes no difference to. -/
def Blind (r : Reader α) : Prop := ∀ v, (r v).Alike (r v.camelCase)

/-- A mapping is read like the same mapping with its keys in camel case. -/
def ReadsSame (f : Entries → Checked α) (e : Entries) : Prop :=
  (f e).Alike (f (camelCaseEntries e))

theorem blind_string : Blind string := by
  intro v
  cases v <;> exact .refl _

theorem blind_integer : Blind integer := by
  intro v
  cases v <;> exact .refl _

theorem blind_oneOf (meanings : List (String × α)) : Blind (oneOf meanings) := by
  intro v
  unfold oneOf
  rw [string?_camelCase]
  exact .refl _

theorem alike_nullable (h : (r v).Alike (r v.camelCase)) :
    (nullable r v).Alike (nullable r v.camelCase) := by
  cases v with
  | null => exact .refl _
  | _ => exact h.map _

theorem Blind.nullable (h : Blind r) : Blind (nullable r) := fun v => alike_nullable (h v)

theorem alike_readItems {vs : List Value} (h : ∀ v ∈ vs, (r v).Alike (r v.camelCase)) :
    (readItems r vs).Alike (readItems r (vs.map camelCase)) := by
  refine .all ?_
  rw [List.zipIdx_map, List.map_map, List.forall₂_map_left_iff, List.forall₂_map_right_iff,
    List.forall₂_same]
  rintro ⟨v, i⟩ hv
  exact (h v (List.fst_mem_of_mem_zipIdx hv)).under _ _

theorem alike_list (h : ∀ vs, items? v = some vs → ∀ w ∈ vs, (r w).Alike (r w.camelCase)) :
    (list r v).Alike (list r v.camelCase) := by
  unfold list
  rw [items?_camelCase]
  cases hitems : items? v with
  | none => exact .refl _
  | some vs => exact alike_readItems (h vs hitems)

theorem alike_record {what : String} {f : Entries → Checked α}
    (h : ∀ d, v = .dict d → ReadsSame f d) :
    (record what f v).Alike (record what f v.camelCase) := by
  cases v with
  | dict d => exact h d rfl
  | _ => exact .refl _

theorem FindsSame.cases (h : FindsSame keys e) :
    find? keys e = none ∧ find? keys (camelCaseEntries e) = none ∨
      ∃ k k' v, find? keys e = some (k, v) ∧
        find? keys (camelCaseEntries e) = some (k', v.camelCase) := by
  unfold FindsSame at h
  cases hfound : find? keys e with
  | none =>
    rw [hfound, Option.map_none, Option.map_eq_none_iff] at h
    exact .inl ⟨rfl, h⟩
  | some x =>
    rw [hfound, Option.map_some, Option.map_eq_some_iff] at h
    obtain ⟨⟨k', w⟩, hfound', rfl⟩ := h
    exact .inr ⟨x.1, k', x.2, rfl, hfound'⟩

theorem readsSame_required (hfind : FindsSame keys e) (hr : Blind r) :
    ReadsSame (required keys r) e := by
  unfold ReadsSame required
  rcases hfind.cases with ⟨h, h'⟩ | ⟨k, k', v, h, h'⟩
  · rw [h, h']
    exact .refl _
  · rw [h, h']
    exact (hr v).under k k'

theorem readsSame_optional {default : α} (hfind : FindsSame keys e)
    (hr : ∀ k v, find? keys e = some (k, v) → (r v).Alike (r v.camelCase)) :
    ReadsSame (optional keys default r) e := by
  unfold ReadsSame optional
  rcases hfind.cases with ⟨h, h'⟩ | ⟨k, k', v, h, h'⟩
  · rw [h, h']
    exact .refl _
  · rw [h, h']
    exact (hr k v h).under k k'

end Reader

end DocAudit
