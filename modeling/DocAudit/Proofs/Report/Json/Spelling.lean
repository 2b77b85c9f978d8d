import DocAudit.Report.Json
import DocAudit.Rule.Document
import Mathlib.Data.List.Basic

/-!
# Texts of JSON

A text spells a value by the grammar of JSON, so far as reports need it: numbers are integers, the
names in a mapping are different ones, and blanks may stand around every value and every name
(`Json.Spells`). The text that is written for a value that JSON has a notation for spells the value
(`Json.spells_render`). What is relied on in a reader is that it reads every such text as the value,
unless too much is nested in it or an integer is too long (`Json.Reads`).
-/

namespace DocAudit.Json

open Text

variable {v : Value} {vs : List Value} {c : Char} {cs s t blanks : List Char} {n level : Nat}

/-! ## The grammar -/

/-- A blank between the parts of JSON. -/
def isSpace (c : Char) : Bool := c == ' ' || c == '\t' || c == '\n' || c == '\r'

/-- A text of blanks alone. -/
def Blank (s : List Char) : Prop := ∀ c ∈ s, isSpace c = true

/-- The character that one behind a backslash stands for. -/
def unescape? : Char → Option Char
  | '"' => some '"'
  | '\\' => some '\\'
  | '/' => some '/'
  | 'b' => some (Char.ofNat 8)
  | 'f' => some (Char.ofNat 12)
  | 'n' => some '\n'
  | 'r' => some '\r'
  | 't' => some '\t'
  | _ => none

/-- The character whose number hexadecimal digits spell, if there is one. -/
def ofHex? (digits : List Char) : Option Char :=
  let n := ofDigits 16 (digits.map hexValue)
  if digits.all isHexDigit && n.isValidChar then some (Char.ofNat n) else none

/-- A text is a character of a string: the character itself, or an escape of it. -/
inductive SpellsChar : Char → List Char → Prop
  | plain {c : Char} (hquote : c ≠ '"') (hbackslash : c ≠ '\\') (hcontrol : ¬c.toNat < 32) :
    SpellsChar c [c]
  | short {c d : Char} (h : unescape? d = some c) : SpellsChar c ['\\', d]
  | number {c d₁ d₂ d₃ d₄ : Char} (h : ofHex? [d₁, d₂, d₃, d₄] = some c) :
    SpellsChar c ['\\', 'u', d₁, d₂, d₃, d₄]

/-- A text between quotation marks spells a string. -/
inductive SpellsString : List Char → List Char → Prop
  | nil : SpellsString [] []
  | cons {c : Char} {cs s t : List Char} (hc : SpellsChar c s) (h : SpellsString cs t) :
    SpellsString (c :: cs) (s ++ t)

/-- A text is the name of an entry, with blanks around it. -/
inductive SpellsName : String → List Char → Prop
  | padded {cs s blanks blanks' : List Char} (hblanks : Blank blanks) (h : SpellsString cs s)
    (hblanks' : Blank blanks') :
    SpellsName (String.ofList cs) (blanks ++ '"' :: (s ++ '"' :: blanks'))

/-- An entry of a mapping with what is written for it. -/
structure SpelledEntry where
  key : String
  name : List Char
  value : Value
  text : List Char

/-- The entry as it is written. -/
def SpelledEntry.whole (e : SpelledEntry) : List Char := e.name ++ ':' :: e.text

/-- A text spells a value in which so many lists and mappings stand inside one another at most. -/
inductive Spells : Nat → Value → List Char → Prop
  | null {n : Nat} : Spells n .null ['n', 'u', 'l', 'l']
  | bool {n : Nat} (b : Bool) :
    Spells n (.bool b) (if b then ['t', 'r', 'u', 'e'] else ['f', 'a', 'l', 's', 'e'])
  | int {n : Nat} (k : Int) : Spells n (.int k) (toString k).toList
  | str {n : Nat} {cs s : List Char} (h : SpellsString cs s) :
    Spells n (.str (String.ofList cs)) ('"' :: (s ++ ['"']))
  | list {n : Nat} {items : List (Value × List Char)} {blanks : List Char}
    (h : ∀ i ∈ items, Spells n i.1 i.2) (hblanks : Blank blanks) :
    Spells (n + 1) (.list (items.map Prod.fst))
      ('[' :: ([','].intercalate (items.map Prod.snd) ++ (blanks ++ [']'])))
  | ofFields {n : Nat} {entries : List SpelledEntry} {blanks : List Char}
    (hnodup : (entries.map SpelledEntry.key).Nodup)
    (hnames : ∀ e ∈ entries, SpellsName e.key e.name)
    (h : ∀ e ∈ entries, Spells n e.value e.text) (hblanks : Blank blanks) :
    Spells (n + 1) (.ofFields (entries.map fun e => (e.key, e.value)))
      ('\x7b' :: ([','].intercalate (entries.map SpelledEntry.whole) ++ (blanks ++ ['\x7d'])))
  | padded {n : Nat} {v : Value} {s blanks blanks' : List Char} (hblanks : Blank blanks)
    (h : Spells n v s) (hblanks' : Blank blanks') : Spells n v (blanks ++ (s ++ blanks'))

/-- How many lists and mappings may stand inside one another in a text that is read. -/
def maxDepth : Nat := 100

/-- What is relied on in a reader: it reads a text as the value that the text spells, unless more
lists and mappings stand inside one another or an integer is too long. -/
def Reads (parse : String → Option Value) : Prop :=
  ∀ {text : String} {v : Value}, Spells maxDepth v text.toList → v.holdsLongInteger = false →
    parse text = some v

/-! ## What is written for a string -/

theorem Blank.append (hs : Blank s) (ht : Blank t) : Blank (s ++ t) :=
  List.forall_mem_append.2 ⟨hs, ht⟩

theorem blank_nil : Blank [] := nofun

theorem blank_space : Blank [' '] := fun _ hc => List.mem_singleton.1 hc ▸ rfl

/-- A line end and the blanks of a level are blanks of JSON. -/
theorem blank_lineEnd (level : Nat) : Blank (lineEnd level).toList := by
  have hspaces : ∀ n, Blank (Nat.repeat (fun s : String => s.push ' ') n "").toList := by
    intro n
    induction n with
    | zero => exact nofun
    | succ n ih =>
      rw [Nat.repeat, String.toList_push]
      exact ih.append blank_space
  have hnewline : Blank "\n".toList := fun c hc => List.mem_singleton.1 hc ▸ rfl
  rw [lineEnd, String.pushn_eq_repeat_push, String.toList_append]
  exact hnewline.append (hspaces _)

/-- Whether a text is an escape of a character. -/
def isEscape (c : Char) : List Char → Bool
  | ['\\', d] => unescape? d == some c
  | ['\\', 'u', d₁, d₂, d₃, d₄] => ofHex? [d₁, d₂, d₃, d₄] == some c
  | _ => false

theorem spellsChar_of_isEscape (h : isEscape c s = true) : SpellsChar c s := by
  unfold isEscape at h
  split at h
  · exact .short (beq_iff_eq.1 h)
  · exact .number (beq_iff_eq.1 h)
  · cases h

/-- A character is written by itself or as an escape. -/
theorem spellsChar_escaped (c : Char) : SpellsChar c (escaped c) := by
  by_cases hc : c.toNat < 128
  · have hall : ∀ n : Fin 128, isEscape (Char.ofNat n) (escaped (Char.ofNat n)) = true ∨
        escaped (Char.ofNat n) = [Char.ofNat n] ∧ Char.ofNat n ≠ '"' ∧
        Char.ofNat n ≠ '\\' ∧ ¬(Char.ofNat n).toNat < 32 := by decide +kernel
    have hcases := hall ⟨c.toNat, hc⟩
    rw [Char.ofNat_toNat] at hcases
    obtain hescape | ⟨hsame, hquote, hbackslash, hcontrol⟩ := hcases
    · exact spellsChar_of_isEscape hescape
    · rw [hsame]
      exact .plain hquote hbackslash hcontrol
  · have hne : ∀ d : Char, d.toNat < 128 → c ≠ d := by
      rintro d hd rfl
      exact hc hd
    have hquote := hne '"' (by decide)
    have hbackslash := hne '\\' (by decide)
    have htab := hne '\t' (by decide)
    have hnewline := hne '\n' (by decide)
    have hreturn := hne '\r' (by decide)
    have hnumber : ¬c.toNat = 8 ∧ ¬c.toNat = 12 ∧ ¬c.toNat < 32 := by omega
    have hsame : escaped c = [c] := by
      simp [escaped, escape?, hquote, hbackslash, htab, hnewline, hreturn, hnumber]
    rw [hsame]
    exact .plain hquote hbackslash hnumber.2.2

theorem spellsString_flatMap (cs : List Char) : SpellsString cs (cs.flatMap escaped) := by
  induction cs with
  | nil => exact .nil
  | cons c cs ih => exact .cons (spellsChar_escaped c) ih

theorem toList_string (text : String) :
    (string text).toList = '"' :: (text.toList.flatMap escaped ++ ['"']) := by
  rw [string, String.toList_ofList, List.cons_append]

theorem spells_string (text : String) : Spells n (.str text) (string text).toList := by
  have hspells : Spells n (.str (String.ofList text.toList))
      ('"' :: (text.toList.flatMap escaped ++ ['"'])) := .str (spellsString_flatMap _)
  rwa [String.ofList_toList, ← toList_string] at hspells

theorem spellsName_string (key : String) (hblanks : Blank blanks) :
    SpellsName key (blanks ++ (string key).toList) := by
  have hspells := SpellsName.padded hblanks (spellsString_flatMap key.toList) blank_nil
  rwa [String.ofList_toList, ← toList_string] at hspells

/-! ## What is written for several values -/

/-- What stands between two items on lines of their own. -/
def separator (level : Nat) : List Char := ',' :: (lineEnd level).toList

theorem toList_spread {opening closing : String} {items : List String} (hne : items ≠ []) :
    (spread opening closing level items).toList = opening.toList ++ ((lineEnd (level + 1)).toList ++
      ((separator (level + 1)).intercalate (items.map String.toList) ++
        ((lineEnd level).toList ++ closing.toList))) := by
  have hcomma : ",".toList = [','] := rfl
  rw [spread, if_neg (by simpa using hne)]
  simp only [String.toList_append, String.toList_intercalate, List.append_assoc, separator, hcomma,
    List.singleton_append]

/-- The blanks behind a comma may be counted to the item that follows. -/
theorem append_intercalate (blanks : List Char) {texts : List (List Char)} (hne : texts ≠ []) :
    blanks ++ (',' :: blanks).intercalate texts = [','].intercalate (texts.map (blanks ++ ·)) := by
  induction texts with
  | nil => exact absurd rfl hne
  | cons text texts ih =>
    cases texts with
    | nil => simp
    | cons next texts =>
      have hnext := ih (List.cons_ne_nil next texts)
      rw [List.map_cons] at hnext
      rw [List.intercalate_cons_cons, List.map_cons, List.map_cons, List.intercalate_cons_cons,
        ← hnext]
      simp only [List.append_assoc, List.cons_append, List.nil_append]

/-- Items on lines of their own are items between commas, each behind its blanks. -/
theorem toList_spread_eq (opening closing : String) (level : Nat) (items : List String) :
    ∃ blanks, Blank blanks ∧ (spread opening closing level items).toList = opening.toList ++
      ([','].intercalate (items.map fun text => (lineEnd (level + 1)).toList ++ text.toList) ++
        (blanks ++ closing.toList)) := by
  by_cases hne : items = []
  · refine ⟨[], blank_nil, ?_⟩
    rw [hne, spread, if_pos List.isEmpty_nil, String.toList_append]
    rfl
  · refine ⟨(lineEnd level).toList, blank_lineEnd level, ?_⟩
    rw [toList_spread hne, separator, ← List.append_assoc (lineEnd (level + 1)).toList,
      append_intercalate _ (by simpa using hne), List.map_map]
    rfl

theorem renderAll_eq_map (level : Nat) (vs : List Value) :
    renderAll level vs = vs.map (render level) := by
  induction vs with
  | nil => rw [renderAll, List.map_nil]
  | cons v vs ih => rw [renderAll, ih, List.map_cons]

/-- A list is written by its items. -/
theorem spells_render_list (h : ∀ v ∈ vs, Spells n v (render (level + 1) v).toList) :
    Spells (n + 1) (.list vs) (render level (.list vs)).toList := by
  obtain ⟨blanks, hblanks, htext⟩ :=
    toList_spread_eq "[" "]" level (renderAll (level + 1) vs)
  have hspells : Spells (n + 1)
      (.list ((vs.map fun v => (v, (lineEnd (level + 1)).toList ++
        (render (level + 1) v).toList)).map Prod.fst)) _ :=
    .list (List.forall_mem_map.2 fun v hv => ?_) hblanks
  · rw [render, htext, renderAll_eq_map]
    simpa [Function.comp_def] using hspells
  · have hpadded := Spells.padded (blank_lineEnd (level + 1)) (h v hv) blank_nil
    rwa [List.append_nil] at hpadded

/-! ## Values that JSON has a notation for -/

/-- The entries of a mapping with names for keys. -/
def fieldEntries (fields : List (String × Value)) : List (Value × Value) :=
  fields.map fun (k, v) => (.str k, v)

/-- The entry that is written for a field. -/
def entryOf (level : Nat) (field : String × Value) : SpelledEntry where
  key := field.1
  name := (lineEnd level).toList ++ (string field.1).toList
  value := field.2
  text := ' ' :: (render level field.2).toList

theorem renderEntries_fieldEntries (level : Nat) (fields : List (String × Value)) :
    (renderEntries level (fieldEntries fields)).map
        (fun text => (lineEnd level).toList ++ text.toList) =
      fields.map fun field => (entryOf level field).whole := by
  induction fields with
  | nil => rw [fieldEntries, List.map_nil, renderEntries, List.map_nil, List.map_nil]
  | cons field fields ih =>
    have hcolon : ": ".toList = [':', ' '] := rfl
    rw [fieldEntries, List.map_cons, renderEntries, List.map_cons, ← fieldEntries, ih,
      List.map_cons]
    simp only [String.toList_append, hcolon, entryOf, SpelledEntry.whole, Value.text,
      List.append_assoc, List.cons_append, List.nil_append]

/-- A mapping is written by its entries. -/
theorem spells_render_ofFields {fields : List (String × Value)}
    (hnodup : (fields.map Prod.fst).Nodup)
    (h : ∀ field ∈ fields, Spells n field.2 (render (level + 1) field.2).toList) :
    Spells (n + 1) (.ofFields fields) (render level (.ofFields fields)).toList := by
  obtain ⟨blanks, hblanks, htext⟩ :=
    toList_spread_eq "\x7b" "\x7d" level (renderEntries (level + 1) (fieldEntries fields))
  have hspells : Spells (n + 1) (.ofFields ((fields.map (entryOf (level + 1))).map
      fun e => (e.key, e.value))) _ := .ofFields ?_ ?_ ?_ hblanks
  · have hrender : render level (.ofFields fields) =
        spread "\x7b" "\x7d" level (renderEntries (level + 1) (fieldEntries fields)) := by
      rw [Value.ofFields, render]
      rfl
    rw [hrender, htext, renderEntries_fieldEntries]
    simpa [Function.comp_def, entryOf] using hspells
  · simpa [Function.comp_def, entryOf] using hnodup
  · exact List.forall_mem_map.2 fun field _ => spellsName_string field.1 (blank_lineEnd _)
  · refine List.forall_mem_map.2 fun field hfield => ?_
    have hpadded := Spells.padded blank_space (h field hfield) blank_nil
    rwa [List.append_nil] at hpadded

/-- A value that JSON has a notation for, with so many lists and mappings inside one another at
most. -/
inductive IsJson : Nat → Value → Prop
  | null {n : Nat} : IsJson n .null
  | bool {n : Nat} (b : Bool) : IsJson n (.bool b)
  | int {n : Nat} (k : Int) : IsJson n (.int k)
  | str {n : Nat} (text : String) : IsJson n (.str text)
  | list {n : Nat} {vs : List Value} (h : ∀ v ∈ vs, IsJson n v) : IsJson (n + 1) (.list vs)
  | ofFields {n : Nat} {fields : List (String × Value)} (hnodup : (fields.map Prod.fst).Nodup)
    (h : ∀ field ∈ fields, IsJson n field.2) : IsJson (n + 1) (.ofFields fields)

/-- What is written for such a value spells it. -/
theorem spells_render (h : IsJson n v) (level : Nat) : Spells n v (render level v).toList := by
  induction h generalizing level with
  | null =>
    have htext : (render level .null).toList = ['n', 'u', 'l', 'l'] := by
      rw [render]
      rfl
    rw [htext]
    exact .null
  | bool b =>
    have htext : (render level (.bool b)).toList =
        if b then ['t', 'r', 'u', 'e'] else ['f', 'a', 'l', 's', 'e'] := by
      rw [render]
      cases b <;> rfl
    rw [htext]
    exact .bool b
  | int k =>
    rw [render]
    exact .int k
  | str text => exact spells_string text
  | list _ ih => exact spells_render_list fun v hv => ih v hv (level + 1)
  | ofFields hnodup _ ih => exact spells_render_ofFields hnodup fun f hf => ih f hf (level + 1)

end DocAudit.Json
