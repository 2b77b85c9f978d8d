import DocAudit.Value

/-!
# JSON

Values as JSON text, spread over lines with two spaces for each level. Only the quotation mark, the
backslash and control characters are escaped. Main statement: what stands between the quotation
marks of a string holds no line end.
-/

namespace DocAudit.Json

open Text

/-- The escape of a character of a string, if it needs one. -/
def escape? (c : Char) : Option (List Char) :=
  if c == '"' then some ['\\', '"']
  else if c == '\\' then some ['\\', '\\']
  else if c.toNat == 8 then some ['\\', 'b']
  else if c == '\t' then some ['\\', 't']
  else if c == '\n' then some ['\\', 'n']
  else if c.toNat == 12 then some ['\\', 'f']
  else if c == '\r' then some ['\\', 'r']
  else if c.toNat < 32 then some ('\\' :: 'u' :: hexDigits 4 c.toNat)
  else none

/-- A character of a string as it is written. -/
def escaped (c : Char) : List Char := (escape? c).getD [c]

/-- A string in quotation marks. -/
def string (s : String) : String := String.ofList ('"' :: s.toList.flatMap escaped ++ ['"'])

/-- A line end and the blanks of a level. -/
def lineEnd (level : Nat) : String := "".pushn ' ' (2 * level) |> ("\n" ++ ·)

/-- Items between brackets, each on lines of its own. -/
def spread (opening closing : String) (level : Nat) (items : List String) : String :=
  if items.isEmpty then opening ++ closing
  else
    opening ++ lineEnd (level + 1) ++ ("," ++ lineEnd (level + 1)).intercalate items ++
      lineEnd level ++ closing

mutual

/-- A value as JSON; what JSON has no notation for is written as its text. -/
def render (level : Nat) : Value → String
  | .null => "null"
  | .bool b => if b then "true" else "false"
  | .int n => toString n
  | .list items => spread "[" "]" level (renderAll (level + 1) items)
  | .dict entries => spread "\x7b" "\x7d" level (renderEntries (level + 1) entries)
  | v => string v.text

/-- The items of a list as JSON. -/
def renderAll (level : Nat) : List Value → List String
  | [] => []
  | v :: vs => render level v :: renderAll level vs

/-- The entries of a mapping as JSON. -/
def renderEntries (level : Nat) : List (Value × Value) → List String
  | [] => []
  | (k, v) :: rest => (string k.text ++ ": " ++ render level v) :: renderEntries level rest

end

/-- No line end is left in a string. -/
theorem newline_not_mem_escaped (c : Char) : '\n' ∉ escaped c := by
  unfold escaped escape?
  by_cases h : c = '\n'
  · subst h
    decide
  · by_cases h32 : c.toNat < 32
    · have : ∀ n < 32, '\n' ∉ hexDigits 4 n := by decide
      have := this _ h32
      repeat' split
      all_goals simp_all
    · have h8 : ¬ c.toNat = 8 := by omega
      have h12 : ¬ c.toNat = 12 := by omega
      repeat' split
      all_goals simp_all [Ne.symm h]

end DocAudit.Json
