import DocAudit.Text.CaseTable
import DocAudit.Text.Numeral
import DocAudit.Text.WordTable

/-!
# Letters

Letter case and word characters. `lower` and `upper` map whole texts: one character may become
several, and a sigma at the end of a word becomes a final one. `lowerChar` and `upperChar` are the
maps from one character to one character that caseless comparison uses.
-/

namespace DocAudit.Text

/-- The image of a code point under the first run that holds it. -/
def mapByRuns (runs : List (Nat × Nat × Nat × Int)) (n : Nat) : Nat :=
  match runs.find? fun (lo, hi, step, _) => lo ≤ n && n ≤ hi && (n - lo) % step == 0 with
  | some (_, _, _, shift) => ((n : Int) + shift).toNat
  | none => n

/-- The lower-case form of a character, of one character. -/
def lowerChar (c : Char) : Char :=
  if c.toNat < 128 then if 'A' ≤ c && c ≤ 'Z' then Char.ofNat (c.toNat + 32) else c
  else if c.toNat == 0x130 then 'i'
  else Char.ofNat (mapByRuns lowerRuns c.toNat)

/-- The upper-case form of a character, of one character. -/
def upperChar (c : Char) : Char :=
  if c.toNat < 128 then if 'a' ≤ c && c ≤ 'z' then Char.ofNat (c.toNat - 32) else c
  else Char.ofNat (mapByRuns upperRuns c.toNat)

/-- A lower-case character. -/
def isLower (c : Char) : Bool :=
  if c.toNat < 128 then 'a' ≤ c && c ≤ 'z'
  else lowercaseRuns.any fun (lo, hi, step) =>
    lo ≤ c.toNat && c.toNat ≤ hi && (c.toNat - lo) % step == 0

/-- A character with a case. -/
def isCased (c : Char) : Bool :=
  if c.toNat < 128 then isAsciiLetter c else inRanges casedRanges c.toNat

/-- A character that is passed over when the neighbours of a sigma are looked at. -/
def isCaseIgnorable (c : Char) : Bool :=
  if c.toNat < 128 then ['\'', '.', ':', '^', '\x60'].contains c
  else inRanges caseIgnorableRanges c.toNat

/-- Whether the nearest character that is not passed over has a case. -/
def nearestIsCased : List Char → Bool
  | [] => false
  | c :: s => if isCaseIgnorable c then nearestIsCased s else isCased c

/-- The lower-case form of a text whose reversed beginning is `seen`. -/
def lowerFrom (seen : List Char) : List Char → List Char
  | [] => []
  | c :: s =>
    (if c.toNat == 0x3a3 then
      [Char.ofNat (if nearestIsCased seen && !nearestIsCased s then 0x3c2 else 0x3c3)]
    else if c.toNat == 0x130 then ['i', Char.ofNat 0x307]
    else [lowerChar c]) ++ lowerFrom (c :: seen) s

/-- The text in lower case. -/
def lower (s : List Char) : List Char :=
  if s.all (·.toNat < 128) then s.map lowerChar else lowerFrom [] s

/-- The upper-case form of a character, of one or several characters. -/
def upperExpansion (c : Char) : List Char :=
  if c.toNat < 128 then [upperChar c]
  else
    match upperExpansions.lookup c.toNat with
    | some ns => ns.map Char.ofNat
    | none => [upperChar c]

/-- The text in upper case. -/
def upper (s : List Char) : List Char := s.flatMap upperExpansion

/-- The string in lower case. -/
def lowered (s : String) : String := String.ofList (lower s.toList)

/-- A letter, a digit or another alphanumeric character. -/
def isAlphanumeric (c : Char) : Bool :=
  if c.toNat < 128 then isAsciiLetter c || isAsciiDigit c else inRanges wordRanges c.toNat

/-- A character of a word: alphanumeric or an underscore. -/
def isWordChar (c : Char) : Bool := c == '_' || isAlphanumeric c

end DocAudit.Text
