import DocAudit.Text.Letter

/-!
# Character classes

The classes of characters that patterns are made of. A class may be caseless: a character is then in
it if any of its case variants is. Main statement: a character is among its own case variants.
-/

namespace DocAudit.Pattern

open Text

/-- A kind of characters. -/
inductive Category where
  | digit
  | space
  | word
  deriving DecidableEq, Repr

/-- A member of a class. Code points that are no characters may be named, but match nothing. -/
inductive Item where
  | code (n : Nat)
  | range (first last : Nat)
  | category (kind : Category) (negated : Bool)
  deriving DecidableEq, Repr

/-- A class of characters. -/
structure CharClass where
  items : List Item
  negated : Bool
  caseless : Bool
  /-- Whether only ASCII characters have a kind and a case. -/
  ascii : Bool
  deriving DecidableEq, Repr

/-- The lower-case characters that have an upper-case form in common, group by group. -/
def commonUpper : List (List Nat) :=
  [[0x69, 0x131], [0x73, 0x17f], [0xb5, 0x3bc], [0x345, 0x3b9, 0x1fbe], [0x390, 0x1fd3],
   [0x3b0, 0x1fe3], [0x3b2, 0x3d0], [0x3b5, 0x3f5], [0x3b8, 0x3d1], [0x3ba, 0x3f0], [0x3c0, 0x3d6],
   [0x3c1, 0x3f1], [0x3c2, 0x3c3], [0x3c6, 0x3d5], [0x432, 0x1c80], [0x434, 0x1c81],
   [0x43e, 0x1c82], [0x441, 0x1c83], [0x442, 0x1c84, 0x1c85], [0x44a, 0x1c86], [0x463, 0x1c87],
   [0x1c88, 0xa64b], [0x1e61, 0x1e9b], [0xfb05, 0xfb06]]

/-- The lower-case characters that have the upper-case form of a given one, itself included. -/
def sameUpper (n : Nat) : List Nat := (commonUpper.find? fun g => g.contains n).getD [n]

/-- The characters whose lower-case form is the given one. -/
def raised (n : Nat) : List Nat :=
  let candidates :=
    n :: (n - 32) :: 0x130 :: lowerRuns.map fun (_, _, _, shift) => ((n : Int) - shift).toNat
  (candidates.filter fun m => (lowerChar (Char.ofNat m)).toNat == n).eraseDups

/-- The characters that differ from a given one in case only. -/
def caseVariants (ascii : Bool) (c : Char) : List Nat :=
  if ascii then
    if isAsciiLetter c then [c.toNat, (lowerChar c).toNat, (upperChar c).toNat] else [c.toNat]
  else if c.toNat < 128 && !isAsciiLetter c then [c.toNat]
  else c.toNat :: (sameUpper (lowerChar c).toNat).flatMap raised

namespace Category

/-- Whether a character is of a kind. -/
def holds (ascii : Bool) (c : Char) : Category → Bool
  | digit => if ascii then isAsciiDigit c else isDecimal c
  | space => if ascii then c == ' ' || (9 ≤ c.toNat && c.toNat ≤ 13) else isBlank c
  | word => if ascii then c == '_' || isAsciiDigit c || isAsciiLetter c else isWordChar c

end Category

namespace Item

/-- Whether a member of a class stands for one of some code points, the first being that of `c`. -/
def holds (ascii : Bool) (c : Char) (codes : List Nat) : Item → Bool
  | code n => codes.contains n
  | range first last => codes.any fun n => first ≤ n && n ≤ last
  | category kind negated => kind.holds ascii c != negated

end Item

/-- Whether a character is in a class. -/
def CharClass.contains (cls : CharClass) (c : Char) : Bool :=
  let codes := if cls.caseless then caseVariants cls.ascii c else [c.toNat]
  cls.items.any (Item.holds cls.ascii c codes) != cls.negated

/-- The class of a single code point. -/
def CharClass.single (caseless ascii : Bool) (n : Nat) : CharClass :=
  ⟨[.code n], false, caseless, ascii⟩

/-- The class of all characters, or of all but the line end. -/
def CharClass.any (lineEnds : Bool) : CharClass :=
  ⟨if lineEnds then [] else [.code 10], true, false, false⟩

/-- A character is among its own case variants. -/
theorem mem_caseVariants (ascii : Bool) (c : Char) : c.toNat ∈ caseVariants ascii c := by
  unfold caseVariants
  split
  · split <;> simp
  · split <;> simp

end DocAudit.Pattern
