import DocAudit.Pattern.CharClass

/-!
# Patterns

Patterns for texts, and what they match. A pattern takes a place in a text to the places where a
match from there may end, the preferred one first. Repetition prefers more or fewer rounds; a
possessive repetition and an atomic part keep to their preferred end. Main statements: a sequence
leads to where its second part leads from where its first part leads to, and a choice to where
either part leads.
-/

namespace DocAudit

open Text

namespace Pattern

/-- Which places a repetition prefers. -/
inductive Greed where
  | greedy
  | lazy
  | possessive
  deriving DecidableEq, Repr

/-- A condition on a place. -/
inductive Anchor where
  | textStart
  | textEnd
  /-- The end of the text or the line end that ends it. -/
  | lastLineEnd
  | lineStart
  | lineEnd
  | wordBoundary (ascii negated : Bool)
  deriving DecidableEq, Repr

end Pattern

open Pattern in
/-- A pattern. -/
inductive Pattern where
  | empty
  | one (cls : CharClass)
  | sequence (a b : Pattern)
  | either (a b : Pattern)
  | repeated (greed : Greed) (min : Nat) (max : Option Nat) (p : Pattern)
  | group (number : Nat) (p : Pattern)
  | atomic (p : Pattern)
  | ahead (negated : Bool) (p : Pattern)
  | behind (width : Nat) (negated : Bool) (p : Pattern)
  | anchor (a : Anchor)
  | reference (number : Nat) (caseless ascii : Bool)
  | ifGroup (number : Nat) (yes no : Pattern)
  deriving DecidableEq, Repr, Inhabited

namespace Pattern

/-- A place in a text, with the ends of the groups that were matched on the way. -/
structure Place where
  index : Nat
  groups : List (Nat × Nat × Nat)
  deriving DecidableEq, Repr

/-- Where a group was matched. -/
def Place.group? (s : Place) (number : Nat) : Option (Nat × Nat) := s.groups.lookup number

/-- The place with a group noted. -/
def Place.note (s : Place) (number first : Nat) : Place :=
  { s with groups := (number, first, s.index) :: s.groups.filter fun g => g.1 != number }

/-- Whether there is a word character at an index. -/
def isWordAt (text : Array Char) (ascii : Bool) (i : Nat) : Bool :=
  (text[i]?).any fun c => Category.word.holds ascii c

/-- Whether a condition holds at an index. -/
def Anchor.holds (text : Array Char) (i : Nat) : Anchor → Bool
  | textStart => i == 0
  | textEnd => i == text.size
  | lastLineEnd => i == text.size || (i + 1 == text.size && text[i]? == some '\n')
  | lineStart => i == 0 || text[i - 1]? == some '\n'
  | lineEnd => i == text.size || text[i]? == some '\n'
  | wordBoundary ascii negated =>
    !text.isEmpty &&
      (((i != 0 && isWordAt text ascii (i - 1)) != isWordAt text ascii i) != negated)

/-- The places without those that stand earlier in the list. -/
def distinct (places : List Place) : List Place :=
  match places with
  | [] => []
  | [s] => [s]
  | _ => (places.foldl (fun seen s => if seen.contains s then seen else s :: seen) []).reverse

/-- The places after exactly `n` rounds. -/
def rounds (round : Place → List Place) : Nat → List Place → List Place
  | 0, places => places
  | n + 1, places =>
    let next := distinct (places.flatMap round)
    if next.isEmpty || next == places then next else rounds round n next

/-- Add the places after any number of rounds from `s` to the ones found so far, which are given in
reverse; a round that takes nothing is the last one. -/
def exploreFrom (round : Place → List Place) (lazy : Bool) :
    Nat → List Place → Place → List Place
  | 0, found, _ => found
  | n + 1, found, s =>
    let add (found : List Place) (t : Place) : List Place :=
      if found.contains t then found else t :: found
    let further (found : List Place) : List Place :=
      (round s).foldl (fun found t =>
        if t.index == s.index then add found t
        else if found.contains t then found
        else exploreFrom round lazy n found t) found
    if lazy then further (add found s) else add (further found) s

/-- The places after at most `n` rounds. -/
def boundedFrom (round : Place → List Place) (lazy : Bool) : Nat → Place → List Place
  | 0, s => [s]
  | n + 1, s =>
    let further := (round s).flatMap fun t =>
      if t.index == s.index then [t] else boundedFrom round lazy n t
    if lazy then s :: further else further ++ [s]

/-- The places after a number of rounds between two bounds. -/
def repeatEnds (size : Nat) (round : Place → List Place) (lazy : Bool) (min : Nat)
    (max : Option Nat) (s : Place) : List Place :=
  let least := rounds round min [s]
  match max with
  | none => (least.foldl (exploreFrom round lazy (size + 2)) []).reverse
  | some m => distinct (least.flatMap (boundedFrom round lazy (Nat.min (m - min) (size + 1))))

/-- The number of characters of a class from an index on, at most `limit`. -/
def runLength (text : Array Char) (cls : CharClass) : Nat → Nat → Nat
  | 0, _ => 0
  | limit + 1, i =>
    match text[i]? with
    | some c => if cls.contains c then runLength text cls limit (i + 1) + 1 else 0
    | none => 0

/-- The places after a number of characters of a class between two bounds. -/
def runEnds (text : Array Char) (cls : CharClass) (greed : Greed) (min : Nat) (max : Option Nat)
    (s : Place) : List Place :=
  let length := runLength text cls (Nat.min (max.getD text.size) text.size) s.index
  if length < min then []
  else
    let ends := (List.range (length - min + 1)).map fun k => { s with index := s.index + min + k }
    match greed with
    | .lazy => ends
    | .greedy => ends.reverse
    | .possessive => ends.reverse.take 1

/-- Whether two texts agree, if need be up to case. -/
def agree (caseless ascii : Bool) (a b : Char) : Bool :=
  let fold (c : Char) : Char := if ascii && 128 ≤ c.toNat then c else lowerChar c
  if caseless then fold a == fold b else a == b

/-- The place after another occurrence of a part of the text. -/
def afterCopy (text : Array Char) (caseless ascii : Bool) (first last : Nat) (s : Place) :
    List Place :=
  let agrees := (List.range (last - first)).all fun k =>
    match text[first + k]?, text[s.index + k]? with
    | some a, some b => agree caseless ascii a b
    | _, _ => false
  if agrees then [{ s with index := s.index + (last - first) }] else []

/-- The places where a match from a place may end, the preferred one first. -/
def ends (text : Array Char) : Pattern → Place → List Place
  | empty, s => [s]
  | one cls, s =>
    match text[s.index]? with
    | some c => if cls.contains c then [{ s with index := s.index + 1 }] else []
    | none => []
  | sequence a b, s => distinct ((ends text a s).flatMap (ends text b))
  | either a b, s => distinct (ends text a s ++ ends text b s)
  | repeated greed min max (one cls), s => runEnds text cls greed min max s
  | repeated greed min max p, s =>
    match greed with
    | .greedy => repeatEnds text.size (ends text p) false min max s
    | .lazy => repeatEnds text.size (ends text p) true min max s
    | .possessive => (repeatEnds text.size (fun t => (ends text p t).take 1) false min max s).take 1
  | group number p, s => (ends text p s).map fun t => t.note number s.index
  | atomic p, s => (ends text p s).take 1
  | ahead negated p, s =>
    match ends text p s with
    | [] => if negated then [s] else []
    | t :: _ => if negated then [] else [{ t with index := s.index }]
  | behind width negated p, s =>
    if s.index < width then if negated then [s] else []
    else
      match ends text p { s with index := s.index - width } with
      | [] => if negated then [s] else []
      | t :: _ => if negated then [] else [{ t with index := s.index }]
  | anchor a, s => if a.holds text s.index then [s] else []
  | reference number caseless ascii, s =>
    match s.group? number with
    | some (first, last) => afterCopy text caseless ascii first last s
    | none => []
  | ifGroup number yes no, s => if (s.group? number).isSome then ends text yes s else ends text no s

/-- Whether a pattern looks at what its groups matched. -/
def refers : Pattern → Bool
  | reference .. | ifGroup .. => true
  | empty | one _ | anchor _ => false
  | sequence a b | either a b => a.refers || b.refers
  | repeated _ _ _ p | group _ p | atomic p | ahead _ p | behind _ _ p => p.refers

/-- The pattern without its groups. -/
def ungrouped : Pattern → Pattern
  | group _ p => p.ungrouped
  | sequence a b => sequence a.ungrouped b.ungrouped
  | either a b => either a.ungrouped b.ungrouped
  | repeated greed min max p => repeated greed min max p.ungrouped
  | atomic p => atomic p.ungrouped
  | ahead negated p => ahead negated p.ungrouped
  | behind width negated p => behind width negated p.ungrouped
  | p => p

/-- Whether a pattern matches somewhere in a text. -/
def occursIn (p : Pattern) (text : String) : Bool :=
  let chars := text.toList.toArray
  let p := if p.refers then p else p.ungrouped
  (List.range (chars.size + 1)).any fun i => !(ends chars p ⟨i, []⟩).isEmpty

theorem mem_foldl_distinct {places seen : List Place} {s : Place} :
    s ∈ places.foldl (fun seen s => if seen.contains s then seen else s :: seen) seen ↔
      s ∈ seen ∨ s ∈ places := by
  induction places generalizing seen with
  | nil => simp
  | cons t places ih =>
    rw [List.foldl_cons, ih]
    by_cases h : t ∈ seen
    · simp only [List.contains_eq_mem, h, decide_true, if_true, List.mem_cons]
      constructor
      · rintro (hs | hs) <;> simp [hs]
      · rintro (hs | rfl | hs) <;> simp [*]
    · simp only [List.contains_eq_mem, h, decide_false, Bool.false_eq_true, if_false,
        List.mem_cons, or_assoc, or_left_comm]

@[simp] theorem mem_distinct {places : List Place} {s : Place} :
    s ∈ distinct places ↔ s ∈ places := by
  unfold distinct
  split
  · rfl
  · rfl
  · rw [List.mem_reverse, mem_foldl_distinct]
    simp

/-- A sequence leads to where its second part leads from where its first part leads to. -/
theorem mem_ends_sequence {text : Array Char} {a b : Pattern} {s t : Place} :
    t ∈ ends text (.sequence a b) s ↔ ∃ m ∈ ends text a s, t ∈ ends text b m := by
  simp [ends]

/-- A choice leads to where either part leads. -/
theorem mem_ends_either {text : Array Char} {a b : Pattern} {s t : Place} :
    t ∈ ends text (.either a b) s ↔ t ∈ ends text a s ∨ t ∈ ends text b s := by
  simp [ends]

end Pattern

end DocAudit
