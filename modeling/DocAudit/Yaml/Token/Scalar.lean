import DocAudit.Yaml.Token.Word

/-!
# Scalars

The text of block scalars, quoted scalars and plain scalars, with line folding.
-/

namespace DocAudit.Yaml

open Text

/-! ## Block scalars -/

/-- What happens to the line ends at the end of a block scalar: one stays, all stay or none. -/
inductive Chomping where
  | clip
  | keep
  | strip
  deriving DecidableEq, Repr

/-- The chomping that a sign asks for. -/
def chompingOf (c : Char) : Chomping := if c == '+' then .keep else .strip

/-- The indentation that a digit asks for. -/
def scanIncrement (start : Mark) (c : Char) : Scan Nat :=
  if c == '0' then failHere (.scanning "a block scalar") start .zeroIndentation
  else do
    move Cursor.step
    return hexValue c

/-- The indicators in the head of a block scalar, in either order. -/
def scanBlockIndicators (start : Mark) : Scan (Chomping × Option Nat) := do
  let ch := (← get).peek
  let result ←
    if ch == '+' || ch == '-' then do
      move Cursor.step
      let d := (← get).peek
      if isAsciiDigit d then pure (chompingOf ch, some (← scanIncrement start d))
      else pure (chompingOf ch, none)
    else if isAsciiDigit ch then do
      let n ← scanIncrement start ch
      let s := (← get).peek
      if s == '+' || s == '-' then
        move Cursor.step
        pure (chompingOf s, some n)
      else pure (.clip, some n)
    else pure (.clip, none)
  let ch := (← get).peek
  if isSpaceOrEnd ch then return result
  else failHere (.scanning "a block scalar") start (.expectedBlockIndicator ch)

/-- The empty lines before the first line of a block scalar, the greatest indentation among them,
and where the last of them ended; by a count. -/
def leadingLines : Nat → Nat → Mark → Cursor → List Char × Nat × Mark × Cursor
  | 0, indent, stop, c => ([], indent, stop, c)
  | n + 1, indent, stop, c =>
    if c.peek == ' ' then
      let d := c.step
      leadingLines n (max indent d.mark.column) stop d
    else if isBreak c.peek then
      let (ch, d) := c.lineBreak
      let (breaks, result) := leadingLines n indent d.mark d
      (ch.toList ++ breaks, result)
    else ([], indent, stop, c)

/-- Past the blanks up to a column. -/
def skipIndent (indent : Nat) (c : Cursor) : Cursor :=
  let blanks := (c.rest.takeWhile (· == ' ')).length
  c.advance (min blanks (indent - c.mark.column))

/-- The empty lines between lines of a block scalar and where the last of them ended; by a count. -/
def betweenLines (indent : Nat) : Nat → Mark → Cursor → List Char × Mark × Cursor
  | 0, stop, c => ([], stop, c)
  | n + 1, stop, c =>
    let c := skipIndent indent c
    if isBreak c.peek then
      let (ch, d) := c.lineBreak
      let (breaks, result) := betweenLines indent n d.mark d
      (ch.toList ++ breaks, result)
    else ([], stop, c)

/-- The lines of a block scalar from one that begins at the cursor, after the empty lines `breaks`;
by a count. The result is the text, the last line end, the empty lines after it and the place where
they ended. -/
def blockLines (folded : Bool) (indent : Nat) :
    Nat → List Char → Mark → Cursor → List Char × List Char × List Char × Mark × Cursor
  | 0, breaks, stop, c => ([], [], breaks, stop, c)
  | n + 1, breaks, stop, c =>
    if c.mark.column == indent && c.peek != endChar then
      let flush := !isSpaceOrTab c.peek
      let (line, d) := c.takeWhile fun ch => !isBreakOrEnd ch
      let (ending, d) := d.lineBreak
      let (more, stop, d) := betweenLines indent (d.size + 1) d.mark d
      if d.mark.column == indent && d.peek != endChar then
        let joint :=
          if folded && ending == some '\n' && flush && !isSpaceOrTab d.peek then
            if more.isEmpty then [' '] else []
          else ending.toList
        let (text, rest) := blockLines folded indent n more stop d
        (breaks ++ line ++ joint ++ text, rest)
      else (breaks ++ line, ending.toList, more, stop, d)
    else ([], [], breaks, stop, c)

/-- A block scalar inside a block collection of the given indentation. -/
def scanBlockScalar (indent : Int) : Scan Token := do
  let start := (← get).mark
  let folded := (← get).peek == '>'
  move Cursor.step
  let (chomping, increment) ← scanBlockIndicators start
  scanLineEnd "a block scalar" start
  let c ← get
  let least := (max (indent + 1) 1).toNat
  let count := c.size + 1
  let (column, breaks, stop, c) :=
    match increment with
    | none =>
      let (breaks, widest, stop, d) := leadingLines count 0 c.mark c
      (max least widest, breaks, stop, d)
    | some n =>
      let column := least + n - 1
      let (breaks, stop, d) := betweenLines column count c.mark c
      (column, breaks, stop, d)
  let (text, ending, breaks, stop, c) := blockLines folded column count breaks stop c
  set c
  let tail :=
    match chomping with
    | .strip => []
    | .clip => ending
    | .keep => ending ++ breaks
  return ⟨.scalar (String.ofList (text ++ tail)) false, start, stop⟩

/-! ## Quoted scalars -/

/-- The character that an escape of one letter stands for. -/
def escapedChar? (c : Char) : Option Char :=
  [('0', '\x00'), ('a', '\x07'), ('b', '\x08'), ('t', '\x09'), ('\t', '\x09'), ('n', '\x0a'),
    ('v', '\x0b'), ('f', '\x0c'), ('r', '\x0d'), ('e', '\x1b'), (' ', ' '), ('"', '"'),
    ('\\', '\\'), ('/', '/'), ('N', '\u0085'), ('_', '\u00a0'), ('L', '\u2028'),
    ('P', '\u2029')].lookup c

/-- The number of digits of a numeric escape. -/
def escapeWidth? (c : Char) : Option Nat := [('x', 2), ('u', 4), ('U', 8)].lookup c

/-- The character of a code point, if there is one. -/
def charOfCode (n : Nat) : Except ScalarFault Char :=
  if n > 0x7fffffff then .error .characterTooLarge
  else if n > 0x10ffff then .error .noSuchCharacter
  else if 0xd800 ≤ n && n ≤ 0xdfff then .error .halfOfPair
  else .ok (Char.ofNat n)

/-- The line ends at the cursor, blanks around them left out; by a count. -/
def scanQuotedBreaks (start : Mark) : Nat → Scan (List Char)
  | 0 => return []
  | n + 1 => do
    if (← get).atSeparator then failHere (.scanning "a quoted scalar") start .separatorInQuoted
    else
      move (Cursor.skipWhile isSpaceOrTab)
      let (ending, c) := (← get).lineBreak
      match ending with
      | none => return []
      | some ch =>
        set c
        return ch :: (← scanQuotedBreaks start n)

/-- An escape after its backslash. -/
def scanEscape (start : Mark) : Scan (List Char) := do
  let c ← get
  let ch := c.peek
  match escapedChar? ch, escapeWidth? ch with
  | some e, _ =>
    move Cursor.step
    return [e]
  | none, some width =>
    move Cursor.step
    let digits := (List.range width).map (c.peekAt <| · + 1)
    match digits.find? fun d => !isHexDigit d with
    | some d => failHere (.scanning "a double-quoted scalar") start (.expectedHexadecimal width d)
    | none =>
      match charOfCode (ofDigits 16 (digits.map hexValue)) with
      | .error fault => throw (.scalar fault)
      | .ok e =>
        move (Cursor.advance width)
        return [e]
  | none, none =>
    if isBreak ch then
      move fun c => c.lineBreak.2
      scanQuotedBreaks start (c.size + 1)
    else failHere (.scanning "a double-quoted scalar") start (.unknownEscape ch)

/-- A character that a quoted scalar holds as it is. -/
def isQuotedPlain (c : Char) : Bool := c != '\'' && c != '"' && c != '\\' && !isGap c

/-- The part of a quoted scalar up to a blank, a line end or the closing quote; by a count. -/
def scanQuotedWord (double : Bool) (start : Mark) : Nat → Scan (List Char)
  | 0 => return []
  | n + 1 => do
    let run ← takeChars isQuotedPlain
    let c ← get
    let ch := c.peek
    if !double && ch == '\'' && c.peekAt 1 == '\'' then
      move (Cursor.advance 2)
      return run ++ '\'' :: (← scanQuotedWord double start n)
    else if (double && ch == '\'') || (!double && (ch == '"' || ch == '\\')) then
      move Cursor.step
      return run ++ ch :: (← scanQuotedWord double start n)
    else if double && ch == '\\' then
      move Cursor.step
      let e ← scanEscape start
      return run ++ e ++ (← scanQuotedWord double start n)
    else return run

/-- The blanks or line ends inside a quoted scalar. -/
def scanQuotedGap (start : Mark) : Scan (List Char) := do
  let blanks ← takeChars isSpaceOrTab
  let c ← get
  if c.peek == endChar then failHere (.scanning "a quoted scalar") start .endInQuoted
  else
    let (ending, d) := c.lineBreak
    match ending with
    | none => return blanks
    | some ch =>
      set d
      let breaks ← scanQuotedBreaks start (d.size + 1)
      if ch != '\n' then return ch :: breaks
      else if breaks.isEmpty then return [' ']
      else return breaks

/-- The rest of a quoted scalar up to the closing quote; by a count. -/
def scanQuotedRest (quote : Char) (start : Mark) : Nat → Scan (List Char)
  | 0 => return []
  | n + 1 => do
    if (← get).peek == quote then return []
    else
      let gap ← scanQuotedGap start
      let word ← scanQuotedWord (quote == '"') start ((← get).size + 1)
      return gap ++ word ++ (← scanQuotedRest quote start n)

/-- A scalar in single or double quotes. -/
def scanQuoted : Scan Token := do
  let c ← get
  let quote := c.peek
  move Cursor.step
  let word ← scanQuotedWord (quote == '"') c.mark (c.size + 1)
  let rest ← scanQuotedRest quote c.mark (c.size + 1)
  move Cursor.step
  return ⟨.scalar (String.ofList (word ++ rest)) false, c.mark, (← get).mark⟩

/-! ## Plain scalars -/

/-- The number of characters of a plain scalar before a gap, an indicator or the end. -/
def plainLength (flow : Bool) : List Char → Nat
  | [] => 0
  | c :: s =>
    if isGap c then 0
    else if c == ':' &&
      (isGap (s.headD endChar) || (flow && ",[]\x7b\x7d".toList.contains (s.headD endChar)))
    then 0
    else if flow && ",?[]\x7b\x7d".toList.contains c then 0
    else 1 + plainLength flow s

/-- The empty lines inside a plain scalar; by a count. Nothing if a document separator comes. -/
def plainBreaks : Nat → Cursor → Option (List Char) × Cursor
  | 0, c => (some [], c)
  | n + 1, c =>
    let c := c.skipWhile (· == ' ')
    let (ending, d) := c.lineBreak
    match ending with
    | none => (some [], c)
    | some ch =>
      if d.atSeparator then (none, d)
      else
        let (breaks, d) := plainBreaks n d
        (breaks.map (ch :: ·), d)

/-- The blanks or line ends inside a plain scalar, whether a line end is among them, and where they
end. No text means that the scalar ends before them. -/
def plainGap (c : Cursor) : List Char × Bool × Cursor :=
  let (blanks, c) := c.takeWhile (· == ' ')
  let (ending, d) := c.lineBreak
  match ending with
  | none => (blanks, false, c)
  | some ch =>
    if d.atSeparator then ([], true, d)
    else
      match plainBreaks (d.size + 1) d with
      | (none, d) => ([], true, d)
      | (some breaks, d) =>
        (if ch != '\n' then ch :: breaks else if breaks.isEmpty then [' '] else breaks, true, d)

/-- The words of a plain scalar from the cursor on, after the gap `gap`; by a count. The result is
the text, where its last word ends, and whether a line end follows that. -/
def plainWords (flow : Bool) (indent : Int) :
    Nat → List Char → Mark → Bool → Cursor → List Char × Mark × Bool × Cursor
  | 0, _, stop, newline, c => ([], stop, newline, c)
  | n + 1, gap, stop, newline, c =>
    let length := if c.peek == '#' then 0 else plainLength flow c.rest
    if length == 0 then ([], stop, newline, c)
    else
      let word := c.rest.take length
      let d := c.advance length
      let (next, newline, e) := plainGap d
      if next.isEmpty || e.peek == '#' || (!flow && (e.mark.column : Int) < indent) then
        (gap ++ word, d.mark, newline, e)
      else
        let (text, result) := plainWords flow indent n next d.mark newline e
        (gap ++ word ++ text, result)

/-- A plain scalar inside a block collection of the given indentation or inside a flow collection,
and whether it ends at the start of a line. -/
def scanPlain (flow : Bool) (indent : Int) : Scan (Token × Bool) := fun c =>
  let (text, stop, newline, d) :=
    plainWords flow (indent + 1) (c.size + 1) [] c.mark false c
  .ok ((⟨.scalar (String.ofList text) true, c.mark, stop⟩, newline), d)

end DocAudit.Yaml
