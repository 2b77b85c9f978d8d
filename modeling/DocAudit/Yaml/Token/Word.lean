import DocAudit.Yaml.Token

/-!
# Directives, anchors and tags

The tokens that are made of words: directives before a document, anchors and aliases, and tags with
their handles and escaped addresses.
-/

namespace DocAudit.Yaml

open Text

/-- Reading at a cursor, which may fail. -/
abbrev Scan := StateT Cursor (Except Failure)

/-- Fail at the cursor with a problem that the context names. -/
def failHere {α : Type} (context : Context) (start : Mark) (problem : Problem) : Scan α :=
  fun c => .error (.marked (some (context, some start)) problem c.mark)

/-- Move the cursor. -/
def move (f : Cursor → Cursor) : Scan Unit := modify f

/-- The characters of a class at the cursor, which moves past them. -/
def takeChars (p : Char → Bool) : Scan (List Char) := fun c => .ok (c.takeWhile p)

/-- A letter, a digit, a dash or an underscore. -/
def isNameChar (c : Char) : Bool := isAsciiDigit c || isAsciiLetter c || c == '-' || c == '_'

/-- A character of an address. -/
def isUriChar (c : Char) : Bool :=
  isAsciiDigit c || isAsciiLetter c || "-;/?:@&=+$,_.!~*'()[]".toList.contains c

/-- Past blanks and a comment to the end of the line. -/
def scanLineEnd (what : String) (start : Mark) : Scan Unit := do
  move fun c => (c.skipWhile (· == ' ')).skipComment
  let ch := (← get).peek
  if isBreakOrEnd ch then move fun c => c.lineBreak.2
  else failHere (.scanning what) start (.expectedLineEnd ch)

/-- A name of letters, digits, dashes and underscores that ends where `isEnd` says. -/
def scanName (what : String) (start : Mark) (isEnd : Char → Bool) : Scan String := do
  let name ← takeChars isNameChar
  let ch := (← get).peek
  if name.isEmpty || !isEnd ch then failHere (.scanning what) start (.expectedName ch)
  else return String.ofList name

/-- A number of a version. -/
def scanVersionNumber (start : Mark) : Scan Nat := do
  let ch := (← get).peek
  if !isAsciiDigit ch then failHere (.scanning "a directive") start (.expectedDigit ch)
  else
    let ds ← takeChars isAsciiDigit
    if ds.length > maxDigits then throw (.scalar (.tooManyDigits ds.length))
    else return ofDigits 10 (ds.map hexValue)

/-- The escaped bytes at the cursor, up to a count. -/
def scanUriBytes (what : String) (start : Mark) : Nat → Scan (List UInt8)
  | 0 => return []
  | n + 1 => do
    if (← get).peek != '%' then return []
    else
      move Cursor.step
      let c ← get
      let a := c.peek
      let b := c.peekAt 1
      if !isHexDigit a then failHere (.scanning what) start (.expectedUriEscape a)
      else if !isHexDigit b then failHere (.scanning what) start (.expectedUriEscape b)
      else
        move (Cursor.advance 2)
        let rest ← scanUriBytes what start n
        return UInt8.ofNat (hexValue a * 16 + hexValue b) :: rest

/-- The pieces of an address, plain runs and runs of escapes, up to a count. -/
def scanUriPieces (what : String) (start : Mark) : Nat → Scan (List Char)
  | 0 => return []
  | n + 1 => do
    let run ← takeChars isUriChar
    let c ← get
    if c.peek != '%' then return run
    else
      let bytes ← scanUriBytes what start c.size
      match decode bytes with
      | .error fault =>
        throw (.marked (some (.scanning what, some start)) (.undecodableUri fault) c.mark)
      | .ok cs => return run ++ cs ++ (← scanUriPieces what start n)

/-- An address. -/
def scanUri (what : String) (start : Mark) : Scan String := do
  let c ← get
  let uri ← scanUriPieces what start (c.size + 1)
  let after ← get
  if after.mark.index == c.mark.index then failHere (.parsing what) start (.expectedUri after.peek)
  else return String.ofList uri

/-- The handle of a tag: a bang, or a name between bangs. -/
def scanHandle (what : String) (start : Mark) : Scan String := do
  let c ← get
  if c.peek != '!' then failHere (.scanning what) start (.expectedBang c.peek)
  else if c.peekAt 1 == ' ' then
    move Cursor.step
    return "!"
  else
    let name := (c.rest.drop 1).takeWhile isNameChar
    let ch := c.peekAt (name.length + 1)
    if ch != '!' then
      move (Cursor.advance (name.length + 1))
      failHere (.scanning what) start (.expectedBang ch)
    else
      move (Cursor.advance (name.length + 2))
      return String.ofList ('!' :: name ++ ['!'])

/-- A directive, with the rest of its line. -/
def scanDirective : Scan Token := do
  let start := (← get).mark
  let what := "a directive"
  move Cursor.step
  let name ← scanName what start isSpaceOrEnd
  let directive ←
    if name == "YAML" then do
      move (Cursor.skipWhile (· == ' '))
      let major ← scanVersionNumber start
      let ch := (← get).peek
      if ch != '.' then failHere (.scanning what) start (.expectedDigitOrDot ch)
      else
        move Cursor.step
        let minor ← scanVersionNumber start
        let ch := (← get).peek
        if !isSpaceOrEnd ch then failHere (.scanning what) start (.expectedDigitOrSpace ch)
        else pure (Directive.version major minor)
    else if name == "TAG" then do
      move (Cursor.skipWhile (· == ' '))
      let handle ← scanHandle what start
      let ch := (← get).peek
      if ch != ' ' then failHere (.scanning what) start (.expectedSpace ch)
      else
        move (Cursor.skipWhile (· == ' '))
        let stem ← scanUri what start
        let ch := (← get).peek
        if !isSpaceOrEnd ch then failHere (.scanning what) start (.expectedSpace ch)
        else pure (Directive.tag handle stem)
    else pure (Directive.other name)
  let stop := (← get).mark
  match directive with
  | .other _ => move (Cursor.skipWhile fun ch => !isBreakOrEnd ch)
  | _ => pure ()
  scanLineEnd what start
  return ⟨.directive directive, start, stop⟩

/-- The end of an anchor or an alias. -/
def isAnchorEnd (c : Char) : Bool := isGap c || "?:,]\x7d%@\x60".toList.contains c

/-- An anchor or an alias, by its indicator. -/
def scanAnchor : Scan Token := do
  let c ← get
  let isAlias := c.peek == '*'
  move Cursor.step
  let name ← scanName (if isAlias then "an alias" else "an anchor") c.mark isAnchorEnd
  return ⟨if isAlias then .reference name else .anchor name, c.mark, (← get).mark⟩

/-- Whether a bang stands in the word after the first character, so that the word has a handle. -/
def hasHandle (c : Cursor) : Bool :=
  ((c.rest.drop 1).takeWhile fun ch => !isSpaceOrEnd ch).contains '!'

/-- A tag: an address between angle brackets, a lone bang, or a handle and an address. -/
def scanTag : Scan Token := do
  let c ← get
  let start := c.mark
  let next := c.peekAt 1
  let (handle, suffix) ←
    if next == '<' then do
      move (Cursor.advance 2)
      let uri ← scanUri "a tag" start
      let ch := (← get).peek
      if ch != '>' then failHere (.parsing "a tag") start (.expectedTagEnd ch)
      else
        move Cursor.step
        pure (none, uri)
    else if isGap next then do
      move Cursor.step
      pure (none, "!")
    else if hasHandle c then do
      let handle ← scanHandle "a tag" start
      pure (some handle, ← scanUri "a tag" start)
    else do
      move Cursor.step
      pure (some "!", ← scanUri "a tag" start)
  let ch := (← get).peek
  if !isSpaceOrEnd ch then failHere (.scanning "a tag") start (.expectedSpace ch)
  else return ⟨.tag handle suffix, start, (← get).mark⟩

end DocAudit.Yaml
