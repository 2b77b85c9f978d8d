import DocAudit.Yaml.Token.Scalar

/-!
# The token queue

Tokens are read one by one as they are asked for. A token that may turn out to be a key stays in the
queue until the colon after it is found or cannot come any more, because its key token has to stand
before it.
-/

namespace DocAudit.Yaml

open Text

/-- A token that may turn out to be a key: its number among all tokens and its place. It must be one
if it stands where only keys may stand. -/
structure PossibleKey where
  number : Nat
  required : Bool
  place : Mark
  deriving Repr

/-- The state of reading: the cursor, the tokens read and not yet taken, the depth of flow
collections, the column of the present block collection and of those around it, whether a key may
begin here, and the possible keys by depth. -/
structure Lexer where
  cursor : Cursor
  queue : List Token
  taken : Nat
  done : Bool
  flowLevel : Int
  indent : Int
  indents : List Int
  keyAllowed : Bool
  keys : List (Int × PossibleKey)

/-- Reading tokens, which may fail. -/
abbrev Lex := StateT Lexer (Except Failure)

namespace Lexer

/-- The state at the start of a text, with the token that opens every stream. -/
def start (text : List Char) : Lexer :=
  let c := Cursor.start text
  ⟨c, [⟨.streamStart, c.mark, c.mark⟩], 0, false, 0, -1, [], true, []⟩

/-- Whether a flow collection is open. -/
def inFlow (s : Lexer) : Bool := s.flowLevel != 0

/-- The column of the cursor. -/
def column (s : Lexer) : Int := s.cursor.mark.column

end Lexer

/-- Fail at the cursor outside any context. -/
def failPlain {α : Type} (problem : Problem) : Lex α := fun s =>
  .error (.marked none problem s.cursor.mark)

/-- Read at the cursor. -/
def scanning {α : Type} (x : Scan α) : Lex α := fun s =>
  match x s.cursor with
  | .ok (a, c) => .ok (a, { s with cursor := c })
  | .error e => .error e

/-- Put a token at the end of the queue. -/
def push (t : Token) : Lex Unit := modify fun s => { s with queue := s.queue ++ [t] }

/-- Put a token without extent at the end of the queue. -/
def pushHere (kind : TokenKind) : Lex Unit :=
  modify fun s => { s with queue := s.queue ++ [⟨kind, s.cursor.mark, s.cursor.mark⟩] }

/-- Put a token of a few characters at the end of the queue and move past them. -/
def pushIndicator (kind : TokenKind) (width : Nat) : Lex Unit :=
  modify fun s =>
    let c := s.cursor.advance width
    { s with queue := s.queue ++ [⟨kind, s.cursor.mark, c.mark⟩], cursor := c }

/-- Say whether a key may begin at the next token. -/
def allowKey (b : Bool) : Lex Unit := modify fun s => { s with keyAllowed := b }

/-- The failure of a key that is required and gets no colon. -/
def missingColon (k : PossibleKey) : Lex Unit := fun s =>
  .error (.marked (some (.scanning "a simple key", some k.place)) .missingColon s.cursor.mark)

/-- Whether a key can no longer get its colon: it stands on an earlier line or too far back. -/
def PossibleKey.isStale (k : PossibleKey) (here : Mark) : Bool :=
  k.place.line != here.line || here.index - k.place.index > 1024

/-- Forget the possible keys that can no longer get their colon. -/
def dropStaleKeys : Lex Unit := do
  let s ← get
  let here := s.cursor.mark
  match s.keys.find? fun (_, k) => k.isStale here && k.required with
  | some (_, k) => missingColon k
  | none => set { s with keys := s.keys.filter fun (_, k) => !k.isStale here }

/-- Forget the possible key at the present depth. -/
def dropKey : Lex Unit := do
  let s ← get
  match s.keys.lookup s.flowLevel with
  | none => return
  | some k =>
    if k.required then missingColon k
    else set { s with keys := s.keys.filter fun (level, _) => level != s.flowLevel }

/-- Note that the next token may be a key. -/
def saveKey : Lex Unit := do
  let s ← get
  if s.keyAllowed then
    dropKey
    modify fun s =>
      let required := !s.inFlow && s.indent == s.column
      let key : PossibleKey := ⟨s.taken + s.queue.length, required, s.cursor.mark⟩
      { s with keys := s.keys ++ [(s.flowLevel, key)] }

/-- Close the block collections that are indented more than `column`; by a count. -/
def unwindFrom (column : Int) : Nat → Lex Unit
  | 0 => return
  | n + 1 => do
    let s ← get
    if s.indent > column then
      pushHere .blockEnd
      modify fun s => { s with indent := s.indents.headD (-1), indents := s.indents.tail }
      unwindFrom column n

/-- Close the block collections that are indented more than `column`. -/
def unwind (column : Int) : Lex Unit := do
  let s ← get
  if !s.inFlow then unwindFrom column (s.indents.length + 1)

/-- Open a block collection at a column, unless one that is indented as much is open. -/
def addIndent (column : Int) : Lex Bool := do
  let s ← get
  if s.indent < column then
    set { s with indent := column, indents := s.indent :: s.indents }
    return true
  else return false

/-- Past blanks, comments and line ends; by a count. A line end outside flow collections lets a key
begin. -/
def skipToToken : Nat → Lex Unit
  | 0 => return
  | n + 1 => do
    modify fun s => { s with cursor := (s.cursor.skipWhile (· == ' ')).skipComment }
    let s ← get
    let (ending, c) := s.cursor.lineBreak
    if ending.isSome then
      set { s with cursor := c, keyAllowed := s.keyAllowed || !s.inFlow }
      skipToToken n

/-- End the token stream. -/
def fetchStreamEnd : Lex Unit := do
  unwind (-1)
  dropKey
  modify fun s => { s with keyAllowed := false, keys := [], done := true }
  pushHere .streamEnd

/-- Close all block collections before something that stands outside documents. -/
def closeAll : Lex Unit := do
  unwind (-1)
  dropKey
  allowKey false

/-- Open a flow collection. -/
def fetchFlowStart (kind : TokenKind) : Lex Unit := do
  saveKey
  modify fun s => { s with flowLevel := s.flowLevel + 1 }
  allowKey true
  pushIndicator kind 1

/-- Close a flow collection. -/
def fetchFlowEnd (kind : TokenKind) : Lex Unit := do
  dropKey
  modify fun s => { s with flowLevel := s.flowLevel - 1 }
  allowKey false
  pushIndicator kind 1

/-- Before an indicator that may open a block collection: one may begin here only where a key
may. -/
def openBlock (kind : TokenKind) (notAllowed : Problem) : Lex Unit := do
  let s ← get
  if !s.inFlow then
    if !s.keyAllowed then failPlain notAllowed
    else if ← addIndent s.column then pushHere kind

/-- An entry of a block sequence. -/
def fetchBlockEntry : Lex Unit := do
  openBlock .blockSequenceStart .entryNotAllowed
  allowKey true
  dropKey
  pushIndicator .blockEntry 1

/-- A key with an indicator. -/
def fetchKey : Lex Unit := do
  openBlock .blockMappingStart .keyNotAllowed
  let s ← get
  allowKey (!s.inFlow)
  dropKey
  pushIndicator .key 1

/-- Put tokens into the queue before the token of a number. -/
def insertBefore (number : Nat) (ts : List Token) : Lex Unit :=
  modify fun s =>
    let k := number - s.taken
    { s with queue := s.queue.take k ++ ts ++ s.queue.drop k }

/-- A colon: the possible key at this depth becomes a key, or the key is the empty one. -/
def fetchValue : Lex Unit := do
  let s ← get
  match s.keys.lookup s.flowLevel with
  | some k =>
    set { s with keys := s.keys.filter fun (level, _) => level != s.flowLevel }
    let opens ← if s.inFlow then pure false else addIndent k.place.column
    let keyToken : Token := ⟨.key, k.place, k.place⟩
    insertBefore k.number
      (if opens then [⟨.blockMappingStart, k.place, k.place⟩, keyToken] else [keyToken])
    allowKey false
  | none =>
    openBlock .blockMappingStart .valueNotAllowed
    allowKey (!s.inFlow)
    dropKey
  pushIndicator .value 1

/-- A token that may be a key by itself. -/
def fetchWord (x : Scan Token) : Lex Unit := do
  saveKey
  allowKey false
  push (← scanning x)

/-- A block scalar, after which a key may begin. -/
def fetchBlockScalar : Lex Unit := do
  allowKey true
  dropKey
  let s ← get
  push (← scanning (scanBlockScalar s.indent))

/-- A plain scalar, after which a key may begin if it ends at the start of a line. -/
def fetchPlain : Lex Unit := do
  saveKey
  let s ← get
  let (t, newline) ← scanning (scanPlain s.inFlow s.indent)
  allowKey newline
  push t

/-- Whether a plain scalar may begin at the cursor. -/
def startsPlain (s : Lexer) : Bool :=
  let ch := s.cursor.peek
  (!isGap ch && !"-?:,[]\x7b\x7d#&*!|>'\"%@\x60".toList.contains ch) ||
    (!isGap (s.cursor.peekAt 1) && (ch == '-' || (!s.inFlow && (ch == '?' || ch == ':'))))

/-- Read the next tokens into the queue. -/
def fetchMore : Lex Unit := do
  -- a byte order mark may stand at the very start
  modify fun s =>
    if s.cursor.mark.index == 0 && s.cursor.peek.toNat == 0xfeff then
      { s with cursor := s.cursor.step }
    else s
  let s ← get
  skipToToken (s.cursor.size + 1)
  dropStaleKeys
  let s ← get
  unwind s.column
  let s ← get
  let c := s.cursor
  let ch := c.peek
  let gapNext := isGap (c.peekAt 1)
  let atStart := c.mark.column == 0
  if ch == endChar then fetchStreamEnd
  else if ch == '%' && atStart then do
    closeAll
    push (← scanning scanDirective)
  else if ch == '-' && atStart && c.atSeparator then do
    closeAll
    pushIndicator .documentStart 3
  else if ch == '.' && atStart && c.atSeparator then do
    closeAll
    pushIndicator .documentEnd 3
  else if ch == '[' then fetchFlowStart .flowSequenceStart
  else if ch == '\x7b' then fetchFlowStart .flowMappingStart
  else if ch == ']' then fetchFlowEnd .flowSequenceEnd
  else if ch == '\x7d' then fetchFlowEnd .flowMappingEnd
  else if ch == ',' then do
    allowKey true
    dropKey
    pushIndicator .flowEntry 1
  else if ch == '-' && gapNext then fetchBlockEntry
  else if ch == '?' && (s.inFlow || gapNext) then fetchKey
  else if ch == ':' && (s.inFlow || gapNext) then fetchValue
  else if ch == '*' || ch == '&' then fetchWord scanAnchor
  else if ch == '!' then fetchWord scanTag
  else if (ch == '|' || ch == '>') && !s.inFlow then fetchBlockScalar
  else if ch == '\'' || ch == '"' then fetchWord scanQuoted
  else if startsPlain s then fetchPlain
  else fun s =>
    .error (.marked (some (.scanning "for the next token", none)) (.cannotStartToken ch)
      s.cursor.mark)

/-- Whether more has to be read before the first token of the queue is certain. -/
def needsMore : Lex Bool := do
  let s ← get
  if s.done then return false
  else if s.queue.isEmpty then return true
  else
    dropStaleKeys
    let s ← get
    return s.keys.any fun (_, k) => k.number == s.taken

/-- Read until the first token of the queue is certain; by a count. -/
def fill : Nat → Lex Unit
  | 0 => return
  | n + 1 => do
    if ← needsMore then
      fetchMore
      fill n

/-- The next token, which stays in the queue. After the end it is the end. -/
def peekToken : Lex Token := do
  let s ← get
  fill (s.cursor.size + 2)
  let s ← get
  return s.queue.headD ⟨.streamEnd, s.cursor.mark, s.cursor.mark⟩

/-- The next token, taken from the queue. -/
def takeToken : Lex Token := do
  let t ← peekToken
  modify fun s => { s with queue := s.queue.tail, taken := s.taken + 1 }
  return t

end DocAudit.Yaml
