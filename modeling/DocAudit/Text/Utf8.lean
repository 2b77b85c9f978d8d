import DocAudit.Text.Quoted

/-!
# UTF-8

Decoding of bytes with the place and the reason of the first fault, and encoding.
-/

namespace DocAudit.Text

/-- What is wrong with a sequence of bytes. -/
inductive Utf8Cause where
  | invalidStart
  | invalidContinuation
  | unexpectedEnd
  deriving DecidableEq, Repr

/-- The bytes from `start` up to before `stop` are no character; `first` is the first of them. -/
structure Utf8Fault where
  start : Nat
  stop : Nat
  first : UInt8
  cause : Utf8Cause
  deriving DecidableEq, Repr

/-- The reason in words. -/
def Utf8Cause.message : Utf8Cause → String
  | invalidStart => "invalid start byte"
  | invalidContinuation => "invalid continuation byte"
  | unexpectedEnd => "unexpected end of data"

/-- The fault in words. -/
def Utf8Fault.message (f : Utf8Fault) : String :=
  if f.stop == f.start + 1 then
    "'utf-8' codec can't decode byte 0x" ++ String.ofList (hexDigits 2 f.first.toNat) ++
      s!" in position {f.start}: {f.cause.message}"
  else
    s!"'utf-8' codec can't decode bytes in position {f.start}-{f.stop - 1}: {f.cause.message}"

/-- A byte inside a character. -/
def isContinuation (b : UInt8) : Bool := 0x80 ≤ b && b ≤ 0xbf

/-- Whether `second` may follow the start byte `first`: overlong forms, surrogates and numbers
above the last code point are excluded. -/
def mayFollow (first second : UInt8) : Bool :=
  isContinuation second &&
    (if first == 0xe0 then 0xa0 ≤ second
    else if first == 0xed then second < 0xa0
    else if first == 0xf0 then 0x90 ≤ second
    else if first == 0xf4 then second < 0x90
    else true)

/-- The six low bits of a byte. -/
def lowSix (b : UInt8) : Nat := b.toNat % 64

/-- Decode bytes that begin at position `pos`. -/
def decodeFrom (pos : Nat) : List UInt8 → Except Utf8Fault (List Char)
  | [] => .ok []
  | b :: rest =>
    let fault (width : Nat) (cause : Utf8Cause) : Except Utf8Fault (List Char) :=
      .error ⟨pos, pos + width, b, cause⟩
    if b < 0x80 then (decodeFrom (pos + 1) rest).map (Char.ofNat b.toNat :: ·)
    else if b < 0xc2 || 0xf4 < b then fault 1 .invalidStart
    else
      match rest with
      | [] => fault 1 .unexpectedEnd
      | c :: rest =>
        if !mayFollow b c then fault 1 .invalidContinuation
        else if b < 0xe0 then
          (decodeFrom (pos + 2) rest).map (Char.ofNat (b.toNat % 32 * 64 + lowSix c) :: ·)
        else
          match rest with
          | [] => fault 2 .unexpectedEnd
          | d :: rest =>
            if !isContinuation d then fault 2 .invalidContinuation
            else if b < 0xf0 then
              (decodeFrom (pos + 3) rest).map
                (Char.ofNat (b.toNat % 16 * 4096 + lowSix c * 64 + lowSix d) :: ·)
            else
              match rest with
              | [] => fault 3 .unexpectedEnd
              | e :: rest =>
                if !isContinuation e then fault 3 .invalidContinuation
                else
                  (decodeFrom (pos + 4) rest).map
                    (Char.ofNat
                      (b.toNat % 8 * 262144 + lowSix c * 4096 + lowSix d * 64 + lowSix e) :: ·)

/-- Decode bytes. -/
def decode (bytes : List UInt8) : Except Utf8Fault (List Char) := decodeFrom 0 bytes

/-- The bytes of a character. -/
def encodeChar (c : Char) : List UInt8 :=
  let n := c.toNat
  if n < 0x80 then [UInt8.ofNat n]
  else if n < 0x800 then [UInt8.ofNat (0xc0 + n / 64), UInt8.ofNat (0x80 + n % 64)]
  else if n < 0x10000 then
    [UInt8.ofNat (0xe0 + n / 4096), UInt8.ofNat (0x80 + n / 64 % 64), UInt8.ofNat (0x80 + n % 64)]
  else
    [UInt8.ofNat (0xf0 + n / 262144), UInt8.ofNat (0x80 + n / 4096 % 64),
     UInt8.ofNat (0x80 + n / 64 % 64), UInt8.ofNat (0x80 + n % 64)]

/-- The bytes of a text. -/
def encode (s : List Char) : List UInt8 := s.flatMap encodeChar

end DocAudit.Text
