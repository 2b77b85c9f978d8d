import DocAudit.Text.Letter
import DocAudit.Text.Search
import DocAudit.Text.Utf8

/-!
# Access to the server

A request is let through if it carries the token of the server, in the header for authorization or
in its query. No request needs a token if the server has none, and none does that asks whether the
server is well.
-/

namespace DocAudit.Server

open Text

/-- A request. Its header values are texts whose characters stand for single bytes. -/
structure Request where
  path : String
  /-- The query as it was sent, its characters standing for single bytes. -/
  query : String
  /-- The headers in order, their names in lower case. -/
  headers : List (String × String)
  deriving DecidableEq, Repr

/-! ## Queries -/

/-- Decode bytes; those that are no character are replaced by a mark each time. `fuel` is a bound
for the number of faults. -/
def decodeLeniently (fuel : Nat) (bytes : List UInt8) : List Char :=
  match fuel, decode bytes with
  | _, .ok cs => cs
  | 0, .error _ => []
  | fuel + 1, .error f =>
    (decode (bytes.take f.start)).toOption.getD [] ++
      Char.ofNat 0xfffd :: decodeLeniently fuel (bytes.drop f.stop)

/-- The bytes of ASCII text in which a percent sign and two hexadecimal digits stand for a byte. -/
def percentBytes : List Char → List UInt8
  | [] => []
  | '%' :: a :: b :: s =>
    if isHexDigit a && isHexDigit b then
      UInt8.ofNat (hexValue a * 16 + hexValue b) :: percentBytes s
    else 0x25 :: percentBytes (a :: b :: s)
  | c :: s => UInt8.ofNat c.toNat :: percentBytes s

/-- An ASCII character. -/
def isAscii (c : Char) : Bool := c.toNat < 128

/-- The text that a part of a query spells: a plus sign is a space, and the ASCII runs of the part
spell bytes. -/
def decodePart (s : List Char) : List Char :=
  ((s.map fun c => if c == '+' then ' ' else c).splitBy fun a b => isAscii a == isAscii b).flatMap
    fun run =>
      if run.all isAscii then
        let bytes := percentBytes run
        decodeLeniently bytes.length bytes
      else run

/-- The names and values of a query in order. -/
def parameters (query : List Char) : List (List Char × List Char) :=
  ((splitOn '&' query).filter fun part => !part.isEmpty).map fun part =>
    (decodePart (part.takeWhile (· != '=')), decodePart ((part.dropWhile (· != '=')).drop 1))

/-- The value that a query gives last to a name. -/
def Request.parameter? (r : Request) (name : String) : Option String :=
  (((parameters r.query.toList).reverse).lookup name.toList).map String.ofList

/-! ## Tokens -/

/-- The first value of a header. -/
def Request.header? (r : Request) (name : String) : Option String := r.headers.lookup name

/-- The credentials in the header for authorization, if they are of the right scheme. -/
def Request.credentials? (r : Request) : Option String :=
  match cutAt ' ' ((r.header? "authorization").getD "").toList with
  | some (scheme, c :: credentials) =>
    if lower scheme == "bearer".toList then some (String.ofList (trim (c :: credentials))) else none
  | _ => none

/-- The token that a request carries, or the empty text. -/
def Request.token (r : Request) : String :=
  (r.credentials?.or (r.parameter? "token")).getD ""

/-- Where the server says whether it is well. -/
def healthPath : String := "/health"

/-- The path of the address that a request names: what stands before a question mark or a number
sign, without tabs and line ends. -/
def Request.place (r : Request) : String :=
  String.ofList <|
    (r.path.toList.takeWhile fun c => c != '?' && c != '#').filter fun c =>
      c != '\t' && c != '\n' && c != '\r'

/-- Whether a server with a token lets a request through. -/
def admits (token : String) (r : Request) : Bool :=
  token.isEmpty || r.place == healthPath || r.token == token

/-- What a client is told. -/
structure Response where
  status : Nat
  /-- How to ask again with a token. -/
  challenge : Option String
  body : String
  deriving DecidableEq, Repr

/-- The response to a request that is not let through. -/
def refusal : Response where
  status := 401
  challenge := some "Bearer realm=\"doc-engine\""
  body :=
    "\x7b\"error\":\"Unauthorized\",\"message\":\"doc-engine token is missing or invalid\"\x7d"

/-- The response to a request in front of what would answer it. -/
def guard (token : String) (inner : Request → Response) (r : Request) : Response :=
  if admits token r then inner r else refusal

end DocAudit.Server
