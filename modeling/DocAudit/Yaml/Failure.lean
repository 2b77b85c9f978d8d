import DocAudit.Calendar
import DocAudit.Text.Utf8
import DocAudit.Yaml.Mark

/-!
# Why a document cannot be read

A document fails for one of three reasons: it holds a character that no document may hold, its
syntax or structure is wrong at some place, or a scalar of a good form denotes no value. The first
two are faults of the document's notation, the third is a fault of a value.
-/

namespace DocAudit.Yaml

open Text

/-- What was being read when a problem appeared. -/
inductive Context where
  | scanning (what : String)
  | parsing (what : String)
  | constructing (what : String)
  | firstAnchor (name : String)
  | singleDocument
  deriving DecidableEq, Repr

/-- What is wrong at a place of a document. -/
inductive Problem where
  | cannotStartToken (c : Char)
  | missingColon
  | entryNotAllowed
  | keyNotAllowed
  | valueNotAllowed
  | expectedName (c : Char)
  | expectedDigitOrDot (c : Char)
  | expectedDigitOrSpace (c : Char)
  | expectedDigit (c : Char)
  | expectedSpace (c : Char)
  | expectedLineEnd (c : Char)
  | expectedTagEnd (c : Char)
  | zeroIndentation
  | expectedBlockIndicator (c : Char)
  | expectedHexadecimal (count : Nat) (c : Char)
  | unknownEscape (c : Char)
  | endInQuoted
  | separatorInQuoted
  | expectedBang (c : Char)
  | expectedUri (c : Char)
  | expectedUriEscape (c : Char)
  | undecodableUri (fault : Utf8Fault)
  | expectedDocumentStart (found : String)
  | duplicateVersion
  | incompatibleVersion
  | duplicateHandle (handle : String)
  | undefinedHandle (handle : String)
  | expectedContent (found : String)
  | expectedBlockEnd (found : String)
  | expectedSequenceEnd (found : String)
  | expectedMappingEnd (found : String)
  | undefinedAlias (name : String)
  | secondAnchor
  | anotherDocument
  | expectedNode (wanted : String) (found : String)
  | unhashableKey
  | mergeOfNonMapping (found : String)
  | mergeOfNonMappings (found : String)
  | expectedSequence (found : String)
  | expectedSingleMapping (found : String)
  | expectedSingleEntry (count : Nat)
  | unknownTag (tag : String)
  | binaryNotAscii (c : Char) (position count : Nat)
  | binaryPadding
  | binaryLength (count : Nat)
  deriving DecidableEq, Repr

/-- Why a scalar of a good form denotes no value. -/
inductive ScalarFault where
  | notAnInteger (base : Nat) (text : String)
  | tooManyDigits (count : Nat)
  | notANumber (text : String)
  | emptyNumber
  | notABoolean (text : String)
  | notATimestamp
  | noSuchTime (fault : CalendarFault)
  | noSuchCharacter
  | characterTooLarge
  /-- An escape denotes half of a pair of code units, which is no character. No text can hold it, so
  what becomes of it is not modelled. -/
  | halfOfPair
  deriving DecidableEq, Repr

/-- Why a document cannot be read. -/
inductive Failure where
  | unprintable (code : Nat) (position : Nat)
  | marked (context : Option (Context × Option Mark)) (problem : Problem) (place : Mark)
  | scalar (fault : ScalarFault)
  | tooDeep
  deriving DecidableEq, Repr

/-- The context in words. -/
def Context.message : Context → String
  | scanning what => "while scanning " ++ what
  | parsing what => "while parsing " ++ what
  | constructing what => "while constructing " ++ what
  | firstAnchor name => s!"found duplicate anchor {quotedString name}; first occurrence"
  | singleDocument => "expected a single document in the stream"

/-- The problem in words. -/
def Problem.message : Problem → String
  | cannotStartToken c => s!"found character {quotedChar c} that cannot start any token"
  | missingColon => "could not find expected ':'"
  | entryNotAllowed => "sequence entries are not allowed here"
  | keyNotAllowed => "mapping keys are not allowed here"
  | valueNotAllowed => "mapping values are not allowed here"
  | expectedName c => s!"expected alphabetic or numeric character, but found {quotedChar c}"
  | expectedDigitOrDot c => s!"expected a digit or '.', but found {quotedChar c}"
  | expectedDigitOrSpace c => s!"expected a digit or ' ', but found {quotedChar c}"
  | expectedDigit c => s!"expected a digit, but found {quotedChar c}"
  | expectedSpace c => s!"expected ' ', but found {quotedChar c}"
  | expectedLineEnd c => s!"expected a comment or a line break, but found {quotedChar c}"
  | expectedTagEnd c => s!"expected '>', but found {quotedChar c}"
  | zeroIndentation => "expected indentation indicator in the range 1-9, but found 0"
  | expectedBlockIndicator c =>
    s!"expected chomping or indentation indicators, but found {quotedChar c}"
  | expectedHexadecimal n c =>
    s!"expected escape sequence of {n} hexadecimal numbers, but found {quotedChar c}"
  | unknownEscape c => s!"found unknown escape character {quotedChar c}"
  | endInQuoted => "found unexpected end of stream"
  | separatorInQuoted => "found unexpected document separator"
  | expectedBang c => s!"expected '!', but found {quotedChar c}"
  | expectedUri c => s!"expected URI, but found {quotedChar c}"
  | expectedUriEscape c =>
    s!"expected URI escape sequence of 2 hexadecimal numbers, but found {quotedChar c}"
  | undecodableUri fault => fault.message
  | expectedDocumentStart found => s!"expected '<document start>', but found {quotedString found}"
  | duplicateVersion => "found duplicate YAML directive"
  | incompatibleVersion => "found incompatible YAML document (version 1.* is required)"
  | duplicateHandle handle => s!"duplicate tag handle {quotedString handle}"
  | undefinedHandle handle => s!"found undefined tag handle {quotedString handle}"
  | expectedContent found => s!"expected the node content, but found {quotedString found}"
  | expectedBlockEnd found => s!"expected <block end>, but found {quotedString found}"
  | expectedSequenceEnd found => s!"expected ',' or ']', but got {quotedString found}"
  | expectedMappingEnd found => "expected ',' or '\x7d', but got " ++ quotedString found
  | undefinedAlias name => s!"found undefined alias {quotedString name}"
  | secondAnchor => "second occurrence"
  | anotherDocument => "but found another document"
  | expectedNode wanted found => s!"expected a {wanted} node, but found {found}"
  | unhashableKey => "found unhashable key"
  | mergeOfNonMapping found => s!"expected a mapping for merging, but found {found}"
  | mergeOfNonMappings found =>
    s!"expected a mapping or list of mappings for merging, but found {found}"
  | expectedSequence found => s!"expected a sequence, but found {found}"
  | expectedSingleMapping found => s!"expected a mapping of length 1, but found {found}"
  | expectedSingleEntry n => s!"expected a single mapping item, but found {n} items"
  | unknownTag tag => s!"could not determine a constructor for the tag {quotedString tag}"
  | binaryNotAscii c position count =>
    "failed to convert base64 data into ascii: 'ascii' codec can't encode character" ++
      (if count == 1 then s!" '{String.ofList (escapeCode c.toNat)}' in position {position}"
      else s!"s in position {position}-{position + count - 1}") ++ ": ordinal not in range(128)"
  | binaryPadding => "failed to decode base64 data: Incorrect padding"
  | binaryLength n =>
    s!"failed to decode base64 data: Invalid base64-encoded string: number of data characters ({n}) cannot be 1 more than a multiple of 4"

/-- The message of an integer with too many digits to be read. -/
def tooManyDigitsMessage (count : Nat) : String :=
  s!"Exceeds the limit ({maxDigits} digits) for integer string conversion: value has {count} digits; use sys.set_int_max_str_digits() to increase the limit"

/-- The message of a text that is no integer. -/
def notAnIntegerMessage (base : Nat) (text : String) : String :=
  s!"invalid literal for int() with base {base}: " ++
    String.ofList ((quoted text.toList).take 200)

/-- The fault in words. -/
def ScalarFault.message : ScalarFault → String
  | notAnInteger base text => notAnIntegerMessage base text
  | tooManyDigits n => tooManyDigitsMessage n
  | notANumber text => s!"could not convert string to float: {quotedString text}"
  | emptyNumber => "string index out of range"
  | notABoolean text => quotedString text
  | notATimestamp => "'NoneType' object has no attribute 'groupdict'"
  | noSuchTime fault => fault.message
  | noSuchCharacter => "chr() arg not in range(0x110000)"
  | characterTooLarge => "Python int too large to convert to C int"
  | halfOfPair => "surrogates not allowed"

namespace Failure

/-- The failure in words, with the places it names in the text. -/
def message (text : List Char) : Failure → String
  | unprintable code position =>
    "unacceptable character #x" ++ String.ofList (hexDigits 4 code) ++
      ": special characters are not allowed\n" ++ s!"  in \"<unicode string>\", position {position}"
  | marked context problem place =>
    let before :=
      match context with
      | none => []
      | some (c, none) => [c.message]
      | some (c, some m) =>
        if m.line == place.line && m.column == place.column then [c.message]
        else [c.message, m.describe text]
    "\n".intercalate (before ++ [problem.message, place.describe text])
  | scalar fault => fault.message
  | tooDeep => "nested too deeply"

/-- The problem alone in words. -/
def problemMessage (text : List Char) : Failure → String
  | marked _ problem _ => problem.message
  | f => f.message text

/-- The number of the line that the problem stands in, from one. -/
def line? : Failure → Option Nat
  | marked _ _ place => some (place.line + 1)
  | _ => none

end Failure

end DocAudit.Yaml
