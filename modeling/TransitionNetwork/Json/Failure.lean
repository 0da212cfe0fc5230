import TransitionNetwork.Decimal.Shortest
import TransitionNetwork.Json.Byte
import TransitionNetwork.Text.Visible

/-!
# Failures of reading JSON

A failure has a cause and a place. The place depends on how the text arrives. Where a whole text
is at hand, a byte that was only looked at does not count as read; in a stream it does, because
looking at it has taken it from the stream. So a failure says how many bytes were left unread and
how far the reader had looked, and the place is worked out from that at the end.
-/

set_option autoImplicit false

namespace TransitionNetwork.Json

/-- A value as it was found where another was expected. -/
inductive Found where
  | null
  | boolean (value : Bool)
  | integer (value : Int)
  | float (value : Float)
  | text (value : String)
  | array
  | object

def Found.describe : Found → String
  | null => "null"
  | boolean value => "boolean `" ++ toString value ++ "`"
  | integer value => "integer `" ++ toString value ++ "`"
  | float value => "floating point `" ++ Decimal.shortest value ++ "`"
  | text value => "string " ++ Text.visible value
  | array => "sequence"
  | object => "map"

/-- The kinds of text that can be cut off. -/
inductive Unfinished where
  | value
  | array
  | object
  | text
  deriving DecidableEq

inductive Cause where
  | endOf (unfinished : Unfinished)
  | misspelledLiteral
  | noValue
  | noColon
  | noCommaInArray
  | noCommaInObject
  | trailingComma
  | trailingCharacters
  | keyNotText
  | controlCharacter
  | invalidEscape
  | loneSurrogate
  | missingSurrogate
  | invalidEncoding
  | invalidNumber
  | numberOutOfRange
  | wrongType (found : Found) (expected : String)
  | wrongValue (found : Found) (expected : String)
  | wrongLength (length : Nat) (expected : String)
  | unknownVariant (name : String) (known : List String)
  | duplicateField (name : String)
  | missingField (name : String)

def Unfinished.describe : Unfinished → String
  | value => "a value"
  | array => "a list"
  | object => "an object"
  | text => "a string"

def Cause.message : Cause → String
  | endOf unfinished => "EOF while parsing " ++ unfinished.describe
  | misspelledLiteral => "expected ident"
  | noValue => "expected value"
  | noColon => "expected `:`"
  | noCommaInArray => "expected `,` or `]`"
  | noCommaInObject => "expected `,` or `\x7d`"
  | trailingComma => "trailing comma"
  | trailingCharacters => "trailing characters"
  | keyNotText => "key must be a string"
  | controlCharacter => "control character (\\u0000-\\u001F) found while parsing a string"
  | invalidEscape => "invalid escape"
  | loneSurrogate => "lone leading surrogate in hex escape"
  | missingSurrogate => "unexpected end of hex escape"
  | invalidEncoding => "invalid unicode code point"
  | invalidNumber => "invalid number"
  | numberOutOfRange => "number out of range"
  | wrongType found expected => "invalid type: " ++ found.describe ++ ", expected " ++ expected
  | wrongValue found expected => "invalid value: " ++ found.describe ++ ", expected " ++ expected
  | wrongLength length expected => "invalid length " ++ toString length ++ ", expected " ++ expected
  | unknownVariant name known =>
    "unknown variant `" ++ name ++ "`, expected one of " ++
      ", ".intercalate (known.map fun variant => "`" ++ variant ++ "`")
  | duplicateField name => "duplicate field `" ++ name ++ "`"
  | missingField name => "missing field `" ++ name ++ "`"

/-- How far the reader had looked when it failed, and which byte it complains about. -/
inductive Mark where
  /-- It complains about what it has read, and has looked no further. -/
  | behind
  /-- It complains about what it has read, and has looked at the next byte to see it end. -/
  | ended
  /-- It complains about the next byte, which it has looked at. -/
  | ahead
  deriving DecidableEq

structure Failure where
  cause : Cause
  unread : Nat
  mark : Mark

/-- How a text arrives: as a whole, or byte by byte. -/
inductive Source where
  | text
  | stream
  deriving DecidableEq

/-- A byte that was looked at counts if the failure is about it or if it had to be taken. -/
def Mark.countsNext : Mark → Source → Bool
  | behind, _ => false
  | ended, source => source == .stream
  | ahead, _ => true

/-- The number of bytes in front of the place of a failure in a text of `length` bytes. -/
def Failure.offset (failure : Failure) (source : Source) (length : Nat) : Nat :=
  let read := length - failure.unread
  if failure.mark.countsNext source then min (read + 1) length else read

/-- A failure as it is told: the line counts from one, the column is the number of bytes that
stand before the place on its line. -/
structure Error where
  cause : Cause
  line : Nat
  column : Nat

def Error.message (error : Error) : String :=
  error.cause.message ++ " at line " ++ toString error.line ++ " column " ++ toString error.column

def Failure.locate (failure : Failure) (source : Source) (input : List UInt8) : Error :=
  let before := input.take (failure.offset source input.length)
  { cause := failure.cause
    line := before.count Byte.lineFeed + 1
    column := (before.reverse.takeWhile (· != Byte.lineFeed)).length }

end TransitionNetwork.Json
