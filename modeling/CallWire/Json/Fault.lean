import CallWire.Json.Basic
/-!
This module contains the ways in which a text fails to be JSON, and where in the text each of them
shows.
-/

namespace CallWire

inductive SyntaxFault where
  | endInList
  | endInObject
  | endInString
  | endInValue
  | expectedColon
  | expectedListCommaOrEnd
  | expectedObjectCommaOrEnd
  | expectedWord
  | expectedValue
  | invalidEscape
  | invalidNumber
  | numberOutOfRange
  | loneSurrogate
  | unfinishedSurrogatePair
  | controlCharacter
  | keyNotString
  | trailingComma
  | trailingCharacters
  | tooDeep
  deriving DecidableEq, Repr, Inhabited

namespace SyntaxFault

def isEnd : SyntaxFault → Bool
  | .endInList | .endInObject | .endInString | .endInValue => true
  | _ => false

def message : SyntaxFault → String
  | .endInList => "EOF while parsing a list"
  | .endInObject => "EOF while parsing an object"
  | .endInString => "EOF while parsing a string"
  | .endInValue => "EOF while parsing a value"
  | .expectedColon => "expected `:`"
  | .expectedListCommaOrEnd => "expected `,` or `]`"
  | .expectedObjectCommaOrEnd => "expected `,` or `\x7d`"
  | .expectedWord => "expected ident"
  | .expectedValue => "expected value"
  | .invalidEscape => "invalid escape"
  | .invalidNumber => "invalid number"
  | .numberOutOfRange => "number out of range"
  | .loneSurrogate => "lone leading surrogate in hex escape"
  | .unfinishedSurrogatePair => "unexpected end of hex escape"
  | .controlCharacter => "control character (\\u0000-\\u001F) found while parsing a string"
  | .keyNotString => "key must be a string"
  | .trailingComma => "trailing comma"
  | .trailingCharacters => "trailing characters"
  | .tooDeep => "recursion limit exceeded"

end SyntaxFault

structure Stop where
  fault : SyntaxFault
  rest : List Char
  ahead : Nat
  deriving Repr, Inhabited

abbrev ReadStep (α : Type) := Except Stop (α × List Char)

namespace Stop

def here {α} (fault : SyntaxFault) (rest : List Char) : Except Stop α := .error ⟨fault, rest, 0⟩

def past {α} (fault : SyntaxFault) (rest : List Char) : Except Stop α := .error ⟨fault, rest, 1⟩

end Stop

structure SyntaxError where
  fault : SyntaxFault
  line : Nat
  column : Nat
  deriving DecidableEq, Repr, Inhabited

namespace SyntaxError

def position (bytes : List UInt8) : Nat × Nat :=
  bytes.foldl step (1, 0)
where
  step (place : Nat × Nat) (byte : UInt8) : Nat × Nat :=
    if byte = 10 then (place.1 + 1, 0) else (place.1, place.2 + 1)

def byteCount (text : List Char) : Nat := text.foldl (fun n c => n + c.utf8Size) 0

def ofStop (text : String) (stop : Stop) : SyntaxError :=
  let total := text.utf8ByteSize
  let read := min total (total - byteCount stop.rest + stop.ahead)
  let (line, column) := position (text.toUTF8.extract 0 read).toList
  ⟨stop.fault, line, column⟩

def message (e : SyntaxError) : String :=
  e.fault.message ++ " at line " ++ e.line.repr ++ " column " ++ e.column.repr

end SyntaxError
end CallWire
