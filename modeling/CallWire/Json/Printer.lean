import CallWire.Json.Basic
import CallWire.Json.Shortest
/-!
This module contains the text of JSON values: compact, with the fewest escapes, or laid out over
lines with an indentation of two blanks.
-/

namespace CallWire

namespace Json

def hexDigit (n : Nat) : Char := Nat.digitChar (n % 16)

def escapeChar (c : Char) : List Char :=
  if c = '"' then ['\\', '"']
  else if c = '\\' then ['\\', '\\']
  else if c = '\x08' then ['\\', 'b']
  else if c = '\x0c' then ['\\', 'f']
  else if c = '\n' then ['\\', 'n']
  else if c = '\r' then ['\\', 'r']
  else if c = '\t' then ['\\', 't']
  else if c.toNat < 0x20 then ['\\', 'u', '0', '0', hexDigit (c.toNat / 16), hexDigit c.toNat]
  else [c]

def writeString (s : String) : List Char := '"' :: s.toList.flatMap escapeChar ++ ['"']

def writeInt : Int → List Char
  | .ofNat n => n.repr.toList
  | .negSucc n => '-' :: (n + 1).repr.toList

def writeNumber : Number → List Char
  | .int i => writeInt i
  | .double d => d.text

mutual

def write : Json → List Char
  | .null => ['n', 'u', 'l', 'l']
  | .bool true => ['t', 'r', 'u', 'e']
  | .bool false => ['f', 'a', 'l', 's', 'e']
  | .number n => writeNumber n
  | .string s => writeString s
  | .array items => '[' :: writeItems items ++ [']']
  | .object members => '\x7b' :: writeMembers members ++ ['\x7d']

def writeItems : List Json → List Char
  | [] => []
  | [v] => write v
  | v :: w :: more => write v ++ ',' :: writeItems (w :: more)

def writeMembers : List (String × Json) → List Char
  | [] => []
  | [(k, v)] => writeString k ++ ':' :: write v
  | (k, v) :: m :: more => writeString k ++ ':' :: write v ++ ',' :: writeMembers (m :: more)

end

def render (v : Json) : String := String.ofList (write v)

def lineBreak (depth : Nat) : List Char := '\n' :: List.replicate (2 * depth) ' '

mutual

def layOut (depth : Nat) : Json → List Char
  | .array [] => ['[', ']']
  | .array (v :: more) =>
    '[' :: lineBreak (depth + 1) ++ layOut (depth + 1) v ++ layOutItems (depth + 1) more
      ++ lineBreak depth ++ [']']
  | .object [] => ['\x7b', '\x7d']
  | .object ((k, v) :: more) =>
    '\x7b' :: lineBreak (depth + 1) ++ writeString k ++ ':' :: ' ' :: layOut (depth + 1) v
      ++ layOutMembers (depth + 1) more ++ lineBreak depth ++ ['\x7d']
  | v => write v

def layOutItems (depth : Nat) : List Json → List Char
  | [] => []
  | v :: more => ',' :: lineBreak depth ++ layOut depth v ++ layOutItems depth more

def layOutMembers (depth : Nat) : List (String × Json) → List Char
  | [] => []
  | (k, v) :: more =>
    ',' :: lineBreak depth ++ writeString k ++ ':' :: ' ' :: layOut depth v
      ++ layOutMembers depth more

end

def pretty (v : Json) : String := String.ofList (layOut 0 v)

end Json
end CallWire
