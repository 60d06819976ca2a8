import CallWire.Yaml.Cursor
import CallWire.Yaml.Plain
/-!
This module contains the writing of texts as YAML scalars: plain where that means the same text, a
block where the text has lines, and else between quotes.
-/

namespace CallWire

namespace Yaml

structure Analysis where
  startsBlank : Bool
  endsBlank : Bool
  hasBreak : Bool
  blankBeforeBreak : Bool
  blankAfterBreak : Bool
  special : Bool
  indicator : Bool
  deriving Repr, Inhabited

def isPrintable (c : Char) : Bool :=
  let n := c.toNat
  n = 0x0A || (0x20 ≤ n && n ≤ 0x7E) || (0xA0 ≤ n && n ≤ 0xD7FF)
    || (0xE000 ≤ n && n ≤ 0xFFFD && n ≠ 0xFEFF) || 0x10000 ≤ n

def hasPair (p q : Char → Bool) : List Char → Bool
  | a :: b :: rest => (p a && q b) || hasPair p q (b :: rest)
  | _ => false

def isSpace (c : Char) : Bool := c = ' '

def endsWordAt (c : Option Char) : Bool := Cursor.endsWord c || c = some '\x00'

def hasInnerIndicator : List Char → Bool
  | a :: b :: rest =>
    (b = ':' && endsWordAt rest.head?) || (b = '#' && endsWordAt (some a))
      || hasInnerIndicator (b :: rest)
  | _ => false

def hasIndicator (s : List Char) : Bool :=
  let lead := s.take 3
  lead = ['-', '-', '-'] || lead = ['.', '.', '.']
    || (match s with
      | [] => false
      | x :: rest =>
        "#,[]\x7b\x7d&*!|>'\"%@`".toList.contains x
          || ((x = '?' || x = ':' || x = '-') && endsWordAt rest.head?))
    || hasInnerIndicator s

def analyse (s : List Char) : Analysis where
  startsBlank := (s.head?.map (fun c => isSpace c || isBreak c)).getD false
  endsBlank := (s.getLast?.map (fun c => isSpace c || isBreak c)).getD false
  hasBreak := s.any isBreak
  blankBeforeBreak := hasPair isSpace isBreak s
  blankAfterBreak := hasPair isBreak isSpace s
  special := s.any (fun c => !isPrintable c)
  indicator := hasIndicator s

inductive Form where
  | plain
  | singleQuoted
  | doubleQuoted
  | literal
  deriving DecidableEq, Repr, Inhabited

def form (s : String) : Form :=
  let cs := s.toList
  let a := analyse cs
  let escaped := a.blankBeforeBreak || a.special
  if cs.contains '\n' then
    if escaped || cs.getLast? = some ' ' then .doubleQuoted else .literal
  else if Plain.isText s && !(a.startsBlank || a.endsBlank || a.hasBreak || escaped || a.indicator)
  then .plain
  else if escaped || a.blankAfterBreak then .doubleQuoted
  else .singleQuoted

def upperHexDigit (n : Nat) : Char := (Nat.digitChar (n % 16)).toUpper

def upperHex : (width : Nat) → Nat → List Char
  | 0, _ => []
  | width + 1, n => upperHex width (n / 16) ++ [upperHexDigit n]

def doubleQuotedChar (c : Char) : List Char :=
  if c = '\x00' then ['\\', '0']
  else if c = '\x07' then ['\\', 'a']
  else if c = '\x08' then ['\\', 'b']
  else if c = '\t' then ['\\', 't']
  else if c = '\n' then ['\\', 'n']
  else if c = '\x0b' then ['\\', 'v']
  else if c = '\x0c' then ['\\', 'f']
  else if c = '\r' then ['\\', 'r']
  else if c = '\x1b' then ['\\', 'e']
  else if c = '"' then ['\\', '"']
  else if c = '\\' then ['\\', '\\']
  else if c = '\x85' then ['\\', 'N']
  else if c = '\u2028' then ['\\', 'L']
  else if c = '\u2029' then ['\\', 'P']
  else if isPrintable c then [c]
  else if c.toNat ≤ 0xFF then '\\' :: 'x' :: upperHex 2 c.toNat
  else '\\' :: 'u' :: upperHex 4 c.toNat

def indented (indent : Nat) (afterBreak : Bool) : List Char :=
  if afterBreak then List.replicate indent ' ' else []

def singleQuotedChars (indent : Nat) : (afterBreak : Bool) → List Char → List Char
  | afterBreak, [] => indented indent afterBreak
  | afterBreak, c :: rest =>
    if isBreak c then c :: singleQuotedChars indent true rest
    else if isSpace c then c :: singleQuotedChars indent afterBreak rest
    else
      indented indent afterBreak ++ (if c = '\'' then ['\'', '\''] else [c])
        ++ singleQuotedChars indent false rest

def literalChars (indent : Nat) : (afterBreak : Bool) → List Char → List Char
  | _, [] => []
  | afterBreak, c :: rest =>
    if isBreak c then c :: literalChars indent true rest
    else indented indent afterBreak ++ c :: literalChars indent false rest

def literalMarks (s : List Char) : List Char :=
  let hint := if (s.head?.map (fun c => isSpace c || isBreak c)).getD false then ['2'] else []
  let chomp :=
    match s.reverse with
    | [] => ['-']
    | [last] => if isBreak last then ['+'] else ['-']
    | last :: before :: _ =>
      if !isBreak last then ['-'] else if isBreak before then ['+'] else []
  hint ++ chomp

def writeText (indent : Nat) (s : String) : List Char :=
  let cs := s.toList
  match form s with
  | .plain => cs ++ ['\n']
  | .singleQuoted => '\'' :: singleQuotedChars indent false cs ++ ['\'', '\n']
  | .doubleQuoted => '"' :: cs.flatMap doubleQuotedChar ++ ['"', '\n']
  | .literal =>
    let lines := literalChars indent true cs
    let close := if (cs.getLast?.map isBreak).getD false then [] else ['\n']
    '|' :: literalMarks cs ++ '\n' :: lines ++ close

end Yaml
end CallWire
