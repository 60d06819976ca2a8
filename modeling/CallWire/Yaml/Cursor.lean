/-!
This module contains places in YAML texts: the text that is left, with the line and the column of
its front.
-/

namespace CallWire

namespace Yaml

def isBreak (c : Char) : Bool :=
  c = '\n' || c = '\r' || c = '\x85' || c = '\u2028' || c = '\u2029'

def isBlank (c : Char) : Bool := c = ' ' || c = '\t'

def isWordChar (c : Char) : Bool := c.isAlphanum || c = '-' || c = '_'

def isAllowed (c : Char) : Bool :=
  let n := c.toNat
  n = 9 || n = 10 || n = 13 || (0x20 ≤ n && n ≤ 0x7E) || n = 0x85 || (0xA0 ≤ n && n ≤ 0xD7FF)
    || (0xE000 ≤ n && n ≤ 0xFFFD) || 0x10000 ≤ n

structure Cursor where
  rest : List Char
  index : Nat := 0
  line : Nat := 0
  column : Nat := 0
  deriving Repr, Inhabited

namespace Cursor

def peek? (c : Cursor) : Option Char := c.rest.head?

def ahead? (c : Cursor) (n : Nat) : Option Char := (c.rest.drop n).head?

def isAt (c : Cursor) (x : Char) : Bool := c.peek? == some x

def isAtEnd (c : Cursor) : Bool := c.rest.isEmpty

def endsWord : Option Char → Bool
  | none => true
  | some x => isBlank x || isBreak x

def endsLine : Option Char → Bool
  | none => true
  | some x => isBreak x

def skip (c : Cursor) (n : Nat) : Cursor :=
  let n := min n c.rest.length
  { c with rest := c.rest.drop n, index := c.index + n, column := c.column + n }

def skipBreak (c : Cursor) : Cursor :=
  match c.rest with
  | '\r' :: '\n' :: rest => { rest, index := c.index + 2, line := c.line + 1, column := 0 }
  | x :: rest =>
    if isBreak x then { rest, index := c.index + 1, line := c.line + 1, column := 0 } else c
  | [] => c

def breakText (c : Cursor) : List Char :=
  match c.peek? with
  | some x => if x = '\u2028' ∨ x = '\u2029' then [x] else if isBreak x then ['\n'] else []
  | none => []

def span (c : Cursor) (p : Char → Bool) : List Char × Cursor :=
  let taken := c.rest.takeWhile p
  (taken, c.skip taken.length)

def skipWhile (c : Cursor) (p : Char → Bool) : Cursor := (c.span p).2

def toLineEnd (c : Cursor) : Cursor := c.skipWhile (fun x => !isBreak x)

def isAtMark (c : Cursor) (x : Char) : Bool :=
  c.column = 0 && c.rest.take 3 = [x, x, x] && endsWord (c.ahead? 3)

def isAtDocumentMark (c : Cursor) : Bool := c.isAtMark '-' || c.isAtMark '.'

end Cursor
end Yaml
end CallWire
