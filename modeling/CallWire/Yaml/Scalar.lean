import CallWire.Yaml.Cursor
/-!
This module contains the scalars of YAML texts: plain ones, quoted ones and blocks, each with the
rules by which its lines are joined.
-/

namespace CallWire

namespace Yaml

inductive Style where
  | plain
  | singleQuoted
  | doubleQuoted
  | literal
  | folded
  deriving DecidableEq, Repr, Inhabited

structure Gap where
  blanks : List Char := []
  firstBreak : List Char := []
  moreBreaks : List Char := []
  broken : Bool := false
  deriving Repr, Inhabited

namespace Gap

/-- What a gap reads as. A single line break is a blank; of more breaks the first one is dropped. -/
def text (g : Gap) : List Char :=
  if !g.broken then g.blanks
  else if g.firstBreak = ['\n'] then
    if g.moreBreaks.isEmpty then [' '] else g.moreBreaks
  else g.firstBreak ++ g.moreBreaks

end Gap

def readGap (indent : Nat) : (fuel : Nat) → Gap → Cursor → Option (Gap × Cursor)
  | 0, g, c => some (g, c)
  | fuel + 1, g, c =>
    match c.peek? with
    | none => some (g, c)
    | some x =>
      if isBlank x then
        if g.broken then
          if x = '\t' ∧ c.column < indent then none else readGap indent fuel g (c.skip 1)
        else readGap indent fuel { g with blanks := g.blanks ++ [x] } (c.skip 1)
      else if isBreak x then
        if g.broken then
          readGap indent fuel { g with moreBreaks := g.moreBreaks ++ c.breakText } c.skipBreak
        else
          readGap indent fuel { g with blanks := [], firstBreak := c.breakText, broken := true }
            c.skipBreak
      else some (g, c)

def isFlowMark (x : Char) : Bool := x = ',' || x = '[' || x = ']' || x = '\x7b' || x = '\x7d'

def readPlainWord (inFlow : Bool) : List Char → Option (List Char)
  | [] => some []
  | x :: rest =>
    if isBlank x || isBreak x then some []
    else if inFlow && x = ':' && (rest.head?.map (fun y => y = '?' || isFlowMark y)).getD false then
      none
    else if x = ':' && Cursor.endsWord rest.head? then some []
    else if inFlow && isFlowMark x then some []
    else (readPlainWord inFlow rest).map (x :: ·)

/-- A scalar and the place after it. `broken` tells that the place is on a later line. -/
structure Scanned where
  text : List Char
  after : Cursor
  broken : Bool := false
  deriving Repr, Inhabited

def readPlain (inFlow : Bool) (indent : Nat) :
    (fuel : Nat) → (read : List Char) → Gap → Cursor → Option Scanned
  | 0, read, g, c => some { text := read, after := c, broken := g.broken }
  | fuel + 1, read, g, c =>
    if c.isAtDocumentMark || c.isAt '#' then
      some { text := read, after := c, broken := g.broken }
    else
      match readPlainWord inFlow c.rest with
      | none => none
      | some word =>
        let (read, g) := if word.isEmpty then (read, g) else (read ++ g.text ++ word, {})
        let c := c.skip word.length
        if !(c.peek?.map (fun x => isBlank x || isBreak x)).getD false then
          some { text := read, after := c, broken := g.broken }
        else
          match readGap indent c.rest.length g c with
          | none => none
          | some (g, c) =>
            if !inFlow && c.column < indent then
              some { text := read, after := c, broken := g.broken }
            else readPlain inFlow indent fuel read g c

def hexDigit? (c : Char) : Option Nat :=
  if c.isDigit then some (c.toNat - '0'.toNat)
  else if 'a' ≤ c ∧ c ≤ 'f' then some (c.toNat - 'a'.toNat + 10)
  else if 'A' ≤ c ∧ c ≤ 'F' then some (c.toNat - 'A'.toNat + 10)
  else none

def readCodePoint (digits : Nat) (s : List Char) : Option (Char × Nat) :=
  let taken := s.take digits
  if taken.length < digits then none
  else
    match taken.mapM hexDigit? with
    | none => none
    | some values =>
      let n := values.foldl (fun n d => n * 16 + d) 0
      if n.isValidChar then some (Char.ofNat n, 2 + digits) else none

def readEscape : List Char → Option (Char × Nat)
  | [] => none
  | x :: rest =>
    match x with
    | '0' => some ('\x00', 2)
    | 'a' => some ('\x07', 2)
    | 'b' => some ('\x08', 2)
    | 't' => some ('\t', 2)
    | '\t' => some ('\t', 2)
    | 'n' => some ('\n', 2)
    | 'v' => some ('\x0b', 2)
    | 'f' => some ('\x0c', 2)
    | 'r' => some ('\r', 2)
    | 'e' => some ('\x1b', 2)
    | ' ' => some (' ', 2)
    | '"' => some ('"', 2)
    | '/' => some ('/', 2)
    | '\\' => some ('\\', 2)
    | 'N' => some ('\x85', 2)
    | '_' => some ('\xa0', 2)
    | 'L' => some ('\u2028', 2)
    | 'P' => some ('\u2029', 2)
    | 'x' => readCodePoint 2 rest
    | 'u' => readCodePoint 4 rest
    | 'U' => readCodePoint 8 rest
    | _ => none

def readQuotedWord (quote : Char) :
    (fuel : Nat) → (read : List Char) → Cursor → Option (List Char × Bool × Cursor)
  | 0, read, c => some (read, false, c)
  | fuel + 1, read, c =>
    match c.peek? with
    | none => some (read, false, c)
    | some x =>
      if isBlank x || isBreak x then some (read, false, c)
      else if quote = '\'' ∧ x = '\'' ∧ c.ahead? 1 = some '\'' then
        readQuotedWord quote fuel (read ++ ['\'']) (c.skip 2)
      else if x = quote then some (read, false, c)
      else if quote = '"' ∧ x = '\\' then
        if (c.ahead? 1).any isBreak then some (read, true, (c.skip 1).skipBreak)
        else
          match readEscape (c.rest.drop 1) with
          | none => none
          | some (y, taken) => readQuotedWord quote fuel (read ++ [y]) (c.skip taken)
      else readQuotedWord quote fuel (read ++ [x]) (c.skip 1)

def readQuoted (quote : Char) : (fuel : Nat) → (read : List Char) → Cursor → Option Scanned
  | 0, _, _ => none
  | fuel + 1, read, c =>
    if c.isAtDocumentMark || c.isAtEnd then none
    else
      match readQuotedWord quote c.rest.length read c with
      | none => none
      | some (read, escapedBreak, c) =>
        if c.isAt quote then some { text := read, after := c.skip 1 }
        else
          match readGap 0 c.rest.length { broken := escapedBreak } c with
          | none => none
          | some (g, c) => readQuoted quote fuel (read ++ g.text) c

inductive Chomping where
  | strip
  | clip
  | keep
  deriving DecidableEq, Repr, Inhabited

def readBlockMarks (c : Cursor) : Option (Chomping × Nat × Cursor) :=
  let chomping? : Option Char → Option Chomping
    | some '+' => some .keep
    | some '-' => some .strip
    | _ => none
  let digit? : Option Char → Option Nat := fun x => x.bind (fun x =>
    if x.isDigit then some (x.toNat - '0'.toNat) else none)
  match chomping? c.peek? with
  | some chomping =>
    match digit? (c.ahead? 1) with
    | some 0 => none
    | some n => some (chomping, n, c.skip 2)
    | none => some (chomping, 0, c.skip 1)
  | none =>
    match digit? c.peek? with
    | some 0 => none
    | some n =>
      match chomping? (c.ahead? 1) with
      | some chomping => some (chomping, n, c.skip 2)
      | none => some (.clip, n, c.skip 1)
    | none => some (.clip, 0, c)

/--
The empty lines before a line of a block: their breaks, the deepest of their indentations, and the
place of the line's text. An indentation of zero is not known yet. The fuel is the length of the
text.
-/
def readBlockBreaks (indent : Nat) :
    (fuel : Nat) → (breaks : List Char) → (deepest : Nat) → Cursor →
    Option (List Char × Nat × Cursor)
  | 0, breaks, deepest, c => some (breaks, deepest, c)
  | fuel + 1, breaks, deepest, c =>
    let blanks := (c.rest.takeWhile (· = ' ')).length
    let c := c.skip (if indent = 0 then blanks else min blanks (indent - c.column))
    let deepest := max deepest c.column
    if c.isAt '\t' && (indent = 0 || c.column < indent) then none
    else if (c.peek?.map isBreak).getD false then
      readBlockBreaks indent fuel (breaks ++ c.breakText) deepest c.skipBreak
    else some (breaks, deepest, c)

structure BlockLines where
  read : List Char := []
  lastBreak : List Char := []
  moreBreaks : List Char := []
  indented : Bool := false
  deriving Repr, Inhabited

def readBlockLines (folded : Bool) (indent : Nat) :
    (fuel : Nat) → BlockLines → Cursor → Option (BlockLines × Cursor)
  | 0, b, c => some (b, c)
  | fuel + 1, b, c =>
    if c.column ≠ indent || c.isAtEnd then some (b, c)
    else
      let indented := (c.peek?.map isBlank).getD false
      let joined :=
        if folded && b.lastBreak = ['\n'] && !b.indented && !indented then
          if b.moreBreaks.isEmpty then [' '] else []
        else b.lastBreak
      let (line, c) := c.span (fun x => !isBreak x)
      let read := b.read ++ joined ++ b.moreBreaks ++ line
      let lastBreak := c.breakText
      let c := c.skipBreak
      match readBlockBreaks indent c.rest.length.succ [] 0 c with
      | none => none
      | some (moreBreaks, _, c) =>
        readBlockLines folded indent fuel { read, lastBreak, moreBreaks, indented } c

def readBlock (folded : Bool) (outer : Nat) (c : Cursor) : Option Scanned :=
  match readBlockMarks c with
  | none => none
  | some (chomping, increment, c) =>
    let c := c.skipWhile isBlank
    let c := if c.isAt '#' then c.toLineEnd else c
    if !Cursor.endsLine c.peek? then none
    else
      let c := c.skipBreak
      let indent := if increment = 0 then 0 else outer - 1 + increment
      match readBlockBreaks indent c.rest.length.succ [] 0 c with
      | none => none
      | some (breaks, deepest, c) =>
        let indent := if indent = 0 then max 1 (max deepest outer) else indent
        match readBlockLines folded indent c.rest.length.succ { moreBreaks := breaks } c with
        | none => none
        | some (b, c) =>
          let last := if chomping = .strip then [] else b.lastBreak
          let more := if chomping = .keep then b.moreBreaks else []
          some { text := b.read ++ last ++ more, after := c }

end Yaml
end CallWire
