import CallWire.Text.Bytes
import CallWire.Yaml.Scalar
/-!
This module contains the tokens of YAML texts. Indentation becomes tokens that open and close block
collections. That a word is a key shows only at the colon after it, so a place is kept for each word
that may turn out to be one.
-/

namespace CallWire

namespace Yaml

inductive Token where
  | versionDirective (major minor : Nat)
  | tagDirective (handle lead : String)
  | documentStart
  | documentEnd
  | blockSequenceStart
  | blockMappingStart
  | blockEnd
  | flowSequenceStart
  | flowSequenceEnd
  | flowMappingStart
  | flowMappingEnd
  | blockEntry
  | flowEntry
  | key
  | value
  | alias (name : String)
  | anchor (name : String)
  | tag (handle suffix : String)
  | scalar (style : Style) (text : String)
  deriving DecidableEq, Repr, Inhabited

structure KeyPlace where
  token : Nat
  index : Nat
  line : Nat
  column : Nat
  required : Bool
  deriving Repr, Inhabited

structure Lexer where
  cursor : Cursor
  tokens : Array Token := #[]
  indent : Int := -1
  outer : List Int := []
  keyAllowed : Bool := true
  keys : List (Option KeyPlace) := [none]
  deriving Inhabited

namespace Lexer

def flowLevel (l : Lexer) : Nat := l.keys.length - 1

def inFlow (l : Lexer) : Bool := l.flowLevel != 0

def emit (l : Lexer) (t : Token) : Lexer := { l with tokens := l.tokens.push t }

def take (l : Lexer) (n : Nat) (t : Token) : Lexer := { l.emit t with cursor := l.cursor.skip n }

def allowKey (l : Lexer) (allowed : Bool) : Lexer := { l with keyAllowed := allowed }

def isStale (c : Cursor) (k : KeyPlace) : Bool := k.line < c.line || k.index + 1024 < c.index

def dropStaleKeys (l : Lexer) : Option Lexer :=
  if l.keys.any (fun k => k.any (fun k => isStale l.cursor k && k.required)) then none
  else some { l with keys := l.keys.map (fun k => k.filter (fun k => !isStale l.cursor k)) }

def dropKey (l : Lexer) : Option Lexer :=
  match l.keys with
  | some k :: more => if k.required then none else some { l with keys := none :: more }
  | _ => some l

def saveKey (l : Lexer) : Option Lexer :=
  if !l.keyAllowed then some l
  else
    l.dropKey.map (fun l =>
      let c := l.cursor
      let required := !l.inFlow && l.indent = c.column
      let place := { token := l.tokens.size, index := c.index, line := c.line, column := c.column,
                     required }
      { l with keys := some place :: l.keys.drop 1 })

/-- A block collection starts at a column unless one is open there. Its token has a number. -/
def openBlock (l : Lexer) (column : Nat) (number : Nat) (t : Token) : Lexer :=
  if l.inFlow || column ≤ l.indent then l
  else
    { l with indent := column, outer := l.indent :: l.outer,
             tokens := (l.tokens.toList.take number ++ t :: l.tokens.toList.drop number).toArray }

def closeBlocks (column : Int) (l : Lexer) : Lexer :=
  if l.inFlow then l
  else
    let opened := l.indent :: l.outer
    let kept := opened.dropWhile (fun i => column < i)
    let closed := opened.length - kept.length
    { l with indent := kept.head?.getD (-1), outer := kept.tail,
             tokens := l.tokens ++ Array.replicate closed .blockEnd }

/--
Blanks, comments and line breaks are passed over, and so is a mark of the byte order at the front of
a line, which takes up a column. A new line may start with a key.
-/
def skipToToken : (fuel : Nat) → Lexer → Lexer
  | 0, l => l
  | fuel + 1, l =>
    let c := l.cursor
    let c := if c.column = 0 && c.isAt '\ufeff' then c.skip 1 else c
    let tabs := l.inFlow || !l.keyAllowed
    let c := c.skipWhile (fun x => x = ' ' || (tabs && x = '\t'))
    let c := if c.isAt '#' then c.toLineEnd else c
    if (c.peek?.map isBreak).getD false then
      skipToToken fuel { l with cursor := c.skipBreak, keyAllowed := l.keyAllowed || !l.inFlow }
    else { l with cursor := c }

def finish (l : Lexer) : Option Lexer := (closeBlocks (-1) l).dropKey

def endDirective (c : Cursor) : Option Cursor :=
  let c := c.skipWhile isBlank
  let c := if c.isAt '#' then c.toLineEnd else c
  if Cursor.endsLine c.peek? then some c.skipBreak else none

def readNumber (c : Cursor) : Option (Nat × Cursor) :=
  let (digits, c) := c.span Char.isDigit
  if digits.isEmpty || 9 < digits.length then none
  else (String.ofList digits).toNat?.map (·, c)

def readTagHandle (directive : Bool) (c : Cursor) : Option (List Char × Cursor) :=
  if !c.isAt '!' then none
  else
    let (word, c) := (c.skip 1).span isWordChar
    if c.isAt '!' then some ('!' :: word ++ ['!'], c.skip 1)
    else if directive && !word.isEmpty then none
    else some ('!' :: word, c)

def isUriChar (inside : Bool) (x : Char) : Bool :=
  isWordChar x || ";/?:@&=+$.!~*'()".toList.contains x || (inside && ",[]".toList.contains x)

def readOctet (c : Cursor) : Option (UInt8 × Cursor) :=
  if !c.isAt '%' then none
  else do
    let high ← (c.ahead? 1).bind hexDigit?
    let low ← (c.ahead? 2).bind hexDigit?
    return (UInt8.ofNat (high * 16 + low), c.skip 3)

def octetCount (first : UInt8) : Option Nat :=
  if first < 0x80 then some 1
  else if first < 0xC0 then none
  else if first < 0xE0 then some 2
  else if first < 0xF0 then some 3
  else if first < 0xF8 then some 4
  else none

def readMoreOctets : (count : Nat) → Cursor → Option (Bytes × Cursor)
  | 0, c => some ([], c)
  | count + 1, c => do
    let (octet, c) ← readOctet c
    if octet < 0x80 || 0xBF < octet then none
    else
      let (more, c) ← readMoreOctets count c
      return (octet :: more, c)

def readOctets (c : Cursor) : Option (List Char × Cursor) := do
  let (first, c) ← readOctet c
  let count ← octetCount first
  let (more, c) ← readMoreOctets (count - 1) c
  return (Bytes.lossyChars (first :: more), c)

def readUriChars (inside : Bool) : (fuel : Nat) → (read : List Char) → Cursor →
    Option (List Char × Cursor)
  | 0, read, c => some (read, c)
  | fuel + 1, read, c =>
    if c.isAt '%' then do
      let (octets, c) ← readOctets c
      readUriChars inside fuel (read ++ octets) c
    else
      match c.peek? with
      | some x =>
        if isUriChar inside x then readUriChars inside fuel (read ++ [x]) (c.skip 1)
        else some (read, c)
      | none => some (read, c)

/--
A URI that continues some text, of whose first character it has no need. An escaped character of
code zero ends what counts of it.
-/
def readUri (inside : Bool) (lead : List Char) (c : Cursor) : Option (List Char × Cursor) := do
  let (text, c) ← readUriChars inside c.rest.length [] c
  if lead.isEmpty && text.isEmpty then none
  else some ((lead.drop 1 ++ text).takeWhile (· ≠ '\x00'), c)

def readDirective (c : Cursor) : Option (Token × Cursor) := do
  let (name, c) := c.span isWordChar
  if !Cursor.endsWord c.peek? then none
  else if name = "YAML".toList then
    let (major, c) ← readNumber (c.skipWhile isBlank)
    if !c.isAt '.' then none
    else
      let (minor, c) ← readNumber (c.skip 1)
      let c ← endDirective c
      return (.versionDirective major minor, c)
  else if name = "TAG".toList then
    let (handle, c) ← readTagHandle true (c.skipWhile isBlank)
    if !(c.peek?.map isBlank).getD false then none
    else
      let (lead, c) ← readUri true [] (c.skipWhile isBlank)
      if !Cursor.endsWord c.peek? then none
      else
        let c ← endDirective c
        return (.tagDirective (String.ofList handle) (String.ofList lead), c)
  else none

def readAnchorName (c : Cursor) : Option (String × Cursor) :=
  let (name, c) := c.span isWordChar
  let ends := Cursor.endsWord c.peek? || (c.peek?.map ("?:,]\x7d%@`".toList.contains ·)).getD false
  if name.isEmpty || !ends then none else some (String.ofList name, c)

def readTag (inFlow : Bool) (c : Cursor) : Option (Token × Cursor) := do
  let (handle, suffix, c) ←
    if c.ahead? 1 = some '<' then do
      let (uri, c) ← readUri true [] (c.skip 2)
      if c.isAt '>' then some ([], uri, c.skip 1) else none
    else do
      let (handle, c) ← readTagHandle false c
      if 1 < handle.length ∧ handle.getLast? = some '!' then
        let (suffix, c) ← readUri false [] c
        some (handle, suffix, c)
      else
        let (suffix, c) ← readUri false handle c
        if suffix.isEmpty then some ([], ['!'], c) else some (['!'], suffix, c)
  if Cursor.endsWord c.peek? || (inFlow && c.isAt ',') then
    some (.tag (String.ofList handle) (String.ofList suffix), c)
  else none

def emitScalar (l : Lexer) (style : Style) (s : Scanned) : Lexer :=
  { l.emit (.scalar style (String.ofList s.text)) with cursor := s.after }

def openFlow (l : Lexer) (t : Token) : Option Lexer :=
  l.saveKey.map (fun l => ({ l with keys := none :: l.keys }.allowKey true).take 1 t)

def closeFlow (l : Lexer) (t : Token) : Option Lexer :=
  l.dropKey.map (fun l =>
    let keys := if l.inFlow then l.keys.drop 1 else l.keys
    ({ l with keys }.allowKey false).take 1 t)

def blockEntry (l : Lexer) : Option Lexer :=
  if !l.inFlow && !l.keyAllowed then none
  else
    let l := l.openBlock l.cursor.column l.tokens.size .blockSequenceStart
    l.dropKey.map (fun l => (l.allowKey true).take 1 .blockEntry)

def explicitKey (l : Lexer) : Option Lexer :=
  if !l.inFlow && !l.keyAllowed then none
  else
    let l := l.openBlock l.cursor.column l.tokens.size .blockMappingStart
    l.dropKey.map (fun l => (l.allowKey (!l.inFlow)).take 1 .key)

def value (l : Lexer) : Option Lexer :=
  match l.keys with
  | some k :: more =>
    let tokens := l.tokens.toList.take k.token ++ .key :: l.tokens.toList.drop k.token
    let l := { l with tokens := tokens.toArray, keys := none :: more }
    some (((l.openBlock k.column k.token .blockMappingStart).allowKey false).take 1 .value)
  | _ =>
    if !l.inFlow && !l.keyAllowed then none
    else
      let l := l.openBlock l.cursor.column l.tokens.size .blockMappingStart
      some ((l.allowKey (!l.inFlow)).take 1 .value)

def documentMark (l : Lexer) (t : Token) : Option Lexer :=
  l.finish.map (fun l => (l.allowKey false).take 3 t)

def startsPlain (l : Lexer) (x : Char) : Bool :=
  let next := l.cursor.ahead? 1
  !(isBlank x || isBreak x || "-?:,[]\x7b\x7d#&*!|>'\"%@`".toList.contains x)
    || (x = '-' && !(next.map isBlank).getD false)
    || (!l.inFlow && (x = '?' || x = ':') && !Cursor.endsWord next)

def readToken (l : Lexer) (x : Char) : Option Lexer :=
  let c := l.cursor
  let next := c.ahead? 1
  let length := c.rest.length
  if c.column = 0 ∧ x = '%' then do
    let l ← l.finish
    let (t, c) ← readDirective (c.skip 1)
    return { (l.allowKey false).emit t with cursor := c }
  else if c.isAtMark '-' then l.documentMark .documentStart
  else if c.isAtMark '.' then l.documentMark .documentEnd
  else if x = '[' then l.openFlow .flowSequenceStart
  else if x = '\x7b' then l.openFlow .flowMappingStart
  else if x = ']' then l.closeFlow .flowSequenceEnd
  else if x = '\x7d' then l.closeFlow .flowMappingEnd
  else if x = ',' then l.dropKey.map (fun l => (l.allowKey true).take 1 .flowEntry)
  else if x = '-' ∧ Cursor.endsWord next then l.blockEntry
  else if x = '?' ∧ (l.inFlow ∨ Cursor.endsWord next) then l.explicitKey
  else if x = ':' ∧ (l.inFlow ∨ Cursor.endsWord next) then l.value
  else if x = '*' ∨ x = '&' then do
    let l ← l.saveKey
    let (name, c) ← readAnchorName (c.skip 1)
    return { (l.allowKey false).emit (if x = '*' then .alias name else .anchor name) with
      cursor := c }
  else if x = '!' then do
    let l ← l.saveKey
    let (t, c) ← readTag l.inFlow c
    return { (l.allowKey false).emit t with cursor := c }
  else if (x = '|' ∨ x = '>') ∧ !l.inFlow then do
    let l ← l.dropKey
    let s ← readBlock (x = '>') (l.indent + 1).toNat (c.skip 1)
    return (l.allowKey true).emitScalar (if x = '|' then .literal else .folded) s
  else if x = '\'' ∨ x = '"' then do
    let l ← l.saveKey
    let s ← readQuoted x length [] (c.skip 1)
    return (l.allowKey false).emitScalar (if x = '"' then .doubleQuoted else .singleQuoted) s
  else if l.startsPlain x then do
    let l ← l.saveKey
    let s ← readPlain l.inFlow (l.indent + 1).toNat length [] {} c
    return (l.allowKey s.broken).emitScalar .plain s
  else none

def run : (fuel : Nat) → Lexer → Option (List Token)
  | 0, _ => none
  | fuel + 1, l => do
    let l := skipToToken l.cursor.rest.length.succ l
    let l ← l.dropStaleKeys
    let l := closeBlocks l.cursor.column l
    match l.cursor.peek? with
    | none =>
      let l ← l.finish
      return l.tokens.toList
    | some x =>
      let l ← l.readToken x
      run fuel l

end Lexer

def tokens? (text : List Char) : Option (List Token) :=
  if text.all isAllowed then Lexer.run text.length.succ { cursor := { rest := text } } else none

end Yaml
end CallWire
