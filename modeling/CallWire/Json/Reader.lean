import CallWire.Json.Numeral
/-!
This module contains the reading of JSON texts. A value is read from the front of a text and leaves
the text after it; what is left of the whole text in the end must be blank.
-/

namespace CallWire

namespace Json

def maxDepth : Nat := 127

def isBlank (c : Char) : Bool := c = ' ' || c = '\n' || c = '\t' || c = '\r'

def skipBlanks : List Char → List Char
  | [] => []
  | c :: rest => if isBlank c then skipBlanks rest else c :: rest

def hexValue? (c : Char) : Option Nat :=
  if '0' ≤ c ∧ c ≤ '9' then some (c.toNat - '0'.toNat)
  else if 'a' ≤ c ∧ c ≤ 'f' then some (c.toNat - 'a'.toNat + 10)
  else if 'A' ≤ c ∧ c ≤ 'F' then some (c.toNat - 'A'.toNat + 10)
  else none

/-- Four hexadecimal digits. They are looked for in the next four bytes. -/
def readHex (s : List Char) : ReadStep Nat :=
  match s with
  | a :: b :: c :: d :: rest =>
    match hexValue? a, hexValue? b, hexValue? c, hexValue? d with
    | some a, some b, some c, some d => .ok (((a * 16 + b) * 16 + c) * 16 + d, rest)
    | _, _, _, _ => .error ⟨.invalidEscape, s, 4⟩
  | _ =>
    if SyntaxError.byteCount s < 4 then Stop.here .endInString []
    else .error ⟨.invalidEscape, s, 4⟩

def ofSurrogates (high low : Nat) : Char :=
  Char.ofNat ((high - 0xD800) * 0x400 + (low - 0xDC00) + 0x10000)

def readLowSurrogate (high : Nat) (s : List Char) : ReadStep Char :=
  match s with
  | [] => Stop.here .endInString []
  | '\\' :: [] => Stop.here .endInString []
  | '\\' :: 'u' :: rest =>
    match readHex rest with
    | .error stop => .error stop
    | .ok (low, rest) =>
      if 0xDC00 ≤ low ∧ low ≤ 0xDFFF then .ok (ofSurrogates high low, rest)
      else Stop.here .loneSurrogate rest
  | '\\' :: rest => Stop.past .unfinishedSurrogatePair rest
  | _ => Stop.past .unfinishedSurrogatePair s

def readUnicodeEscape (s : List Char) : ReadStep Char :=
  match readHex s with
  | .error stop => .error stop
  | .ok (unit, rest) =>
    if 0xDC00 ≤ unit ∧ unit ≤ 0xDFFF then Stop.here .loneSurrogate rest
    else if 0xD800 ≤ unit ∧ unit ≤ 0xDBFF then readLowSurrogate unit rest
    else .ok (Char.ofNat unit, rest)

def readEscape (s : List Char) : ReadStep Char :=
  match s with
  | [] => Stop.here .endInString []
  | c :: rest =>
    if c = '"' then .ok ('"', rest)
    else if c = '\\' then .ok ('\\', rest)
    else if c = '/' then .ok ('/', rest)
    else if c = 'b' then .ok ('\x08', rest)
    else if c = 'f' then .ok ('\x0c', rest)
    else if c = 'n' then .ok ('\n', rest)
    else if c = 'r' then .ok ('\r', rest)
    else if c = 't' then .ok ('\t', rest)
    else if c = 'u' then readUnicodeEscape rest
    else Stop.past .invalidEscape s

theorem readHex_length {s : List Char} {n : Nat} {rest : List Char}
    (h : readHex s = .ok (n, rest)) : rest.length < s.length := by
  unfold readHex at h
  split at h
  . split at h
    . simp only [Except.ok.injEq, Prod.mk.injEq] at h
      simp [← h.2]
      omega
    . simp at h
  . split at h <;> simp [Stop.here] at h

theorem readLowSurrogate_length {high : Nat} {s : List Char} {c : Char} {rest : List Char}
    (h : readLowSurrogate high s = .ok (c, rest)) : rest.length < s.length := by
  unfold readLowSurrogate at h
  split at h
  . simp [Stop.here] at h
  . simp [Stop.here] at h
  . split at h
    . simp at h
    . next hhex =>
      have := readHex_length hhex
      split at h
      . simp only [Except.ok.injEq, Prod.mk.injEq] at h
        simp [← h.2]
        omega
      . simp [Stop.here] at h
  . simp [Stop.past] at h
  . simp [Stop.past] at h

theorem readUnicodeEscape_length {s : List Char} {c : Char} {rest : List Char}
    (h : readUnicodeEscape s = .ok (c, rest)) : rest.length < s.length := by
  unfold readUnicodeEscape at h
  split at h
  . simp at h
  . next hhex =>
    have := readHex_length hhex
    split at h
    . simp [Stop.here] at h
    . split at h
      . have := readLowSurrogate_length h
        omega
      . simp only [Except.ok.injEq, Prod.mk.injEq] at h
        simp [← h.2]
        omega

theorem readEscape_length {s : List Char} {c : Char} {rest : List Char}
    (h : readEscape s = .ok (c, rest)) : rest.length < s.length := by
  cases s with
  | nil => simp [readEscape, Stop.here] at h
  | cons d tail =>
    simp only [readEscape] at h
    repeat' split at h
    all_goals first
      | (simp only [Except.ok.injEq, Prod.mk.injEq] at h; simp [← h.2])
      | (have shorter := readUnicodeEscape_length h; simp; omega)
      | simp [Stop.past] at h

def readStringTail (read : List Char) (s : List Char) : ReadStep (List Char) :=
  match s with
  | [] => Stop.here .endInString []
  | c :: rest =>
    if c = '"' then .ok (read.reverse, rest)
    else if c = '\\' then
      match h : readEscape rest with
      | .error stop => .error stop
      | .ok (d, rest') =>
        have := readEscape_length h
        readStringTail (d :: read) rest'
    else if c.toNat < 0x20 then Stop.past .controlCharacter s
    else readStringTail (c :: read) rest
termination_by s.length
decreasing_by all_goals (simp; try omega)

def readString (s : List Char) : ReadStep String :=
  match readStringTail [] s with
  | .error stop => .error stop
  | .ok (text, rest) => .ok (String.ofList text, rest)

def readWord (value : Json) : (letters : List Char) → List Char → ReadStep Json
  | [], s => .ok (value, s)
  | _ :: _, [] => Stop.here .endInValue []
  | l :: letters, c :: rest =>
    if l = c then readWord value letters rest else Stop.past .expectedWord (c :: rest)

/--
The items of an array after its first one, up to the closing bracket. `fuel` bounds their number;
the length of the text suffices.
-/
def readMoreItems (readItem : List Char → ReadStep Json) :
    (fuel : Nat) → (items : List Json) → List Char → ReadStep Json
  | 0, _, s => Stop.here .endInList s
  | fuel + 1, items, s =>
    match skipBlanks s with
    | [] => Stop.here .endInList []
    | ']' :: rest => .ok (.array items.reverse, rest)
    | ',' :: rest =>
      match skipBlanks rest with
      | [] => Stop.here .endInValue []
      | ']' :: rest => Stop.past .trailingComma (']' :: rest)
      | rest =>
        match readItem rest with
        | .error stop => .error stop
        | .ok (v, rest) => readMoreItems readItem fuel (v :: items) rest
    | rest => Stop.past .expectedListCommaOrEnd rest

def readArray (readItem : List Char → ReadStep Json) (s : List Char) : ReadStep Json :=
  match skipBlanks s with
  | [] => Stop.here .endInList []
  | ']' :: rest => .ok (.array [], rest)
  | rest =>
    match readItem rest with
    | .error stop => .error stop
    | .ok (v, rest) => readMoreItems readItem rest.length.succ [v] rest

def readMember (readItem : List Char → ReadStep Json) (s : List Char) :
    ReadStep (String × Json) :=
  match readString s with
  | .error stop => .error stop
  | .ok (key, rest) =>
    match skipBlanks rest with
    | [] => Stop.here .endInObject []
    | ':' :: rest =>
      match readItem rest with
      | .error stop => .error stop
      | .ok (v, rest) => .ok ((key, v), rest)
    | rest => Stop.past .expectedColon rest

def readMoreMembers (readItem : List Char → ReadStep Json) :
    (fuel : Nat) → (members : List (String × Json)) → List Char → ReadStep Json
  | 0, _, s => Stop.here .endInObject s
  | fuel + 1, members, s =>
    match skipBlanks s with
    | [] => Stop.here .endInObject []
    | '\x7d' :: rest => .ok (.object members, rest)
    | ',' :: rest =>
      match skipBlanks rest with
      | [] => Stop.here .endInValue []
      | '\x7d' :: rest => Stop.past .trailingComma ('\x7d' :: rest)
      | '"' :: rest =>
        match readMember readItem rest with
        | .error stop => .error stop
        | .ok ((k, v), rest) => readMoreMembers readItem fuel (insertMember k v members) rest
      | rest => Stop.past .keyNotString rest
    | rest => Stop.past .expectedObjectCommaOrEnd rest

def readObject (readItem : List Char → ReadStep Json) (s : List Char) : ReadStep Json :=
  match skipBlanks s with
  | [] => Stop.here .endInObject []
  | '\x7d' :: rest => .ok (.object [], rest)
  | '"' :: rest =>
    match readMember readItem rest with
    | .error stop => .error stop
    | .ok (member, rest) => readMoreMembers readItem rest.length.succ [member] rest
  | rest => Stop.past .keyNotString rest

def readNumber (negative : Bool) (s : List Char) : ReadStep Json :=
  match Numeral.read negative s with
  | .error stop => .error stop
  | .ok (n, rest) => .ok (.number n, rest)

def readValue (depth : Nat) (s : List Char) : ReadStep Json :=
  match skipBlanks s with
  | [] => Stop.here .endInValue []
  | c :: rest =>
    if c = 'n' then readWord .null ['u', 'l', 'l'] rest
    else if c = 't' then readWord (.bool true) ['r', 'u', 'e'] rest
    else if c = 'f' then readWord (.bool false) ['a', 'l', 's', 'e'] rest
    else if c = '-' then readNumber true rest
    else if c.isDigit then readNumber false (c :: rest)
    else if c = '"' then
      match readString rest with
      | .error stop => .error stop
      | .ok (text, rest) => .ok (.string text, rest)
    else if c = '[' ∨ c = '\x7b' then
      match depth with
      | 0 => Stop.past .tooDeep (c :: rest)
      | depth + 1 =>
        if c = '[' then readArray (readValue depth) rest else readObject (readValue depth) rest
    else Stop.past .expectedValue (c :: rest)

def readText (text : List Char) : Except Stop Json :=
  match readValue maxDepth text with
  | .error stop => .error stop
  | .ok (v, rest) =>
    match skipBlanks rest with
    | [] => .ok v
    | rest => Stop.past .trailingCharacters rest

def parse (text : String) : Except SyntaxError Json :=
  match readText text.toList with
  | .error stop => .error (SyntaxError.ofStop text stop)
  | .ok v => .ok v

end Json
end CallWire
