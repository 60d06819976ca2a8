import CallWire.Proofs.JsonText
import CallWire.Proofs.NumberLiteral

/-!
This module contains the grammar of JSON texts: what a text writes as a tree, with the members of
objects as they stand in the text, and which value a tree has.

The relations are between a text, what stands at its front and the text after it.
-/

namespace CallWire

namespace Json

/-- What a text writes. The members of an object are in the order of the text, all of them. -/
inductive Tree where
  | null
  | bool (b : Bool)
  | number (l : Numeral.Literal)
  | string (s : String)
  | array (items : List Tree)
  | object (members : List (String × Tree))

inductive Blanks : List Char → List Char → Prop where
  | done (s : List Char) : Blanks s s
  | skip {c : Char} {s rest : List Char} : isBlank c = true → Blanks s rest → Blanks (c :: s) rest

inductive HexUnit : List Char → Nat → List Char → Prop where
  | mk {a b c d : Char} {w x y z : Nat} (rest : List Char) :
    hexValue? a = some w → hexValue? b = some x → hexValue? c = some y → hexValue? d = some z →
    HexUnit (a :: b :: c :: d :: rest) (((w * 16 + x) * 16 + y) * 16 + z) rest

def escapeLetters : List (Char × Char) :=
  [('"', '"'), ('\\', '\\'), ('/', '/'), ('b', '\x08'), ('f', '\x0c'), ('n', '\n'), ('r', '\r'),
    ('t', '\t')]

abbrev IsHighSurrogate (n : Nat) : Prop := 0xD800 ≤ n ∧ n ≤ 0xDBFF

abbrev IsLowSurrogate (n : Nat) : Prop := 0xDC00 ≤ n ∧ n ≤ 0xDFFF

inductive Escape : List Char → Char → List Char → Prop where
  | letter {e c : Char} (rest : List Char) : (e, c) ∈ escapeLetters → Escape (e :: rest) c rest
  | unit {s rest : List Char} {n : Nat} :
    HexUnit s n rest → ¬IsHighSurrogate n → ¬IsLowSurrogate n →
    Escape ('u' :: s) (Char.ofNat n) rest
  | pair {s s' rest : List Char} {high low : Nat} :
    HexUnit s high ('\\' :: 'u' :: s') → IsHighSurrogate high →
    HexUnit s' low rest → IsLowSurrogate low →
    Escape ('u' :: s) (ofSurrogates high low) rest

inductive Spells : List Char → List Char → List Char → Prop where
  | close (rest : List Char) : Spells ('"' :: rest) [] rest
  | plain {c : Char} {s cs rest : List Char} :
    c ≠ '"' → c ≠ '\\' → 0x20 ≤ c.toNat → Spells s cs rest → Spells (c :: s) (c :: cs) rest
  | escape {c : Char} {s s' cs rest : List Char} :
    Escape s c s' → Spells s' cs rest → Spells ('\\' :: s) (c :: cs) rest

theorem spells_of_plain (cs : List Char)
    (h : ∀ c ∈ cs, c ≠ '"' ∧ c ≠ '\\' ∧ 0x20 ≤ c.toNat) (rest : List Char)
    : Spells (cs ++ '"' :: rest) cs rest := by
  induction cs with
  | nil => exact .close rest
  | cons c cs ih =>
    obtain ⟨hquote, hslash, hcontrol⟩ := h c List.mem_cons_self
    exact .plain hquote hslash hcontrol (ih fun d hd => h d (List.mem_cons_of_mem c hd))

inductive Following {α : Type} (writes : α → List Char → List Char → Prop) (close : Char) :
    List α → List Char → List Char → Prop where
  | close {s rest : List Char} : Blanks s (close :: rest) → Following writes close [] s rest
  | comma {a : α} {as : List α} {s s₁ s₂ s₃ rest : List Char} :
    Blanks s (',' :: s₁) → Blanks s₁ s₂ → writes a s₂ s₃ → Following writes close as s₃ rest →
    Following writes close (a :: as) s rest

inductive MemberWrites (writes : Tree → List Char → List Char → Prop) :
    String × Tree → List Char → List Char → Prop where
  | mk {key : List Char} {t : Tree} {s s₁ s₂ s₃ rest : List Char} :
    Spells s key s₁ → Blanks s₁ (':' :: s₂) → Blanks s₂ s₃ → writes t s₃ rest →
    MemberWrites writes (String.ofList key, t) ('"' :: s) rest

/-- A tree, the text that begins with it, and the text after it. -/
inductive Tree.Writes : Tree → List Char → List Char → Prop where
  | null (rest : List Char) : Writes .null (['n', 'u', 'l', 'l'] ++ rest) rest
  | true (rest : List Char) : Writes (.bool true) (['t', 'r', 'u', 'e'] ++ rest) rest
  | false (rest : List Char) : Writes (.bool false) (['f', 'a', 'l', 's', 'e'] ++ rest) rest
  | number (l : Numeral.Literal) (rest : List Char) : Writes (.number l) (l.text ++ rest) rest
  | string {s cs rest : List Char} :
    Spells s cs rest → Writes (.string (String.ofList cs)) ('"' :: s) rest
  | noItems {s rest : List Char} : Blanks s (']' :: rest) → Writes (.array []) ('[' :: s) rest
  | items {t : Tree} {ts : List Tree} {s s₁ s₂ rest : List Char} :
    Blanks s s₁ → Writes t s₁ s₂ → Following Writes ']' ts s₂ rest →
    Writes (.array (t :: ts)) ('[' :: s) rest
  | noMembers {s rest : List Char} :
    Blanks s ('\x7d' :: rest) → Writes (.object []) ('\x7b' :: s) rest
  | members {m : String × Tree} {ms : List (String × Tree)} {s s₁ s₂ rest : List Char} :
    Blanks s s₁ → MemberWrites Writes m s₁ s₂ → Following (MemberWrites Writes) '\x7d' ms s₂ rest →
    Writes (.object (m :: ms)) ('\x7b' :: s) rest

namespace Tree

def IsText (t : Tree) (text : String) : Prop :=
  ∃ s rest, Blanks text.toList s ∧ t.Writes s rest ∧ Blanks rest []

mutual

def depth : Tree → Nat
  | .array items => depthItems items + 1
  | .object members => depthMembers members + 1
  | _ => 0

def depthItems : List Tree → Nat
  | [] => 0
  | t :: more => max (depth t) (depthItems more)

def depthMembers : List (String × Tree) → Nat
  | [] => 0
  | (_, t) :: more => max (depth t) (depthMembers more)

end

mutual

def literals : Tree → List Numeral.Literal
  | .number l => [l]
  | .array items => literalsItems items
  | .object members => literalsMembers members
  | _ => []

def literalsItems : List Tree → List Numeral.Literal
  | [] => []
  | t :: more => literals t ++ literalsItems more

def literalsMembers : List (String × Tree) → List Numeral.Literal
  | [] => []
  | (_, t) :: more => literals t ++ literalsMembers more

end

mutual

def value? : Tree → Option Json
  | .null => some .null
  | .bool b => some (.bool b)
  | .number l => l.number?.map .number
  | .string s => some (.string s)
  | .array items => (valueItems? items).map .array
  | .object members => (valueMembers? members).map ofMembers

def valueItems? : List Tree → Option (List Json)
  | [] => some []
  | t :: more => (value? t).bind fun v => (valueItems? more).map (v :: ·)

def valueMembers? : List (String × Tree) → Option (List (String × Json))
  | [] => some []
  | (key, t) :: more => (value? t).bind fun v => (valueMembers? more).map ((key, v) :: ·)

end

end Tree

end Json
end CallWire
