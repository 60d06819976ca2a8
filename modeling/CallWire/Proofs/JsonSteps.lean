import CallWire.Json.Reader

/-!
This module contains what the readers of JSON texts have read where they succeed: one lemma for each
reader, with all that it can have done.
-/

namespace CallWire
namespace Json

variable {v : Json} {s rest : List Char}

theorem readWord_cases {value : Json} {letters : List Char}
    (h : readWord value letters s = .ok (v, rest))
    : v = value ∧ s = letters ++ rest := by
  induction letters generalizing s with
  | nil =>
    cases h
    exact ⟨rfl, rfl⟩
  | cons l letters ih =>
    cases s with
    | nil => cases h
    | cons c s =>
      unfold readWord at h
      split at h
      . next hc =>
        obtain ⟨hv, hs⟩ := ih h
        exact ⟨hv, by rw [hc, hs, List.cons_append]⟩
      . cases h

theorem readNumber_cases {negative : Bool} (h : readNumber negative s = .ok (v, rest))
    : ∃ n, Numeral.read negative s = .ok (n, rest) ∧ v = .number n := by
  unfold readNumber at h
  split at h
  . cases h
  . next n _ hread =>
    cases h
    exact ⟨n, hread, rfl⟩

section

variable {readItem : List Char → ReadStep Json}

theorem readMoreItems_cases {fuel : Nat} {items : List Json}
    (h : readMoreItems readItem (fuel + 1) items s = .ok (v, rest))
    : (skipBlanks s = ']' :: rest ∧ v = .array items.reverse)
        ∨
      ∃ s₁ w s₂, skipBlanks s = ',' :: s₁ ∧ readItem (skipBlanks s₁) = .ok (w, s₂)
        ∧ readMoreItems readItem fuel (w :: items) s₂ = .ok (v, rest) := by
  unfold readMoreItems at h
  split at h
  . cases h
  . next hclose =>
    cases h
    exact .inl ⟨hclose, rfl⟩
  . next s₁ hcomma =>
    split at h
    . cases h
    . cases h
    . split at h
      . cases h
      . next w s₂ hread => exact .inr ⟨s₁, w, s₂, hcomma, hread, h⟩
  . cases h

theorem readArray_cases (h : readArray readItem s = .ok (v, rest))
    : (skipBlanks s = ']' :: rest ∧ v = .array [])
        ∨
      ∃ w s₁, readItem (skipBlanks s) = .ok (w, s₁)
        ∧ readMoreItems readItem s₁.length.succ [w] s₁ = .ok (v, rest) := by
  unfold readArray at h
  split at h
  . cases h
  . next hclose =>
    cases h
    exact .inl ⟨hclose, rfl⟩
  . split at h
    . cases h
    . next w s₁ hread => exact .inr ⟨w, s₁, hread, h⟩

theorem readMember_cases {m : String × Json} (h : readMember readItem s = .ok (m, rest))
    : ∃ s₁ s₂, readString s = .ok (m.1, s₁) ∧ skipBlanks s₁ = ':' :: s₂
        ∧ readItem s₂ = .ok (m.2, rest) := by
  unfold readMember at h
  split at h
  . cases h
  . next s₁ hkey =>
    split at h
    . cases h
    . next s₂ hcolon =>
      split at h
      . cases h
      . next hread =>
        cases h
        exact ⟨s₁, s₂, hkey, hcolon, hread⟩
    . cases h

theorem readMoreMembers_cases {fuel : Nat} {members : List (String × Json)}
    (h : readMoreMembers readItem (fuel + 1) members s = .ok (v, rest))
    : (skipBlanks s = '\x7d' :: rest ∧ v = .object members)
        ∨
      ∃ s₁ s₂ m s₃, skipBlanks s = ',' :: s₁ ∧ skipBlanks s₁ = '"' :: s₂
        ∧ readMember readItem s₂ = .ok (m, s₃)
        ∧ readMoreMembers readItem fuel (insertMember m.1 m.2 members) s₃ = .ok (v, rest) := by
  unfold readMoreMembers at h
  split at h
  . cases h
  . next hclose =>
    cases h
    exact .inl ⟨hclose, rfl⟩
  . next s₁ hcomma =>
    split at h
    . cases h
    . cases h
    . next s₂ hquote =>
      split at h
      . cases h
      . next key w s₃ hread => exact .inr ⟨s₁, s₂, (key, w), s₃, hcomma, hquote, hread, h⟩
    . cases h
  . cases h

theorem readObject_cases (h : readObject readItem s = .ok (v, rest))
    : (skipBlanks s = '\x7d' :: rest ∧ v = .object [])
        ∨
      ∃ s₁ m s₂, skipBlanks s = '"' :: s₁ ∧ readMember readItem s₁ = .ok (m, s₂)
        ∧ readMoreMembers readItem s₂.length.succ [m] s₂ = .ok (v, rest) := by
  unfold readObject at h
  split at h
  . cases h
  . next hclose =>
    cases h
    exact .inl ⟨hclose, rfl⟩
  . next s₁ hquote =>
    split at h
    . cases h
    . next m s₂ hread => exact .inr ⟨s₁, m, s₂, hquote, hread, h⟩
  . cases h

end

inductive ReadsFront : Nat → List Char → Json → List Char → Prop where
  | null (depth : Nat) (rest : List Char) :
    ReadsFront depth (['n', 'u', 'l', 'l'] ++ rest) .null rest
  | true (depth : Nat) (rest : List Char) :
    ReadsFront depth (['t', 'r', 'u', 'e'] ++ rest) (.bool true) rest
  | false (depth : Nat) (rest : List Char) :
    ReadsFront depth (['f', 'a', 'l', 's', 'e'] ++ rest) (.bool false) rest
  | negative (depth : Nat) {s rest : List Char} {n : Number} :
    Numeral.read true s = .ok (n, rest) → ReadsFront depth ('-' :: s) (.number n) rest
  | number (depth : Nat) {s rest : List Char} {n : Number} :
    Numeral.read false s = .ok (n, rest) → ReadsFront depth s (.number n) rest
  | string (depth : Nat) {s rest : List Char} {text : String} :
    readString s = .ok (text, rest) → ReadsFront depth ('"' :: s) (.string text) rest
  | array {depth : Nat} {s rest : List Char} {v : Json} :
    readArray (readValue depth) s = .ok (v, rest) → ReadsFront (depth + 1) ('[' :: s) v rest
  | object {depth : Nat} {s rest : List Char} {v : Json} :
    readObject (readValue depth) s = .ok (v, rest) → ReadsFront (depth + 1) ('\x7b' :: s) v rest

theorem readsFront_of_readValue {depth : Nat} (h : readValue depth s = .ok (v, rest))
    : ReadsFront depth (skipBlanks s) v rest := by
  unfold readValue at h
  split at h
  . cases h
  . next c s₁ hfront =>
    rw [hfront]
    split at h
    . next hc =>
      obtain ⟨rfl, rfl⟩ := readWord_cases h
      exact hc ▸ .null depth rest
    split at h
    . next hc =>
      obtain ⟨rfl, rfl⟩ := readWord_cases h
      exact hc ▸ .true depth rest
    split at h
    . next hc =>
      obtain ⟨rfl, rfl⟩ := readWord_cases h
      exact hc ▸ .false depth rest
    split at h
    . next hc =>
      obtain ⟨n, hread, rfl⟩ := readNumber_cases h
      exact hc ▸ .negative depth hread
    split at h
    . obtain ⟨n, hread, rfl⟩ := readNumber_cases h
      exact .number depth hread
    split at h
    . next hc =>
      split at h
      . cases h
      . next hread =>
        cases h
        exact hc ▸ .string depth hread
    split at h
    . next hc =>
      split at h
      . cases h
      . split at h
        . next hc => exact hc ▸ .array h
        . next hne => exact hc.resolve_left hne ▸ .object h
    . cases h

end Json
end CallWire
