import CallWire.Yaml.Printer
import CallWire.Yaml.Reading
import CallWire.Proofs.Numeral

/-!
This module contains what is read from the scalars that values are written as: numbers, truth values
and texts, also where a value may be missing.
-/

namespace CallWire

namespace Yaml

namespace Plain

variable {n : Nat} {digits : List Char}

theorem digit?_of_isDigit {c : Char} (h : c.isDigit = true)
    : digit? 10 c = some (c.toNat - '0'.toNat) := by
  have hrange := h
  unfold Char.isDigit at hrange
  rw [Bool.and_eq_true] at hrange
  have hle : c.toNat ≤ '9'.toNat := UInt32.le_iff_toNat_le.mp (of_decide_eq_true hrange.2)
  have hlt : c.toNat - '0'.toNat < 10 := by
    have hnine : '9'.toNat = 57 := rfl
    have hzero : '0'.toNat = 48 := rfl
    omega
  unfold digit?
  rw [if_pos h]
  exact if_pos hlt

theorem mapM_digit? (h : ∀ c ∈ digits, c.isDigit = true)
    : digits.mapM (digit? 10) = some (digits.map (fun c => c.toNat - '0'.toNat)) := by
  induction digits with
  | nil => rfl
  | cons c digits ih =>
    rw [List.mapM_cons, digit?_of_isDigit (h c List.mem_cons_self)]
    rw [ih (fun d hd => h d (List.mem_cons_of_mem _ hd))]
    rfl

theorem natural?_of_digits (hne : digits ≠ []) (h : ∀ c ∈ digits, c.isDigit = true)
    : natural? 10 digits = some (Nat.ofDigitChars 10 digits 0) := by
  have hfold (start : Nat)
      : (digits.map (fun c => c.toNat - '0'.toNat)).foldl (fun n d => n * 10 + d) start
          =
        Nat.ofDigitChars 10 digits start := by
    induction digits generalizing start with
    | nil => rfl
    | cons c digits ih =>
      rw [List.map_cons, List.foldl_cons, Nat.ofDigitChars_cons, Nat.mul_comm start]
      by_cases hnil : digits = []
      . rw [hnil]
        rfl
      . exact ih hnil (fun d hd => h d (List.mem_cons_of_mem _ hd)) _
  unfold natural?
  rw [if_neg (by simpa using hne), mapM_digit? h, Option.map_some, hfold]

theorem based?_of_digits (h : ∀ c ∈ digits, c.isDigit = true) : based? digits = none := by
  unfold based?
  split
  . exact absurd (h 'x' (by simp)) (by decide)
  . exact absurd (h 'o' (by simp)) (by decide)
  . exact absurd (h 'b' (by simp)) (by decide)
  . rfl

theorem dropSign_of_digits (h : ∀ c ∈ digits, c.isDigit = true) : dropSign digits = digits := by
  unfold dropSign
  split
  . exact absurd (h '+' List.mem_cons_self) (by decide)
  . exact absurd (h '-' List.mem_cons_self) (by decide)
  . rfl

theorem unsigned?_of_digits (h : ∀ c ∈ digits, c.isDigit = true)
    (hzero : hasLeadingZero digits = false)
    : unsigned? digits = natural? 10 digits := by
  have hplus : ∀ rest, digits = '+' :: rest → False := by
    rintro rest rfl
    exact absurd (h '+' List.mem_cons_self) (by decide)
  -- The match on a plus falls to its second case by `hplus`.
  unfold unsigned?
  simp only [based?_of_digits h, hzero, Bool.false_eq_true, if_false]

theorem hasLeadingZero_toDigits (n : Nat) : hasLeadingZero (Nat.toDigits 10 n) = false := by
  unfold hasLeadingZero
  dsimp only
  rw [dropSign_of_digits (fun c hc => Numeral.isDigit_of_mem_toDigits hc)]
  by_cases hn : n = 0
  . subst hn
    rfl
  . have hhead : (Nat.toDigits 10 n).head? ≠ some '0' := by
      intro hzero
      obtain ⟨tail, htail⟩ := List.head?_eq_some_iff.mp hzero
      exact Numeral.toDigits_ne_zero_cons hn tail htail
    rw [beq_false_of_ne hhead, Bool.and_false, Bool.false_and]

theorem word?_repr (h : n < 2 ^ 64) : word? n.repr = some n := by
  have hdigits : ∀ c ∈ Nat.toDigits 10 n, c.isDigit = true :=
    fun c hc => Numeral.isDigit_of_mem_toDigits hc
  unfold word?
  rw [Nat.toList_repr, unsigned?_of_digits hdigits (hasLeadingZero_toDigits n)]
  rw [natural?_of_digits Nat.toDigits_ne_nil hdigits]
  rw [Nat.ofDigitChars_toDigits (by decide) (by decide)]
  rw [Option.filter_some, if_pos (decide_eq_true h)]

theorem isNull_of_word? {s : String} (h : word? s = some n)
    : (s.isEmpty || isNull s) = false := by
  rw [Bool.eq_false_iff]
  intro hnull
  have hcases : s = "" ∨ s = "null" ∨ s = "Null" ∨ s = "NULL" ∨ s = "~" := by
    simpa [isNull, or_assoc] using hnull
  rcases hcases with rfl | rfl | rfl | rfl | rfl <;> cases h

theorem isNull_of_isText {s : String} (h : isText s = true)
    : (s.isEmpty || isNull s) = false := by
  unfold isText at h
  simp only [Bool.not_eq_true', Bool.or_eq_false_iff] at h
  rw [h.1.1.1.1.1, h.1.1.1.1.2]
  rfl

end Plain

variable {d : Document} {n : Nat} {s : String}

def Form.style : Form → Style
  | .plain => .plain
  | .singleQuoted => .singleQuoted
  | .doubleQuoted => .doubleQuoted
  | .literal => .literal

def plainNode (s : String) : Node := .scalar none .plain s

def textNode (s : String) : Node := .scalar none (form s).style s

theorem form_eq_plain (h : form s = .plain) : Plain.isText s = true := by
  unfold form at h
  dsimp only at h
  split at h
  . split at h <;> cases h
  . next hbreak =>
    split at h
    . next hplain => exact (Bool.and_eq_true_iff.mp hplain).1
    . split at h <;> cases h

theorem readText_textNode (d : Document) (s : String) : readText d (textNode s) = some s := rfl

theorem readOption_textNode {α} {read : NodeReading α} {a : α}
    (h : read d (textNode s) = some a)
    : readOption read d (textNode s) = some (some a) := by
  have hread : readOption read d (textNode s) = (read d (textNode s)).map some := by
    unfold readOption textNode Document.follow
    cases hform : form s with
    | plain =>
      dsimp only [Form.style]
      exact if_neg (ne_true_of_eq_false (Plain.isNull_of_isText (form_eq_plain hform)))
    | _ => rfl
  rw [hread, h, Option.map_some]

theorem readWord_repr (d : Document) (h : n < 2 ^ 64)
    : readWord d (plainNode n.repr) = some n := by
  exact Plain.word?_repr h

theorem readOption_repr (d : Document) (h : n < 2 ^ 64)
    : readOption readWord d (plainNode n.repr) = some (some n) := by
  have hnull := Plain.isNull_of_word? (Plain.word?_repr h)
  unfold readOption plainNode Document.follow
  dsimp only
  rw [if_neg (ne_true_of_eq_false hnull)]
  exact congrArg (Option.map some) (readWord_repr d h)

theorem readMember_of_mem {α} {read : NodeReading α} {a : α} {members : List (String × Node)}
    {key : String} {node : Node} (hkeys : (members.map Prod.fst).Nodup)
    (hmem : (key, node) ∈ members) (hread : read d node = some a)
    : readMember read d members key = some (some a) := by
  have hfilter : members.filter (·.1 = key) = [(key, node)] := by
    induction members with
    | nil => cases hmem
    | cons member members ih =>
      obtain ⟨hnew, hkeys⟩ := List.nodup_cons.mp hkeys
      rw [List.filter_cons]
      rcases List.mem_cons.mp hmem with rfl | hmem
      . rw [if_pos (decide_eq_true rfl)]
        have hnone : members.filter (·.1 = key) = [] := by
          rw [List.filter_eq_nil_iff]
          intro other hother hkey
          exact hnew (List.mem_map.mpr ⟨other, hother, of_decide_eq_true hkey⟩)
        rw [hnone]
      . rw [if_neg, ih hkeys hmem]
        intro hkey
        apply hnew
        rw [of_decide_eq_true hkey]
        exact List.mem_map.mpr ⟨_, hmem, rfl⟩
  unfold readMember
  rw [hfilter]
  dsimp only
  rw [hread, Option.map_some]

end Yaml
end CallWire
