import CallWire.Proofs.Numeral
import Mathlib.Data.List.TakeWhile

/-!
This module contains the literals of JSON numbers: how they are written, which number each of them
is, and that they are read as that number.
-/

namespace CallWire
namespace Numeral

structure Digits where
  chars : List Char
  nonempty : chars ≠ []
  digit : ∀ c ∈ chars, c.isDigit = true

def Digits.value (d : Digits) : Nat := Nat.ofDigitChars 10 d.chars 0

structure Exponent where
  mark : Char
  sign : List Char
  digits : Digits
  mark_mem : mark ∈ ['e', 'E']
  sign_mem : sign ∈ [[], ['+'], ['-']]

def Exponent.text (x : Exponent) : List Char := x.mark :: (x.sign ++ x.digits.chars)

structure Literal where
  negative : Bool
  whole : Digits
  fraction : Option Digits := none
  exponent : Option Exponent := none
  zero_alone : whole.chars.head? = some '0' → whole.chars = ['0']

namespace Literal

def fractionText : Option Digits → List Char
  | none => []
  | some d => '.' :: d.chars

def exponentText : Option Exponent → List Char
  | none => []
  | some x => x.text

def unsigned (l : Literal) : List Char :=
  l.whole.chars ++ (fractionText l.fraction ++ exponentText l.exponent)

def text (l : Literal) : List Char := if l.negative then '-' :: l.unsigned else l.unsigned

def integerOf? (negative : Bool) (n : Nat) : Option Int :=
  if !negative then some n
  else if n = 0 then none
  else some (-n)

def integer? (l : Literal) : Option Int :=
  if l.fraction.isSome || l.exponent.isSome then none else integerOf? l.negative l.whole.value

/-- The leading digits as far as 64 bits hold them, and the power of ten that goes with them. -/
def leading (l : Literal) : Nat × Int :=
  let (n, taken) := appendDigits 0 0 l.whole.chars
  let dropped := l.whole.chars.length - taken
  match l.fraction with
  | none => (n, dropped)
  | some d =>
    let (n, taken) := appendDigits n 0 d.chars
    (n, dropped - taken)

/--
A number times a power of ten, to which that of a literal's end is added; absent if it is infinite.
Of an exponent that 32 bits do not hold only the sign counts.
-/
def raise? (n : Nat) (e : Int) : Option Exponent → Option Double
  | none => scale? (.ofNat n) e
  | some x =>
    if x.digits.value ≤ maxExponent then
      scale? (.ofNat n)
        (clampExponent (if x.sign = ['-'] then e - x.digits.value else e + x.digits.value))
    else if n ≠ 0 ∧ x.sign ≠ ['-'] then none
    else scale? (.ofNat 0) 0

def signed (negative : Bool) (x : Double) : Number := .double (if negative then x.neg else x)

def number? (l : Literal) : Option Number :=
  if l.fraction.isNone && l.exponent.isNone && l.whole.value < 2 ^ 64 then
    some (exact l.negative l.whole.value)
  else
    (raise? l.leading.1 l.leading.2 l.exponent).map (signed l.negative)

def Stops (l : Literal) (rest : List Char) : Prop :=
  ∀ c ∈ rest.head?, c.isDigit = false
    ∧ (l.exponent = none → c ≠ 'e' ∧ c ≠ 'E')
    ∧ (l.exponent = none → l.fraction = none → c ≠ '.')

end Literal

variable {rest : List Char}

theorem digit?_of_not_isDigit {c : Char} (h : c.isDigit = false) : digit? c = none := by
  unfold Char.isDigit at h
  unfold digit?
  rw [if_neg]
  rintro ⟨hlow, hhigh⟩
  simp only [Bool.and_eq_false_iff, decide_eq_false_iff_not] at h
  rcases h with h | h
  . exact h hlow
  . exact h hhigh

theorem digit_le_nine {c : Char} (h : c.isDigit = true) : c.toNat - '0'.toNat ≤ 9 := by
  unfold Char.isDigit at h
  simp only [Bool.and_eq_true, decide_eq_true_eq] at h
  have hhigh : c.toNat ≤ 57 := h.2
  have hzero : '0'.toNat = 48 := rfl
  omega

theorem appendDigits_of_ge {digits : List Char} (hdigits : ∀ c ∈ digits, c.isDigit = true)
    (n taken : Nat) (hn : n < 2 ^ 64) (hge : 2 ^ 64 ≤ Nat.ofDigitChars 10 digits n)
    : (appendDigits n taken digits).2 < taken + digits.length := by
  induction digits generalizing n taken with
  | nil => exact absurd hge (Nat.not_le.mpr hn)
  | cons c digits ih =>
    have hc := digit?_of_isDigit (hdigits c List.mem_cons_self)
    rw [Nat.ofDigitChars_cons, Nat.mul_comm] at hge
    unfold appendDigits
    rw [hc]
    dsimp only
    split
    . rw [List.length_cons]
      omega
    . next hfits =>
      unfold overflows at hfits
      simp only [decide_eq_true_eq] at hfits
      have := ih (fun d hd => hdigits d (List.mem_cons_of_mem _ hd))
        (n * 10 + (c.toNat - '0'.toNat)) (taken + 1) (by omega) hge
      rw [List.length_cons]
      omega

theorem exponentDigits_append {digits : List Char} (hdigits : ∀ c ∈ digits, c.isDigit = true)
    (e : Nat) (he : e ≤ maxExponent) (hrest : DigitsEnd rest)
    : (Nat.ofDigitChars 10 digits e ≤ maxExponent
          ∧ exponentDigits e (digits ++ rest) = (some (Nat.ofDigitChars 10 digits e), rest))
        ∨
      (maxExponent < Nat.ofDigitChars 10 digits e
          ∧ ∃ left, exponentDigits e (digits ++ rest) = (none, left)
            ∧ (spanDigits left).2 = rest) := by
  induction digits generalizing e with
  | nil =>
    refine .inl ⟨he, ?_⟩
    cases rest with
    | nil => rfl
    | cons c rest =>
      rw [List.nil_append]
      unfold exponentDigits
      rw [digit?_of_not_isDigit (hrest c rfl)]
      rfl
  | cons c digits ih =>
    have hc := digit?_of_isDigit (hdigits c List.mem_cons_self)
    have hmore : ∀ d ∈ digits, d.isDigit = true :=
      fun d hd => hdigits d (List.mem_cons_of_mem _ hd)
    rw [Nat.ofDigitChars_cons, Nat.mul_comm, List.cons_append]
    unfold exponentDigits
    rw [hc]
    dsimp only
    split
    . next hover =>
      have hle := le_ofDigitChars digits (e * 10 + (c.toNat - '0'.toNat))
      refine .inr ⟨by omega, digits ++ rest, rfl, ?_⟩
      rw [spanDigits_append hmore hrest]
    . next hfits => exact ih hmore _ (by omega)

theorem toOption_approximate (negative : Bool) (n : Nat) (e : Int) (s : List Char)
    : (approximate negative n e s).toOption
        =
      (scale? (.ofNat n) e).map (fun x => (Literal.signed negative x, s)) := by
  unfold approximate
  split
  . next hscale =>
    rw [hscale]
    rfl
  . next hscale =>
    rw [hscale]
    rfl

theorem readExponent_append (negative : Bool) (n : Nat) (e : Int) {sign : List Char}
    (hsign : sign ∈ [[], ['+'], ['-']]) (d : Digits)
    : readExponent negative n e (sign ++ (d.chars ++ rest))
        =
      match exponentDigits 0 (d.chars ++ rest) with
      | (some k, rest) =>
        approximate negative n (clampExponent (if sign = ['-'] then e - k else e + k)) rest
      | (none, rest) =>
        if n ≠ 0 ∧ sign ≠ ['-'] then Stop.here .numberOutOfRange rest
        else approximate negative 0 0 (spanDigits rest).2 := by
  obtain ⟨chars, hnonempty, hdigit⟩ := d
  cases chars with
  | nil => exact absurd rfl hnonempty
  | cons c chars =>
    have hc := hdigit c List.mem_cons_self
    have hdigit? := digit?_of_isDigit hc
    have hsmall := digit_le_nine hc
    have hplus : c ≠ '+' := by
      rintro rfl
      simp at hc
    have hminus : c ≠ '-' := by
      rintro rfl
      simp at hc
    have hfirst : exponentDigits 0 (c :: (chars ++ rest))
        = exponentDigits (c.toNat - '0'.toNat) (chars ++ rest) := by
      rw [exponentDigits, hdigit?]
      dsimp only
      rw [if_neg (by unfold maxExponent; omega), Nat.zero_mul, Nat.zero_add]
    simp only [List.mem_cons, List.not_mem_nil, or_false] at hsign
    dsimp only
    rw [List.cons_append, hfirst]
    generalize c.toNat - '0'.toNat = k at hdigit?
    cases hstep : exponentDigits k (chars ++ rest) with
    | mk o left =>
      rcases hsign with rfl | rfl | rfl
      . cases o <;> simp [readExponent, hplus, hminus, hdigit?, hstep]
      . cases o <;> simp [readExponent, hdigit?, hstep]
      . cases o <;> simp [readExponent, hdigit?, hstep]

theorem toOption_readExponent (negative : Bool) (n : Nat) (e : Int) (x : Exponent)
    (hrest : DigitsEnd rest)
    : (readExponent negative n e (x.sign ++ (x.digits.chars ++ rest))).toOption
        =
      (Literal.raise? n e (some x)).map (fun y => (Literal.signed negative y, rest)) := by
  rw [readExponent_append negative n e x.sign_mem]
  unfold Literal.raise? Digits.value
  rcases exponentDigits_append x.digits.digit 0 (by decide) hrest with
    ⟨hle, heq⟩ | ⟨hlt, left, heq, hleft⟩
  . rw [heq]
    dsimp only
    rw [if_pos hle, toOption_approximate]
  . rw [heq]
    dsimp only
    rw [if_neg (Nat.not_le.mpr hlt)]
    split
    . rfl
    . rw [hleft, toOption_approximate]

theorem toOption_readTail (negative : Bool) (n : Nat) (e : Int) (x : Option Exponent)
    (hdigits : DigitsEnd rest) (hmark : x = none → ∀ c ∈ rest.head?, c ≠ 'e' ∧ c ≠ 'E')
    : (readTail negative n e (Literal.exponentText x ++ rest)).toOption
        =
      (Literal.raise? n e x).map (fun y => (Literal.signed negative y, rest)) := by
  cases x with
  | none =>
    change (readTail negative n e rest).toOption = _
    unfold readTail
    split
    . exact absurd rfl (hmark rfl _ rfl).1
    . exact absurd rfl (hmark rfl _ rfl).2
    . exact toOption_approximate negative n e rest
  | some x =>
    have hread : readTail negative n e (x.text ++ rest)
        = readExponent negative n e (x.sign ++ (x.digits.chars ++ rest)) := by
      have hmem := x.mark_mem
      simp only [List.mem_cons, List.not_mem_nil, or_false] at hmem
      unfold Exponent.text
      rw [List.cons_append, List.append_assoc]
      rcases hmem with hm | hm <;> rw [hm] <;> rfl
    change (readTail negative n e (x.text ++ rest)).toOption = _
    rw [hread]
    exact toOption_readExponent negative n e x hdigits

theorem readFraction_append (negative : Bool) (n : Nat) (e : Int) (d : Digits)
    (hdigits : DigitsEnd rest)
    : readFraction negative n e (d.chars ++ rest)
        =
      readTail negative (appendDigits n 0 d.chars).1 (e - (appendDigits n 0 d.chars).2) rest := by
  unfold readFraction
  rw [spanDigits_append d.digit hdigits]
  split
  . next heq => exact absurd (Prod.mk.inj heq).1 d.nonempty
  . next heq => exact absurd (Prod.mk.inj heq).1 d.nonempty
  . next heq =>
    obtain ⟨rfl, rfl⟩ := Prod.mk.inj heq
    rfl

theorem digitsEnd_exponentText (x : Option Exponent) (hdigits : DigitsEnd rest)
    : DigitsEnd (Literal.exponentText x ++ rest) := by
  cases x with
  | none => exact hdigits
  | some x =>
    intro c hc
    have hmem := x.mark_mem
    cases hc
    simp only [List.mem_cons, List.not_mem_nil, or_false] at hmem
    rcases hmem with hm | hm <;> rw [hm] <;> rfl

theorem digitsEnd_tail (l : Literal) (hdigits : DigitsEnd rest)
    : DigitsEnd (Literal.fractionText l.fraction ++ Literal.exponentText l.exponent ++ rest) := by
  cases l.fraction with
  | none => exact digitsEnd_exponentText l.exponent hdigits
  | some d =>
    intro c hc
    cases hc
    rfl

theorem dropped_eq_zero_iff (d : Digits)
    : d.chars.length - (appendDigits 0 0 d.chars).2 = 0 ↔ d.value < 2 ^ 64 := by
  constructor
  . intro hzero
    apply Decidable.byContradiction
    intro hge
    have := appendDigits_of_ge d.digit 0 0 (by decide) (Nat.not_lt.mp hge)
    omega
  . intro hlt
    rw [appendDigits_of_lt d.digit 0 0 hlt]
    dsimp only
    omega

theorem number?_of_raise (l : Literal)
    (h : l.fraction = none → l.exponent = none → 2 ^ 64 ≤ l.whole.value)
    : l.number? = (Literal.raise? l.leading.1 l.leading.2 l.exponent).map
        (Literal.signed l.negative) := by
  unfold Literal.number?
  rw [if_neg]
  intro hplain
  simp only [Bool.and_eq_true, Option.isNone_iff_eq_none, decide_eq_true_eq] at hplain
  exact Nat.not_lt.mpr (h hplain.1.1 hplain.1.2) hplain.2

theorem readAfterWhole_exponent (negative : Bool) (n dropped : Nat) (x : Exponent) (s : List Char)
    : readAfterWhole negative n dropped (x.text ++ s)
        =
      readTail negative n dropped (x.text ++ s) := by
  have hmem := x.mark_mem
  simp only [List.mem_cons, List.not_mem_nil, or_false] at hmem
  unfold Exponent.text
  rw [List.cons_append]
  rcases hmem with hm | hm <;> rw [hm] <;> rfl

theorem readAfterWhole_of_plain (l : Literal) (hstop : l.Stops rest) (hfraction : l.fraction = none)
    (hexponent : l.exponent = none) (n dropped : Nat)
    : readAfterWhole l.negative n dropped rest
        =
      if dropped = 0 then .ok (exact l.negative n, rest)
      else approximate l.negative n dropped rest := by
  unfold readAfterWhole
  split
  . exact absurd rfl ((hstop _ rfl).2.2 hexponent hfraction)
  . exact absurd rfl ((hstop _ rfl).2.1 hexponent).1
  . exact absurd rfl ((hstop _ rfl).2.1 hexponent).2
  . rfl

theorem toOption_readAfterWhole (l : Literal) (hstop : l.Stops rest)
    : (readAfterWhole l.negative (appendDigits 0 0 l.whole.chars).1
          (l.whole.chars.length - (appendDigits 0 0 l.whole.chars).2)
          (Literal.fractionText l.fraction ++ Literal.exponentText l.exponent ++ rest)).toOption
        =
      l.number?.map (·, rest) := by
  have hdigits : DigitsEnd rest := fun c hc => (hstop c hc).1
  have hmark : l.exponent = none → ∀ c ∈ rest.head?, c ≠ 'e' ∧ c ≠ 'E' :=
    fun hnone c hc => (hstop c hc).2.1 hnone
  have htail := toOption_readTail l.negative l.leading.1 l.leading.2 l.exponent hdigits hmark
  unfold Literal.leading at htail
  cases hfraction : l.fraction with
  | some d =>
    rw [number?_of_raise l (by simp [hfraction]), Option.map_map]
    unfold Literal.leading
    rw [hfraction] at htail ⊢
    have hread := readFraction_append l.negative (appendDigits 0 0 l.whole.chars).1
      (l.whole.chars.length - (appendDigits 0 0 l.whole.chars).2 : Nat) d
      (digitsEnd_exponentText l.exponent hdigits)
    rw [← hread] at htail
    rw [List.append_assoc]
    exact htail
  | none =>
    rw [hfraction] at htail
    cases hexponent : l.exponent with
    | some x =>
      rw [number?_of_raise l (by simp [hexponent]), Option.map_map]
      unfold Literal.leading
      rw [hexponent] at htail ⊢
      rw [hfraction]
      change (readAfterWhole l.negative _ _ (x.text ++ rest)).toOption = _
      rw [readAfterWhole_exponent]
      exact htail
    | none =>
      change (readAfterWhole l.negative _ _ rest).toOption = _
      rw [readAfterWhole_of_plain l hstop hfraction hexponent]
      by_cases hlt : l.whole.value < 2 ^ 64
      . rw [if_pos ((dropped_eq_zero_iff l.whole).mpr hlt)]
        unfold Literal.number?
        rw [hfraction, hexponent, if_pos (by simpa using hlt)]
        rw [appendDigits_of_lt l.whole.digit 0 0 hlt]
        rfl
      . rw [if_neg (fun hzero => hlt ((dropped_eq_zero_iff l.whole).mp hzero))]
        rw [number?_of_raise l (fun _ _ => Nat.not_lt.mp hlt), Option.map_map]
        unfold Literal.leading
        rw [toOption_approximate, hfraction, hexponent]
        rfl

theorem read_append (negative : Bool) (d : Digits)
    (hzero : d.chars.head? = some '0' → d.chars = ['0']) (hdigits : DigitsEnd rest)
    : read negative (d.chars ++ rest)
        =
      readAfterWhole negative (appendDigits 0 0 d.chars).1
        (d.chars.length - (appendDigits 0 0 d.chars).2) rest := by
  by_cases hfront : d.chars.head? = some '0'
  . rw [hzero hfront]
    cases rest with
    | nil => rfl
    | cons c rest =>
      change (if c.isDigit then Stop.past .invalidNumber (c :: rest)
        else readAfterWhole negative 0 0 (c :: rest)) = _
      rw [hdigits c rfl, if_neg Bool.false_ne_true]
      rfl
  . have hspan := spanDigits_append d.digit hdigits
    obtain ⟨chars, hnonempty, hdigit⟩ := d
    cases chars with
    | nil => exact absurd rfl hnonempty
    | cons c chars =>
      dsimp only at hfront hspan ⊢
      rw [List.cons_append] at hspan ⊢
      unfold read
      split
      . next heq => simp at heq
      . next heq =>
        obtain ⟨rfl, -⟩ := List.cons.inj heq
        exact absurd rfl hfront
      . next heq =>
        obtain ⟨rfl, rfl⟩ := List.cons.inj heq
        rw [if_pos (hdigit c List.mem_cons_self), hspan]

theorem stops_of_ends (l : Literal) (h : Ends rest) : l.Stops rest :=
  fun c hc => ⟨(h c hc).1, fun _ => (h c hc).2.2, fun _ _ => (h c hc).2.1⟩

theorem toOption_read (l : Literal) (hstop : l.Stops rest)
    : (read l.negative (l.unsigned ++ rest)).toOption = l.number?.map (·, rest) := by
  have hdigits : DigitsEnd rest := fun c hc => (hstop c hc).1
  unfold Literal.unsigned
  rw [List.append_assoc, read_append l.negative l.whole l.zero_alone (digitsEnd_tail l hdigits)]
  exact toOption_readAfterWhole l hstop

theorem isDigit_of_digit? {c : Char} {k : Nat} (h : digit? c = some k) : c.isDigit = true := by
  cases hc : c.isDigit with
  | true => rfl
  | false =>
    rw [digit?_of_not_isDigit hc] at h
    cases h

theorem exists_digits {c : Char} (hc : c.isDigit = true) (s : List Char)
    : ∃ (d : Digits) (rest : List Char), c :: s = d.chars ++ rest ∧ DigitsEnd rest
        ∧ d.chars.head? = some c := by
  have hhead : (c :: s).takeWhile Char.isDigit = c :: s.takeWhile Char.isDigit :=
    List.takeWhile_cons_of_pos hc
  let d : Digits :=
    { chars := (c :: s).takeWhile Char.isDigit
      nonempty := by simp [hhead]
      digit := fun _ => List.mem_takeWhile_imp }
  refine ⟨d, (c :: s).dropWhile Char.isDigit, List.takeWhile_append_dropWhile.symm, ?_, ?_⟩
  . intro e he
    have hfind := List.find?_not_eq_head?_dropWhile Char.isDigit (c :: s)
    rw [Option.mem_def.mp he] at hfind
    simpa using List.find?_some hfind
  . change ((c :: s).takeWhile Char.isDigit).head? = some c
    rw [hhead]
    rfl

variable {negative : Bool} {n : Nat} {e : Int} {s : List Char} {m : Number}

theorem exists_exponent_of_readExponent (h : readExponent negative n e s = .ok (m, rest))
    (mark : Char) (hmark : mark ∈ ['e', 'E'])
    : ∃ (x : Exponent) (after : List Char), mark :: s = x.text ++ after ∧ DigitsEnd after := by
  have hsplit : ∃ sign ∈ [[], ['+'], ['-']], ∃ c t, s = sign ++ c :: t ∧ c.isDigit = true := by
    unfold readExponent at h
    split at h
    next down s' heq =>
    split at h
    . cases h
    . next c t =>
      split at h
      . cases h
      . next k hk =>
        have hc := isDigit_of_digit? hk
        split at heq
        . cases heq
          exact ⟨['+'], by decide, c, t, rfl, hc⟩
        . cases heq
          exact ⟨['-'], by decide, c, t, rfl, hc⟩
        . cases heq
          exact ⟨[], by decide, c, t, rfl, hc⟩
  obtain ⟨sign, hsign, c, t, rfl, hc⟩ := hsplit
  obtain ⟨d, after, heq, hafter, -⟩ := exists_digits hc t
  refine ⟨⟨mark, sign, d, hmark, hsign⟩, after, ?_, hafter⟩
  unfold Exponent.text
  rw [heq]
  simp

theorem exists_exponent_of_readTail (h : readTail negative n e s = .ok (m, rest))
    (hs : DigitsEnd s)
    : ∃ (x : Option Exponent) (after : List Char), s = Literal.exponentText x ++ after
        ∧ DigitsEnd after ∧ (x = none → ∀ c ∈ after.head?, c ≠ 'e' ∧ c ≠ 'E') := by
  unfold readTail at h
  split at h
  . obtain ⟨x, after, heq, hafter⟩ := exists_exponent_of_readExponent h 'e' (by decide)
    exact ⟨some x, after, heq, hafter, by simp⟩
  . obtain ⟨x, after, heq, hafter⟩ := exists_exponent_of_readExponent h 'E' (by decide)
    exact ⟨some x, after, heq, hafter, by simp⟩
  . next he hE =>
    refine ⟨none, s, rfl, hs, ?_⟩
    intro _ c hc
    cases s with
    | nil => cases hc
    | cons d s =>
      cases hc
      constructor
      . rintro rfl
        exact he s rfl
      . rintro rfl
        exact hE s rfl

theorem exists_digits_of_readFraction (h : readFraction negative n e s = .ok (m, rest))
    : ∃ (d : Digits) (after : List Char), s = d.chars ++ after ∧ DigitsEnd after := by
  cases s with
  | nil => cases h
  | cons c s =>
    cases hc : c.isDigit with
    | false =>
      have hnone : DigitsEnd (c :: s) := by
        intro d hd
        cases hd
        exact hc
      have hspan : spanDigits (c :: s) = ([], c :: s) :=
        spanDigits_append (fun _ hd => absurd hd List.not_mem_nil) hnone
      unfold readFraction at h
      rw [hspan] at h
      cases h
    | true =>
      obtain ⟨d, after, heq, hafter, -⟩ := exists_digits hc s
      exact ⟨d, after, heq, hafter⟩

theorem exists_parts_of_readAfterWhole {dropped : Nat}
    (h : readAfterWhole negative n dropped s = .ok (m, rest)) (hs : DigitsEnd s)
    : ∃ (f : Option Digits) (x : Option Exponent) (after : List Char),
        s = Literal.fractionText f ++ Literal.exponentText x ++ after ∧ DigitsEnd after
          ∧ (x = none → ∀ c ∈ after.head?, c ≠ 'e' ∧ c ≠ 'E')
          ∧ (x = none → f = none → ∀ c ∈ after.head?, c ≠ '.') := by
  unfold readAfterWhole at h
  split at h
  . obtain ⟨d, t, rfl, ht⟩ := exists_digits_of_readFraction h
    rw [readFraction_append _ _ _ d ht] at h
    obtain ⟨x, after, rfl, hafter, hmark⟩ := exists_exponent_of_readTail h ht
    refine ⟨some d, x, after, ?_, hafter, hmark, by simp⟩
    rw [← List.append_assoc]
    rfl
  . obtain ⟨x, after, heq, hafter, hmark⟩ := exists_exponent_of_readTail h hs
    refine ⟨none, x, after, heq, hafter, hmark, ?_⟩
    rintro rfl
    rw [show after = _ from heq.symm] at hmark
    exact absurd rfl (hmark rfl _ rfl).1
  . obtain ⟨x, after, heq, hafter, hmark⟩ := exists_exponent_of_readTail h hs
    refine ⟨none, x, after, heq, hafter, hmark, ?_⟩
    rintro rfl
    rw [show after = _ from heq.symm] at hmark
    exact absurd rfl (hmark rfl _ rfl).2
  . next hpoint he hE =>
    refine ⟨none, none, s, rfl, hs, ?_, ?_⟩
    . intro _ c hc
      obtain ⟨t, rfl⟩ := List.head?_eq_some_iff.mp hc
      constructor
      . rintro rfl
        exact he t rfl
      . rintro rfl
        exact hE t rfl
    . intro _ _ c hc
      obtain ⟨t, rfl⟩ := List.head?_eq_some_iff.mp hc
      rintro rfl
      exact hpoint t rfl

theorem exists_digits_of_read (h : read negative s = .ok (m, rest))
    : ∃ (d : Digits) (after : List Char), s = d.chars ++ after ∧ DigitsEnd after
        ∧ (d.chars.head? = some '0' → d.chars = ['0']) := by
  unfold read at h
  split at h
  . cases h
  . next t =>
    refine ⟨⟨['0'], by simp, by simp⟩, t, rfl, ?_, fun _ => rfl⟩
    intro c hc
    obtain ⟨t, rfl⟩ := List.head?_eq_some_iff.mp hc
    dsimp only at h
    split at h
    . cases h
    . next hdigit => simpa using hdigit
  . next c t hzero =>
    split at h
    . next hc =>
      obtain ⟨d, after, heq, hafter, hhead⟩ := exists_digits hc t
      refine ⟨d, after, heq, hafter, ?_⟩
      intro hfront
      rw [hhead] at hfront
      cases hfront
      exact absurd rfl hzero
    . cases h

theorem exists_literal_of_read (h : read negative s = .ok (m, rest))
    : ∃ l : Literal, l.negative = negative ∧ s = l.unsigned ++ rest ∧ l.number? = some m := by
  obtain ⟨d, t, rfl, ht, hzero⟩ := exists_digits_of_read h
  have hparts := h
  rw [read_append negative d hzero ht] at hparts
  obtain ⟨f, x, after, rfl, hafter, hmark, hpoint⟩ := exists_parts_of_readAfterWhole hparts ht
  let l : Literal :=
    { negative, whole := d, fraction := f, exponent := x, zero_alone := hzero }
  have hstop : l.Stops after :=
    fun c hc => ⟨hafter c hc, fun hx => hmark hx c hc, fun hx hf => hpoint hx hf c hc⟩
  have htext : d.chars ++ (Literal.fractionText f ++ Literal.exponentText x ++ after)
      = l.unsigned ++ after := (List.append_assoc _ _ _).symm
  have hread := toOption_read l hstop
  rw [htext] at h ⊢
  rw [h] at hread
  obtain ⟨k, hk, heq⟩ := Option.map_eq_some_iff.mp hread.symm
  cases heq
  exact ⟨l, rfl, rfl, hk⟩

namespace Literal

theorem natAbs_of_integerOf? {negative : Bool} {n : Nat} {i : Int}
    (h : integerOf? negative n = some i)
    : i.natAbs = n := by
  unfold integerOf? at h
  split at h
  . cases h
    exact Int.natAbs_natCast n
  . split at h
    . cases h
    . cases h
      exact (Int.natAbs_neg _).trans (Int.natAbs_natCast n)

theorem exact_eq_int_iff {negative : Bool} {n : Nat} (hn : n < 2 ^ 64) {i : Int}
    : exact negative n = .int i ↔ integerOf? negative n = some i ∧ Number.IntRange i := by
  unfold exact integerOf? Number.IntRange
  cases negative with
  | false =>
    simp only [Bool.not_false, if_true, Number.int.injEq, Option.some.injEq]
    omega
  | true =>
    simp only [Bool.not_true, Bool.false_eq_true, if_false]
    by_cases hzero : n = 0
    . simp [hzero]
    . rw [if_neg hzero]
      by_cases hbig : 2 ^ 63 < n
      . rw [if_pos (.inr hbig)]
        simp only [reduceCtorEq, Option.some.injEq, false_iff]
        omega
      . rw [if_neg (by omega)]
        simp only [Number.int.injEq, Option.some.injEq]
        omega

theorem number?_eq_int_iff {l : Literal} {i : Int}
    : l.number? = some (.int i) ↔ l.integer? = some i ∧ Number.IntRange i := by
  have hdouble (x : Option Exponent)
      : (raise? l.leading.1 l.leading.2 x).map (signed l.negative) ≠ some (.int i) := by
    rw [Ne, Option.map_eq_some_iff]
    rintro ⟨y, -, hy⟩
    cases hy
  unfold number? integer?
  cases l.fraction with
  | some d => exact iff_of_false (hdouble _) (fun h => nomatch h.1)
  | none =>
    cases l.exponent with
    | some x => exact iff_of_false (hdouble _) (fun h => nomatch h.1)
    | none =>
      by_cases hlt : l.whole.value < 2 ^ 64
      . rw [if_pos (by simpa using hlt), Option.some.injEq]
        exact exact_eq_int_iff hlt
      . rw [if_neg (by simpa using hlt)]
        apply iff_of_false (hdouble none)
        rintro ⟨hint, hlow, hhigh⟩
        have habs := natAbs_of_integerOf? hint
        omega

end Literal

end Numeral
end CallWire
