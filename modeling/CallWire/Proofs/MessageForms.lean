import CallWire.Failure.Classify
import Mathlib.Data.List.TakeDrop
import Mathlib.Data.List.TakeWhile

/-!
This module contains what the readers of error messages find in a text: phrases anywhere, names up to
a character that ends them, the first place where a form stands, and the last record on a line.
-/

namespace CallWire
namespace FailureKind

structure IsName (stops name : List Char) : Prop where
  nonempty : name ≠ []
  free : ∀ c ∈ name, c ∉ stops

theorem isName_iff {stops name : List Char}
    : IsName stops name ↔ name ≠ [] ∧ name.all (fun c => !stops.contains c) = true := by
  rw [List.all_eq_true]
  constructor
  . rintro ⟨hne, hfree⟩
    exact ⟨hne, by simpa using hfree⟩
  . rintro ⟨hne, hall⟩
    exact ⟨hne, by simpa using hall⟩

instance (stops name : List Char) : Decidable (IsName stops name) :=
  decidable_of_iff _ isName_iff.symm

variable {phrase stops name s rest v p : List Char} {stop : Char} {t i x : List Char}

theorem holds_iff (phrase s : List Char) : holds phrase s = true ↔ phrase <:+: s := by
  induction s with
  | nil => simp [holds]
  | cons c rest ih =>
    rw [holds, Bool.or_eq_true, ih]
    rw [List.isPrefixOf_iff_prefix, List.infix_cons_iff]

theorem after?_eq_some_iff : after? phrase s = some rest ↔ s = phrase ++ rest := by
  induction phrase generalizing s with
  | nil => simp [after?]
  | cons c phrase ih =>
    cases s with
    | nil => simp [after?]
    | cons d s =>
      unfold after?
      split
      . next h => simp [ih, h]
      . next h => simp [Ne.symm h]

theorem name?_append (h : IsName stops name) (hstop : stop ∈ stops) (rest : List Char)
    : name? stops (name ++ stop :: rest) = some (name, stop :: rest) := by
  have hfree : ∀ c ∈ name, (!stops.contains c) = true :=
    List.all_eq_true.mp (isName_iff.mp h).2
  have hspan : (name ++ stop :: rest).span (fun c => !stops.contains c) = (name, stop :: rest) := by
    rw [List.span_eq_takeWhile_dropWhile]
    rw [List.takeWhile_append_of_pos hfree, List.dropWhile_append_of_pos hfree]
    simp [hstop]
  unfold name?
  rw [hspan]
  cases name with
  | nil => exact absurd rfl h.nonempty
  | cons c name => rfl

theorem of_name? (h : name? stops s = some (name, rest)) : IsName stops name ∧ s = name ++ rest := by
  unfold name? at h
  rw [List.span_eq_takeWhile_dropWhile] at h
  split at h
  . cases h
  . next front back hne hspan =>
    cases h
    obtain ⟨rfl, rfl⟩ := Prod.mk.inj hspan
    refine ⟨⟨hne, ?_⟩, List.takeWhile_append_dropWhile.symm⟩
    intro c hc
    simpa using List.mem_takeWhile_imp hc

theorem recordName?_eq_some_iff
    : recordName? s = some ((t, i), rest)
        ↔
      IsName [':', '`'] t ∧ IsName ['`'] i ∧ s = t ++ ':' :: (i ++ '`' :: rest) := by
  constructor
  . intro h
    unfold recordName? at h
    simp only [Option.bind_eq_bind, Option.bind_eq_some_iff, after?_eq_some_iff] at h
    obtain ⟨⟨t', s₁⟩, htable, s₂, rfl, ⟨i', s₃⟩, hid, s₄, rfl, hreturn⟩ := h
    cases hreturn
    obtain ⟨ht, rfl⟩ := of_name? htable
    obtain ⟨hi, rfl⟩ := of_name? hid
    exact ⟨ht, hi, rfl⟩
  . rintro ⟨ht, hi, rfl⟩
    unfold recordName?
    simp only [Option.bind_eq_bind]
    rw [name?_append ht (by simp)]
    simp only [Option.bind_some, after?, ↓reduceIte]
    rw [name?_append hi (by simp)]
    rfl

theorem existingRecord?_eq_some_iff
    : existingRecord? s = some (t, i)
        ↔
      IsName [':', '`'] t ∧ IsName ['`'] i
        ∧ ∃ rest, s = "Database record `".toList
            ++ (t ++ ':' :: (i ++ '`' :: (" already exists".toList ++ rest))) := by
  unfold existingRecord?
  simp only [Option.bind_eq_bind, Option.bind_eq_some_iff, after?_eq_some_iff]
  constructor
  . rintro ⟨s₁, rfl, ⟨record, s₂⟩, hrecord, s₃, rfl, hreturn⟩
    cases hreturn
    obtain ⟨ht, hi, rfl⟩ := recordName?_eq_some_iff.mp hrecord
    exact ⟨ht, hi, s₃, rfl⟩
  . rintro ⟨ht, hi, rest, rfl⟩
    refine ⟨_, rfl, ⟨(t, i), _⟩, recordName?_eq_some_iff.mpr ⟨ht, hi, rfl⟩, rest, rfl, rfl⟩

def recordHere? (s : List Char) : Option (List Char × List Char) := do
  let rest ← after? ", with record `".toList s
  let (record, _) ← recordName? rest
  return record

theorem recordHere?_eq_some_iff
    : recordHere? s = some (t, i)
        ↔
      IsName [':', '`'] t ∧ IsName ['`'] i
        ∧ ∃ rest, s = ", with record `".toList ++ (t ++ ':' :: (i ++ '`' :: rest)) := by
  unfold recordHere?
  simp only [Option.bind_eq_bind, Option.bind_eq_some_iff, after?_eq_some_iff]
  constructor
  . rintro ⟨s₁, rfl, ⟨record, s₂⟩, hrecord, hreturn⟩
    cases hreturn
    obtain ⟨ht, hi, rfl⟩ := recordName?_eq_some_iff.mp hrecord
    exact ⟨ht, hi, s₂, rfl⟩
  . rintro ⟨ht, hi, rest, rfl⟩
    exact ⟨_, rfl, ⟨(t, i), rest⟩, recordName?_eq_some_iff.mpr ⟨ht, hi, rfl⟩, rfl⟩

section Value

variable {found : Option (List Char × List Char)} {a : List Char × List Char} {c : Char}

theorem recordAfterValue?_newline (found : Option (List Char × List Char)) (rest : List Char)
    : recordAfterValue? found ('\n' :: rest) = found := by
  rfl

theorem recordAfterValue?_cons (hc : c ≠ '\n') (found : Option (List Char × List Char))
    (rest : List Char)
    : recordAfterValue? found (c :: rest)
        =
      recordAfterValue? ((recordHere? rest).or found) rest := by
  rw [recordAfterValue?, if_neg hc]
  exact congrArg (recordAfterValue? · rest) Option.orElse_eq_or

/-- Of the values on a line that a record may follow, the reader takes the longest one. -/
theorem recordAfterValue?_of_none_after
    (h : ∀ v rest, s = v ++ rest → v ≠ [] → recordHere? rest = none)
    : recordAfterValue? found s = found := by
  induction s with
  | nil => rfl
  | cons c s ih =>
    by_cases hc : c = '\n'
    . rw [hc, recordAfterValue?_newline]
    . rw [recordAfterValue?_cons hc]
      rw [h [c] s rfl (List.cons_ne_nil c []), Option.none_or]
      apply ih
      intro v rest hs hv
      apply h (c :: v) rest _ (List.cons_ne_nil c v)
      rw [hs]
      rfl

theorem recordAfterValue?_append (hv : v ≠ []) (hline : '\n' ∉ v) (hhere : recordHere? rest = some a)
    (hlast : ∀ u back, rest = u ++ back → u ≠ [] → recordHere? back = none)
    : recordAfterValue? found (v ++ rest) = some a := by
  induction v generalizing found with
  | nil => exact absurd rfl hv
  | cons c v ih =>
    rw [List.mem_cons, not_or] at hline
    obtain ⟨hc, hline⟩ := hline
    rw [List.cons_append, recordAfterValue?_cons (Ne.symm hc)]
    cases v with
    | nil =>
      rw [List.nil_append, hhere, Option.some_or]
      exact recordAfterValue?_of_none_after hlast
    | cons d v => exact ih (List.cons_ne_nil d v) hline

theorem recordAfterValue?_isSome_iff (found : Option (List Char × List Char)) (s : List Char)
    : (recordAfterValue? found s).isSome
        ↔
      found.isSome
        ∨ ∃ v rest, s = v ++ rest ∧ v ≠ [] ∧ '\n' ∉ v ∧ (recordHere? rest).isSome := by
  induction s generalizing found with
  | nil =>
    constructor
    . exact .inl
    . rintro (hfound | ⟨v, rest, hs, hv, -, -⟩)
      . exact hfound
      . exact absurd (List.append_eq_nil_iff.mp hs.symm).1 hv
  | cons c s ih =>
    by_cases hc : c = '\n'
    . subst hc
      rw [recordAfterValue?_newline]
      constructor
      . exact .inl
      . rintro (hfound | ⟨v, rest, hs, hv, hline, -⟩)
        . exact hfound
        . obtain ⟨d, v, rfl⟩ := List.exists_cons_of_ne_nil hv
          cases hs
          exact absurd List.mem_cons_self hline
    . rw [recordAfterValue?_cons hc, ih, Option.isSome_or, Bool.or_eq_true]
      constructor
      . rintro ((hhere | hfound) | ⟨v, rest, rfl, hv, hline, hhere⟩)
        . exact .inr ⟨[c], s, rfl, List.cons_ne_nil c [], by simp [Ne.symm hc], hhere⟩
        . exact .inl hfound
        . refine .inr ⟨c :: v, rest, rfl, List.cons_ne_nil c v, ?_, hhere⟩
          simp [hline, Ne.symm hc]
      . rintro (hfound | ⟨v, rest, hs, hv, hline, hhere⟩)
        . exact .inl (.inr hfound)
        . obtain ⟨d, v, rfl⟩ := List.exists_cons_of_ne_nil hv
          obtain ⟨rfl, htail⟩ := List.cons.inj hs
          cases v with
          | nil =>
            subst htail
            exact .inl (.inl hhere)
          | cons d v =>
            have hline' : '\n' ∉ d :: v := fun h => hline (.tail c h)
            exact .inr ⟨d :: v, rest, htail, List.cons_ne_nil d v, hline', hhere⟩

theorem indexedRecord?_eq_some_iff
    : indexedRecord? s = some (x, t, i)
        ↔
      IsName ['`'] x
        ∧ ∃ rest, s = "Database index `".toList
            ++ (x ++ '`' :: (" already contains ".toList ++ rest))
          ∧ recordAfterValue? none rest = some (t, i) := by
  unfold indexedRecord?
  simp only [Option.bind_eq_bind, Option.bind_eq_some_iff, after?_eq_some_iff]
  constructor
  . rintro ⟨s₁, rfl, ⟨index, s₂⟩, hindex, s₃, rfl, ⟨table, id⟩, hrecord, hreturn⟩
    cases hreturn
    obtain ⟨hx, rfl⟩ := of_name? hindex
    exact ⟨hx, s₃, rfl, hrecord⟩
  . rintro ⟨hx, rest, rfl, hrecord⟩
    exact ⟨_, rfl, ⟨x, _⟩, name?_append hx (by simp) _, rest, rfl, ⟨t, i⟩, hrecord, rfl⟩

end Value

section Search

variable {α : Type} {form : List Char → Option α} {a : α}

theorem firstMatch?_eq_none_iff
    : firstMatch? form s = none ↔ ∀ p rest, s = p ++ rest → form rest = none := by
  induction s with
  | nil =>
    constructor
    . intro h p rest hs
      rw [(List.append_eq_nil_iff.mp hs.symm).2]
      exact h
    . intro h
      exact h [] [] rfl
  | cons c s ih =>
    cases hform : form (c :: s) with
    | some b =>
      simp only [firstMatch?, hform, reduceCtorEq, false_iff]
      intro h
      rw [h [] (c :: s) rfl] at hform
      cases hform
    | none =>
      simp only [firstMatch?, hform, ih]
      constructor
      . intro h p rest hs
        cases p with
        | nil =>
          rw [List.nil_append] at hs
          rw [← hs]
          exact hform
        | cons d p =>
          cases hs
          exact h p rest rfl
      . intro h p rest hs
        exact h (c :: p) rest (congrArg (c :: ·) hs)

theorem firstMatch?_of_first (hform : form rest = some a)
    (hfirst : ∀ q back, p ++ rest = q ++ back → q.length < p.length → form back = none)
    : firstMatch? form (p ++ rest) = some a := by
  induction p with
  | nil =>
    cases rest with
    | nil => exact hform
    | cons c rest =>
      rw [List.nil_append, firstMatch?, hform]
  | cons c p ih =>
    rw [List.cons_append, firstMatch?]
    have hnone : form (c :: (p ++ rest)) = none := hfirst [] _ rfl (Nat.succ_pos _)
    rw [hnone]
    apply ih
    intro q back hq hlt
    exact hfirst (c :: q) back (congrArg (c :: ·) hq) (Nat.succ_lt_succ hlt)

theorem first_of_firstMatch? (h : firstMatch? form s = some a)
    : ∃ p rest, s = p ++ rest ∧ form rest = some a
        ∧ ∀ q back, s = q ++ back → q.length < p.length → form back = none := by
  induction s with
  | nil => exact ⟨[], [], rfl, h, fun _ _ _ hlt => absurd hlt (Nat.not_lt_zero _)⟩
  | cons c s ih =>
    rw [firstMatch?] at h
    split at h
    . next b hform =>
      rw [h] at hform
      exact ⟨[], c :: s, rfl, hform, fun _ _ _ hlt => absurd hlt (Nat.not_lt_zero _)⟩
    . next hform =>
      obtain ⟨p, rest, rfl, hfound, hfirst⟩ := ih h
      refine ⟨c :: p, rest, rfl, hfound, ?_⟩
      intro q back hq hlt
      cases q with
      | nil =>
        rw [List.nil_append] at hq
        rw [← hq]
        exact hform
      | cons d q =>
        exact hfirst q back (List.cons.inj hq).2 (Nat.lt_of_succ_lt_succ hlt)

end Search

section Quotes

/-! Between them the words of a form hold a known number of back quotes. -/

theorem IsName.stop_not_mem (h : IsName stops name) (hstop : stop ∈ stops) : stop ∉ name :=
  fun hmem => h.free stop hmem hstop

theorem length_le_of_append_eq (stop : Char) {a b c d : List Char} (h : a ++ stop :: b = c ++ d)
    (hc : stop ∉ c)
    : c.length ≤ a.length := by
  rcases List.append_eq_append_iff.mp h with ⟨e, rfl, he⟩ | ⟨e, rfl, -⟩
  . cases e with
    | nil => simp
    | cons c e =>
      cases he
      simp at hc
  . simp

theorem withRecord_append (s : List Char)
    : ", with record `".toList ++ s = ", with record ".toList ++ '`' :: s := by
  simp

theorem databaseIndex_append (s : List Char)
    : "Database index `".toList ++ s = "Database index ".toList ++ '`' :: s := by
  simp

theorem recordHere?_eq_none_of_later (ht : IsName [':', '`'] t) (hi : IsName ['`'] i)
    (hs : '`' ∉ s) {u back : List Char}
    (h : ", with record `".toList ++ (t ++ ':' :: (i ++ '`' :: s)) = u ++ back) (hu : u ≠ [])
    : recordHere? back = none := by
  cases hhere : recordHere? back with
  | none => rfl
  | some record =>
    obtain ⟨t', i'⟩ := record
    obtain ⟨-, -, after, rfl⟩ := recordHere?_eq_some_iff.mp hhere
    -- There are two back quotes, and both are after `u`.
    have hcount := congrArg (List.count '`') h
    have hzero : List.count '`' u = 0 := by
      have ht : List.count '`' t = 0 := List.count_eq_zero_of_not_mem (ht.stop_not_mem (by simp))
      have hi : List.count '`' i = 0 := List.count_eq_zero_of_not_mem (hi.stop_not_mem (by simp))
      have hs := List.count_eq_zero_of_not_mem hs
      simp [ht, hi, hs] at hcount
      omega
    have hfree : '`' ∉ u ++ ", with record ".toList := by
      simp [List.count_eq_zero.mp hzero]
    have hle : (u ++ ", with record ".toList).length ≤ ", with record ".toList.length := by
      apply length_le_of_append_eq '`' (b := t ++ ':' :: (i ++ '`' :: s))
        (d := '`' :: (t' ++ ':' :: (i' ++ '`' :: after))) _ hfree
      rw [List.append_assoc, ← withRecord_append, ← withRecord_append]
      exact h
    rw [List.length_append] at hle
    exact absurd (List.eq_nil_of_length_eq_zero (by omega)) hu

theorem firstMatch?_indexedRecord? (hp : '`' ∉ p) (hfound : indexedRecord? rest = some (x, t, i))
    : firstMatch? indexedRecord? (p ++ rest) = some (x, t, i) := by
  apply firstMatch?_of_first hfound
  intro q back hq hlt
  cases hother : indexedRecord? back with
  | none => rfl
  | some other =>
    obtain ⟨y, u, j⟩ := other
    obtain ⟨-, behind, rfl, -⟩ := indexedRecord?_eq_some_iff.mp hother
    obtain ⟨-, after, rfl, -⟩ := indexedRecord?_eq_some_iff.mp hfound
    -- The first back quote is that before the index, and no form can begin before it.
    have hfree : '`' ∉ p ++ "Database index ".toList := by simp [hp]
    have hle : (p ++ "Database index ".toList).length ≤ (q ++ "Database index ".toList).length := by
      apply length_le_of_append_eq '`'
        (b := y ++ '`' :: (" already contains ".toList ++ behind))
        (d := '`' :: (x ++ '`' :: (" already contains ".toList ++ after))) _ hfree
      rw [List.append_assoc, List.append_assoc, ← databaseIndex_append, ← databaseIndex_append]
      exact hq.symm
    rw [List.length_append, List.length_append] at hle
    omega

end Quotes

end FailureKind
end CallWire
