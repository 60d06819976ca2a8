import CallWire.Proofs.MessageForms

/-!
This module contains what a server's error message says when it is taken for some kind of failure.
Each kind is described by the words of the message alone, and the first description that fits
decides. Where a message tells of an index, the record that it names at its end is found whatever the
value before it looks like.
-/

namespace CallWire
namespace FailureKind

def HasPhrase (phrases : List String) (m : String) : Prop :=
  ∃ phrase ∈ phrases, ∃ p s, m = p ++ phrase ++ s

structure NamesRecord (t i : String) : Prop where
  table : IsName [':', '`'] t.toList
  id : IsName ['`'] i.toList

structure TellsRecord (m p t i : String) : Prop where
  names : NamesRecord t i
  words : ∃ s, m = p ++ "Database record `" ++ t ++ ":" ++ i ++ "` already exists" ++ s

structure NamesIndex (x v t i : String) : Prop extends NamesRecord t i where
  index : IsName ['`'] x.toList
  value : v ≠ ""
  line : '\n' ∉ v.toList

def indexWords (x v t i : String) : String :=
  "Database index `" ++ x ++ "` already contains " ++ v ++ ", with record `" ++ t ++ ":" ++ i ++ "`"

def TellsIndex (m : String) : Prop :=
  ∃ x v t i, NamesIndex x v t i ∧ ∃ p s, m = p ++ indexWords x v t i ++ s

variable {m p x t i : String} {phrases : List String}

theorem exists_toList (s : List Char) : ∃ text : String, text.toList = s :=
  ⟨String.ofList s, String.toList_ofList⟩

theorem any_holds_iff
    : phrases.any (fun phrase => holds phrase.toList m.toList) = true ↔ HasPhrase phrases m := by
  rw [List.any_eq_true]
  apply exists_congr
  intro phrase
  rw [holds_iff]
  apply and_congr_right
  intro _
  constructor
  . rintro ⟨p, s, h⟩
    refine ⟨String.ofList p, String.ofList s, ?_⟩
    rw [← String.toList_inj]
    simp [h]
  . rintro ⟨p, s, rfl⟩
    refine ⟨p.toList, s.toList, ?_⟩
    simp

theorem hasPhrase_pair_iff {phrase other : String}
    : HasPhrase [phrase, other] m
        ↔
      (∃ p s, m = p ++ phrase ++ s) ∨ ∃ p s, m = p ++ other ++ s := by
  unfold HasPhrase
  simp only [List.mem_cons, List.not_mem_nil, or_false, exists_eq_or_imp, exists_eq_left]

theorem tellsRecord_iff
    : TellsRecord m p t i
        ↔
      ∃ rest, m.toList = p.toList ++ rest ∧ existingRecord? rest = some (t.toList, i.toList) := by
  constructor
  . rintro ⟨⟨ht, hi⟩, s, rfl⟩
    refine ⟨_, ?_, existingRecord?_eq_some_iff.mpr ⟨ht, hi, s.toList, rfl⟩⟩
    simp only [String.toList_append, List.append_assoc]
    rfl
  . rintro ⟨rest, hm, hrecord⟩
    obtain ⟨ht, hi, s, rfl⟩ := existingRecord?_eq_some_iff.mp hrecord
    refine ⟨⟨ht, hi⟩, String.ofList s, ?_⟩
    rw [← String.toList_inj, hm]
    simp only [String.toList_append, String.toList_ofList, List.append_assoc]
    rfl

/-- A message says after `p` that a record exists, and nowhere before that. -/
def TellsRecordFirst (m p t i : String) : Prop :=
  TellsRecord m p t i ∧ ∀ q u j, TellsRecord m q u j → p.length ≤ q.length

theorem firstMatch?_existingRecord?_eq_some_iff
    : firstMatch? existingRecord? m.toList = some (t.toList, i.toList)
        ↔
      ∃ p, TellsRecordFirst m p t i := by
  constructor
  . intro h
    obtain ⟨p, rest, hm, hrecord, hfirst⟩ := first_of_firstMatch? h
    refine ⟨String.ofList p, tellsRecord_iff.mpr ⟨rest, ?_, hrecord⟩, ?_⟩
    . rw [String.toList_ofList, hm]
    . intro q u j hq
      obtain ⟨back, hback, hother⟩ := tellsRecord_iff.mp hq
      apply Nat.le_of_not_lt
      intro hlt
      rw [← String.length_toList, ← String.length_toList, String.toList_ofList] at hlt
      rw [hfirst q.toList back hback hlt] at hother
      cases hother
  . rintro ⟨p, hp, hfirst⟩
    obtain ⟨rest, hm, hrecord⟩ := tellsRecord_iff.mp hp
    rw [hm]
    apply firstMatch?_of_first hrecord
    intro q back hq hlt
    cases hother : existingRecord? back with
    | none => rfl
    | some other =>
      obtain ⟨u, j⟩ := other
      have htells : TellsRecord m (String.ofList q) (String.ofList u) (String.ofList j) := by
        apply tellsRecord_iff.mpr
        simp only [String.toList_ofList]
        exact ⟨back, hm.trans hq, hother⟩
      have hle := hfirst _ _ _ htells
      rw [← String.length_toList, ← String.length_toList, String.toList_ofList] at hle
      omega

theorem firstMatch?_existingRecord?_eq_none_iff
    : firstMatch? existingRecord? m.toList = none ↔ ∀ p t i, ¬TellsRecord m p t i := by
  rw [firstMatch?_eq_none_iff]
  constructor
  . intro h p t i htells
    obtain ⟨rest, hm, hrecord⟩ := tellsRecord_iff.mp htells
    rw [h p.toList rest hm] at hrecord
    cases hrecord
  . intro h p rest hm
    cases hrecord : existingRecord? rest with
    | none => rfl
    | some record =>
      obtain ⟨t, i⟩ := record
      apply absurd _ (h (String.ofList p) (String.ofList t) (String.ofList i))
      apply tellsRecord_iff.mpr
      simp only [String.toList_ofList]
      exact ⟨rest, hm, hrecord⟩

theorem toList_indexWords (x v t i : String) (rest : List Char)
    : (indexWords x v t i).toList ++ rest
        =
      "Database index `".toList ++ (x.toList ++ '`' :: (" already contains ".toList
        ++ (v.toList ++ (", with record `".toList
          ++ (t.toList ++ ':' :: (i.toList ++ '`' :: rest)))))) := by
  unfold indexWords
  simp only [String.toList_append, List.append_assoc]
  rfl

theorem indexedRecord?_isSome_iff {s : List Char}
    : (indexedRecord? s).isSome
        ↔
      ∃ x v t i, NamesIndex x v t i ∧ ∃ rest, s = (indexWords x v t i).toList ++ rest := by
  rw [Option.isSome_iff_exists]
  constructor
  . rintro ⟨⟨x, t, i⟩, h⟩
    obtain ⟨hx, rest, rfl, hrecord⟩ := indexedRecord?_eq_some_iff.mp h
    have hsome := Option.isSome_of_eq_some hrecord
    rw [recordAfterValue?_isSome_iff, Option.isSome_none] at hsome
    obtain ⟨v, back, rfl, hv, hline, hhere⟩ := hsome.resolve_left Bool.false_ne_true
    obtain ⟨⟨u, j⟩, hhere⟩ := Option.isSome_iff_exists.mp hhere
    obtain ⟨hu, hj, after, rfl⟩ := recordHere?_eq_some_iff.mp hhere
    refine ⟨String.ofList x, String.ofList v, String.ofList u, String.ofList j, ?_, after, ?_⟩
    . constructor
      . constructor <;> simpa
      . simpa
      . simpa using hv
      . simpa
    . rw [toList_indexWords]
      simp only [String.toList_ofList]
  . rintro ⟨x, v, t, i, h, rest, hs⟩
    rw [toList_indexWords] at hs
    rw [hs]
    have hhere := recordHere?_eq_some_iff.mpr ⟨h.table, h.id, rest, rfl⟩
    have hv : v.toList ≠ [] := fun hnil => h.value (String.toList_eq_nil_iff.mp hnil)
    have hsome := (recordAfterValue?_isSome_iff none _).mpr
      (.inr ⟨v.toList, _, rfl, hv, h.line, Option.isSome_of_eq_some hhere⟩)
    obtain ⟨⟨u, j⟩, hrecord⟩ := Option.isSome_iff_exists.mp hsome
    exact ⟨⟨x.toList, u, j⟩, indexedRecord?_eq_some_iff.mpr ⟨h.index, _, rfl, hrecord⟩⟩

theorem firstMatch?_indexedRecord?_isSome_iff
    : (firstMatch? indexedRecord? m.toList).isSome ↔ TellsIndex m := by
  rw [← not_iff_not, Option.not_isSome_iff_eq_none, firstMatch?_eq_none_iff]
  constructor
  . rintro h ⟨x, v, t, i, hnames, p, s, hm⟩
    have hsome := indexedRecord?_isSome_iff.mpr ⟨x, v, t, i, hnames, s.toList, rfl⟩
    rw [h p.toList _ (by simp [hm])] at hsome
    cases hsome
  . intro h p rest hm
    rw [← Option.not_isSome_iff_eq_none, indexedRecord?_isSome_iff]
    rintro ⟨x, v, t, i, hnames, s, hrest⟩
    apply h
    refine ⟨x, v, t, i, hnames, String.ofList p, String.ofList s, ?_⟩
    rw [← String.toList_inj, hm, hrest]
    simp

theorem classify_of_authentication (h : HasPhrase authenticationPhrases m)
    : classify m = .authenticationFailed := by
  unfold classify
  dsimp only
  rw [if_pos (any_holds_iff.mpr h)]

theorem classify_of_selection (hauth : ¬HasPhrase authenticationPhrases m)
    (h : HasPhrase selectionPhrases m)
    : classify m = .noDatabaseSelected := by
  unfold classify
  dsimp only
  rw [if_neg (mt any_holds_iff.mp hauth), if_pos (any_holds_iff.mpr h)]

section Forms

variable (hauth : ¬HasPhrase authenticationPhrases m) (hsel : ¬HasPhrase selectionPhrases m)

include hauth hsel

theorem classify_of_record
    (hrecord : firstMatch? existingRecord? m.toList = some (t.toList, i.toList))
    : classify m = .recordAlreadyExists t i := by
  unfold classify
  dsimp only
  rw [if_neg (mt any_holds_iff.mp hauth), if_neg (mt any_holds_iff.mp hsel), hrecord]
  dsimp only
  rw [String.ofList_toList, String.ofList_toList]

theorem classify_of_index (hrecord : firstMatch? existingRecord? m.toList = none)
    (hindex : firstMatch? indexedRecord? m.toList = some (x.toList, t.toList, i.toList))
    : classify m = .uniqueIndexViolation t x i := by
  unfold classify
  dsimp only
  rw [if_neg (mt any_holds_iff.mp hauth), if_neg (mt any_holds_iff.mp hsel), hrecord, hindex]
  dsimp only
  rw [String.ofList_toList, String.ofList_toList, String.ofList_toList]

theorem classify_of_neither (hrecord : firstMatch? existingRecord? m.toList = none)
    (hindex : firstMatch? indexedRecord? m.toList = none)
    : classify m = .generic m := by
  unfold classify
  dsimp only
  rw [if_neg (mt any_holds_iff.mp hauth), if_neg (mt any_holds_iff.mp hsel), hrecord, hindex]

end Forms

/--
The kind of failure of every message, by what stands in the message. No message of a server is taken
for a failure of the connection.
-/
theorem classify_by_words (m : String)
    : (HasPhrase authenticationPhrases m
          ↔
        (∃ p s, m = p ++ "problem with authentication" ++ s)
          ∨ ∃ p s, m = p ++ "You don't have permission to perform this query type" ++ s)
      ∧ (HasPhrase selectionPhrases m
          ↔
        (∃ p s, m = p ++ "Specify a namespace" ++ s)
          ∨ ∃ p s, m = p ++ "Specify a database" ++ s)
      ∧ (classify m = .authenticationFailed ↔ HasPhrase authenticationPhrases m)
      ∧ (classify m = .noDatabaseSelected
          ↔ ¬HasPhrase authenticationPhrases m ∧ HasPhrase selectionPhrases m)
      ∧ (∀ t i, classify m = .recordAlreadyExists t i
          ↔ ¬HasPhrase authenticationPhrases m ∧ ¬HasPhrase selectionPhrases m
            ∧ ∃ p, TellsRecordFirst m p t i)
      ∧ ((∃ t x i, classify m = .uniqueIndexViolation t x i)
          ↔ ¬HasPhrase authenticationPhrases m ∧ ¬HasPhrase selectionPhrases m
            ∧ (∀ p t i, ¬TellsRecord m p t i) ∧ TellsIndex m)
      ∧ (∀ text, classify m = .generic text
          ↔ ¬HasPhrase authenticationPhrases m ∧ ¬HasPhrase selectionPhrases m
            ∧ (∀ p t i, ¬TellsRecord m p t i) ∧ ¬TellsIndex m ∧ text = m)
      ∧ classify m ≠ .connectionTimeout ∧ classify m ≠ .notConnected := by
  refine ⟨hasPhrase_pair_iff, hasPhrase_pair_iff, ?_⟩
  by_cases hauth : HasPhrase authenticationPhrases m
  . simp [classify_of_authentication hauth, hauth]
  by_cases hsel : HasPhrase selectionPhrases m
  . simp [classify_of_selection hauth hsel, hauth, hsel]
  simp only [hauth, hsel, not_false_eq_true, true_and, and_false, iff_false]
  simp only [← firstMatch?_existingRecord?_eq_some_iff, ← firstMatch?_existingRecord?_eq_none_iff,
    ← firstMatch?_indexedRecord?_isSome_iff]
  cases hrecord : firstMatch? existingRecord? m.toList with
  | some record =>
    obtain ⟨t, i⟩ := record
    obtain ⟨t, rfl⟩ := exists_toList t
    obtain ⟨i, rfl⟩ := exists_toList i
    simp [classify_of_record hauth hsel hrecord, String.toList_inj]
  | none =>
    cases hindex : firstMatch? indexedRecord? m.toList with
    | some found =>
      obtain ⟨x, t, i⟩ := found
      obtain ⟨x, rfl⟩ := exists_toList x
      obtain ⟨t, rfl⟩ := exists_toList t
      obtain ⟨i, rfl⟩ := exists_toList i
      simp [classify_of_index hauth hsel hrecord hindex]
    | none => simp [classify_of_neither hauth hsel hrecord hindex, eq_comm]

/--
A message that tells of an index names its record at the end. That one is found, and the index,
whatever the value is like: it can hold back quotes, and words that name other records.
-/
theorem classify_index_words (p x v t i s : String) (hnames : NamesIndex x v t i)
    (hp : '`' ∉ p.toList) (hs : '`' ∉ s.toList)
    (hauth : ¬HasPhrase authenticationPhrases (p ++ indexWords x v t i ++ s))
    (hsel : ¬HasPhrase selectionPhrases (p ++ indexWords x v t i ++ s))
    (hrecord : ∀ q u j, ¬TellsRecord (p ++ indexWords x v t i ++ s) q u j)
    : classify (p ++ indexWords x v t i ++ s) = .uniqueIndexViolation t x i := by
  have hhere := recordHere?_eq_some_iff.mpr ⟨hnames.table, hnames.id, s.toList, rfl⟩
  have hlast : recordAfterValue? none (v.toList ++ (", with record `".toList
      ++ (t.toList ++ ':' :: (i.toList ++ '`' :: s.toList)))) = some (t.toList, i.toList) := by
    apply recordAfterValue?_append _ hnames.line hhere
    . intro u back hback hu
      exact recordHere?_eq_none_of_later hnames.table hnames.id hs hback hu
    . intro hnil
      exact hnames.value (String.toList_eq_nil_iff.mp hnil)
  have hfound := indexedRecord?_eq_some_iff.mpr ⟨hnames.index, _, rfl, hlast⟩
  apply classify_of_index hauth hsel (firstMatch?_existingRecord?_eq_none_iff.mpr hrecord)
  rw [String.toList_append, String.toList_append, List.append_assoc, toList_indexWords]
  exact firstMatch?_indexedRecord? hp hfound

/-- The value names a record `a:b` in the words that stand before the real one. -/
theorem classify_index_words_lookalike
    : let m := "Failed: " ++ indexWords "mail" "`x`, with record `a:b`" "user" "tobie" ++ "."
      ¬HasPhrase authenticationPhrases m ∧ ¬HasPhrase selectionPhrases m
        ∧ (∀ q u j, ¬TellsRecord m q u j)
        ∧ classify m = .uniqueIndexViolation "user" "mail" "tobie" := by
  intro m
  have hnames : NamesIndex "mail" "`x`, with record `a:b`" "user" "tobie" := by
    constructor
    . constructor <;> decide +kernel
    . decide +kernel
    . decide
    . decide +kernel
  have hauth : ¬HasPhrase authenticationPhrases m := mt any_holds_iff.mpr (by decide +kernel)
  have hsel : ¬HasPhrase selectionPhrases m := mt any_holds_iff.mpr (by decide +kernel)
  have hrecord : ∀ q u j, ¬TellsRecord m q u j :=
    firstMatch?_existingRecord?_eq_none_iff.mp (by decide +kernel)
  exact ⟨hauth, hsel, hrecord,
    classify_index_words _ _ _ _ _ _ hnames (by decide +kernel) (by decide +kernel) hauth hsel
      hrecord⟩

end FailureKind
end CallWire
