import CallWire.Proofs.YamlBlock
import CallWire.Proofs.YamlQuoted
import CallWire.Proofs.YamlSteps
import CallWire.Proofs.YamlValues

/-!
This module contains that a text is read back from what it is written as, in whatever form it is
written: as it stands, between quotes or as a block.
-/

namespace CallWire

namespace Yaml

namespace Lexer

variable {x : Char} {rest : List Char}

theorem beginsToken_cons (hblank : isBlank x = false) (hbreak : isBreak x = false) (hhash : x ≠ '#')
    (hmark : x ≠ '\ufeff')
    : BeginsToken (x :: rest) := by
  intro y hy
  cases hy
  exact ⟨hblank, hbreak, hhash, hmark⟩

theorem BeginsToken.beginsWord (h : BeginsToken rest) : BeginsWord rest :=
  fun y hy => ⟨(h y hy).1, (h y hy).2.1⟩

theorem readsAs_plain (indent : Nat) {s : List Char} (hs : PlainScalar s)
    : ReadsAs indent (s ++ ['\n']) .plain (String.ofList s) := by
  obtain ⟨x, s', rfl⟩ : ∃ x s', s = x :: s' := List.exists_cons_of_ne_nil hs.ne_nil
  obtain ⟨hindicator, hword, _⟩ := hasIndicator_cons_cases hs.indicator
  obtain ⟨hprint, hbreak⟩ := hs.printable x List.mem_cons_self
  have hblank : isBlank x = false := by
    rw [isBlank_of_isPrintable hprint]
    exact decide_eq_false (by simpa using hs.front)
  exact
    { front := ⟨x, _, rfl⟩
      beginsToken := by
        apply beginsToken_cons hblank hbreak
        . rintro rfl
          exact hindicator (by decide)
        . rintro rfl
          cases hprint
      read := by
        intro tokens outer c column y rest left hvalue hrest hcolumn hle hleft
        cases hvalue
        have hfront : PlainFront x (s' ++ ['\n'] ++ (List.replicate column ' ' ++ left)) := by
          refine ⟨hindicator, ⟨hblank, hbreak⟩, ?_⟩
          intro hx
          rw [List.append_assoc]
          exact endsWord_of_endsWordAt (hword hx)
        have hindent : ((indent : Int) + 1).toNat = indent + 1 := by omega
        have hwords : c.rest = x :: s' ++ '\n' :: (List.replicate column ' ' ++ left) := by
          rw [hrest]
          simp
        have hlength : (x :: s').length < c.rest.length := by
          rw [hwords, List.length_append, List.length_cons]
          simp
        obtain ⟨c', hread, hrest', hcolumn'⟩ := readPlain_words (g := {}) [] hs.words hwords
          hcolumn (Nat.lt_succ_of_le hle) hleft.beginsWord hlength
        refine ⟨c', true, ?_, .here hrest' hcolumn'⟩
        rw [hfront.readToken rfl hrest (.inl (Nat.zero_lt_of_lt hcolumn))]
        change Option.map _ (readPlain false ((indent : Int) + 1).toNat c.rest.length [] {} c) = _
        rw [hindent, hread]
        simp [outside, emitScalar, allowKey, emit, Gap.text] }

theorem readToken_quote {l : Lexer} (hcolumn : 0 < l.cursor.column)
    (hquote : x = '\'' ∨ x = '"')
    : l.readToken x
        =
      l.saveKey.bind (fun l' =>
        (readQuoted x l.cursor.rest.length [] (l.cursor.skip 1)).map (fun s =>
          (l'.allowKey false).emitScalar (if x = '"' then .doubleQuoted else .singleQuoted) s)) := by
  unfold Lexer.readToken
  dsimp only
  rw [Cursor.isAtMark_of_pos hcolumn, Cursor.isAtMark_of_pos hcolumn]
  rcases hquote with rfl | rfl <;> simp [Option.map_eq_bind, Function.comp_def]

theorem readsAs_quoted (indent : Nat) {quote : Char} {spell : Char → List Char}
    {inWord : Char → Bool} {s e : List Char} (hquote : quote = '\'' ∨ quote = '"')
    (h : Spelling quote spell inWord) (hs : Spelled spell inWord (indent + 2) s e)
    : ReadsAs indent (quote :: e ++ [quote, '\n'])
        (if quote = '"' then .doubleQuoted else .singleQuoted) (String.ofList s) where
  front := ⟨quote, _, rfl⟩
  beginsToken := by
    rcases hquote with rfl | rfl <;>
      exact beginsToken_cons (by decide) (by decide) (by decide) (by decide)
  read := by
    intro tokens outer c column x rest left hvalue hrest hcolumn hle hleft
    have hx : quote = x := (List.cons.inj hvalue).1
    subst hx
    have hskip := Cursor.skip_one hrest
    have hrest' : (c.skip 1).rest = e ++ quote :: '\n' :: (List.replicate column ' ' ++ left) := by
      rw [hskip, ← (List.cons.inj hvalue).2]
      simp
    have hlength : s.length < c.rest.length := by
      have := hs.length_le h
      rw [hrest, ← hvalue]
      simp only [List.length_cons, List.length_append]
      omega
    have htail : ('\n' :: (List.replicate column ' ' ++ left)).head? ≠ some quote := by
      rcases hquote with rfl | rfl <;> simp
    obtain ⟨c', hread, hrest''⟩ := h.readQuoted_spelled (Nat.succ_pos _) hs hrest' htail hlength
      (by rw [hskip]; exact Nat.succ_pos _)
    refine ⟨c', false, ?_, .lineBefore hrest''⟩
    rw [readToken_quote (Nat.zero_lt_of_lt hcolumn) hquote]
    change Option.map _ (readQuoted quote c.rest.length [] (c.skip 1)) = _
    rw [hread]
    simp [outside, emitScalar, allowKey, emit]

theorem readToken_bar {l : Lexer} (hcolumn : 0 < l.cursor.column) (hflow : l.inFlow = false)
    : l.readToken '|'
        =
      l.dropKey.bind (fun l' =>
        (readBlock false (l'.indent + 1).toNat (l.cursor.skip 1)).map (fun s =>
          (l'.allowKey true).emitScalar .literal s)) := by
  unfold Lexer.readToken
  dsimp only
  rw [Cursor.isAtMark_of_pos hcolumn, Cursor.isAtMark_of_pos hcolumn, hflow]
  simp [Option.map_eq_bind, Function.comp_def]

theorem readsAs_literal (indent : Nat) {s : List Char} (hs : s ≠ [])
    (hprint : ∀ y ∈ s, isPrintable y = true)
    : ReadsAs indent
        ('|' :: (literalMarks s ++ '\n' :: literalChars (indent + 2) true (closed s))) .literal
        (String.ofList s) where
  front := ⟨'|', _, rfl⟩
  beginsToken := beginsToken_cons (by decide) (by decide) (by decide) (by decide)
  read := by
    intro tokens outer c column x rest left hvalue hrest hcolumn hle hleft
    have hx : '|' = x := (List.cons.inj hvalue).1
    subst hx
    have hskip := Cursor.skip_one hrest
    have hrest' : (c.skip 1).rest
        = literalMarks s ++ '\n' :: (literalChars (indent + 2) true (closed s)
          ++ (List.replicate column ' ' ++ left)) := by
      rw [hskip, ← (List.cons.inj hvalue).2]
      simp
    obtain ⟨c', hread, hrest'', hcolumn'⟩ := readBlock_literal (indent + 1) hprint hs hrest'
      (Nat.succ_pos _) (Nat.lt_succ_of_le hle) hleft.beginsWord
    have hindent : ((indent : Int) + 1).toNat = indent + 1 := by omega
    refine ⟨c', true, ?_, .here hrest'' hcolumn'⟩
    rw [readToken_bar (Nat.zero_lt_of_lt hcolumn) rfl]
    change Option.map _ (readBlock false ((indent : Int) + 1).toNat (c.skip 1)) = _
    rw [hindent, hread]
    simp [outside, emitScalar, allowKey, emit]

theorem printable_of_special {s : List Char} (h : (analyse s).special = false)
    : ∀ y ∈ s, isPrintable y = true := by
  intro y hy
  have hall := List.any_eq_false.mp h y hy
  simpa using hall

theorem plainScalar_of_form {s : String} (h : form s = .plain) : PlainScalar s.toList := by
  have htext := form_eq_plain h
  unfold form at h
  dsimp only at h
  split at h
  . split at h <;> cases h
  split at h
  . next hplain =>
    have hplain := (Bool.and_eq_true_iff.mp hplain).2
    simp only [Bool.not_eq_true', Bool.or_eq_false_iff] at hplain
    obtain ⟨⟨⟨⟨hfront, hlast⟩, hbreak⟩, _, hspecial⟩, hindicator⟩ := hplain
    exact
      { ne_nil := by
          intro hnil
          unfold Plain.isText at htext
          rw [String.toList_eq_nil_iff.mp hnil] at htext
          cases htext
        printable := fun y hy =>
          ⟨printable_of_special hspecial y hy, by simpa using List.any_eq_false.mp hbreak y hy⟩
        front := by
          intro hspace
          unfold analyse at hfront
          rw [hspace] at hfront
          cases hfront
        last := by
          intro hspace
          unfold analyse at hlast
          rw [hspace] at hlast
          cases hlast
        indicator := hindicator }
  . split at h <;> cases h

theorem singleQuotable_of_form {s : String} (h : form s = .singleQuoted)
    : SingleQuotable s.toList := by
  unfold form at h
  dsimp only at h
  split at h
  . split at h <;> cases h
  next hline =>
  split at h
  . cases h
  split at h
  . cases h
  . next hescaped =>
    simp only [Bool.not_eq_true, Bool.or_eq_false_iff] at hescaped
    exact
      { printable := printable_of_special hescaped.1.2
        noLine := fun hmem => hline (List.contains_iff_mem.mpr hmem)
        blankBeforeBreak := hescaped.1.1
        blankAfterBreak := hescaped.2 }

theorem literal_of_form {s : String} (h : form s = .literal)
    : s.toList ≠ [] ∧ ∀ y ∈ s.toList, isPrintable y = true := by
  unfold form at h
  dsimp only at h
  split at h
  . next hline =>
    split at h
    . cases h
    . next hescaped =>
      simp only [Bool.or_eq_true, not_or, Bool.not_eq_true] at hescaped
      refine ⟨?_, printable_of_special hescaped.1.2⟩
      intro hnil
      rw [hnil] at hline
      cases hline
  . split at h
    . cases h
    . split at h <;> cases h

/-- What a text is written as is read as the text, in the style of its form. -/
theorem readsAs_writeText (indent : Nat) (s : String)
    : ReadsAs indent (writeText (indent + 2) s) (form s).style s := by
  unfold writeText
  dsimp only
  cases hform : form s with
  | plain =>
    have hread := readsAs_plain indent (plainScalar_of_form hform)
    rwa [String.ofList_toList] at hread
  | singleQuoted =>
    have hread := readsAs_quoted indent (.inl rfl) spelling_single
      (spelled_single (indent + 2) (singleQuotable_of_form hform))
    rwa [String.ofList_toList] at hread
  | doubleQuoted =>
    have hread := readsAs_quoted indent (.inr rfl) spelling_double
      (spelled_double (indent + 2) s.toList)
    rwa [String.ofList_toList] at hread
  | literal =>
    obtain ⟨hne, hprint⟩ := literal_of_form hform
    have hread := readsAs_literal indent hne hprint
    rw [String.ofList_toList, ← literalChars_closed] at hread
    simpa [Form.style] using hread

/-! ## Characters -/

theorem isAllowed_of_isPrintable (h : isPrintable x = true) : isAllowed x = true := by
  unfold isPrintable at h
  unfold isAllowed
  simp only [Bool.or_eq_true, Bool.and_eq_true, decide_eq_true_eq] at h ⊢
  omega

theorem mem_singleQuotedChars {indent : Nat} {afterBreak : Bool} {s : List Char}
    (h : x ∈ singleQuotedChars indent afterBreak s)
    : x ∈ s ∨ x = ' ' ∨ x = '\'' := by
  have hindented {afterBreak : Bool} (h : x ∈ indented indent afterBreak) : x = ' ' := by
    unfold indented at h
    split at h
    . exact List.eq_of_mem_replicate h
    . cases h
  induction s generalizing afterBreak with
  | nil => exact .inr (.inl (hindented h))
  | cons y s ih =>
    have htail {afterBreak : Bool} (h : x ∈ singleQuotedChars indent afterBreak s)
        : x ∈ y :: s ∨ x = ' ' ∨ x = '\'' := (ih h).imp_left (List.mem_cons_of_mem y)
    unfold singleQuotedChars at h
    split at h
    . rcases List.mem_cons.mp h with rfl | h
      . exact .inl List.mem_cons_self
      . exact htail h
    split at h
    . rcases List.mem_cons.mp h with rfl | h
      . exact .inl List.mem_cons_self
      . exact htail h
    . rcases List.mem_append.mp h with h | h
      . rcases List.mem_append.mp h with h | h
        . exact .inr (.inl (hindented h))
        . split at h
          . exact .inr (.inr (by simpa using h))
          . exact .inl (List.mem_cons.mpr (.inl (List.mem_singleton.mp h)))
      . exact htail h

theorem mem_literalChars {indent : Nat} {afterBreak : Bool} {s : List Char}
    (h : x ∈ literalChars indent afterBreak s)
    : x ∈ s ∨ x = ' ' := by
  induction s generalizing afterBreak with
  | nil => cases h
  | cons y s ih =>
    have htail {afterBreak : Bool} (h : x ∈ literalChars indent afterBreak s)
        : x ∈ y :: s ∨ x = ' ' := (ih h).imp_left (List.mem_cons_of_mem y)
    unfold literalChars at h
    split at h
    . rcases List.mem_cons.mp h with rfl | h
      . exact .inl List.mem_cons_self
      . exact htail h
    . rcases List.mem_append.mp h with h | h
      . unfold indented at h
        split at h
        . exact .inr (List.eq_of_mem_replicate h)
        . cases h
      . rcases List.mem_cons.mp h with rfl | h
        . exact .inl List.mem_cons_self
        . exact htail h

theorem isAllowed_of_mem_upperHex {width n : Nat} (h : x ∈ upperHex width n)
    : isAllowed x = true := by
  have hdigits : ∀ m < 16, isAllowed (Nat.digitChar m).toUpper = true := by decide
  induction width generalizing n with
  | zero => cases h
  | succ width ih =>
    unfold upperHex at h
    rcases List.mem_append.mp h with h | h
    . exact ih h
    . rw [List.mem_singleton.mp h]
      exact hdigits (n % 16) (Nat.mod_lt n (by decide))

theorem isAllowed_of_mem_doubleQuotedChar {y : Char} (h : x ∈ doubleQuotedChar y)
    : isAllowed x = true := by
  by_cases hnamed : y ∈ namedEscapes
  . have hall : namedEscapes.all (fun y => (doubleQuotedChar y).all isAllowed) = true := by decide
    exact List.all_eq_true.mp (List.all_eq_true.mp hall y hnamed) x h
  rw [doubleQuotedChar_of_not_named hnamed] at h
  split at h
  . next hprint =>
    rw [List.mem_singleton.mp h]
    exact isAllowed_of_isPrintable hprint
  split at h <;> rcases List.mem_cons.mp h with rfl | h
  . decide
  . rcases List.mem_cons.mp h with rfl | h
    . decide
    . exact isAllowed_of_mem_upperHex h
  . decide
  . rcases List.mem_cons.mp h with rfl | h
    . decide
    . exact isAllowed_of_mem_upperHex h

theorem isAllowed_of_mem_literalMarks {s : List Char} (h : x ∈ literalMarks s)
    : isAllowed x = true := by
  rw [literalMarks_eq] at h
  rcases List.mem_append.mp h with h | h
  . have hall : ∀ hint, (hintMark hint).all isAllowed = true := by decide
    exact List.all_eq_true.mp (hall _) x h
  . cases hkept : chomping s <;> rw [hkept] at h
    . rw [List.mem_singleton.mp h]
      rfl
    . cases h
    . rw [List.mem_singleton.mp h]
      rfl

theorem isAllowed_of_mem_writeText {indent : Nat} {s : String} (h : x ∈ writeText indent s)
    : isAllowed x = true := by
  unfold writeText at h
  dsimp only at h
  cases hform : form s with
  | plain =>
    rw [hform] at h
    rcases List.mem_append.mp h with h | h
    . exact isAllowed_of_isPrintable ((plainScalar_of_form hform).printable x h).1
    . rw [List.mem_singleton.mp h]
      rfl
  | singleQuoted =>
    rw [hform] at h
    simp only [List.mem_cons, List.mem_append, List.not_mem_nil, or_false, List.cons_append] at h
    rcases h with rfl | h | rfl | rfl
    . rfl
    . rcases mem_singleQuotedChars h with h | rfl | rfl
      . exact isAllowed_of_isPrintable ((singleQuotable_of_form hform).printable x h)
      . rfl
      . rfl
    . rfl
    . rfl
  | doubleQuoted =>
    rw [hform] at h
    simp only [List.mem_cons, List.mem_append, List.not_mem_nil, or_false, List.cons_append] at h
    rcases h with rfl | h | rfl | rfl
    . rfl
    . obtain ⟨y, _, hy⟩ := List.mem_flatMap.mp h
      exact isAllowed_of_mem_doubleQuotedChar hy
    . rfl
    . rfl
  | literal =>
    rw [hform] at h
    simp only [List.mem_cons, List.mem_append, List.cons_append] at h
    rcases h with rfl | (h | rfl | h) | h
    . rfl
    . exact isAllowed_of_mem_literalMarks h
    . rfl
    . rcases mem_literalChars h with h | rfl
      . exact isAllowed_of_isPrintable ((literal_of_form hform).2 x h)
      . rfl
    . split at h
      . cases h
      . rw [List.mem_singleton.mp h]
        rfl

end Lexer
end Yaml
end CallWire
