import CallWire.Proofs.JsonGrammar

/-!
This module contains that the grammar of JSON texts is what is read: a text that writes a tree is
read as the value of the tree, unless the tree is too deep or has a number out of range, and no
other text is read.
-/

namespace CallWire

namespace Json

variable {s s' rest : List Char}

theorem skipBlanks_of_blanks (h : Blanks s rest) : skipBlanks s = skipBlanks rest := by
  induction h with
  | done s => rfl
  | skip hblank _ ih => rw [skipBlanks, if_pos hblank, ih]

theorem blanks_skipBlanks (s : List Char) : Blanks s (skipBlanks s) := by
  induction s with
  | nil => exact .done []
  | cons c s ih =>
    unfold skipBlanks
    split
    . next hblank => exact .skip hblank ih
    . exact .done (c :: s)

theorem skipBlanks_of_blanks_cons {c : Char} (h : Blanks s (c :: rest)) (hc : isBlank c = false)
    : skipBlanks s = c :: rest := by
  rw [skipBlanks_of_blanks h, skipBlanks_cons hc]

theorem ends_of_isBlank {c : Char} (h : isBlank c = true) : Numeral.Ends (c :: rest) := by
  unfold isBlank at h
  simp only [Bool.or_eq_true, decide_eq_true_eq] at h
  rcases h with ((rfl | rfl) | rfl) | rfl <;> apply Numeral.ends_cons <;> decide

theorem ends_of_blanks (h : Blanks s rest) (hrest : Numeral.Ends rest) : Numeral.Ends s := by
  cases h with
  | done => exact hrest
  | skip hblank _ => exact ends_of_isBlank hblank

theorem readHex_eq_ok_iff {n : Nat} : readHex s = .ok (n, rest) ↔ HexUnit s n rest := by
  constructor
  . intro h
    unfold readHex at h
    split at h
    . split at h
      . next ha hb hc hd =>
        cases h
        exact .mk rest ha hb hc hd
      . cases h
    . split at h <;> cases h
  . rintro ⟨rest, ha, hb, hc, hd⟩
    simp only [readHex, ha, hb, hc, hd]

theorem readLowSurrogate_eq_ok_iff {high : Nat} {c : Char}
    : readLowSurrogate high s = .ok (c, rest)
        ↔
      ∃ s' low, s = '\\' :: 'u' :: s' ∧ HexUnit s' low rest ∧ IsLowSurrogate low
        ∧ c = ofSurrogates high low := by
  constructor
  . intro h
    unfold readLowSurrogate at h
    split at h
    . cases h
    . cases h
    . next s' =>
      split at h
      . cases h
      . next low _ hhex =>
        split at h
        . next hlow =>
          simp only [Except.ok.injEq, Prod.mk.injEq] at h
          obtain ⟨rfl, rfl⟩ := h
          exact ⟨s', low, rfl, readHex_eq_ok_iff.mp hhex, hlow, rfl⟩
        . cases h
    . cases h
    . cases h
  . rintro ⟨s', low, rfl, hhex, hlow, hc⟩
    simp only [readLowSurrogate, readHex_eq_ok_iff.mpr hhex]
    rw [if_pos hlow, hc]

theorem readUnicodeEscape_eq_ok_iff {c : Char}
    : readUnicodeEscape s = .ok (c, rest) ↔ Escape ('u' :: s) c rest := by
  constructor
  . intro h
    unfold readUnicodeEscape at h
    split at h
    . cases h
    . next unit s' hhex =>
      rw [readHex_eq_ok_iff] at hhex
      split at h
      . cases h
      . next hlow =>
        split at h
        . next hhigh =>
          obtain ⟨s'', low, rfl, hhex', hlow', hc⟩ := readLowSurrogate_eq_ok_iff.mp h
          rw [hc]
          exact .pair hhex hhigh hhex' hlow'
        . next hhigh =>
          simp only [Except.ok.injEq, Prod.mk.injEq] at h
          obtain ⟨rfl, rfl⟩ := h
          exact .unit hhex hhigh hlow
  . intro h
    unfold readUnicodeEscape
    cases h with
    | letter _ hmem => simp [escapeLetters] at hmem
    | unit hhex hhigh hlow =>
      rw [readHex_eq_ok_iff.mpr hhex]
      dsimp only
      rw [if_neg hlow, if_neg hhigh]
    | pair hhex hhigh hhex' hlow' =>
      rw [readHex_eq_ok_iff.mpr hhex]
      dsimp only
      rw [if_neg, if_pos hhigh]
      . exact readLowSurrogate_eq_ok_iff.mpr ⟨_, _, rfl, hhex', hlow', rfl⟩
      . omega

theorem readEscape_letter {e c : Char} (h : (e, c) ∈ escapeLetters)
    : readEscape (e :: s) = .ok (c, s) := by
  simp only [escapeLetters, List.mem_cons, Prod.mk.injEq, List.not_mem_nil, or_false] at h
  rcases h with ⟨rfl, rfl⟩ | ⟨rfl, rfl⟩ | ⟨rfl, rfl⟩ | ⟨rfl, rfl⟩ | ⟨rfl, rfl⟩ | ⟨rfl, rfl⟩
    | ⟨rfl, rfl⟩ | ⟨rfl, rfl⟩ <;> rfl

theorem readEscape_of_not_letter {e : Char} (h : ∀ c, (e, c) ∉ escapeLetters)
    : readEscape (e :: s)
        =
      if e = 'u' then readUnicodeEscape s else Stop.past .invalidEscape (e :: s) := by
  have hne (d c : Char) (hmem : (d, c) ∈ escapeLetters) : e ≠ d := by
    rintro rfl
    exact h c hmem
  simp only [readEscape]
  rw [if_neg (hne '"' '"' (by decide)), if_neg (hne '\\' '\\' (by decide))]
  rw [if_neg (hne '/' '/' (by decide)), if_neg (hne 'b' '\x08' (by decide))]
  rw [if_neg (hne 'f' '\x0c' (by decide)), if_neg (hne 'n' '\n' (by decide))]
  rw [if_neg (hne 'r' '\r' (by decide)), if_neg (hne 't' '\t' (by decide))]

theorem readEscape_eq_ok_iff {c : Char} : readEscape s = .ok (c, rest) ↔ Escape s c rest := by
  constructor
  . intro h
    cases s with
    | nil => cases h
    | cons e s =>
      by_cases hletter : ∃ d, (e, d) ∈ escapeLetters
      . obtain ⟨d, hd⟩ := hletter
        rw [readEscape_letter hd] at h
        cases h
        exact .letter rest hd
      . rw [readEscape_of_not_letter (not_exists.mp hletter)] at h
        split at h
        . next hu =>
          rw [hu]
          exact readUnicodeEscape_eq_ok_iff.mp h
        . cases h
  . intro h
    have hu : readEscape ('u' :: s) = readUnicodeEscape s := rfl
    cases h with
    | letter _ hmem => exact readEscape_letter hmem
    | unit hhex hhigh hlow => exact readUnicodeEscape_eq_ok_iff.mpr (.unit hhex hhigh hlow)
    | pair hhex hhigh hhex' hlow =>
      exact readUnicodeEscape_eq_ok_iff.mpr (.pair hhex hhigh hhex' hlow)

theorem readStringTail_of_spells {cs : List Char} (h : Spells s cs rest) (read : List Char)
    : readStringTail read s = .ok (read.reverse ++ cs, rest) := by
  induction h generalizing read with
  | close rest =>
    rw [readStringTail_quote, List.append_nil]
  | plain hquote hslash hcontrol _ ih =>
    rw [readStringTail_plain hquote hslash (Nat.not_lt.mpr hcontrol), ih]
    rw [List.reverse_cons, List.append_assoc, List.singleton_append]
  | escape hescape _ ih =>
    rw [readStringTail_escape (readEscape_eq_ok_iff.mpr hescape), ih]
    rw [List.reverse_cons, List.append_assoc, List.singleton_append]

theorem spells_of_readStringTail {read chars : List Char}
    (h : readStringTail read s = .ok (chars, rest))
    : ∃ cs, Spells s cs rest ∧ chars = read.reverse ++ cs := by
  fun_induction readStringTail read s with
  | case1 => cases h
  | case2 =>
    cases h
    exact ⟨[], .close _, (List.append_nil _).symm⟩
  | case3 => cases h
  | case4 read s d rest' hescape _ _ ih =>
    obtain ⟨cs, hspells, hchars⟩ := ih h
    refine ⟨d :: cs, .escape (readEscape_eq_ok_iff.mp hescape) hspells, ?_⟩
    rw [hchars, List.reverse_cons, List.append_assoc, List.singleton_append]
  | case5 => cases h
  | case6 read c s hquote hslash hcontrol ih =>
    obtain ⟨cs, hspells, hchars⟩ := ih h
    refine ⟨c :: cs, .plain hquote hslash (Nat.not_lt.mp hcontrol) hspells, ?_⟩
    rw [hchars, List.reverse_cons, List.append_assoc, List.singleton_append]

theorem readString_eq_ok_iff {text : String}
    : readString s = .ok (text, rest) ↔ ∃ cs, Spells s cs rest ∧ text = String.ofList cs := by
  unfold readString
  constructor
  . intro h
    split at h
    . cases h
    . next hread =>
      cases h
      obtain ⟨cs, hspells, hchars⟩ := spells_of_readStringTail hread
      rw [List.reverse_nil, List.nil_append] at hchars
      exact ⟨cs, hspells, congrArg String.ofList hchars⟩
  . rintro ⟨cs, hspells, rfl⟩
    rw [readStringTail_of_spells hspells]
    rfl

theorem Blanks.length_le (h : Blanks s rest) : rest.length ≤ s.length := by
  induction h with
  | done s => exact Nat.le_refl s.length
  | skip _ _ ih => exact Nat.le_succ_of_le ih

theorem Spells.length_lt {cs : List Char} (h : Spells s cs rest) : rest.length < s.length := by
  induction h with
  | close rest => exact Nat.lt_succ_self rest.length
  | plain _ _ _ _ ih => exact Nat.lt_succ_of_lt ih
  | escape hescape _ ih =>
    have := readEscape_length (readEscape_eq_ok_iff.mpr hescape)
    rw [List.length_cons]
    omega

theorem Following.length_lt {α : Type} {writes : α → List Char → List Char → Prop} {close : Char}
    {as : List α} (h : Following writes close as s rest)
    (hwrites : ∀ a ∈ as, ∀ s rest, writes a s rest → rest.length < s.length)
    : as.length + rest.length < s.length := by
  induction h with
  | close hblanks =>
    have := hblanks.length_le
    rw [List.length_cons] at this
    rw [List.length_nil]
    omega
  | @comma a as s s₁ s₂ s₃ rest hblanks hblanks₁ ha _ ih =>
    have h₁ := hblanks.length_le
    have h₂ := hblanks₁.length_le
    have h₃ := hwrites a List.mem_cons_self s₂ s₃ ha
    have h₄ := ih (fun b hb => hwrites b (List.mem_cons_of_mem a hb))
    rw [List.length_cons] at h₁ ⊢
    omega

theorem MemberWrites.length_lt {writes : Tree → List Char → List Char → Prop}
    {m : String × Tree} (h : MemberWrites writes m s rest)
    (hwrites : ∀ s rest, writes m.2 s rest → rest.length < s.length)
    : rest.length < s.length := by
  cases h with
  | @mk key t s s₁ s₂ s₃ rest hkey hcolon hblanks ht =>
    have h₁ := hkey.length_lt
    have h₂ := hcolon.length_le
    have h₃ := hblanks.length_le
    have h₄ := hwrites s₃ rest ht
    rw [List.length_cons] at h₂ ⊢
    omega

theorem Tree.depthItems_le_iff {depth : Nat} {ts : List Tree}
    : depthItems ts ≤ depth ↔ ∀ t ∈ ts, t.depth ≤ depth := by
  induction ts with
  | nil => simp [depthItems]
  | cons t ts ih => rw [depthItems, Nat.max_le, List.forall_mem_cons, ih]

theorem Tree.depthMembers_le_iff {depth : Nat} {ms : List (String × Tree)}
    : depthMembers ms ≤ depth ↔ ∀ m ∈ ms, m.2.depth ≤ depth := by
  induction ms with
  | nil => simp [depthMembers]
  | cons m ms ih => rw [depthMembers, Nat.max_le, List.forall_mem_cons, ih]

theorem length_text_pos (l : Numeral.Literal) : 0 < l.text.length := by
  have hwhole := List.length_pos_iff.mpr l.whole.nonempty
  unfold Numeral.Literal.text Numeral.Literal.unsigned
  split
  . exact Nat.succ_pos _
  . rw [List.length_append]
    omega

theorem Tree.Writes.length_lt {t : Tree} (h : t.Writes s rest) : rest.length < s.length := by
  induction hdepth : t.depth using Nat.strongRecOn generalizing t s rest with
  | ind depth ih =>
    subst hdepth
    cases h with
    | null =>
      rw [List.length_append]
      exact Nat.lt_add_of_pos_left (Nat.succ_pos 3)
    | true =>
      rw [List.length_append]
      exact Nat.lt_add_of_pos_left (Nat.succ_pos 3)
    | false =>
      rw [List.length_append]
      exact Nat.lt_add_of_pos_left (Nat.succ_pos 4)
    | number l =>
      rw [List.length_append]
      exact Nat.lt_add_of_pos_left (length_text_pos l)
    | string hspells => exact Nat.lt_succ_of_lt hspells.length_lt
    | noItems hblanks => exact Nat.lt_succ_of_lt hblanks.length_le
    | @items t ts s s₁ s₂ rest hblanks ht hts =>
      have hlt : ∀ u ∈ t :: ts, ∀ s rest, u.Writes s rest → rest.length < s.length := by
        intro u hu s rest hwrites
        apply ih u.depth (Nat.lt_succ_of_le _) hwrites rfl
        exact depthItems_le_iff.mp (Nat.le_refl _) u hu
      have h₁ := hblanks.length_le
      have h₂ := hlt t List.mem_cons_self s₁ s₂ ht
      have h₃ := hts.length_lt (fun u hu => hlt u (List.mem_cons_of_mem t hu))
      rw [List.length_cons]
      omega
    | noMembers hblanks => exact Nat.lt_succ_of_lt hblanks.length_le
    | @members m ms s s₁ s₂ rest hblanks hm hms =>
      have hlt : ∀ n ∈ m :: ms, ∀ s rest, MemberWrites Tree.Writes n s rest →
          rest.length < s.length := by
        intro n hn s rest hwrites
        apply hwrites.length_lt
        intro s rest hwrites
        apply ih n.2.depth (Nat.lt_succ_of_le _) hwrites rfl
        exact depthMembers_le_iff.mp (Nat.le_refl _) n hn
      have h₁ := hblanks.length_le
      have h₂ := hlt m List.mem_cons_self s₁ s₂ hm
      have h₃ := hms.length_lt (fun n hn => hlt n (List.mem_cons_of_mem m hn))
      rw [List.length_cons]
      omega

def Tree.readAs? (depth : Nat) (t : Tree) : Option Json :=
  if t.depth ≤ depth then t.value? else none

theorem mapM_cons_eq {α β : Type} (f : α → Option β) (a : α) (as : List α)
    : (a :: as).mapM f = (f a).bind fun b => (as.mapM f).map (b :: ·) := by
  rw [List.mapM_cons]
  cases f a with
  | none => rfl
  | some b =>
    cases as.mapM f <;> rfl

theorem Tree.mapM_readAs?_items (depth : Nat) (ts : List Tree)
    : ts.mapM (readAs? depth) = if depthItems ts ≤ depth then valueItems? ts else none := by
  induction ts with
  | nil => rfl
  | cons t ts ih =>
    rw [mapM_cons_eq, ih, depthItems, valueItems?]
    unfold readAs?
    by_cases ht : t.depth ≤ depth
    . by_cases hts : depthItems ts ≤ depth
      . rw [if_pos ht, if_pos hts, if_pos (Nat.max_le.mpr ⟨ht, hts⟩)]
      . rw [if_pos ht, if_neg hts, if_neg (fun h => hts (Nat.max_le.mp h).2)]
        cases t.value? <;> rfl
    . rw [if_neg ht, if_neg (fun h => ht (Nat.max_le.mp h).1)]
      rfl

def memberAs? (f : Tree → Option Json) (m : String × Tree) : Option (String × Json) :=
  (f m.2).map (m.1, ·)

theorem Tree.mapM_readAs?_members (depth : Nat) (ms : List (String × Tree))
    : ms.mapM (memberAs? (readAs? depth))
        =
      if depthMembers ms ≤ depth then valueMembers? ms else none := by
  induction ms with
  | nil => rfl
  | cons m ms ih =>
    rw [mapM_cons_eq, ih, depthMembers, valueMembers?]
    unfold memberAs? readAs?
    by_cases hm : m.2.depth ≤ depth
    . by_cases hms : depthMembers ms ≤ depth
      . rw [if_pos hm, if_pos hms, if_pos (Nat.max_le.mpr ⟨hm, hms⟩), Option.bind_map]
        rfl
      . rw [if_pos hm, if_neg hms, if_neg (fun h => hms (Nat.max_le.mp h).2)]
        cases m.2.value? <;> rfl
    . rw [if_neg hm, if_neg (fun h => hm (Nat.max_le.mp h).1)]
      rfl

theorem Tree.readAs?_array (depth : Nat) (ts : List Tree)
    : (Tree.array ts).readAs? (depth + 1) = (ts.mapM (readAs? depth)).map Json.array := by
  rw [mapM_readAs?_items]
  unfold readAs? Tree.depth
  by_cases h : depthItems ts ≤ depth
  . rw [if_pos h, if_pos (Nat.succ_le_succ h), value?]
  . rw [if_neg h, if_neg (fun hle => h (Nat.le_of_succ_le_succ hle))]
    rfl

theorem Tree.readAs?_object (depth : Nat) (ms : List (String × Tree))
    : (Tree.object ms).readAs? (depth + 1)
        =
      (ms.mapM (memberAs? (readAs? depth))).map ofMembers := by
  rw [mapM_readAs?_members]
  unfold readAs? Tree.depth
  by_cases h : depthMembers ms ≤ depth
  . rw [if_pos h, if_pos (Nat.succ_le_succ h), value?]
  . rw [if_neg h, if_neg (fun hle => h (Nat.le_of_succ_le_succ hle))]
    rfl

section

variable {readItem : List Char → ReadStep Json} {f : Tree → Option Json} {s₁ s₂ s₃ : List Char}

def Reads (readItem : List Char → ReadStep Json) (f : Tree → Option Json) : Prop :=
  ∀ t s s₁ rest, Blanks s s₁ → t.Writes s₁ rest → Numeral.Ends rest →
    (readItem s).toOption = (f t).map (·, rest)

theorem read_cases {α : Type} {x : ReadStep α} {o : Option α}
    (h : x.toOption = o.map (·, rest))
    : (∃ stop, x = .error stop ∧ o = none) ∨ ∃ v, x = .ok (v, rest) ∧ o = some v := by
  cases x with
  | error stop => exact .inl ⟨stop, rfl, Option.map_eq_none_iff.mp h.symm⟩
  | ok read =>
    obtain ⟨v, hv, rfl⟩ := Option.map_eq_some_iff.mp h.symm
    exact .inr ⟨v, rfl, hv⟩

theorem begins_literal (l : Numeral.Literal) (rest : List Char) : Begins (l.text ++ rest) := by
  unfold Numeral.Literal.text
  split
  . exact begins_cons (by decide) (by decide) _
  . cases hchars : l.whole.chars with
    | nil => exact absurd hchars l.whole.nonempty
    | cons c tail =>
      have hc : c.isDigit = true := by
        apply l.whole.digit
        rw [hchars]
        exact List.mem_cons_self
      obtain ⟨hblank, hclose⟩ := isBlank_of_isDigit hc
      unfold Numeral.Literal.unsigned
      rw [hchars]
      exact begins_cons hblank hclose _

theorem begins_of_writes {t : Tree} (h : t.Writes s rest) : Begins s := by
  cases h with
  | number l => exact begins_literal l rest
  | _ => exact begins_cons (by decide) (by decide) _

theorem skipBlanks_of_begins (h : Blanks s s₁) (hs : Begins s₁) : skipBlanks s = s₁ := by
  obtain ⟨c, tail, rfl, hblank, -⟩ := hs
  exact skipBlanks_of_blanks_cons h hblank

theorem ends_of_following {α : Type} {writes : α → List Char → List Char → Prop} {as : List α}
    {close : Char} (hclose : close = ']' ∨ close = '\x7d') (h : Following writes close as s rest)
    : Numeral.Ends s := by
  cases h with
  | close hblanks =>
    apply ends_of_blanks hblanks
    rcases hclose with rfl | rfl <;> apply Numeral.ends_cons <;> decide
  | comma hblanks =>
    apply ends_of_blanks hblanks
    apply Numeral.ends_cons <;> decide

theorem readMoreItems_of_blanks (h : Blanks s s₁) (fuel : Nat) (items : List Json)
    : readMoreItems readItem (fuel + 1) items s = readMoreItems readItem (fuel + 1) items s₁ := by
  unfold readMoreItems
  rw [skipBlanks_of_blanks h]

theorem readMoreItems_of_comma (h : Blanks s (',' :: s₁)) (h₁ : Blanks s₁ s₂) (hs : Begins s₂)
    (fuel : Nat) (items : List Json)
    : readMoreItems readItem (fuel + 1) items s
        =
      match readItem s₂ with
      | .error stop => .error stop
      | .ok (v, rest) => readMoreItems readItem fuel (v :: items) rest := by
  obtain ⟨c, tail, rfl, hblank, hclose⟩ := hs
  rw [readMoreItems_of_blanks h, readMoreItems_comma_eq, skipBlanks_of_blanks_cons h₁ hblank]
  split
  . next heq => cases heq
  . next heq => exact absurd (List.cons.inj heq).1 hclose
  . rfl

theorem readArray_of_begins (h : Blanks s s₁) (hs : Begins s₁)
    : readArray readItem s
        =
      match readItem s₁ with
      | .error stop => .error stop
      | .ok (v, rest) => readMoreItems readItem rest.length.succ [v] rest := by
  obtain ⟨c, tail, rfl, hblank, hclose⟩ := hs
  unfold readArray
  rw [skipBlanks_of_blanks_cons h hblank]
  split
  . next heq => cases heq
  . next heq => exact absurd (List.cons.inj heq).1 hclose
  . rfl

theorem toOption_readMoreItems (hitem : Reads readItem f) {ts : List Tree}
    (h : Following Tree.Writes ']' ts s rest) (items : List Json) {fuel : Nat}
    (hfuel : ts.length < fuel)
    : (readMoreItems readItem fuel items s).toOption
        =
      (ts.mapM f).map fun vs => (.array (items.reverse ++ vs), rest) := by
  induction h generalizing items fuel with
  | close hblanks =>
    obtain ⟨fuel, rfl⟩ := Nat.exists_eq_succ_of_ne_zero (Nat.ne_zero_of_lt hfuel)
    rw [readMoreItems_of_blanks hblanks, readMoreItems_close]
    exact congrArg (fun vs => some (Json.array vs, _)) (List.append_nil items.reverse).symm
  | comma hblanks hblanks₁ hwrites hfollowing ih =>
    obtain ⟨fuel, rfl⟩ := Nat.exists_eq_succ_of_ne_zero (Nat.ne_zero_of_lt hfuel)
    have hread := hitem _ _ _ _ (.done _) hwrites (ends_of_following (.inl rfl) hfollowing)
    rw [readMoreItems_of_comma hblanks hblanks₁ (begins_of_writes hwrites), mapM_cons_eq]
    rcases read_cases hread with ⟨stop, hstop, hnone⟩ | ⟨v, hv, hsome⟩
    . rw [hstop, hnone]
      rfl
    . rw [hv, hsome, Option.bind_some, Option.map_map]
      dsimp only
      rw [ih (v :: items) (Nat.lt_of_succ_lt_succ hfuel)]
      simp only [List.reverse_cons, List.append_assoc, List.singleton_append, Function.comp_def]

theorem toOption_readArray (hitem : Reads readItem f) {t : Tree} {ts : List Tree}
    (h : Blanks s s₁) (ht : t.Writes s₁ s₂) (hts : Following Tree.Writes ']' ts s₂ rest)
    : (readArray readItem s).toOption = ((t :: ts).mapM f).map fun vs => (.array vs, rest) := by
  have hread := hitem t s₁ s₁ s₂ (.done s₁) ht (ends_of_following (.inl rfl) hts)
  have hlength := hts.length_lt (fun u _ s rest hu => hu.length_lt)
  have hfuel : ts.length < s₂.length.succ := by omega
  rw [readArray_of_begins h (begins_of_writes ht), mapM_cons_eq]
  rcases read_cases hread with ⟨stop, hstop, hnone⟩ | ⟨v, hv, hsome⟩
  . rw [hstop, hnone]
    rfl
  . rw [hv, hsome, Option.bind_some, Option.map_map]
    dsimp only
    rw [toOption_readMoreItems hitem hts [v] hfuel]
    rfl

theorem readMember_of_colon {key : List Char} (hkey : Spells s key s₁)
    (hcolon : Blanks s₁ (':' :: s₂))
    : readMember readItem s
        =
      match readItem s₂ with
      | .error stop => .error stop
      | .ok (v, rest) => .ok ((String.ofList key, v), rest) := by
  unfold readMember
  rw [readString_eq_ok_iff.mpr ⟨key, hkey, rfl⟩]
  dsimp only
  rw [skipBlanks_of_blanks_cons hcolon (by decide)]
  rfl

theorem toOption_readMember (hitem : Reads readItem f) {m : String × Tree}
    (h : MemberWrites Tree.Writes m s rest) (hrest : Numeral.Ends rest)
    : ∃ s', s = '"' :: s' ∧ (readMember readItem s').toOption = (memberAs? f m).map (·, rest) := by
  cases h with
  | @mk key t s s₁ s₂ s₃ rest hkey hcolon hblanks hwrites =>
    refine ⟨s, rfl, ?_⟩
    have hread := hitem t s₂ s₃ rest hblanks hwrites hrest
    rw [readMember_of_colon hkey hcolon]
    unfold memberAs?
    rcases read_cases hread with ⟨stop, hstop, hnone⟩ | ⟨v, hv, hsome⟩
    . rw [hstop, hnone]
      rfl
    . rw [hv, hsome]
      rfl

theorem readMoreMembers_of_blanks (h : Blanks s s₁) (fuel : Nat) (members : List (String × Json))
    : readMoreMembers readItem (fuel + 1) members s
        =
      readMoreMembers readItem (fuel + 1) members s₁ := by
  unfold readMoreMembers
  rw [skipBlanks_of_blanks h]

theorem readMoreMembers_of_comma (h : Blanks s (',' :: s₁)) (h₁ : Blanks s₁ ('"' :: s₂))
    (fuel : Nat) (members : List (String × Json))
    : readMoreMembers readItem (fuel + 1) members s
        =
      match readMember readItem s₂ with
      | .error stop => .error stop
      | .ok ((k, v), rest) => readMoreMembers readItem fuel (insertMember k v members) rest := by
  rw [readMoreMembers_of_blanks h, readMoreMembers_comma_eq,
    skipBlanks_of_blanks_cons h₁ (by decide)]
  rfl

theorem readObject_of_quote (h : Blanks s ('"' :: s₁))
    : readObject readItem s
        =
      match readMember readItem s₁ with
      | .error stop => .error stop
      | .ok (member, rest) => readMoreMembers readItem rest.length.succ [member] rest := by
  unfold readObject
  rw [skipBlanks_of_blanks_cons h (by decide)]
  rfl

theorem toOption_readMoreMembers (hitem : Reads readItem f) {ms : List (String × Tree)}
    (h : Following (MemberWrites Tree.Writes) '\x7d' ms s rest) (members : List (String × Json))
    {fuel : Nat} (hfuel : ms.length < fuel)
    : (readMoreMembers readItem fuel members s).toOption
        =
      (ms.mapM (memberAs? f)).map fun more =>
        (.object (more.foldl (fun sorted (k, v) => insertMember k v sorted) members), rest) := by
  induction h generalizing members fuel with
  | close hblanks =>
    obtain ⟨fuel, rfl⟩ := Nat.exists_eq_succ_of_ne_zero (Nat.ne_zero_of_lt hfuel)
    rw [readMoreMembers_of_blanks hblanks, readMoreMembers_close]
    rfl
  | comma hblanks hblanks₁ hwrites hfollowing ih =>
    obtain ⟨fuel, rfl⟩ := Nat.exists_eq_succ_of_ne_zero (Nat.ne_zero_of_lt hfuel)
    obtain ⟨s, rfl, hread⟩ :=
      toOption_readMember hitem hwrites (ends_of_following (.inr rfl) hfollowing)
    rw [readMoreMembers_of_comma hblanks hblanks₁, mapM_cons_eq]
    rcases read_cases hread with ⟨stop, hstop, hnone⟩ | ⟨m, hm, hsome⟩
    . rw [hstop, hnone]
      rfl
    . rw [hm, hsome, Option.bind_some, Option.map_map]
      exact ih (insertMember m.1 m.2 members) (Nat.lt_of_succ_lt_succ hfuel)

theorem toOption_readObject (hitem : Reads readItem f) {m : String × Tree}
    {ms : List (String × Tree)} (h : Blanks s s₁) (hm : MemberWrites Tree.Writes m s₁ s₂)
    (hms : Following (MemberWrites Tree.Writes) '\x7d' ms s₂ rest)
    : (readObject readItem s).toOption
        =
      ((m :: ms).mapM (memberAs? f)).map fun members => (ofMembers members, rest) := by
  obtain ⟨s₁, rfl, hread⟩ := toOption_readMember hitem hm (ends_of_following (.inr rfl) hms)
  have hlength := hms.length_lt (fun n _ s rest hn => hn.length_lt fun s rest ht => ht.length_lt)
  have hfuel : ms.length < s₂.length.succ := by omega
  rw [readObject_of_quote h, mapM_cons_eq]
  rcases read_cases hread with ⟨stop, hstop, hnone⟩ | ⟨m, hm, hsome⟩
  . rw [hstop, hnone]
    rfl
  . rw [hm, hsome, Option.bind_some, Option.map_map]
    exact toOption_readMoreMembers hitem hms [m] hfuel

end

theorem readValue_of_begins (depth : Nat) (h : Blanks s s₁) (hs : Begins s₁)
    : readValue depth s = readValue depth s₁ := by
  unfold readValue
  rw [skipBlanks_of_begins h hs, skipBlanks_of_begins (.done s₁) hs]

theorem toOption_readNumber (l : Numeral.Literal) (h : l.Stops rest)
    : (readNumber l.negative (l.unsigned ++ rest)).toOption
        =
      (l.number?.map Json.number).map (·, rest) := by
  unfold readNumber
  rcases read_cases (Numeral.toOption_read l h) with ⟨stop, hstop, hnone⟩ | ⟨n, hn, hsome⟩
  . rw [hstop, hnone]
    rfl
  . rw [hn, hsome]
    rfl

theorem readValue_literal (depth : Nat) (l : Numeral.Literal) (rest : List Char)
    : readValue depth (l.text ++ rest) = readNumber l.negative (l.unsigned ++ rest) := by
  unfold Numeral.Literal.text
  cases l.negative with
  | true =>
    unfold readValue
    rfl
  | false =>
    cases hchars : l.whole.chars with
    | nil => exact absurd hchars l.whole.nonempty
    | cons c tail =>
      have hc : c.isDigit = true := by
        apply l.whole.digit
        rw [hchars]
        exact List.mem_cons_self
      unfold Numeral.Literal.unsigned
      rw [hchars]
      exact readValue_of_isDigit depth hc _

theorem toOption_readValue_scalar (depth : Nat) {t : Tree} (ht : t.depth = 0)
    (hwrites : t.Writes s rest) (hrest : Numeral.Ends rest)
    : (readValue depth s).toOption = t.value?.map (·, rest) := by
  cases hwrites with
  | null =>
    unfold readValue
    exact congrArg Except.toOption (readWord_append ['u', 'l', 'l'])
  | true =>
    unfold readValue
    exact congrArg Except.toOption (readWord_append ['r', 'u', 'e'])
  | false =>
    unfold readValue
    exact congrArg Except.toOption (readWord_append ['a', 'l', 's', 'e'])
  | number l =>
    rw [readValue_literal]
    exact toOption_readNumber l (Numeral.stops_of_ends l hrest)
  | @string s cs rest hspells =>
    have hread := readString_eq_ok_iff.mpr ⟨cs, hspells, rfl⟩
    unfold readValue
    rw [skipBlanks_cons (by decide)]
    simp only [reduceIte, Char.reduceEq, Char.reduceIsDigit, Bool.false_eq_true, hread]
    rfl
  | _ => cases ht

theorem readValue_bracket (depth : Nat) (s : List Char)
    : readValue (depth + 1) ('[' :: s) = readArray (readValue depth) s := by
  conv_lhs => unfold readValue
  rfl

theorem readValue_brace (depth : Nat) (s : List Char)
    : readValue (depth + 1) ('\x7b' :: s) = readObject (readValue depth) s := by
  conv_lhs => unfold readValue
  rfl

theorem exists_stop_of_depth {t : Tree} (ht : t.depth ≠ 0) (hwrites : t.Writes s rest)
    : ∃ stop, readValue 0 s = .error stop := by
  cases hwrites with
  | noItems _ => exact ⟨_, rfl⟩
  | items _ _ _ => exact ⟨_, rfl⟩
  | noMembers _ => exact ⟨_, rfl⟩
  | members _ _ _ => exact ⟨_, rfl⟩
  | _ => exact absurd rfl ht

theorem readArray_of_close {readItem : List Char → ReadStep Json} (h : Blanks s (']' :: rest))
    : readArray readItem s = .ok (.array [], rest) := by
  unfold readArray
  rw [skipBlanks_of_blanks_cons h (by decide)]
  rfl

theorem readObject_of_close {readItem : List Char → ReadStep Json} (h : Blanks s ('\x7d' :: rest))
    : readObject readItem s = .ok (.object [], rest) := by
  unfold readObject
  rw [skipBlanks_of_blanks_cons h (by decide)]
  rfl

theorem toOption_readValue_container {depth : Nat}
    (ih : Reads (readValue depth) (Tree.readAs? depth)) {t : Tree} (hdepth : t.depth ≠ 0)
    (hwrites : t.Writes s rest)
    : (readValue (depth + 1) s).toOption = (t.readAs? (depth + 1)).map (·, rest) := by
  cases hwrites with
  | noItems hclose =>
    rw [readValue_bracket, readArray_of_close hclose, Tree.readAs?_array]
    rfl
  | items hblanks ht hts =>
    rw [readValue_bracket, toOption_readArray ih hblanks ht hts, Tree.readAs?_array, Option.map_map]
    rfl
  | noMembers hclose =>
    rw [readValue_brace, readObject_of_close hclose, Tree.readAs?_object]
    rfl
  | members hblanks hm hms =>
    rw [readValue_brace, toOption_readObject ih hblanks hm hms, Tree.readAs?_object,
      Option.map_map]
    rfl
  | _ => exact absurd rfl hdepth

theorem reads_readValue (depth : Nat) : Reads (readValue depth) (Tree.readAs? depth) := by
  induction depth with
  | zero =>
    intro t s s₁ rest hblanks hwrites hrest
    rw [readValue_of_begins 0 hblanks (begins_of_writes hwrites)]
    unfold Tree.readAs?
    by_cases ht : t.depth = 0
    . rw [if_pos (Nat.le_of_eq ht)]
      exact toOption_readValue_scalar 0 ht hwrites hrest
    . obtain ⟨stop, hstop⟩ := exists_stop_of_depth ht hwrites
      rw [hstop, if_neg (fun hle => ht (Nat.le_zero.mp hle))]
      rfl
  | succ depth ih =>
    intro t s s₁ rest hblanks hwrites hrest
    rw [readValue_of_begins (depth + 1) hblanks (begins_of_writes hwrites)]
    by_cases ht : t.depth = 0
    . unfold Tree.readAs?
      rw [if_pos (ht ▸ Nat.zero_le (depth + 1))]
      exact toOption_readValue_scalar (depth + 1) ht hwrites hrest
    . exact toOption_readValue_container ih ht hwrites

theorem Blanks.trans (h : Blanks s s') (h' : Blanks s' rest) : Blanks s rest := by
  induction h with
  | done s => exact h'
  | skip hblank _ ih => exact .skip hblank (ih h')

section

variable {readItem : List Char → ReadStep Json} {v : Json}

def Front (s rest : List Char) : Prop := ∃ t s₁, Blanks s s₁ ∧ Tree.Writes t s₁ rest

theorem following_of_readMoreItems
    (hitem : ∀ s v rest, readItem s = .ok (v, rest) → Front s rest) {fuel : Nat} {items : List Json}
    (h : readMoreItems readItem fuel items s = .ok (v, rest))
    : ∃ ts, Following Tree.Writes ']' ts s rest := by
  induction fuel generalizing items s with
  | zero => cases h
  | succ fuel ih =>
    have hblanks := blanks_skipBlanks s
    rcases readMoreItems_cases h with ⟨hclose, -⟩ | ⟨s₁, w, s₂, hcomma, hread, hmore⟩
    . rw [hclose] at hblanks
      exact ⟨[], .close hblanks⟩
    . rw [hcomma] at hblanks
      obtain ⟨t, s₃, hblanks₁, hwrites⟩ := hitem _ _ _ hread
      obtain ⟨ts, hts⟩ := ih hmore
      exact ⟨t :: ts, .comma hblanks ((blanks_skipBlanks s₁).trans hblanks₁) hwrites hts⟩

theorem writes_of_readArray (hitem : ∀ s v rest, readItem s = .ok (v, rest) → Front s rest)
    (h : readArray readItem s = .ok (v, rest))
    : ∃ t : Tree, t.Writes ('[' :: s) rest := by
  have hblanks := blanks_skipBlanks s
  rcases readArray_cases h with ⟨hclose, -⟩ | ⟨w, s₁, hread, hmore⟩
  . rw [hclose] at hblanks
    exact ⟨.array [], .noItems hblanks⟩
  . obtain ⟨t, s₂, hblanks₁, hwrites⟩ := hitem _ _ _ hread
    obtain ⟨ts, hts⟩ := following_of_readMoreItems hitem hmore
    exact ⟨.array (t :: ts), .items (hblanks.trans hblanks₁) hwrites hts⟩

theorem writes_of_readMember (hitem : ∀ s v rest, readItem s = .ok (v, rest) → Front s rest)
    {m : String × Json} (h : readMember readItem s = .ok (m, rest))
    : ∃ n, MemberWrites Tree.Writes n ('"' :: s) rest := by
  obtain ⟨s₁, s₂, hkey, hcolon, hread⟩ := readMember_cases h
  have hblanks := blanks_skipBlanks s₁
  rw [hcolon] at hblanks
  obtain ⟨key, hspells, -⟩ := readString_eq_ok_iff.mp hkey
  obtain ⟨t, s₃, hblanks₁, hwrites⟩ := hitem _ _ _ hread
  exact ⟨(String.ofList key, t), .mk hspells hblanks hblanks₁ hwrites⟩

theorem following_of_readMoreMembers
    (hitem : ∀ s v rest, readItem s = .ok (v, rest) → Front s rest) {fuel : Nat}
    {members : List (String × Json)}
    (h : readMoreMembers readItem fuel members s = .ok (v, rest))
    : ∃ ms, Following (MemberWrites Tree.Writes) '\x7d' ms s rest := by
  induction fuel generalizing members s with
  | zero => cases h
  | succ fuel ih =>
    have hblanks := blanks_skipBlanks s
    rcases readMoreMembers_cases h with ⟨hclose, -⟩ | ⟨s₁, s₂, m, s₃, hcomma, hquote, hread, hmore⟩
    . rw [hclose] at hblanks
      exact ⟨[], .close hblanks⟩
    . have hblanks₁ := blanks_skipBlanks s₁
      rw [hcomma] at hblanks
      rw [hquote] at hblanks₁
      obtain ⟨n, hwrites⟩ := writes_of_readMember hitem hread
      obtain ⟨ms, hms⟩ := ih hmore
      exact ⟨n :: ms, .comma hblanks hblanks₁ hwrites hms⟩

theorem writes_of_readObject (hitem : ∀ s v rest, readItem s = .ok (v, rest) → Front s rest)
    (h : readObject readItem s = .ok (v, rest))
    : ∃ t : Tree, t.Writes ('\x7b' :: s) rest := by
  have hblanks := blanks_skipBlanks s
  rcases readObject_cases h with ⟨hclose, -⟩ | ⟨s₁, m, s₂, hquote, hread, hmore⟩
  . rw [hclose] at hblanks
    exact ⟨.object [], .noMembers hblanks⟩
  . rw [hquote] at hblanks
    obtain ⟨n, hwrites⟩ := writes_of_readMember hitem hread
    obtain ⟨ms, hms⟩ := following_of_readMoreMembers hitem hmore
    exact ⟨.object (n :: ms), .members hblanks hwrites hms⟩

end

theorem writes_of_read {negative : Bool} {n : Number}
    (h : Numeral.read negative s = .ok (n, rest))
    : ∃ t : Tree, t.Writes (if negative then '-' :: s else s) rest := by
  obtain ⟨l, rfl, rfl, -⟩ := Numeral.exists_literal_of_read h
  have htext : (if l.negative then '-' :: (l.unsigned ++ rest) else l.unsigned ++ rest)
      = l.text ++ rest := by
    unfold Numeral.Literal.text
    cases l.negative <;> rfl
  rw [htext]
  exact ⟨.number l, .number l rest⟩

theorem front_of_readValue {depth : Nat} {v : Json} (h : readValue depth s = .ok (v, rest))
    : Front s rest := by
  induction depth using Nat.strongRecOn generalizing s v rest with
  | ind depth ih =>
    suffices hwrites : ∃ t : Tree, t.Writes (skipBlanks s) rest by
      obtain ⟨t, ht⟩ := hwrites
      exact ⟨t, skipBlanks s, blanks_skipBlanks s, ht⟩
    have hfront := readsFront_of_readValue h
    generalize skipBlanks s = front at hfront ⊢
    cases hfront with
    | null => exact ⟨.null, .null rest⟩
    | true => exact ⟨.bool true, .true rest⟩
    | false => exact ⟨.bool false, .false rest⟩
    | negative _ hread => exact writes_of_read hread
    | number _ hread => exact writes_of_read hread
    | string _ hread =>
      obtain ⟨cs, hspells, -⟩ := readString_eq_ok_iff.mp hread
      exact ⟨.string (String.ofList cs), .string hspells⟩
    | @array depth _ _ _ hread =>
      exact writes_of_readArray (fun _ _ _ => ih depth (Nat.lt_succ_self depth)) hread
    | @object depth _ _ _ hread =>
      exact writes_of_readObject (fun _ _ _ => ih depth (Nat.lt_succ_self depth)) hread

/-- A text that writes a tree is read as the value of the tree. -/
theorem toOption_parse {t : Tree} {text : String} (h : t.IsText text)
    : (parse text).toOption = t.readAs? maxDepth := by
  obtain ⟨s, rest, hblanks, hwrites, hend⟩ := h
  have hread := reads_readValue maxDepth t text.toList s rest hblanks hwrites
    (ends_of_blanks hend Numeral.ends_nil)
  unfold parse readText
  rcases read_cases hread with ⟨stop, hstop, hnone⟩ | ⟨v, hv, hsome⟩
  . rw [hstop, hnone]
    rfl
  . rw [hv, hsome]
    dsimp only
    rw [skipBlanks_of_blanks hend]
    rfl

theorem exists_tree_of_parse {v : Json} {text : String} (h : parse text = .ok v)
    : ∃ t : Tree, t.IsText text := by
  unfold parse readText at h
  split at h
  . cases h
  . next htext =>
    split at htext
    . cases htext
    . next rest hread =>
      split at htext
      . next hend =>
        obtain ⟨t, s, hblanks, hwrites⟩ := front_of_readValue hread
        have hrest := blanks_skipBlanks rest
        rw [hend] at hrest
        exact ⟨t, s, rest, hblanks, hwrites, hrest⟩
      . cases htext

end Json
end CallWire
