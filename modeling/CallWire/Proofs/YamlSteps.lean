import CallWire.Proofs.YamlPlain
import CallWire.Yaml.Token

/-!
This module contains the steps of the lexer on a block mapping: what a key, its colon and its value
become, and where the lexer stands after them.
-/

namespace CallWire

namespace Yaml

namespace Lexer

variable {c c' : Cursor} {tokens : List Token} {outer : List Int} {x : Char}
variable {rest left key : List Char} {column fuel n : Nat} {allowed : Bool} {indent : Int}

def outside (c : Cursor) (tokens : List Token) (indent : Int) (outer : List Int)
    (keyAllowed : Bool) : Lexer :=
  { cursor := c, tokens := tokens.toArray, indent, outer, keyAllowed, keys := [none] }

def afterWord (c : Cursor) (tokens : List Token) (indent : Int) (outer : List Int) (k : KeyPlace) :
    Lexer :=
  { cursor := c, tokens := tokens.toArray, indent, outer, keyAllowed := false, keys := [some k] }

def BeginsToken (s : List Char) : Prop :=
  ∀ x ∈ s.head?, isBlank x = false ∧ isBreak x = false ∧ x ≠ '#' ∧ x ≠ '\ufeff'

theorem skipToToken_spaces {l : Lexer} (fuel : Nat)
    (hrest : l.cursor.rest = List.replicate n ' ' ++ rest) (hfront : BeginsToken rest)
    : skipToToken (fuel + 1) l = { l with cursor := l.cursor.skip n } := by
  have hmark : l.cursor.isAt '\ufeff' = false := by
    apply Cursor.isAt_of_ne
    rw [hrest]
    cases n with
    | zero =>
      intro hmark
      exact (hfront _ hmark).2.2.2 rfl
    | succ n =>
      intro hmark
      cases hmark
  have hskip := Cursor.skip_spaces hrest
  have hspaces (tabs : Bool) : l.cursor.skipWhile (fun x => x = ' ' || (tabs && x = '\t'))
      = l.cursor.skip n := by
    have hskip := Cursor.skipWhile_append (p := fun x => x = ' ' || (tabs && x = '\t')) hrest
      (by simp +contextual) ?_
    . rwa [List.length_replicate] at hskip
    . intro y hy
      have hblank := (hfront y hy).1
      unfold isBlank at hblank
      rw [Bool.or_eq_false_iff] at hblank
      simp only [hblank.1, hblank.2, Bool.and_false, Bool.or_self]
  have hhash : (l.cursor.skip n).isAt '#' = false := by
    apply Cursor.isAt_of_ne
    rw [hskip]
    intro hhash
    exact (hfront _ hhash).2.2.1 rfl
  have hbreak : ((l.cursor.skip n).peek?.map isBreak).getD false = false := by
    unfold Cursor.peek?
    rw [hskip]
    dsimp only
    cases hhead : rest.head? with
    | none => rfl
    | some y => exact (hfront y hhead).2.1
  unfold skipToToken
  dsimp only
  rw [hmark, Bool.and_false, if_neg Bool.false_ne_true, hspaces, hhash, if_neg Bool.false_ne_true]
  rw [hbreak, if_neg Bool.false_ne_true]

theorem skipToToken_line {l : Lexer} (fuel : Nat) (hrest : l.cursor.rest = '\n' :: rest)
    : skipToToken (fuel + 1) l
        =
      skipToToken fuel
        { l with cursor := l.cursor.skipBreak, keyAllowed := l.keyAllowed || !l.inFlow } := by
  have hat {y : Char} (hy : y ≠ '\n') : l.cursor.isAt y = false := by
    apply Cursor.isAt_of_ne
    rw [hrest]
    intro hsame
    cases hsame
    exact hy rfl
  have hstay (tabs : Bool) : l.cursor.skipWhile (fun x => x = ' ' || (tabs && x = '\t'))
      = l.cursor := by
    have hskip := Cursor.skipWhile_append (w := []) (p := fun x => x = ' ' || (tabs && x = '\t'))
      hrest (by simp) (by simp)
    rwa [List.length_nil, Cursor.skip_zero] at hskip
  have hbreak : (l.cursor.peek?.map isBreak).getD false = true := by
    rw [Cursor.peek?_cons hrest]
    rfl
  conv => lhs; unfold skipToToken
  dsimp only
  rw [hat (by decide), Bool.and_false, if_neg Bool.false_ne_true, hstay, hat (by decide)]
  rw [if_neg Bool.false_ne_true, if_pos hbreak]

/-- The place before a key: its front, or the break at the end of the line before it. -/
inductive BeforeKey (column : Nat) (rest : List Char) : Cursor → Bool → Prop where
  | here {c : Cursor} (hrest : c.rest = rest) (hcolumn : c.column = column) :
    BeforeKey column rest c true
  | lineBefore {c : Cursor} {allowed : Bool}
    (hrest : c.rest = '\n' :: (List.replicate column ' ' ++ rest)) :
    BeforeKey column rest c allowed

theorem BeforeKey.skipToToken (h : BeforeKey column rest c allowed) (hfront : BeginsToken rest)
    (tokens : List Token) (indent : Int) (outer : List Int)
    : ∃ c', Lexer.skipToToken c.rest.length.succ (outside c tokens indent outer allowed)
          =
        outside c' tokens indent outer true
        ∧ c'.rest = rest ∧ c'.column = column := by
  cases h with
  | here hrest hcolumn =>
    refine ⟨c, ?_, hrest, hcolumn⟩
    rw [skipToToken_spaces (n := 0) _ hrest hfront]
    unfold outside
    simp
  | lineBefore hrest =>
    have hskip := Cursor.skipBreak_cons hrest (by decide)
    have hspaces : c.skipBreak.rest = List.replicate column ' ' ++ rest := by rw [hskip]
    have hindent := Cursor.skip_spaces hspaces
    have hline := skipToToken_line (l := outside c tokens indent outer allowed) c.rest.length hrest
    obtain ⟨fuel, hfuel⟩ : ∃ m, c.rest.length = m + 1 := ⟨_, by rw [hrest]; rfl⟩
    refine ⟨c.skipBreak.skip column, ?_, by rw [hindent], by rw [hindent, hskip]; simp⟩
    rw [hline, hfuel, skipToToken_spaces fuel hspaces hfront]
    simp [outside, inFlow, flowLevel]

theorem run_step {l l' l'' : Lexer} (fuel : Nat)
    (hskip : skipToToken l.cursor.rest.length.succ l = l') (hkeys : l'.dropStaleKeys = some l')
    (hclose : closeBlocks l'.cursor.column l' = l') (hrest : l'.cursor.rest = x :: rest)
    (hread : l'.readToken x = some l'')
    : run (fuel + 1) l = run fuel l'' := by
  conv => lhs; unfold run
  rw [hskip]
  dsimp only [Option.bind_eq_bind]
  rw [hkeys, Option.bind_some, hclose, Cursor.peek?_cons hrest]
  dsimp only
  rw [hread, Option.bind_some]

theorem run_finish {l l' l'' l₃ : Lexer} (fuel : Nat)
    (hskip : skipToToken l.cursor.rest.length.succ l = l') (hkeys : l'.dropStaleKeys = some l')
    (hclose : closeBlocks l'.cursor.column l' = l'') (hrest : l''.cursor.rest = [])
    (hfinish : l''.finish = some l₃)
    : run (fuel + 1) l = some l₃.tokens.toList := by
  have hpeek : l''.cursor.peek? = none := by
    unfold Cursor.peek?
    rw [hrest]
    rfl
  unfold run
  rw [hskip]
  dsimp only [Option.bind_eq_bind]
  rw [hkeys, Option.bind_some, hclose, hpeek]
  dsimp only
  rw [hfinish]
  rfl

theorem closeBlocks_of_le {l : Lexer} (h : l.indent ≤ column) (hflow : l.inFlow = false)
    : closeBlocks column l = l := by
  have hkept : (l.indent :: l.outer).dropWhile (fun i => decide ((column : Int) < i))
      = l.indent :: l.outer := by
    rw [List.dropWhile_cons_of_neg]
    simpa using h
  unfold closeBlocks
  rw [hflow, if_neg Bool.false_ne_true]
  dsimp only
  rw [hkept]
  simp

structure PlainFront (x : Char) (rest : List Char) : Prop where
  noIndicator : x ∉ indicators
  word : isBlank x = false ∧ isBreak x = false
  inner : (x = '?' ∨ x = ':' ∨ x = '-') → Cursor.endsWord rest.head? = false

theorem PlainFront.startsPlain {l : Lexer} (h : PlainFront x rest) (hflow : l.inFlow = false)
    (hrest : l.cursor.rest = x :: rest)
    : l.startsPlain x = true := by
  unfold Lexer.startsPlain
  dsimp only
  rw [Cursor.ahead?_one hrest, hflow]
  by_cases hx : x = '?' ∨ x = ':' ∨ x = '-'
  . have hends := h.inner hx
    have hblank : (rest.head?.map isBlank).getD false = false := by
      cases hhead : rest.head? with
      | none => rfl
      | some y =>
        rw [hhead] at hends
        exact (Bool.or_eq_false_iff.mp hends).1
    rw [hends, hblank]
    rcases hx with rfl | rfl | rfl <;> rfl
  . have hfront : "-?:,[]\x7b\x7d#&*!|>'\"%@`".toList.contains x = false := by
      have hcases : "-?:,[]\x7b\x7d#&*!|>'\"%@`".toList.all
          (fun y => indicators.contains y || y = '?' || y = ':' || y = '-') = true := by decide
      rw [Bool.eq_false_iff]
      intro hmem
      have hx' := List.all_eq_true.mp hcases x (List.contains_iff_mem.mp hmem)
      simp only [Bool.or_eq_true, List.contains_iff_mem, decide_eq_true_eq, or_assoc] at hx'
      exact hx'.elim h.noIndicator hx
    rw [h.word.1, h.word.2, hfront]
    rfl

theorem PlainFront.ne {y : Char} (h : PlainFront x rest) (hy : y ∈ indicators) : x ≠ y :=
  fun hsame => h.noIndicator (hsame ▸ hy)

theorem PlainFront.readToken {l : Lexer} (h : PlainFront x rest) (hflow : l.inFlow = false)
    (hrest : l.cursor.rest = x :: rest)
    (hmark : 0 < l.cursor.column ∨ isPlainChar x = true)
    : l.readToken x
        =
      l.saveKey.bind (fun l' =>
        (readPlain l'.inFlow (l'.indent + 1).toNat l.cursor.rest.length [] {} l.cursor).map
          (fun s => (l'.allowKey s.broken).emitScalar .plain s)) := by
  have hat (y : Char) (hy : isPlainChar y = false) : l.cursor.isAtMark y = false := by
    rcases hmark with hcolumn | hplain
    . exact Cursor.isAtMark_of_pos hcolumn y
    . exact Cursor.isAtMark_of_ne hrest (ne_of_isPlainChar hplain hy)
  have hword (y : Char) (hy : y = '?' ∨ y = ':' ∨ y = '-')
      : ¬ (x = y ∧ Cursor.endsWord rest.head? = true) := by
    rintro ⟨rfl, hends⟩
    rw [h.inner hy] at hends
    cases hends
  unfold Lexer.readToken
  dsimp only
  rw [Cursor.ahead?_one hrest, hflow, hat '-' (by decide), hat '.' (by decide),
    h.startsPlain hflow hrest]
  rw [if_neg (fun hpercent => h.ne (by decide) hpercent.2)]
  rw [if_neg Bool.false_ne_true, if_neg Bool.false_ne_true]
  rw [if_neg (h.ne (by decide)), if_neg (h.ne (by decide)), if_neg (h.ne (by decide)),
    if_neg (h.ne (by decide)), if_neg (h.ne (by decide))]
  rw [if_neg (hword '-' (by simp))]
  rw [if_neg (by simpa using hword '?' (by simp)), if_neg (by simpa using hword ':' (by simp))]
  rw [if_neg (by simp [h.ne (y := '*') (by decide), h.ne (y := '&') (by decide)])]
  rw [if_neg (h.ne (by decide))]
  rw [if_neg (by simp [h.ne (y := '|') (by decide), h.ne (y := '>') (by decide)])]
  rw [if_neg (by simp [h.ne (y := '\'') (by decide), h.ne (y := '"') (by decide)])]
  rw [if_pos rfl]
  cases l.saveKey with
  | none => rfl
  | some l' =>
    dsimp only [Option.bind_eq_bind, Option.bind_some]
    cases readPlain l'.inFlow (l'.indent + 1).toNat l.cursor.rest.length [] {} l.cursor <;> rfl

/-! ## Keys -/

theorem readToken_key (tokens : List Token) (indent : Int) (outer : List Int)
    (hkey : ∀ x ∈ key, isPlainChar x = true) (hcons : key = x :: rest)
    (hrest : c.rest = key ++ ':' :: left) (hend : Cursor.endsWord left.head? = true)
    : ∃ required, (outside c tokens indent outer true).readToken x
        =
      some (afterWord (c.skip key.length) (tokens ++ [.scalar .plain (String.ofList key)]) indent
        outer
        { token := tokens.length, index := c.index, line := c.line, column := c.column
          required }) := by
  have hx := hkey x (hcons ▸ List.mem_cons_self)
  have hfront : PlainFront x (rest ++ ':' :: left) := by
    refine ⟨not_mem_indicators hx, ⟨isBlank_of_isPlainChar hx, isBreak_of_isPlainChar hx⟩, ?_⟩
    rintro (rfl | rfl | rfl) <;> cases hx
  have hread := hfront.readToken (l := outside c tokens indent outer true) rfl
    (by rw [← List.cons_append, ← hcons]; exact hrest) (.inr hx)
  rw [hread]
  have hlength : c.rest.length = (key ++ ':' :: left).tail.length + 1 := by
    rw [hrest, hcons]
    rfl
  have hplain := readPlain_key (indent + 1).toNat (key ++ ':' :: left).tail.length hkey
    (hcons ▸ List.cons_ne_nil _ _) hrest hend
  rw [← hlength] at hplain
  refine ⟨indent = c.column, ?_⟩
  have hsave : (outside c tokens indent outer true).saveKey
      =
    some { outside c tokens indent outer true with
      keys := [some { token := tokens.length, index := c.index, line := c.line, column := c.column,
                      required := indent = c.column }] } := rfl
  rw [hsave, Option.bind_some]
  change Option.map _ (readPlain false (indent + 1).toNat c.rest.length [] {} c) = _
  rw [hplain, Option.map_some]
  simp [outside, afterWord, emitScalar, allowKey, emit]

theorem readToken_colon {l : Lexer} (hflow : l.inFlow = false) (hrest : l.cursor.rest = ':' :: left)
    (hend : Cursor.endsWord left.head? = true)
    : l.readToken ':' = l.value := by
  unfold Lexer.readToken
  dsimp only
  rw [Cursor.ahead?_one hrest, hflow, Cursor.isAtMark_of_ne hrest (by decide),
    Cursor.isAtMark_of_ne hrest (by decide), hend]
  simp

theorem value_afterWord {k : KeyPlace} {t : Token} (htoken : k.token = tokens.length)
    : (afterWord c (tokens ++ [t]) indent outer k).value
        =
      some (((outside c (tokens ++ [.key, t]) indent outer false).openBlock k.column tokens.length
        .blockMappingStart).take 1 .value) := by
  have htokens : (tokens ++ [t]).toArray.toList.take k.token
      ++ Token.key :: (tokens ++ [t]).toArray.toList.drop k.token = tokens ++ [.key, t] := by
    rw [htoken]
    simp
  unfold value afterWord
  dsimp only
  rw [htokens, htoken]
  unfold openBlock outside allowKey
  split <;> rfl

theorem run_colon {k : KeyPlace} {t : Token} (fuel : Nat) (hrest : c.rest = ':' :: left)
    (hend : Cursor.endsWord left.head? = true) (htoken : k.token = tokens.length)
    (hfresh : isStale c k = false) (hindent : indent ≤ c.column)
    : run (fuel + 1) (afterWord c (tokens ++ [t]) indent outer k)
        =
      run fuel (((outside c (tokens ++ [.key, t]) indent outer false).openBlock k.column
        tokens.length .blockMappingStart).take 1 .value) := by
  have hfront : BeginsToken (':' :: left) := by
    intro y hy
    cases hy
    decide
  have hstay := skipToToken_spaces (n := 0) (l := afterWord c (tokens ++ [t]) indent outer k)
    c.rest.length hrest hfront
  have hkeys : (afterWord c (tokens ++ [t]) indent outer k).dropStaleKeys
      = some (afterWord c (tokens ++ [t]) indent outer k) := by
    unfold dropStaleKeys afterWord
    simp [hfresh]
  rw [Cursor.skip_zero] at hstay
  exact run_step fuel hstay hkeys (closeBlocks_of_le hindent rfl) hrest
    ((readToken_colon rfl hrest hend).trans (value_afterWord htoken))

theorem run_key_colon (fuel : Nat) (tokens : List Token) (outer : List Int)
    (hplace : BeforeKey column (key ++ ':' :: left) c allowed)
    (hkey : ∀ x ∈ key, isPlainChar x = true) (hne : key ≠ []) (hlength : key.length ≤ 1024)
    (hend : Cursor.endsWord left.head? = true) (hindent : indent ≤ column)
    : ∃ c', c'.rest = ':' :: left ∧ column ≤ c'.column
        ∧ run (fuel + 2) (outside c tokens indent outer allowed)
          =
        run fuel
          (((outside c' (tokens ++ [.key, .scalar .plain (String.ofList key)]) indent outer
            false).openBlock column tokens.length .blockMappingStart).take 1 .value) := by
  obtain ⟨x, rest, hcons⟩ : ∃ x rest, key = x :: rest := List.exists_cons_of_ne_nil hne
  have hfront : BeginsToken (key ++ ':' :: left) := by
    intro y hy
    rw [hcons] at hy
    cases hy
    have hx := hkey x (hcons ▸ List.mem_cons_self)
    exact ⟨isBlank_of_isPlainChar hx, isBreak_of_isPlainChar hx,
      ne_of_isPlainChar hx (by decide), ne_of_isPlainChar hx (by decide)⟩
  obtain ⟨c₁, hskip, hrest, rfl⟩ := hplace.skipToToken hfront tokens indent outer
  obtain ⟨required, hread⟩ := readToken_key tokens indent outer hkey hcons hrest hend
  have hrest' : c₁.rest = x :: (rest ++ ':' :: left) := by
    rw [hrest, hcons]
    rfl
  rw [run_step (fuel + 1) hskip rfl (closeBlocks_of_le hindent rfl) hrest' hread]
  have hcolon := Cursor.skip_append hrest
  refine ⟨c₁.skip key.length, by rw [hcolon], by rw [hcolon]; exact Nat.le_add_right _ _, ?_⟩
  apply run_colon fuel (congrArg Cursor.rest hcolon) hend rfl
  . rw [hcolon]
    simp [isStale, hlength]
  . rw [hcolon]
    dsimp only
    omega

theorem run_key (fuel : Nat) (tokens : List Token) (outer : List Int)
    (hplace : BeforeKey column (key ++ ':' :: left) c allowed)
    (hkey : ∀ x ∈ key, isPlainChar x = true) (hne : key ≠ []) (hlength : key.length ≤ 1024)
    (hend : Cursor.endsWord left.head? = true)
    : ∃ c', c'.rest = left ∧ column < c'.column
        ∧ run (fuel + 2) (outside c tokens column outer allowed)
          =
        run fuel (outside c' (tokens ++ [.key, .scalar .plain (String.ofList key), .value]) column
          outer false) := by
  obtain ⟨c₁, hrest, hcolumn, hrun⟩ := run_key_colon fuel tokens outer hplace hkey hne hlength hend
    (Int.le_refl column)
  have hcolon := Cursor.skip_one hrest
  refine ⟨c₁.skip 1, by rw [hcolon], by rw [hcolon]; exact Nat.lt_succ_of_le hcolumn, ?_⟩
  rw [hrun]
  simp [openBlock, take, emit, outside, inFlow, flowLevel]

theorem run_first_key (fuel : Nat) (tokens : List Token) (outer : List Int)
    (hplace : BeforeKey column (key ++ ':' :: left) c allowed)
    (hkey : ∀ x ∈ key, isPlainChar x = true) (hne : key ≠ []) (hlength : key.length ≤ 1024)
    (hend : Cursor.endsWord left.head? = true) (hindent : indent < column)
    : ∃ c', c'.rest = left ∧ column < c'.column
        ∧ run (fuel + 2) (outside c tokens indent outer allowed)
          =
        run fuel (outside c'
          (tokens ++ [.blockMappingStart, .key, .scalar .plain (String.ofList key), .value]) column
          (indent :: outer) false) := by
  obtain ⟨c₁, hrest, hcolumn, hrun⟩ := run_key_colon fuel tokens outer hplace hkey hne hlength hend
    (Int.le_of_lt hindent)
  have hcolon := Cursor.skip_one hrest
  refine ⟨c₁.skip 1, by rw [hcolon], by rw [hcolon]; exact Nat.lt_succ_of_le hcolumn, ?_⟩
  rw [hrun]
  simp [openBlock, take, emit, outside, inFlow, flowLevel, Int.not_le.mpr hindent]

/-! ## Values -/

/--
A value up to the end of its line is read as a scalar, within a mapping at a column, and the lexer
stands before the next key then.
-/
structure ReadsAs (indent : Nat) (value : List Char) (style : Style) (text : String) : Prop where
  front : ∃ x rest, value = x :: rest
  beginsToken : BeginsToken value
  read (tokens : List Token) (outer : List Int) {c : Cursor} {column : Nat} {x : Char}
    {rest left : List Char} :
    value ++ (List.replicate column ' ' ++ left) = x :: rest → c.rest = x :: rest →
      indent < c.column → column ≤ indent → BeginsToken left →
        ∃ c' allowed, (outside c tokens indent outer false).readToken x
            =
          some (outside c' (tokens ++ [.scalar style text]) indent outer allowed)
          ∧ BeforeKey column left c' allowed

theorem run_value {indent : Nat} {value : List Char} {style : Style} {text : String} (fuel : Nat)
    (tokens : List Token) (outer : List Int) (h : ReadsAs indent value style text)
    (hrest : c.rest = ' ' :: (value ++ (List.replicate column ' ' ++ left)))
    (hcolumn : indent < c.column) (hle : column ≤ indent) (hleft : BeginsToken left)
    : ∃ c' allowed, run (fuel + 1) (outside c tokens indent outer false)
          =
        run fuel (outside c' (tokens ++ [.scalar style text]) indent outer allowed)
        ∧ BeforeKey column left c' allowed := by
  obtain ⟨x, rest, hvalue⟩ := h.front
  have hfront : BeginsToken (value ++ (List.replicate column ' ' ++ left)) := by
    intro y hy
    apply h.beginsToken
    rw [hvalue] at hy ⊢
    exact hy
  have hspace := skipToToken_spaces (n := 1) (l := outside c tokens indent outer false)
    c.rest.length hrest hfront
  have hskip := Cursor.skip_one hrest
  have hrest' := congrArg Cursor.rest hskip
  rw [hvalue, List.cons_append] at hrest'
  obtain ⟨c', allowed, hread, hplace⟩ := h.read tokens outer (c := c.skip 1)
    (by rw [hvalue, List.cons_append]) hrest' (by rw [hskip]; exact Nat.lt_succ_of_lt hcolumn) hle
    hleft
  refine ⟨c', allowed, ?_, hplace⟩
  have hindent : (indent : Int) ≤ (c.skip 1).column := by
    rw [hskip]
    dsimp only
    omega
  exact run_step fuel hspace rfl (closeBlocks_of_le hindent rfl) hrest' hread

end Lexer
end Yaml
end CallWire
