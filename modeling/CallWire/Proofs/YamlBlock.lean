import CallWire.Proofs.YamlCursor

/-!
This module contains that texts with lines are read as they are written as blocks: each line with
its indentation, and the breaks at the end by the mark that keeps or drops them.
-/

namespace CallWire

namespace Yaml

variable {c : Cursor} {x y : Char} {s e line more left rest breaks : List Char}
variable {fuel indent deepest n : Nat}

/-! ## The lines of a block -/

/--
What a text that ends with a break is written as in a block, from within a line. Lines after the
first one are indented, unless they are empty.
-/
inductive Lines (indent : Nat) : List Char → List Char → Prop where
  | last {x : Char} {more : List Char} (hx : isPrintedBreak x = true)
    (hmore : ∀ y ∈ more, isPrintedBreak y = true) :
    Lines indent (x :: more) (x :: more)
  | char {x : Char} {s e : List Char} (hx : isBreak x = false) (hs : Lines indent s e) :
    Lines indent (x :: s) (x :: e)
  | line {x y : Char} {more s e : List Char} (hx : isPrintedBreak x = true)
    (hmore : ∀ y ∈ more, isPrintedBreak y = true) (hy : isBreak y = false) (htab : y ≠ '\t')
    (hs : Lines indent (y :: s) (y :: e)) :
    Lines indent (x :: (more ++ y :: s)) (x :: (more ++ (List.replicate indent ' ' ++ y :: e)))

theorem Lines.cons_break (hs : Lines indent (y :: s) e) (hx : isPrintedBreak x = true)
    (hy : isPrintedBreak y = true)
    : Lines indent (x :: y :: s) (x :: e) := by
  cases hs with
  | last _ hmore => exact .last hx (List.forall_mem_cons.mpr ⟨hy, hmore⟩)
  | char hword hs =>
    rw [isBreak_of_isPrintedBreak hy] at hword
    cases hword
  | @line _ z more _ _ _ hmore hz htab hs =>
    have hmore' : ∀ z ∈ y :: more, isPrintedBreak z = true := List.forall_mem_cons.mpr ⟨hy, hmore⟩
    exact .line hx hmore' hz htab hs

theorem literalChars_cons_break (afterBreak : Bool) (s : List Char) (hx : isBreak x = true)
    : literalChars indent afterBreak (x :: s) = x :: literalChars indent true s := by
  rw [literalChars, if_pos hx]

theorem literalChars_cons (s : List Char) (hy : isBreak y = false)
    : literalChars indent false (y :: s) = y :: literalChars indent false s := by
  rw [literalChars, hy]
  rfl

theorem literalChars_append_break (afterBreak : Bool) (s : List Char) (hx : isBreak x = true)
    : literalChars indent afterBreak (s ++ [x]) = literalChars indent afterBreak s ++ [x] := by
  induction s generalizing afterBreak with
  | nil => simp [literalChars, hx]
  | cons y s ih =>
    rw [List.cons_append]
    unfold literalChars
    cases hy : isBreak y with
    | true => simp [ih]
    | false => simp [ih]

theorem literalChars_afterBreak (hy : isBreak y = false)
    : literalChars indent true (y :: s)
        =
      List.replicate indent ' ' ++ literalChars indent false (y :: s) := by
  simp [literalChars, indented, hy]

theorem lines_literalChars (hprint : ∀ y ∈ s, isPrintable y = true)
    (hlast : ∃ x ∈ s.getLast?, isBreak x = true)
    : Lines indent s (literalChars indent false s) := by
  induction s with
  | nil =>
    obtain ⟨x, hx, _⟩ := hlast
    cases hx
  | cons x s ih =>
    have hprint' : ∀ y ∈ s, isPrintable y = true := fun y hy => hprint y (List.mem_cons_of_mem _ hy)
    cases s with
    | nil =>
      obtain ⟨z, hz, hx⟩ := hlast
      obtain rfl : x = z := by simpa using hz
      have hx' := isPrintedBreak_of_isPrintable hx (hprint x List.mem_cons_self)
      have hnone : ∀ y ∈ ([] : List Char), isPrintedBreak y = true := by simp
      simpa [literalChars, hx] using Lines.last hx' hnone
    | cons y s =>
      rw [List.getLast?_cons_cons] at hlast
      have ih := ih hprint' hlast
      have hyprint := hprint' y List.mem_cons_self
      cases hx : isBreak x with
      | false =>
        rw [literalChars_cons _ hx]
        exact .char hx ih
      | true =>
        have hx' := isPrintedBreak_of_isPrintable hx (hprint x List.mem_cons_self)
        rw [literalChars_cons_break false _ hx]
        cases hy : isBreak y with
        | true =>
          rw [literalChars_cons_break _ _ hy] at ih ⊢
          exact ih.cons_break hx' (isPrintedBreak_of_isPrintable hy hyprint)
        | false =>
          have htab : y ≠ '\t' := by
            rintro rfl
            cases hyprint
          have hnone : ∀ y ∈ ([] : List Char), isPrintedBreak y = true := by simp
          rw [literalChars_afterBreak hy]
          rw [literalChars_cons _ hy] at ih ⊢
          exact .line hx' hnone hy htab ih

/-! ## Reading of lines -/

structure StopsAt (indent n : Nat) (e : List Char) : Prop where
  column : n = indent ∨ (n < indent ∧ e.head? ≠ some ' ')
  noBreak : ∀ y ∈ e.head?, isBreak y = false ∧ y ≠ '\t'

theorem takeWhile_spaces (h : e.head? ≠ some ' ')
    : (List.replicate n ' ' ++ e).takeWhile (· = ' ') = List.replicate n ' ' := by
  have hstop : e.takeWhile (· = ' ') = [] := by
    cases e with
    | nil => rfl
    | cons y e => exact List.takeWhile_cons_of_neg (by simpa using h)
  have hspaces : ∀ y ∈ List.replicate n ' ', decide (y = ' ') = true := by
    intro y hy
    exact decide_eq_true (List.eq_of_mem_replicate hy)
  rw [List.takeWhile_append_of_pos hspaces, hstop, List.append_nil]

theorem readBlockBreaks_indentation (hindent : 0 < indent) (hcolumn : c.column = 0)
    (hrest : c.rest = List.replicate n ' ' ++ e) (hstop : StopsAt indent n e) (hfuel : 0 < fuel)
    : ∃ d c', readBlockBreaks indent fuel breaks deepest c = some (breaks, d, c')
        ∧ c'.rest = e ∧ c'.column = n := by
  obtain ⟨fuel, rfl⟩ : ∃ m, fuel = m + 1 := ⟨fuel - 1, by omega⟩
  have hblanks : min (c.rest.takeWhile (· = ' ')).length (indent - c.column) = n := by
    rw [hrest, hcolumn]
    rcases hstop.column with rfl | ⟨hlt, hspace⟩
    . have hle : n ≤ ((List.replicate n ' ' ++ e).takeWhile (· = ' ')).length := by
        rw [List.takeWhile_append_of_pos (by simp)]
        simp
      omega
    . rw [takeWhile_spaces hspace, List.length_replicate]
      omega
  have hskip := Cursor.skip_spaces hrest
  have hpeek : (c.skip n).peek? = e.head? := by
    rw [hskip]
    rfl
  have htab : (c.skip n).isAt '\t' = false :=
    Cursor.isAt_of_ne (fun htab => (hstop.noBreak '\t' (hpeek.symm.trans htab)).2 rfl)
  have hbreak : (e.head?.map isBreak).getD false = false := by
    cases hhead : e.head? with
    | none => rfl
    | some y => exact (hstop.noBreak y hhead).1
  unfold readBlockBreaks
  dsimp only
  rw [if_neg (Nat.ne_of_gt hindent), hblanks, htab, Bool.false_and, if_neg Bool.false_ne_true, hpeek,
    hbreak]
  rw [if_neg Bool.false_ne_true]
  refine ⟨_, _, rfl, by rw [hskip], ?_⟩
  rw [hskip]
  dsimp only
  omega

theorem readBlockBreaks_breaks (breaks : List Char) (deepest : Nat) (hindent : 0 < indent)
    (hcolumn : c.column = 0) (hmore : ∀ y ∈ more, isPrintedBreak y = true)
    (hrest : c.rest = more ++ (List.replicate n ' ' ++ e)) (hstop : StopsAt indent n e)
    (hfuel : more.length < fuel)
    : ∃ d c', readBlockBreaks indent fuel breaks deepest c = some (breaks ++ more, d, c')
        ∧ c'.rest = e ∧ c'.column = n := by
  induction more generalizing fuel breaks deepest c with
  | nil =>
    rw [List.append_nil]
    exact readBlockBreaks_indentation hindent hcolumn hrest hstop hfuel
  | cons x more ih =>
    obtain ⟨fuel, rfl⟩ : ∃ m, fuel = m + 1 := ⟨fuel - 1, by omega⟩
    have hx := hmore x List.mem_cons_self
    rw [List.cons_append] at hrest
    have hblanks : (c.rest.takeWhile (· = ' ')).length = 0 := by
      have hspace : ¬ decide (x = ' ') = true := by
        rcases isPrintedBreak_cases hx with rfl | rfl | rfl <;> decide
      rw [hrest, List.takeWhile_cons_of_neg (p := (· = ' ')) hspace, List.length_nil]
    have htab : c.isAt '\t' = false := by
      apply Cursor.isAt_of_ne
      rw [hrest]
      rcases isPrintedBreak_cases hx with rfl | rfl | rfl <;> simp
    have hskip := Cursor.skipBreak_cons hrest hx
    unfold readBlockBreaks
    dsimp only
    rw [if_neg (Nat.ne_of_gt hindent), hblanks, Nat.zero_min, Cursor.skip_zero, htab, Bool.false_and]
    rw [if_neg Bool.false_ne_true, Cursor.peek?_cons hrest, Option.map_some, Option.getD_some]
    rw [isBreak_of_isPrintedBreak hx, if_pos rfl, Cursor.breakText_cons hrest hx]
    obtain ⟨d, c', hread, hc'⟩ := ih (breaks ++ [x]) _ (congrArg Cursor.column hskip)
      (fun y hy => hmore y (List.mem_cons_of_mem _ hy)) (congrArg Cursor.rest hskip)
      (Nat.lt_of_succ_lt_succ hfuel)
    exact ⟨d, c', by rw [hread, List.append_assoc, List.singleton_append], hc'⟩

theorem readBlockLines_step {b : BlockLines} (fuel : Nat) (hindent : 0 < indent)
    (hcolumn : c.column = indent) (hline : ∀ y ∈ line, isBreak y = false)
    (hx : isPrintedBreak x = true) (hmore : ∀ y ∈ more, isPrintedBreak y = true)
    (hrest : c.rest = line ++ x :: (more ++ (List.replicate n ' ' ++ e)))
    (hstop : StopsAt indent n e)
    : ∃ c', c'.rest = e ∧ c'.column = n
        ∧ readBlockLines false indent (fuel + 1) b c
          =
        readBlockLines false indent fuel
          { read := b.read ++ b.lastBreak ++ b.moreBreaks ++ line
            lastBreak := [x], moreBreaks := more
            indented := (c.peek?.map isBlank).getD false }
          c' := by
  have hend : c.isAtEnd = false := Cursor.isAtEnd_of_append hrest
  have hspan : c.span (fun y => !isBreak y) = (line, c.skip line.length) := by
    apply Cursor.span_append hrest
    . intro y hy
      rw [hline y hy]
      rfl
    . intro y hy
      cases hy
      rw [isBreak_of_isPrintedBreak hx]
      rfl
  have hbreak : (c.skip line.length).rest = x :: (more ++ (List.replicate n ' ' ++ e)) := by
    rw [Cursor.skip_append hrest]
  have hskip := Cursor.skipBreak_cons hbreak hx
  have hlength : more.length < (c.skip line.length).skipBreak.rest.length.succ := by
    rw [hskip]
    dsimp only
    rw [List.length_append]
    omega
  obtain ⟨d, c', hread, hrest', hcolumn'⟩ := readBlockBreaks_breaks [] 0
    hindent (congrArg Cursor.column hskip) hmore (congrArg Cursor.rest hskip) hstop hlength
  refine ⟨c', hrest', hcolumn', ?_⟩
  rw [readBlockLines, hend, hspan]
  dsimp only
  rw [if_neg (by simp [hcolumn]), hread, Cursor.breakText_cons hbreak hx]
  simp

theorem readBlockLines_of_column {b : BlockLines} (h : c.column ≠ indent)
    : readBlockLines false indent fuel b c = some (b, c) := by
  cases fuel with
  | zero => rfl
  | succ fuel =>
    unfold readBlockLines
    rw [if_pos (by simp [h])]

/--
What has been read of a block when all of its lines have: the text up to the last line, the break
that ends this line, and the breaks after it.
-/
structure Closes (b : BlockLines) (s : List Char) : Prop where
  text : b.read ++ b.lastBreak ++ b.moreBreaks = s
  read : ∃ y ∈ b.read.getLast?, isBreak y = false
  lastBreak : ∃ x, b.lastBreak = [x] ∧ isBreak x = true
  moreBreaks : ∀ y ∈ b.moreBreaks, isBreak y = true

theorem readBlockLines_line {b : BlockLines} (hindent : 0 < indent) (hs : Lines indent s e)
    (hcolumn : c.column = indent) (hline : ∀ y ∈ line, isBreak y = false)
    (hfront : ∀ y ∈ (line ++ s).head?, isBreak y = false)
    (hrest : c.rest = line ++ (e ++ (List.replicate n ' ' ++ left))) (hn : n < indent)
    (hstop : StopsAt indent n left) (hfuel : s.length < fuel)
    : ∃ b' c', readBlockLines false indent fuel b c = some (b', c') ∧ c'.rest = left
        ∧ c'.column = n ∧ Closes b' (b.read ++ b.lastBreak ++ b.moreBreaks ++ line ++ s) := by
  obtain ⟨fuel, rfl⟩ : ∃ m, fuel = m + 1 := ⟨fuel - 1, by omega⟩
  induction hs generalizing line b c fuel with
  | @last x more hx hmore =>
    rw [List.cons_append] at hrest
    obtain ⟨c', hrest', hcolumn', hread⟩ :=
      readBlockLines_step (b := b) fuel hindent hcolumn hline hx hmore hrest hstop
    rw [readBlockLines_of_column (show c'.column ≠ indent by omega)] at hread
    have hx' := isBreak_of_isPrintedBreak hx
    have hne : line ≠ [] := by
      rintro rfl
      rw [hfront x rfl] at hx'
      cases hx'
    refine ⟨_, c', hread, hrest', hcolumn', ?_⟩
    exact
      { text := by simp
        read := by
          refine ⟨line.getLast hne, ?_, hline _ (List.getLast_mem hne)⟩
          rw [List.getLast?_append, List.getLast?_eq_some_getLast hne]
          rfl
        lastBreak := ⟨x, rfl, hx'⟩
        moreBreaks := fun y hy => isBreak_of_isPrintedBreak (hmore y hy) }
  | @char x s e hx hs ih =>
    have hline' : ∀ y ∈ line ++ [x], isBreak y = false := by
      intro y hy
      rcases List.mem_append.mp hy with hy | hy
      . exact hline y hy
      . cases List.mem_singleton.mp hy
        exact hx
    obtain ⟨b', c', hread, hrest', hcolumn', hcloses⟩ := ih (b := b) hcolumn hline'
      (by simpa using hfront) (by simp [hrest]) fuel (Nat.lt_of_succ_lt hfuel)
    refine ⟨b', c', hread, hrest', hcolumn', ?_⟩
    simpa using hcloses
  | @line x y more s e hx hmore hy htab hs ih =>
    obtain ⟨fuel, rfl⟩ : ∃ m, fuel = m + 1 := ⟨fuel - 1, by simp at hfuel; omega⟩
    have hstop' : StopsAt indent indent (y :: e ++ (List.replicate n ' ' ++ left)) := by
      refine ⟨.inl rfl, ?_⟩
      intro z hz
      cases hz
      exact ⟨hy, htab⟩
    have hnone : ∀ z ∈ ([] : List Char), isBreak z = false := by simp
    obtain ⟨c', hrest', hcolumn', hread⟩ := readBlockLines_step (b := b) (fuel + 1) hindent hcolumn
      hline hx hmore (by simpa using hrest) hstop'
    obtain ⟨b', c'', hread', hrest'', hcolumn'', hcloses⟩ := ih
      (b := { read := b.read ++ b.lastBreak ++ b.moreBreaks ++ line
              lastBreak := [x], moreBreaks := more
              indented := (c.peek?.map isBlank).getD false })
      hcolumn' hnone (by simpa using hy) (by simpa using hrest') fuel (by simp at hfuel ⊢; omega)
    refine ⟨b', c'', hread.trans hread', hrest'', hcolumn'', ?_⟩
    simpa using hcloses

/-! ## Blocks -/

def chomping (s : List Char) : Chomping :=
  match s.reverse with
  | [] => .strip
  | [last] => if isBreak last then .keep else .strip
  | last :: before :: _ =>
    if !isBreak last then .strip else if isBreak before then .keep else .clip

def Chomping.mark : Chomping → List Char
  | .strip => ['-']
  | .clip => []
  | .keep => ['+']

/-- Whether the indentation of a block shows only by a mark. -/
def needsHint (s : List Char) : Bool :=
  (s.head?.map (fun x => isSpace x || isBreak x)).getD false

def hintMark (hint : Bool) : List Char := if hint then ['2'] else []

theorem literalMarks_eq (s : List Char)
    : literalMarks s = hintMark (needsHint s) ++ (chomping s).mark := by
  unfold literalMarks hintMark needsHint chomping
  dsimp only
  congr 1
  rcases s.reverse with _ | ⟨last, _ | ⟨before, more⟩⟩
  . rfl
  . dsimp only
    split <;> rfl
  . dsimp only
    split
    . rfl
    . split <;> rfl

theorem chomping_strip (hy : isBreak y = false) : chomping (s ++ [y]) = .strip := by
  unfold chomping
  rw [List.reverse_append]
  cases s.reverse <;> simp [hy]

theorem chomping_clip (hy : isBreak y = false) (hx : isBreak x = true)
    : chomping (s ++ [y] ++ [x]) = .clip := by
  unfold chomping
  simp [hx, hy]

theorem chomping_keep (hs : ∀ y ∈ s.getLast?, isBreak y = true) (hx : isBreak x = true)
    : chomping (s ++ [x]) = .keep := by
  unfold chomping
  rw [← List.head?_reverse] at hs
  rw [List.reverse_append]
  cases hrev : s.reverse with
  | nil => simp [hx]
  | cons y more =>
    rw [hrev] at hs
    simp [hx, hs y rfl]

theorem readBlockMarks_marks {hint : Bool} {kept : Chomping}
    (hrest : c.rest = hintMark hint ++ kept.mark ++ '\n' :: rest)
    : readBlockMarks c
        =
      some (kept, if hint then 2 else 0, c.skip (hintMark hint ++ kept.mark).length) := by
  unfold readBlockMarks Cursor.ahead? Cursor.peek?
  rw [hrest]
  cases hint <;> cases kept <;> rfl

def closed (s : List Char) : List Char :=
  if (s.getLast?.map isBreak).getD false then s else s ++ ['\n']

theorem literalChars_closed (s : List Char)
    : literalChars indent true s ++ (if (s.getLast?.map isBreak).getD false then [] else ['\n'])
        =
      literalChars indent true (closed s) := by
  unfold closed
  split
  . rw [List.append_nil]
  . rw [literalChars_append_break true s (by decide)]

theorem closed_of_break (hx : isBreak x = true) : closed (s ++ [x]) = s ++ [x] := by
  unfold closed
  simp [hx]

theorem closed_of_not_break (hy : isBreak y = false) : closed (s ++ [y]) = s ++ [y] ++ ['\n'] := by
  unfold closed
  simp [hy]

theorem append_inj_of_breaks {s' : List Char} (hy : isBreak y = false) (hx : isBreak x = false)
    (hmore : ∀ z ∈ more, isBreak z = true) (hbreaks : ∀ z ∈ breaks, isBreak z = true)
    (h : s ++ [y] ++ more = s' ++ [x] ++ breaks)
    : s ++ [y] = s' ++ [x] := by
  have hstrip {front tail : List Char} {z : Char} (hz : isBreak z = false)
      (htail : ∀ w ∈ tail, isBreak w = true)
      : ((front ++ [z] ++ tail).reverse.dropWhile isBreak).reverse = front ++ [z] := by
    rw [List.reverse_append, List.dropWhile_append_of_pos (by simpa using htail)]
    simp [hz]
  rw [← hstrip hy hmore, h, hstrip hx hbreaks]

def BlockLines.text (b : BlockLines) (kept : Chomping) : List Char :=
  b.read ++ (if kept = .strip then [] else b.lastBreak)
    ++ (if kept = .keep then b.moreBreaks else [])

theorem Closes.text_eq_of_closed {b : BlockLines} (h : Closes b (closed s)) (hs : s ≠ [])
    : b.text (chomping s) = s := by
  obtain ⟨front, last, rfl⟩ := List.eq_nil_or_concat s |>.resolve_left hs
  obtain ⟨z, hz, hzbreak⟩ := h.read
  obtain ⟨body, hbody⟩ := List.getLast?_eq_some_iff.mp hz
  obtain ⟨x, hx, hxbreak⟩ := h.lastBreak
  have hbreaks : ∀ y ∈ x :: b.moreBreaks, isBreak y = true :=
    List.forall_mem_cons.mpr ⟨hxbreak, h.moreBreaks⟩
  have htext := h.text
  rw [List.concat_eq_append] at *
  rw [hx, hbody, List.append_assoc _ [x], List.singleton_append] at htext
  unfold BlockLines.text
  rw [hx, hbody]
  cases hlast : isBreak last with
  | false =>
    rw [closed_of_not_break hlast] at htext
    rw [chomping_strip hlast, if_pos rfl, if_neg (by decide), List.append_nil, List.append_nil]
    exact append_inj_of_breaks hzbreak hlast hbreaks (List.forall_mem_singleton.mpr rfl) htext
  | true =>
    rw [closed_of_break hlast] at htext
    rcases List.eq_nil_or_concat b.moreBreaks with hmore | ⟨m, w, hmore⟩
    . rw [hmore] at htext ⊢
      obtain ⟨rfl, hsame⟩ := List.append_inj' htext rfl
      cases hsame
      rw [chomping_clip hzbreak hlast, if_neg (by decide), if_neg (by decide), List.append_nil]
    . rw [List.concat_eq_append] at hmore
      have hfront : body ++ [z] ++ [x] ++ m ++ [w] = front ++ [last] := by
        rw [← htext, hmore]
        simp
      obtain ⟨rfl, hsame⟩ := List.append_inj' hfront rfl
      have hend : ∀ y ∈ (body ++ [z] ++ [x] ++ m).getLast?, isBreak y = true := by
        intro y hy
        have hne : [x] ++ m ≠ [] := List.cons_ne_nil _ _
        rw [List.append_assoc, List.getLast?_append, List.getLast?_eq_some_getLast hne] at hy
        cases hy
        apply hbreaks
        rcases List.mem_cons.mp (List.getLast_mem hne) with hy | hy
        . rw [hy]
          exact List.mem_cons_self
        . rw [hmore]
          exact List.mem_cons_of_mem _ (List.mem_append_left _ hy)
      rw [chomping_keep hend hlast, if_neg (by decide), if_pos rfl, hmore, ← hsame]
      simp

theorem getLast?_closed (s : List Char) : ∃ x ∈ (closed s).getLast?, isBreak x = true := by
  unfold closed
  split
  . next h =>
    cases hlast : s.getLast? with
    | none =>
      rw [hlast] at h
      cases h
    | some x =>
      rw [hlast] at h
      exact ⟨x, rfl, h⟩
  . exact ⟨'\n', by simp, rfl⟩

theorem isPrintable_of_mem_closed (h : ∀ y ∈ s, isPrintable y = true)
    : ∀ y ∈ closed s, isPrintable y = true := by
  unfold closed
  split
  . exact h
  . intro y hy
    rcases List.mem_append.mp hy with hy | hy
    . exact h y hy
    . cases List.mem_singleton.mp hy
      rfl

theorem literalChars_breaks (hbreaks : ∀ x ∈ breaks, isBreak x = true)
    : literalChars indent true (breaks ++ s) = breaks ++ literalChars indent true s := by
  induction breaks with
  | nil => rfl
  | cons x breaks ih =>
    obtain ⟨hx, hbreaks⟩ := List.forall_mem_cons.mp hbreaks
    rw [List.cons_append, List.cons_append, literalChars_cons_break _ _ hx, ih hbreaks]

theorem Lines.length_le (h : Lines indent s e) : s.length ≤ e.length := by
  induction h with
  | last => exact Nat.le_refl _
  | char _ _ ih => simpa using ih
  | line _ _ _ _ _ ih =>
    simp only [List.length_cons, List.length_append] at ih ⊢
    omega

theorem readBlockLines_closed (hprint : ∀ y ∈ s, isPrintable y = true) (hs : s ≠ [])
    (hclosed : closed s = breaks ++ y :: more) (hy : isBreak y = false) (hcolumn : c.column = indent)
    (hrest : c.rest = literalChars indent false (y :: more) ++ (List.replicate n ' ' ++ left))
    (hn : n < indent) (hstop : StopsAt indent n left)
    : ∃ b c', readBlockLines false indent c.rest.length.succ { moreBreaks := breaks } c = some (b, c')
        ∧ c'.rest = left ∧ c'.column = n ∧ b.text (chomping s) = s := by
  have hlast : ∃ x ∈ (y :: more).getLast?, isBreak x = true := by
    obtain ⟨x, hx, hbreak⟩ := getLast?_closed s
    rw [hclosed, List.getLast?_append, List.getLast?_eq_some_getLast (List.cons_ne_nil y more)] at hx
    refine ⟨x, ?_, hbreak⟩
    rw [List.getLast?_eq_some_getLast (List.cons_ne_nil y more)]
    exact hx
  have hprint' : ∀ z ∈ y :: more, isPrintable z = true := by
    intro z hz
    apply isPrintable_of_mem_closed hprint
    rw [hclosed]
    exact List.mem_append_right _ hz
  have hlines : Lines indent (y :: more) (literalChars indent false (y :: more)) :=
    lines_literalChars hprint' hlast
  have hlength : (y :: more).length < c.rest.length.succ := by
    have := hlines.length_le
    rw [hrest, List.length_append]
    omega
  have hnone : ∀ z ∈ ([] : List Char), isBreak z = false := by simp
  obtain ⟨b, c', hread, hrest', hcolumn', hcloses⟩ := readBlockLines_line
    (b := { moreBreaks := breaks }) (by omega) hlines hcolumn hnone (by simpa using hy) hrest hn hstop
    hlength
  refine ⟨b, c', hread, hrest', hcolumn', ?_⟩
  apply Closes.text_eq_of_closed _ hs
  rw [hclosed]
  simpa using hcloses

theorem exists_breaks_append (s : List Char)
    : ∃ breaks rest, s = breaks ++ rest ∧ (∀ x ∈ breaks, isBreak x = true)
        ∧ ∀ y ∈ rest.head?, isBreak y = false := by
  induction s with
  | nil => exact ⟨[], [], rfl, by simp, by simp⟩
  | cons x s ih =>
    cases hx : isBreak x with
    | true =>
      obtain ⟨breaks, rest, rfl, hbreaks, hrest⟩ := ih
      exact ⟨x :: breaks, rest, rfl, List.forall_mem_cons.mpr ⟨hx, hbreaks⟩, hrest⟩
    | false => exact ⟨[], x :: s, rfl, by simp, by simpa using hx⟩

theorem closed_eq_of_breaks (h : ∀ x ∈ closed s, isBreak x = true) (hs : s ≠ [])
    : closed s = s ∧ chomping s = .keep := by
  obtain ⟨front, last, rfl⟩ := List.eq_nil_or_concat s |>.resolve_left hs
  rw [List.concat_eq_append] at *
  cases hlast : isBreak last with
  | false =>
    rw [closed_of_not_break hlast] at h
    rw [h last (by simp)] at hlast
    cases hlast
  | true =>
    rw [closed_of_break hlast] at h
    refine ⟨closed_of_break hlast, chomping_keep ?_ hlast⟩
    intro y hy
    exact h y (List.mem_append_left _ (List.mem_of_getLast? hy))

theorem readBlockLines_literal (hindent : 0 < indent) (hcolumn : c.column = 0)
    (hprint : ∀ y ∈ s, isPrintable y = true) (hs : s ≠ [])
    (hrest : c.rest = literalChars indent true (closed s) ++ (List.replicate n ' ' ++ left))
    (hn : n < indent) (hstop : StopsAt indent n left)
    : ∃ breaks d c' b c'', readBlockBreaks indent c.rest.length.succ [] 0 c = some (breaks, d, c')
        ∧ readBlockLines false indent c'.rest.length.succ { moreBreaks := breaks } c' = some (b, c'')
        ∧ c''.rest = left ∧ c''.column = n ∧ b.text (chomping s) = s := by
  obtain ⟨breaks, t, hclosed, hbreaks, ht⟩ := exists_breaks_append (closed s)
  have hprint' : ∀ y ∈ breaks ++ t, isPrintable y = true :=
    hclosed ▸ isPrintable_of_mem_closed hprint
  have hprinted : ∀ y ∈ breaks, isPrintedBreak y = true := fun y hy =>
    isPrintedBreak_of_isPrintable (hbreaks y hy) (hprint' y (List.mem_append_left _ hy))
  rw [hclosed, literalChars_breaks hbreaks, List.append_assoc] at hrest
  have hlength : breaks.length < c.rest.length.succ := by
    rw [hrest, List.length_append]
    omega
  cases t with
  | nil =>
    rw [List.append_nil] at hclosed
    obtain ⟨d, c', hread, hrest', hcolumn'⟩ := readBlockBreaks_breaks [] 0
      hindent hcolumn hprinted hrest hstop hlength
    obtain ⟨hsame, hkeep⟩ := closed_eq_of_breaks (hclosed ▸ hbreaks) hs
    refine ⟨_, _, _, _, _, hread, readBlockLines_of_column (by omega), hrest', hcolumn', ?_⟩
    unfold BlockLines.text
    rw [hkeep, if_neg (by decide), if_pos rfl, ← hclosed, hsame]
    simp
  | cons y t =>
    have hy := ht y rfl
    have hstop' : StopsAt indent indent
        (literalChars indent false (y :: t) ++ (List.replicate n ' ' ++ left)) := by
      refine ⟨.inl rfl, ?_⟩
      intro z hz
      rw [literalChars_cons _ hy] at hz
      cases hz
      refine ⟨hy, ?_⟩
      rintro rfl
      cases hprint' '\t' (by simp)
    rw [literalChars_afterBreak hy, List.append_assoc] at hrest
    obtain ⟨d, c', hread, hrest', hcolumn'⟩ := readBlockBreaks_breaks [] 0
      hindent hcolumn hprinted hrest hstop' hlength
    obtain ⟨b, c'', hlines⟩ := readBlockLines_closed hprint hs hclosed hy hcolumn' hrest' hn hstop
    exact ⟨breaks, d, c', b, c'', hread, hlines⟩

theorem readBlockBreaks_unknown {d : Nat}
    (hrest : c.rest = List.replicate n ' ' ++ e) (hword : BeginsWord e) (hfuel : 0 < fuel)
    : readBlockBreaks 0 fuel breaks d c = some (breaks, max d (c.column + n), c.skip n) := by
  obtain ⟨fuel, rfl⟩ : ∃ m, fuel = m + 1 := ⟨fuel - 1, by omega⟩
  have hspace : e.head? ≠ some ' ' := by
    intro hspace
    cases (hword ' ' hspace).1
  have hskip := Cursor.skip_spaces hrest
  have htab : (c.skip n).isAt '\t' = false := by
    apply Cursor.isAt_of_ne
    rw [hskip]
    intro htab
    cases (hword '\t' htab).1
  have hbreak : ((c.skip n).peek?.map isBreak).getD false = false := by
    unfold Cursor.peek?
    rw [hskip]
    dsimp only
    cases hhead : e.head? with
    | none => rfl
    | some y => exact (hword y hhead).2
  unfold readBlockBreaks
  dsimp only
  rw [if_pos rfl, hrest, takeWhile_spaces hspace, List.length_replicate, htab, Bool.false_and]
  rw [if_neg Bool.false_ne_true, hbreak, if_neg Bool.false_ne_true, hskip]

theorem exists_cons_of_not_needsHint (hprint : ∀ y ∈ s, isPrintable y = true) (hs : s ≠ [])
    (h : needsHint s = false)
    : ∃ y more, closed s = y :: more ∧ isBlank y = false ∧ isBreak y = false := by
  cases s with
  | nil => exact absurd rfl hs
  | cons y s =>
    unfold needsHint at h
    rw [List.head?_cons, Option.map_some, Option.getD_some, Bool.or_eq_false_iff] at h
    have hblank := (isBlank_of_isPrintable (hprint y List.mem_cons_self)).trans h.1
    unfold closed
    split
    . exact ⟨y, s, rfl, hblank, h.2⟩
    . exact ⟨y, s ++ ['\n'], rfl, hblank, h.2⟩

theorem readBlock_marks {hint : Bool} {kept : Chomping} (outer : Nat)
    (hrest : c.rest = hintMark hint ++ kept.mark ++ '\n' :: rest)
    : ∃ c', c'.rest = rest ∧ c'.column = 0
        ∧ readBlock false outer c
          =
        (readBlockBreaks (if hint then outer - 1 + 2 else 0) c'.rest.length.succ [] 0 c').bind
          (fun (breaks, deepest, c) =>
            (readBlockLines false (if hint then outer - 1 + 2 else max 1 (max deepest outer))
              c.rest.length.succ { moreBreaks := breaks } c).map
              (fun (b, c) => { text := b.text kept, after := c })) := by
  have hmarks := readBlockMarks_marks hrest
  have hline : (c.skip (hintMark hint ++ kept.mark).length).rest = '\n' :: rest := by
    rw [Cursor.skip_append hrest]
  generalize c.skip (hintMark hint ++ kept.mark).length = c₁ at hmarks hline
  have hblank : c₁.skipWhile isBlank = c₁ := by
    have hstay := Cursor.skipWhile_append (w := []) (p := isBlank) hline (by simp) (by simp; decide)
    rwa [List.length_nil, Cursor.skip_zero] at hstay
  have hhash : c₁.isAt '#' = false := Cursor.isAt_of_ne (by simp [hline])
  have hskip := Cursor.skipBreak_cons hline (by decide)
  refine ⟨c₁.skipBreak, by rw [hskip], by rw [hskip], ?_⟩
  unfold readBlock
  rw [hmarks]
  dsimp only
  rw [hblank, hhash, if_neg Bool.false_ne_true, Cursor.peek?_cons hline, if_neg (by decide)]
  have hindent : (if (if hint then 2 else 0) = 0 then 0 else outer - 1 + if hint then 2 else 0)
      = if hint then outer - 1 + 2 else 0 := by
    cases hint <;> rfl
  rw [hindent]
  cases readBlockBreaks (if hint then outer - 1 + 2 else 0) c₁.skipBreak.rest.length.succ [] 0
      c₁.skipBreak with
  | none => rfl
  | some step =>
    have hknown : (if (if hint then outer - 1 + 2 else 0) = 0 then max 1 (max step.2.1 outer)
          else if hint then outer - 1 + 2 else 0)
        = if hint then outer - 1 + 2 else max 1 (max step.2.1 outer) := by
      cases hint <;> rfl
    rw [Option.bind_some]
    dsimp only
    rw [hknown]
    cases readBlockLines false (if hint then outer - 1 + 2 else max 1 (max step.2.1 outer))
        step.2.2.rest.length.succ { moreBreaks := step.1 } step.2.2 with
    | none => rfl
    | some lines => rfl

theorem readBlock_literal (outer : Nat) (hprint : ∀ y ∈ s, isPrintable y = true) (hs : s ≠ [])
    (hrest : c.rest
      =
      literalMarks s ++ '\n' :: (literalChars (outer + 1) true (closed s)
        ++ (List.replicate n ' ' ++ left)))
    (houter : 0 < outer) (hn : n < outer) (hword : BeginsWord left)
    : ∃ c', readBlock false outer c = some { text := s, after := c' } ∧ c'.rest = left
        ∧ c'.column = n := by
  have hstop : StopsAt (outer + 1) n left := by
    refine ⟨.inr ⟨by omega, ?_⟩, ?_⟩
    . intro hspace
      cases (hword ' ' hspace).1
    . intro y hy
      refine ⟨(hword y hy).2, ?_⟩
      rintro rfl
      cases (hword '\t' hy).1
  rw [literalMarks_eq] at hrest
  obtain ⟨c₁, hrest₁, hcolumn, hread⟩ := readBlock_marks outer hrest
  rw [hread]
  cases hhint : needsHint s with
  | true =>
    obtain ⟨breaks, d, c', b, c'', hbreaks, hlines, hrest', hcolumn', htext⟩ :=
      readBlockLines_literal (Nat.succ_pos outer) hcolumn hprint hs hrest₁ (by omega) hstop
    have hincrement : outer - 1 + 2 = outer + 1 := by omega
    rw [if_pos rfl, hincrement, hbreaks, Option.bind_some]
    dsimp only
    rw [if_pos rfl, hlines, Option.map_some, htext]
    exact ⟨c'', rfl, hrest', hcolumn'⟩
  | false =>
    obtain ⟨y, more, hclosed, hyblank, hybreak⟩ := exists_cons_of_not_needsHint hprint hs hhint
    rw [hclosed, literalChars_afterBreak hybreak, List.append_assoc] at hrest₁
    have hword' : BeginsWord
        (literalChars (outer + 1) false (y :: more) ++ (List.replicate n ' ' ++ left)) := by
      rw [literalChars_cons _ hybreak]
      exact beginsWord_cons hyblank hybreak
    have hindented := Cursor.skip_spaces hrest₁
    obtain ⟨b, c', hlines, hrest', hcolumn', htext⟩ := readBlockLines_closed
      (c := c₁.skip (outer + 1)) hprint hs (show closed s = [] ++ y :: more from hclosed)
      hybreak (by rw [hindented, hcolumn, Nat.zero_add]) (congrArg Cursor.rest hindented) (by omega)
      hstop
    have hmax : max 1 (max (max 0 (0 + (outer + 1))) outer) = outer + 1 := by omega
    rw [if_neg Bool.false_ne_true, readBlockBreaks_unknown hrest₁ hword' (Nat.succ_pos _), hcolumn,
      Option.bind_some]
    dsimp only
    rw [if_neg Bool.false_ne_true, hmax, hlines, Option.map_some, htext]
    exact ⟨c', rfl, hrest', hcolumn'⟩

end Yaml
end CallWire
