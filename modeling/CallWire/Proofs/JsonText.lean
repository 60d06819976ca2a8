import CallWire.Proofs.JsonForm
import CallWire.Proofs.JsonSteps
import CallWire.Proofs.Numeral

/-!
This module contains that JSON values are read as they are written, as far as all numbers in them
are integers, and that whatever is read is in order and not nested too deep.
-/

namespace CallWire

namespace Json

variable {v : Json} {rest : List Char}

theorem skipBlanks_cons {c : Char} (h : isBlank c = false) (s : List Char)
    : skipBlanks (c :: s) = c :: s := by
  unfold skipBlanks
  rw [h, if_neg Bool.false_ne_true]

theorem hexValue?_hexDigit (n : Nat) : hexValue? (hexDigit n) = some (n % 16) := by
  have hall : ∀ d < 16, hexValue? (Nat.digitChar d) = some d := by decide
  exact hall (n % 16) (Nat.mod_lt _ (by decide))

theorem readStringTail_quote (read : List Char)
    : readStringTail read ('"' :: rest) = .ok (read.reverse, rest) := by
  rw [readStringTail]
  simp

theorem readStringTail_plain {c : Char} (hquote : c ≠ '"') (hslash : c ≠ '\\')
    (hcontrol : ¬c.toNat < 0x20) (read : List Char)
    : readStringTail read (c :: rest) = readStringTail (c :: read) rest := by
  rw [readStringTail]
  rw [if_neg hquote, if_neg hslash, if_neg hcontrol]

theorem readStringTail_escape {c : Char} {s : List Char} (h : readEscape s = .ok (c, rest))
    (read : List Char)
    : readStringTail read ('\\' :: s) = readStringTail (c :: read) rest := by
  rw [readStringTail]
  rw [if_neg (by decide), if_pos rfl]
  split
  . next heq =>
    rw [h] at heq
    simp at heq
  . next heq =>
    rw [h] at heq
    cases heq
    rfl

theorem readEscape_unicode {c : Char} (hc : c.toNat < 0x20)
    : readEscape ('u' :: '0' :: '0' :: hexDigit (c.toNat / 16) :: hexDigit c.toNat :: rest)
        =
      .ok (c, rest) := by
  have hunit : ((0 * 16 + 0) * 16 + c.toNat / 16 % 16) * 16 + c.toNat % 16 = c.toNat := by omega
  have hzero : hexValue? '0' = some 0 := by decide
  have hhex : readHex ('0' :: '0' :: hexDigit (c.toNat / 16) :: hexDigit c.toNat :: rest)
      = .ok (c.toNat, rest) := by
    unfold readHex
    simp only [hzero, hexValue?_hexDigit]
    rw [hunit]
  have hescape : readEscape
      ('u' :: '0' :: '0' :: hexDigit (c.toNat / 16) :: hexDigit c.toNat :: rest)
      = readUnicodeEscape ('0' :: '0' :: hexDigit (c.toNat / 16) :: hexDigit c.toNat :: rest) := rfl
  rw [hescape]
  unfold readUnicodeEscape
  rw [hhex]
  dsimp only
  rw [if_neg (by omega), if_neg (by omega), Char.ofNat_toNat]

def shortEscapes : List Char := ['"', '\\', '\x08', '\x0c', '\n', '\r', '\t']

theorem escapeChar_of_not_mem {c : Char} (h : c ∉ shortEscapes)
    : escapeChar c
        =
      if c.toNat < 0x20 then ['\\', 'u', '0', '0', hexDigit (c.toNat / 16), hexDigit c.toNat]
      else [c] := by
  simp only [shortEscapes, List.mem_cons, List.not_mem_nil, or_false, not_or] at h
  obtain ⟨h₁, h₂, h₃, h₄, h₅, h₆, h₇⟩ := h
  unfold escapeChar
  rw [if_neg h₁, if_neg h₂, if_neg h₃, if_neg h₄, if_neg h₅, if_neg h₆, if_neg h₇]

theorem readStringTail_escapeChar (c : Char) (read : List Char)
    : readStringTail read (escapeChar c ++ rest) = readStringTail (c :: read) rest := by
  by_cases h : c ∈ shortEscapes
  . simp only [shortEscapes, List.mem_cons, List.not_mem_nil, or_false] at h
    rcases h with rfl | rfl | rfl | rfl | rfl | rfl | rfl <;> exact readStringTail_escape rfl read
  . rw [escapeChar_of_not_mem h]
    split
    . next hcontrol => exact readStringTail_escape (readEscape_unicode hcontrol) read
    . next hcontrol =>
      apply readStringTail_plain _ _ hcontrol
      . rintro rfl
        exact h (by decide)
      . rintro rfl
        exact h (by decide)

theorem readStringTail_escaped (s read : List Char)
    : readStringTail read (s.flatMap escapeChar ++ '"' :: rest) = .ok (read.reverse ++ s, rest) := by
  induction s generalizing read with
  | nil =>
    rw [List.flatMap_nil, List.nil_append, List.append_nil]
    exact readStringTail_quote read
  | cons c s ih =>
    rw [List.flatMap_cons, List.append_assoc, readStringTail_escapeChar, ih]
    rw [List.reverse_cons, List.append_assoc, List.singleton_append]

theorem readString_escaped (s : String)
    : readString (s.toList.flatMap escapeChar ++ '"' :: rest) = .ok (s, rest) := by
  unfold readString
  rw [readStringTail_escaped]
  dsimp only
  rw [List.reverse_nil, List.nil_append, String.ofList_toList]

def writeMember (m : String × Json) : List Char := writeString m.1 ++ ':' :: write m.2

theorem writeItems_cons (v : Json) (more : List Json)
    : writeItems (v :: more) = write v ++ more.flatMap (fun w => ',' :: write w) := by
  induction more generalizing v with
  | nil => simp [writeItems]
  | cons w more ih => simp [writeItems, ih w]

theorem writeMembers_cons (m : String × Json) (more : List (String × Json))
    : writeMembers (m :: more) = writeMember m ++ more.flatMap (fun m => ',' :: writeMember m) := by
  induction more generalizing m with
  | nil => simp [writeMembers, writeMember]
  | cons w more ih => simp [writeMembers, ih w, writeMember]

theorem isBlank_of_isDigit {c : Char} (h : c.isDigit = true) : isBlank c = false ∧ c ≠ ']' := by
  constructor
  . unfold isBlank
    simp only [Bool.or_eq_false_iff, decide_eq_false_iff_not]
    refine ⟨⟨⟨?_, ?_⟩, ?_⟩, ?_⟩ <;> rintro rfl <;> simp at h
  . rintro rfl
    simp at h

def Begins (s : List Char) : Prop := ∃ c tail, s = c :: tail ∧ isBlank c = false ∧ c ≠ ']'

theorem begins_cons {c : Char} (hblank : isBlank c = false) (hclose : c ≠ ']') (tail : List Char)
    : Begins (c :: tail) :=
  ⟨c, tail, rfl, hblank, hclose⟩

theorem begins_append {s : List Char} (h : Begins s) (rest : List Char) : Begins (s ++ rest) := by
  obtain ⟨c, tail, rfl, hblank, hclose⟩ := h
  exact begins_cons hblank hclose (tail ++ rest)

theorem begins_toDigits (n : Nat) : Begins (Nat.toDigits 10 n) := by
  cases hdigits : Nat.toDigits 10 n with
  | nil => exact absurd hdigits Nat.toDigits_ne_nil
  | cons c tail =>
    have hc : c.isDigit = true := by
      apply Numeral.isDigit_of_mem_toDigits (n := n)
      rw [hdigits]
      exact List.mem_cons_self
    obtain ⟨hblank, hclose⟩ := isBlank_of_isDigit hc
    exact begins_cons hblank hclose tail

theorem begins_write (h : v.isIntegral = true) : Begins v.write := by
  cases v with
  | null => exact begins_cons (by decide) (by decide) _
  | bool b => cases b <;> exact begins_cons (by decide) (by decide) _
  | number n =>
    cases n with
    | int i =>
      change Begins (writeInt i)
      cases i with
      | ofNat n =>
        rw [Int.ofNat_eq_natCast, writeInt_ofNat]
        exact begins_toDigits n
      | negSucc n =>
        rw [writeInt_negSucc]
        exact begins_cons (by decide) (by decide) _
    | double d => simp [isIntegral, all] at h
  | string s => exact begins_cons (by decide) (by decide) _
  | array items => exact begins_cons (by decide) (by decide) _
  | object members => exact begins_cons (by decide) (by decide) _

theorem ends_listed {α : Type} (rest : List Char) (write : α → List Char) (more : List α)
    {c : Char} (hc : c = ']' ∨ c = '\x7d')
    : Numeral.Ends (more.flatMap (fun a => ',' :: write a) ++ c :: rest) := by
  cases more with
  | nil => rcases hc with rfl | rfl <;> apply Numeral.ends_cons <;> decide
  | cons a more => apply Numeral.ends_cons <;> decide

theorem length_le_length_listed {α : Type} (write : α → List Char) (more : List α)
    : more.length ≤ (more.flatMap (fun a => ',' :: write a) ++ rest).length := by
  induction more with
  | nil => exact Nat.zero_le _
  | cons a more ih =>
    rw [List.flatMap_cons, List.append_assoc, List.length_append, List.length_cons]
    rw [List.length_cons]
    omega

section

variable {readItem : List Char → ReadStep Json} {s : List Char}

theorem readArray_item (hs : Begins s) (hread : readItem s = .ok (v, rest))
    : readArray readItem s = readMoreItems readItem rest.length.succ [v] rest := by
  obtain ⟨c, tail, rfl, hblank, hclose⟩ := hs
  unfold readArray
  rw [skipBlanks_cons hblank]
  split
  . next heq => simp at heq
  . next heq => exact absurd (List.cons.inj heq).1 hclose
  . rw [hread]

theorem readMoreItems_close (fuel : Nat) (items : List Json)
    : readMoreItems readItem (fuel + 1) items (']' :: rest) = .ok (.array items.reverse, rest) := rfl

theorem readMoreItems_comma_eq (fuel : Nat) (items : List Json) (s : List Char)
    : readMoreItems readItem (fuel + 1) items (',' :: s)
        =
      match skipBlanks s with
      | [] => Stop.here .endInValue []
      | ']' :: rest => Stop.past .trailingComma (']' :: rest)
      | rest =>
        match readItem rest with
        | .error stop => .error stop
        | .ok (v, rest) => readMoreItems readItem fuel (v :: items) rest := rfl

theorem readMoreItems_comma (fuel : Nat) (items : List Json) (hs : Begins s)
    (hread : readItem s = .ok (v, rest))
    : readMoreItems readItem (fuel + 1) items (',' :: s)
        =
      readMoreItems readItem fuel (v :: items) rest := by
  obtain ⟨c, tail, rfl, hblank, hclose⟩ := hs
  rw [readMoreItems_comma_eq, skipBlanks_cons hblank]
  split
  . next heq => simp at heq
  . next heq => exact absurd (List.cons.inj heq).1 hclose
  . rw [hread]

theorem readObject_member {m : String × Json} (hread : readMember readItem s = .ok (m, rest))
    : readObject readItem ('"' :: s) = readMoreMembers readItem rest.length.succ [m] rest := by
  unfold readObject
  rw [skipBlanks_cons (by decide)]
  simp only [hread]

theorem readMoreMembers_close (fuel : Nat) (members : List (String × Json))
    : readMoreMembers readItem (fuel + 1) members ('\x7d' :: rest)
        =
      .ok (.object members, rest) := rfl

theorem readMoreMembers_comma_eq (fuel : Nat) (members : List (String × Json)) (s : List Char)
    : readMoreMembers readItem (fuel + 1) members (',' :: s)
        =
      match skipBlanks s with
      | [] => Stop.here .endInValue []
      | '\x7d' :: rest => Stop.past .trailingComma ('\x7d' :: rest)
      | '"' :: rest =>
        match readMember readItem rest with
        | .error stop => .error stop
        | .ok ((k, v), rest) => readMoreMembers readItem fuel (insertMember k v members) rest
      | rest => Stop.past .keyNotString rest := rfl

theorem readMoreMembers_comma (fuel : Nat) (members : List (String × Json)) {m : String × Json}
    (hread : readMember readItem s = .ok (m, rest))
    : readMoreMembers readItem (fuel + 1) members (',' :: '"' :: s)
        =
      readMoreMembers readItem fuel (insertMember m.1 m.2 members) rest := by
  rw [readMoreMembers_comma_eq, skipBlanks_cons (by decide)]
  simp only [hread]

def ReadsBack (readItem : List Char → ReadStep Json) (v : Json) : Prop :=
  ∀ rest, Numeral.Ends rest → readItem (v.write ++ rest) = .ok (v, rest)

theorem readMoreItems_written {more : List Json}
    (hmore : ∀ v ∈ more, v.isIntegral = true ∧ ReadsBack readItem v) (items : List Json)
    {fuel : Nat} (hfuel : more.length < fuel)
    : readMoreItems readItem fuel items (more.flatMap (fun v => ',' :: write v) ++ ']' :: rest)
        =
      .ok (.array (items.reverse ++ more), rest) := by
  induction more generalizing items fuel with
  | nil =>
    obtain ⟨fuel, rfl⟩ := Nat.exists_eq_succ_of_ne_zero (Nat.ne_zero_of_lt hfuel)
    rw [List.append_nil]
    exact readMoreItems_close fuel items
  | cons v more ih =>
    obtain ⟨fuel, rfl⟩ := Nat.exists_eq_succ_of_ne_zero (Nat.ne_zero_of_lt hfuel)
    obtain ⟨hintegral, hread⟩ := hmore v List.mem_cons_self
    have hv := hread _ (ends_listed rest write more (.inl rfl))
    have hbegins := begins_append (begins_write hintegral)
      (more.flatMap (fun v => ',' :: write v) ++ ']' :: rest)
    rw [List.flatMap_cons, List.cons_append, List.cons_append, List.append_assoc]
    rw [readMoreItems_comma fuel items hbegins hv]
    rw [ih (fun w hw => hmore w (List.mem_cons_of_mem _ hw)) (v :: items) (by simpa using hfuel)]
    rw [List.reverse_cons, List.append_assoc, List.singleton_append]

theorem readArray_written {items : List Json}
    (hitems : ∀ v ∈ items, v.isIntegral = true ∧ ReadsBack readItem v)
    : readArray readItem (writeItems items ++ ']' :: rest) = .ok (.array items, rest) := by
  cases items with
  | nil => rfl
  | cons v more =>
    obtain ⟨hintegral, hread⟩ := hitems v List.mem_cons_self
    have hv := hread _ (ends_listed rest write more (.inl rfl))
    have hbegins := begins_append (begins_write hintegral)
      (more.flatMap (fun v => ',' :: write v) ++ ']' :: rest)
    rw [writeItems_cons, List.append_assoc, readArray_item hbegins hv]
    apply readMoreItems_written (fun w hw => hitems w (List.mem_cons_of_mem _ hw)) [v]
    exact Nat.lt_succ_of_le (length_le_length_listed write more)

theorem readMember_written {m : String × Json} (hm : ReadsBack readItem m.2)
    (hrest : Numeral.Ends rest)
    : ∃ s, writeMember m ++ rest = '"' :: s ∧ readMember readItem s = .ok (m, rest) := by
  refine ⟨m.1.toList.flatMap escapeChar ++ '"' :: ':' :: (m.2.write ++ rest), ?_, ?_⟩
  . unfold writeMember writeString
    simp
  . unfold readMember
    rw [readString_escaped]
    dsimp only
    rw [skipBlanks_cons (by decide)]
    simp only [hm rest hrest]

theorem readMoreMembers_written {more : List (String × Json)}
    (hmore : ∀ m ∈ more, ReadsBack readItem m.2) (members : List (String × Json)) {fuel : Nat}
    (hfuel : more.length < fuel)
    : readMoreMembers readItem fuel members
        (more.flatMap (fun m => ',' :: writeMember m) ++ '\x7d' :: rest)
        =
      .ok (.object (more.foldl (fun sorted (k, v) => insertMember k v sorted) members), rest) := by
  induction more generalizing members fuel with
  | nil =>
    obtain ⟨fuel, rfl⟩ := Nat.exists_eq_succ_of_ne_zero (Nat.ne_zero_of_lt hfuel)
    exact readMoreMembers_close fuel members
  | cons m more ih =>
    obtain ⟨fuel, rfl⟩ := Nat.exists_eq_succ_of_ne_zero (Nat.ne_zero_of_lt hfuel)
    have hends := ends_listed rest writeMember more (.inr rfl)
    obtain ⟨s, htext, hread⟩ := readMember_written (hmore m List.mem_cons_self) hends
    rw [List.flatMap_cons, List.cons_append, List.cons_append, List.append_assoc, htext]
    rw [readMoreMembers_comma fuel members hread]
    exact ih (fun n hn => hmore n (List.mem_cons_of_mem _ hn)) _ (by simpa using hfuel)

theorem readObject_written {members : List (String × Json)}
    (hmembers : ∀ m ∈ members, ReadsBack readItem m.2)
    : readObject readItem (writeMembers members ++ '\x7d' :: rest)
        =
      .ok (ofMembers members, rest) := by
  cases members with
  | nil => rfl
  | cons m more =>
    have hends := ends_listed rest writeMember more (.inr rfl)
    obtain ⟨s, htext, hread⟩ := readMember_written (hmembers m List.mem_cons_self) hends
    rw [writeMembers_cons, List.append_assoc, htext, readObject_member hread]
    apply readMoreMembers_written (fun n hn => hmembers n (List.mem_cons_of_mem _ hn)) [m]
    exact Nat.lt_succ_of_le (length_le_length_listed writeMember more)

end

theorem readWord_append (letters : List Char)
    : readWord v letters (letters ++ rest) = .ok (v, rest) := by
  induction letters with
  | nil => rfl
  | cons l letters ih =>
    rw [List.cons_append, readWord, if_pos rfl]
    exact ih

theorem readValue_string (depth : Nat) (s : String)
    : readValue depth ((Json.string s).write ++ rest) = .ok (.string s, rest) := by
  have htext : (Json.string s).write ++ rest
      = '"' :: (s.toList.flatMap escapeChar ++ '"' :: rest) := by
    simp [write, writeString]
  rw [htext]
  unfold readValue
  rw [skipBlanks_cons (by decide)]
  simp [readString_escaped]

theorem readValue_of_isDigit (depth : Nat) {c : Char} (h : c.isDigit = true) (s : List Char)
    : readValue depth (c :: s) = readNumber false (c :: s) := by
  have hne : ∀ d, d.isDigit = false → c ≠ d := by
    rintro d hd rfl
    rw [h] at hd
    exact Bool.noConfusion hd
  unfold readValue
  rw [skipBlanks_cons (isBlank_of_isDigit h).1]
  dsimp only
  rw [if_neg (hne 'n' (by decide)), if_neg (hne 't' (by decide)), if_neg (hne 'f' (by decide))]
  rw [if_neg (hne '-' (by decide)), if_pos h]

theorem readValue_int (depth : Nat) {i : Int} (hi : Number.IntRange i) (hrest : Numeral.Ends rest)
    : readValue depth (writeInt i ++ rest) = .ok (.number (.int i), rest) := by
  obtain ⟨hlow, hhigh⟩ := hi
  cases i with
  | ofNat n =>
    rw [Int.ofNat_eq_natCast] at hhigh ⊢
    have hread := Numeral.read_toDigits (n := n) false (by omega) hrest
    rw [writeInt_ofNat]
    cases hdigits : Nat.toDigits 10 n with
    | nil => exact absurd hdigits Nat.toDigits_ne_nil
    | cons c tail =>
      have hc : c.isDigit = true := by
        apply Numeral.isDigit_of_mem_toDigits (n := n)
        rw [hdigits]
        exact List.mem_cons_self
      rw [hdigits] at hread
      rw [List.cons_append] at hread ⊢
      rw [readValue_of_isDigit depth hc]
      unfold readNumber
      rw [hread]
      rfl
  | negSucc n =>
    have hread := Numeral.read_toDigits (n := n + 1) true (by omega) hrest
    rw [Numeral.exact_of_pos (Nat.succ_ne_zero n) (by omega)] at hread
    rw [writeInt_negSucc, List.cons_append]
    unfold readValue
    rw [skipBlanks_cons (by decide)]
    simp only [reduceIte, Char.reduceEq]
    unfold readNumber
    rw [hread]
    rfl

theorem readValue_array (depth : Nat) {items : List Json}
    (h : ∀ v ∈ items, v.isIntegral = true ∧ ReadsBack (readValue depth) v)
    : readValue (depth + 1) ((Json.array items).write ++ rest) = .ok (.array items, rest) := by
  have htext : (Json.array items).write ++ rest = '[' :: (writeItems items ++ ']' :: rest) := by
    simp [write]
  rw [htext]
  unfold readValue
  rw [skipBlanks_cons (by decide)]
  simp [readArray_written h]

theorem readValue_object (depth : Nat) {members : List (String × Json)}
    (h : ∀ m ∈ members, ReadsBack (readValue depth) m.2)
    : readValue (depth + 1) ((Json.object members).write ++ rest)
        =
      .ok (ofMembers members, rest) := by
  have htext : (Json.object members).write ++ rest
      = '\x7b' :: (writeMembers members ++ '\x7d' :: rest) := by
    simp [write]
  rw [htext]
  unfold readValue
  rw [skipBlanks_cons (by decide)]
  simp [readObject_written h]

theorem ofMembers_of_pairwise {members : List (String × Json)}
    (h : (members.map Prod.fst).Pairwise (· < ·))
    : ofMembers members = .object members := by
  exact congrArg Json.object (foldl_insertMember_of_pairwise [] (List.pairwise_map.mp h))

theorem readValue_scalar (depth : Nat) (hdepth : v.depth = 0) (hintegral : v.isIntegral = true)
    (hrest : Numeral.Ends rest)
    : readValue depth (v.write ++ rest) = .ok (v, rest) := by
  cases v with
  | null =>
    unfold readValue
    exact readWord_append ['u', 'l', 'l']
  | bool b =>
    unfold readValue
    cases b with
    | true => exact readWord_append ['r', 'u', 'e']
    | false => exact readWord_append ['a', 'l', 's', 'e']
  | number n =>
    cases n with
    | int i => exact readValue_int depth (of_decide_eq_true hintegral) hrest
    | double d => simp [isIntegral, all] at hintegral
  | string s => exact readValue_string depth s
  | array items => simp [Json.depth] at hdepth
  | object members => simp [Json.depth] at hdepth

/-- A value with integers only is read back from its text if it is not nested too deep. -/
theorem readValue_write {depth : Nat} (hdepth : v.depth ≤ depth) (hintegral : v.isIntegral = true)
    (hsorted : v.isSorted = true)
    : ReadsBack (readValue depth) v := by
  induction depth generalizing v with
  | zero =>
    intro rest hrest
    exact readValue_scalar 0 (Nat.le_zero.mp hdepth) hintegral hrest
  | succ depth ih =>
    intro rest hrest
    cases v with
    | array items =>
      have hitems := depthItems_le_iff.mp (Nat.le_of_succ_le_succ hdepth)
      obtain ⟨-, hintegral⟩ := all_array_iff.mp hintegral
      obtain ⟨-, hsorted⟩ := all_array_iff.mp hsorted
      apply readValue_array
      intro w hw
      exact ⟨hintegral w hw, ih (hitems w hw) (hintegral w hw) (hsorted w hw)⟩
    | object members =>
      have hmembers := depthMembers_le_iff.mp (Nat.le_of_succ_le_succ hdepth)
      obtain ⟨-, hintegral⟩ := all_object_iff.mp hintegral
      obtain ⟨hkeys, hsorted⟩ := all_object_iff.mp hsorted
      rw [readValue_object, ofMembers_of_pairwise (of_decide_eq_true hkeys)]
      intro m hm
      exact ih (hmembers m hm) (hintegral m hm) (hsorted m hm)
    | _ => exact readValue_scalar _ rfl hintegral hrest

theorem parse_render (hdepth : v.depth ≤ maxDepth) (hintegral : v.isIntegral = true)
    (hsorted : v.isSorted = true)
    : parse v.render = .ok v := by
  have hread := readValue_write hdepth hintegral hsorted [] Numeral.ends_nil
  rw [List.append_nil] at hread
  unfold parse readText render
  rw [String.toList_ofList, hread]
  rfl

section

variable {readItem : List Char → ReadStep Json} {s : List Char} {p : Json → Prop}

theorem readMoreItems_forall (hitem : ∀ s v rest, readItem s = .ok (v, rest) → p v) {fuel : Nat}
    {items : List Json} (hitems : ∀ w ∈ items, p w)
    (h : readMoreItems readItem fuel items s = .ok (v, rest))
    : ∃ more, v = .array more ∧ ∀ w ∈ more, p w := by
  induction fuel generalizing items s with
  | zero => cases h
  | succ fuel ih =>
    rcases readMoreItems_cases h with ⟨-, rfl⟩ | ⟨s₁, w, s₂, -, hread, hmore⟩
    . exact ⟨_, rfl, fun w hw => hitems w (List.mem_reverse.mp hw)⟩
    . exact ih (List.forall_mem_cons.mpr ⟨hitem _ _ _ hread, hitems⟩) hmore

theorem readArray_forall (hitem : ∀ s v rest, readItem s = .ok (v, rest) → p v)
    (h : readArray readItem s = .ok (v, rest))
    : ∃ items, v = .array items ∧ ∀ w ∈ items, p w := by
  rcases readArray_cases h with ⟨-, rfl⟩ | ⟨w, s₁, hread, hmore⟩
  . exact ⟨[], rfl, by simp⟩
  . exact readMoreItems_forall hitem (List.forall_mem_singleton.mpr (hitem _ _ _ hread)) hmore

theorem readMember_forall (hitem : ∀ s v rest, readItem s = .ok (v, rest) → p v)
    {m : String × Json} (h : readMember readItem s = .ok (m, rest))
    : p m.2 := by
  obtain ⟨s₁, s₂, -, -, hread⟩ := readMember_cases h
  exact hitem s₂ m.2 rest hread

theorem readMoreMembers_forall (hitem : ∀ s v rest, readItem s = .ok (v, rest) → p v) {fuel : Nat}
    {members : List (String × Json)} (hmembers : ∀ m ∈ members, p m.2)
    (hsorted : members.Pairwise (fun m n => m.1 < n.1))
    (h : readMoreMembers readItem fuel members s = .ok (v, rest))
    : ∃ more, v = .object more ∧ more.Pairwise (fun m n => m.1 < n.1) ∧ ∀ m ∈ more, p m.2 := by
  induction fuel generalizing members s with
  | zero => cases h
  | succ fuel ih =>
    rcases readMoreMembers_cases h with ⟨-, rfl⟩ | ⟨s₁, s₂, m, s₃, -, -, hread, hmore⟩
    . exact ⟨_, rfl, hsorted, hmembers⟩
    . refine ih ?_ (pairwise_insertMember hsorted) hmore
      intro n hn
      rcases mem_insertMember hn with rfl | hn
      . exact readMember_forall hitem hread
      . exact hmembers n hn

theorem readObject_forall (hitem : ∀ s v rest, readItem s = .ok (v, rest) → p v)
    (h : readObject readItem s = .ok (v, rest))
    : ∃ more, v = .object more ∧ more.Pairwise (fun m n => m.1 < n.1) ∧ ∀ m ∈ more, p m.2 := by
  rcases readObject_cases h with ⟨-, rfl⟩ | ⟨s₁, m, s₂, -, hread, hmore⟩
  . exact ⟨[], rfl, List.Pairwise.nil, by simp⟩
  . have hm : ∀ n ∈ [m], p n.2 := List.forall_mem_singleton.mpr (readMember_forall hitem hread)
    exact readMoreMembers_forall hitem hm (List.pairwise_singleton _ _) hmore

end

def Fits (depth : Nat) (v : Json) : Prop := v.depth ≤ depth ∧ v.isSorted = true

theorem fits_scalar (depth : Nat) (hdepth : v.depth = 0) : Fits depth v := by
  refine ⟨hdepth ▸ Nat.zero_le depth, ?_⟩
  cases v with
  | array items => simp [Json.depth] at hdepth
  | object members => simp [Json.depth] at hdepth
  | _ => rfl

theorem fits_array {depth : Nat} {items : List Json} (h : ∀ w ∈ items, Fits depth w)
    : Fits (depth + 1) (.array items) := by
  constructor
  . exact Nat.succ_le_succ (depthItems_le_iff.mpr (fun w hw => (h w hw).1))
  . exact all_array_iff.mpr ⟨rfl, fun w hw => (h w hw).2⟩

theorem fits_object {depth : Nat} {members : List (String × Json)}
    (hkeys : members.Pairwise (fun m n => m.1 < n.1)) (h : ∀ m ∈ members, Fits depth m.2)
    : Fits (depth + 1) (.object members) := by
  constructor
  . exact Nat.succ_le_succ (depthMembers_le_iff.mpr (fun m hm => (h m hm).1))
  . exact all_object_iff.mpr ⟨decide_eq_true (List.pairwise_map.mpr hkeys), fun m hm => (h m hm).2⟩

theorem readValue_fits {depth : Nat} {s : List Char} (h : readValue depth s = .ok (v, rest))
    : Fits depth v := by
  induction depth using Nat.strongRecOn generalizing s v rest with
  | ind depth ih =>
    have hfront := readsFront_of_readValue h
    generalize skipBlanks s = front at hfront
    cases hfront with
    | @array depth _ _ _ hread =>
      obtain ⟨items, rfl, hitems⟩ :=
        readArray_forall (fun _ _ _ => ih depth (Nat.lt_succ_self depth)) hread
      exact fits_array hitems
    | @object depth _ _ _ hread =>
      obtain ⟨members, rfl, hkeys, hmembers⟩ :=
        readObject_forall (fun _ _ _ => ih depth (Nat.lt_succ_self depth)) hread
      exact fits_object hkeys hmembers
    | _ => exact fits_scalar _ rfl

end Json
end CallWire
