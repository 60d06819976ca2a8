import CallWire.Proofs.YamlTexts

/-!
This module contains the tokens of block mappings whose values are scalars, and of mappings in
mappings, from the first key to the end of the text.
-/

namespace CallWire

namespace Yaml

namespace Lexer

/-- A member of a mapping: its key, what its value is written as, and what it is read as. -/
structure Member where
  key : String
  value : List Char
  style : Style
  text : String

structure IsKey (key : String) : Prop where
  chars : ∀ x ∈ key.toList, isPlainChar x = true
  ne_nil : key.toList ≠ []
  length : key.toList.length ≤ 1024

instance (key : String) : Decidable (IsKey key) :=
  decidable_of_iff
    (key.toList.all isPlainChar = true ∧ key.toList ≠ [] ∧ key.toList.length ≤ 1024)
    ⟨fun h => ⟨List.all_eq_true.mp h.1, h.2.1, h.2.2⟩,
      fun h => ⟨List.all_eq_true.mpr h.chars, h.ne_nil, h.length⟩⟩

theorem IsKey.beginsToken {key : String} {rest : List Char} (h : IsKey key)
    : BeginsToken (key.toList ++ rest) := by
  intro x hx
  have hplain : isPlainChar x = true := by
    have hne := h.ne_nil
    have hchars := h.chars
    cases hkey : key.toList with
    | nil => exact absurd hkey hne
    | cons y chars =>
      rw [hkey] at hx hchars
      cases hx
      exact hchars x List.mem_cons_self
  exact ⟨isBlank_of_isPlainChar hplain, isBreak_of_isPlainChar hplain,
    ne_of_isPlainChar hplain (by decide), ne_of_isPlainChar hplain (by decide)⟩

structure Member.Fits (column : Nat) (m : Member) : Prop where
  isKey : IsKey m.key
  value : ReadsAs column m.value m.style m.text
  allowed : ∀ x ∈ m.value, isAllowed x = true

def Member.tokens (m : Member) : List Token :=
  [.key, .scalar .plain m.key, .value, .scalar m.style m.text]

variable {column column' : Nat} {members : List Member} {m : Member} {left : List Char}
variable {c : Cursor} {tokens : List Token} {outer : List Int} {indent : Int} {allowed : Bool}

def nextColumn (column column' : Nat) : List Member → Nat
  | [] => column'
  | _ => column

def nextText (column column' : Nat) (left : List Char) : List Member → List Char
  | [] => left
  | m :: members =>
    m.key.toList ++ ':' :: ' ' :: (m.value
      ++ (List.replicate (nextColumn column column' members) ' '
        ++ nextText column column' left members))

theorem nextColumn_le (h : column' ≤ column) : nextColumn column column' members ≤ column := by
  cases members with
  | nil => exact h
  | cons => exact Nat.le_refl _

theorem beginsToken_nextText (hmembers : ∀ m ∈ members, m.Fits column) (hleft : BeginsToken left)
    : BeginsToken (nextText column column' left members) := by
  cases members with
  | nil => exact hleft
  | cons m members => exact (hmembers m List.mem_cons_self).isKey.beginsToken

theorem endsWord_blank (rest : List Char) : Cursor.endsWord (' ' :: rest).head? = true := rfl

theorem run_members (fuel : Nat) (tokens : List Token) (outer : List Int)
    (hmembers : ∀ m ∈ members, m.Fits column) (hle : column' ≤ column) (hleft : BeginsToken left)
    (hplace : BeforeKey (nextColumn column column' members)
      (nextText column column' left members) c allowed)
    : ∃ c' allowed', BeforeKey column' left c' allowed'
        ∧ run (fuel + 3 * members.length) (outside c tokens column outer allowed)
          =
        run fuel (outside c' (tokens ++ members.flatMap Member.tokens) column outer allowed') := by
  induction members generalizing c tokens allowed with
  | nil => exact ⟨c, allowed, hplace, by simp⟩
  | cons m members ih =>
    obtain ⟨hfits, hmembers⟩ := List.forall_mem_cons.mp hmembers
    have hplace : BeforeKey column (nextText column column' left (m :: members)) c allowed := hplace
    obtain ⟨c₁, hrest₁, hcolumn₁, hrun₁⟩ := run_key (fuel + 3 * members.length + 1) tokens outer
      hplace hfits.isKey.chars hfits.isKey.ne_nil hfits.isKey.length (endsWord_blank _)
    rw [String.ofList_toList] at hrun₁
    obtain ⟨c₂, allowed₂, hrun₂, hplace₂⟩ := run_value (fuel + 3 * members.length)
      (tokens ++ [.key, .scalar .plain m.key, .value]) outer hfits.value hrest₁ hcolumn₁
      (nextColumn_le hle) (beginsToken_nextText hmembers hleft)
    obtain ⟨c', allowed', hplace', hrun'⟩ := ih (tokens ++ m.tokens) hmembers hplace₂
    refine ⟨c', allowed', hplace', ?_⟩
    have htokens : tokens ++ [.key, .scalar .plain m.key, .value] ++ [.scalar m.style m.text]
        = tokens ++ m.tokens := by
      rw [List.append_assoc]
      rfl
    have hfuel : fuel + 3 * (m :: members).length = fuel + 3 * members.length + 1 + 2 := by
      rw [List.length_cons]
      omega
    rw [hfuel, hrun₁, hrun₂, htokens, hrun', List.flatMap_cons, List.append_assoc]

theorem run_mapping (fuel : Nat) (tokens : List Token) (outer : List Int)
    (hmembers : ∀ m' ∈ m :: members, m'.Fits column) (hle : column' ≤ column)
    (hleft : BeginsToken left) (hindent : indent < column)
    (hplace : BeforeKey column (nextText column column' left (m :: members)) c allowed)
    : ∃ c' allowed', BeforeKey column' left c' allowed'
        ∧ run (fuel + 3 * (m :: members).length) (outside c tokens indent outer allowed)
          =
        run fuel (outside c'
          (tokens ++ .blockMappingStart :: (m :: members).flatMap Member.tokens) column
          (indent :: outer) allowed') := by
  obtain ⟨hfits, hmembers⟩ := List.forall_mem_cons.mp hmembers
  obtain ⟨c₁, hrest₁, hcolumn₁, hrun₁⟩ := run_first_key (fuel + 3 * members.length + 1) tokens
    outer hplace hfits.isKey.chars hfits.isKey.ne_nil hfits.isKey.length (endsWord_blank _) hindent
  rw [String.ofList_toList] at hrun₁
  obtain ⟨c₂, allowed₂, hrun₂, hplace₂⟩ := run_value (fuel + 3 * members.length)
    (tokens ++ [.blockMappingStart, .key, .scalar .plain m.key, .value]) (indent :: outer)
    hfits.value hrest₁ hcolumn₁ (nextColumn_le hle) (beginsToken_nextText hmembers hleft)
  have htokens : tokens ++ [.blockMappingStart, .key, .scalar .plain m.key, .value]
      ++ [.scalar m.style m.text] = tokens ++ .blockMappingStart :: m.tokens := by
    rw [List.append_assoc]
    rfl
  obtain ⟨c', allowed', hplace', hrun'⟩ := run_members fuel
    (tokens ++ .blockMappingStart :: m.tokens) (indent :: outer) hmembers hle hleft hplace₂
  refine ⟨c', allowed', hplace', ?_⟩
  have hfuel : fuel + 3 * (m :: members).length = fuel + 3 * members.length + 1 + 2 := by
    rw [List.length_cons]
    omega
  rw [hfuel, hrun₁, hrun₂, htokens, hrun', List.flatMap_cons, List.append_assoc]
  rfl

theorem run_mapping_key (fuel : Nat) (tokens : List Token) (outer : List Int) {key : String}
    (hkey : IsKey key)
    (hplace : BeforeKey column
      (key.toList ++ ':' :: '\n' :: (List.replicate column' ' ' ++ left)) c allowed)
    : ∃ c', BeforeKey column' left c' false
        ∧ run (fuel + 2) (outside c tokens column outer allowed)
          =
        run fuel (outside c' (tokens ++ [.key, .scalar .plain key, .value]) column outer false) := by
  obtain ⟨c', hrest, _, hrun⟩ := run_key fuel tokens outer hplace hkey.chars hkey.ne_nil
    hkey.length rfl
  rw [String.ofList_toList] at hrun
  exact ⟨c', .lineBefore hrest, hrun⟩

theorem run_end (fuel : Nat) (tokens : List Token) (hplace : BeforeKey 0 [] c allowed)
    : run (fuel + 1) (outside c tokens 2 [0, -1] allowed)
        =
      some (tokens ++ [.blockEnd, .blockEnd]) := by
  obtain ⟨c', hskip, hrest, hcolumn⟩ := hplace.skipToToken (by intro y hy; cases hy) tokens 2 [0, -1]
  have hclose : closeBlocks c'.column (outside c' tokens 2 [0, -1] true)
      = outside c' (tokens ++ [.blockEnd]) 0 [-1] true := by
    rw [hcolumn]
    simp [closeBlocks, outside, inFlow, flowLevel]
  have hfinish : (outside c' (tokens ++ [.blockEnd]) 0 [-1] true).finish
      = some (outside c' (tokens ++ [.blockEnd, .blockEnd]) (-1) [] true) := by
    simp [finish, closeBlocks, dropKey, outside, inFlow, flowLevel]
  exact run_finish fuel hskip rfl hclose hrest hfinish

def nestedTokens (members : List Member) (key : String) (inner : List Member) : List Token :=
  .blockMappingStart :: (members.flatMap Member.tokens
    ++ .key :: .scalar .plain key :: .value :: .blockMappingStart
      :: (inner.flatMap Member.tokens ++ [.blockEnd, .blockEnd]))

def innerText (key : String) (inner : List Member) : List Char :=
  key.toList ++ ':' :: '\n' :: (List.replicate 2 ' ' ++ nextText 2 0 [] inner)

def nestedText (members : List Member) (key : String) (inner : List Member) : List Char :=
  nextText 0 0 (innerText key inner) members

theorem isAllowed_of_isPlainChar {x : Char} (h : isPlainChar x = true) : isAllowed x = true :=
  isAllowed_of_isPrintable (isPrintable_of_isPlainChar h)

theorem isAllowed_of_mem_nextText {x : Char} (hmembers : ∀ m ∈ members, m.Fits column)
    (hleft : ∀ x ∈ left, isAllowed x = true) (h : x ∈ nextText column column' left members)
    : isAllowed x = true := by
  induction members with
  | nil => exact hleft x h
  | cons m members ih =>
    obtain ⟨hfits, hmembers⟩ := List.forall_mem_cons.mp hmembers
    unfold nextText at h
    simp only [List.mem_append, List.mem_cons] at h
    rcases h with h | rfl | rfl | h | h | h
    . exact isAllowed_of_isPlainChar (hfits.isKey.chars x h)
    . rfl
    . rfl
    . exact hfits.allowed x h
    . rw [List.eq_of_mem_replicate h]
      rfl
    . exact ih hmembers h

theorem isAllowed_of_mem_innerText {x : Char} {inner : List Member} {key : String}
    (hkey : IsKey key) (hinner : ∀ m ∈ inner, m.Fits 2) (h : x ∈ innerText key inner)
    : isAllowed x = true := by
  unfold innerText at h
  simp only [List.mem_append, List.mem_cons] at h
  rcases h with h | rfl | rfl | h | h
  . exact isAllowed_of_isPlainChar (hkey.chars x h)
  . rfl
  . rfl
  . rw [List.eq_of_mem_replicate h]
    rfl
  . exact isAllowed_of_mem_nextText hinner (by simp) h

theorem length_nextText (hmembers : ∀ m ∈ members, m.Fits column)
    : 3 * members.length + left.length ≤ (nextText column column' left members).length := by
  induction members with
  | nil => simp [nextText]
  | cons m members ih =>
    obtain ⟨hfits, hmembers⟩ := List.forall_mem_cons.mp hmembers
    have hkey := List.length_pos_iff.mpr hfits.isKey.ne_nil
    have hrest := ih hmembers
    unfold nextText
    simp only [List.length_append, List.length_cons]
    omega

theorem exists_fuel (key : String) {inner : List Member} (hmembers : ∀ m ∈ members, m.Fits 0)
    (hinner : ∀ m ∈ inner, m.Fits 2)
    : ∃ fuel, (nestedText members key inner).length.succ
        =
      fuel + 1 + 3 * inner.length + 2 + 3 * members.length := by
  have houter : 3 * members.length + (innerText key inner).length
      ≤ (nestedText members key inner).length := length_nextText hmembers
  have hnext : 3 * inner.length + ([] : List Char).length ≤ (nextText 2 0 [] inner).length :=
    length_nextText hinner
  have hlength : (nextText 2 0 [] inner).length + 4 ≤ (innerText key inner).length := by
    unfold innerText
    simp only [List.length_append, List.length_cons, List.length_replicate]
    omega
  rw [List.length_nil] at hnext
  refine ⟨(nestedText members key inner).length - 2 - 3 * inner.length - 3 * members.length, ?_⟩
  omega

theorem tokens?_nested {i : Member} {inner : List Member} {key : String}
    (hmembers : ∀ m' ∈ m :: members, m'.Fits 0) (hkey : IsKey key)
    (hinner : ∀ m' ∈ i :: inner, m'.Fits 2)
    : tokens? (nestedText (m :: members) key (i :: inner))
        =
      some (nestedTokens (m :: members) key (i :: inner)) := by
  have hallowed : (nestedText (m :: members) key (i :: inner)).all isAllowed = true :=
    List.all_eq_true.mpr (fun x hx => isAllowed_of_mem_nextText hmembers
      (fun y hy => isAllowed_of_mem_innerText hkey hinner hy) hx)
  obtain ⟨fuel, hfuel⟩ := exists_fuel key hmembers hinner
  have hend : BeginsToken [] := by
    intro x hx
    cases hx
  let cursor : Cursor := { rest := nestedText (m :: members) key (i :: inner) }
  obtain ⟨c₁, allowed₁, hplace₁, hrun₁⟩ := run_mapping (fuel + 1 + 3 * (i :: inner).length + 2) [] []
    hmembers (Nat.le_refl 0) hkey.beginsToken (by decide : (-1 : Int) < (0 : Nat))
    (.here rfl rfl : BeforeKey 0 _ cursor true)
  obtain ⟨c₂, hplace₂, hrun₂⟩ := run_mapping_key (fuel + 1 + 3 * (i :: inner).length)
    (.blockMappingStart :: (m :: members).flatMap Member.tokens) [-1] hkey hplace₁
  obtain ⟨c₃, allowed₃, hplace₃, hrun₃⟩ := run_mapping (fuel + 1)
    (.blockMappingStart :: (m :: members).flatMap Member.tokens
      ++ [.key, .scalar .plain key, .value])
    [-1] hinner (Nat.zero_le 2) hend (by decide : ((0 : Nat) : Int) < (2 : Nat)) hplace₂
  have hrun₄ := run_end fuel
    (.blockMappingStart :: (m :: members).flatMap Member.tokens
      ++ [.key, .scalar .plain key, .value]
      ++ .blockMappingStart :: (i :: inner).flatMap Member.tokens)
    hplace₃
  unfold tokens?
  rw [if_pos hallowed, hfuel]
  refine hrun₁.trans (hrun₂.trans (hrun₃.trans (hrun₄.trans ?_)))
  unfold nestedTokens
  simp

end Lexer
end Yaml
end CallWire
