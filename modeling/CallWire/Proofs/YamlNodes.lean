import CallWire.Proofs.YamlMapping
import CallWire.Yaml.Node

/-!
This module contains the nodes that the tokens of block mappings make: a mapping of scalars, and a
mapping of scalars with another one as its last member.
-/

namespace CallWire

namespace Yaml

open Lexer (Member nestedTokens)

def Lexer.Member.nodes (m : Member) : Node × Node :=
  (.scalar none .plain m.key, .scalar none m.style m.text)

namespace Composer

variable {fuel depth : Nat} {members : List Member} {rest : List Token} {style : Style}

theorem readBlockMembers_member (c : Composer) (depth fuel : Nat) (read : List (Node × Node))
    (m : Member) (rest : List Token)
    : readBlockMembers (readNode (depth + 1)) (fuel + 1) read { c with tokens := m.tokens ++ rest }
        =
      readBlockMembers (readNode (depth + 1)) fuel (m.nodes :: read) { c with tokens := rest } := rfl

theorem readBlockMembers_members (c : Composer) (depth fuel : Nat) (read : List (Node × Node))
    (members : List Member) (rest : List Token)
    : readBlockMembers (readNode (depth + 1)) (fuel + members.length) read
          { c with tokens := members.flatMap Member.tokens ++ rest }
        =
      readBlockMembers (readNode (depth + 1)) fuel ((members.map Member.nodes).reverse ++ read)
        { c with tokens := rest } := by
  induction members generalizing read with
  | nil => rfl
  | cons m members ih =>
    rw [List.flatMap_cons, List.append_assoc, List.length_cons, ← Nat.add_assoc]
    rw [readBlockMembers_member, ih, List.map_cons, List.reverse_cons, List.append_assoc]
    rfl

theorem readBlockMembers_end (c : Composer) (read : NodeReader) (fuel : Nat)
    (nodes : List (Node × Node)) (rest : List Token)
    : readBlockMembers read (fuel + 1) nodes { c with tokens := .blockEnd :: rest }
        =
      some (.mapping nodes.reverse, { c with tokens := rest }) := rfl

theorem length_le_flatMap_tokens (members : List Member)
    : members.length ≤ (members.flatMap Member.tokens).length := by
  induction members with
  | nil => exact Nat.le_refl _
  | cons m members ih =>
    rw [List.flatMap_cons, List.length_append, List.length_cons]
    have : m.tokens.length = 4 := rfl
    omega

theorem readNode_blockMapping (c : Composer) (depth : Nat) (indentless : Bool) (rest : List Token)
    : readNode (depth + 1) true indentless { c with tokens := .blockMappingStart :: rest }
        =
      readBlockMembers (readNode depth) (rest.length + 2) [] { c with tokens := rest } := by
  change (readBlockMembers (readNode depth) (rest.length + 2) [] { c with tokens := rest }).bind some
    = _
  exact Option.bind_fun_some _

theorem readNode_mapping (c : Composer) (depth : Nat) (indentless : Bool) (members : List Member)
    (rest : List Token)
    : readNode (depth + 2) true indentless
          { c with tokens := .blockMappingStart
              :: (members.flatMap Member.tokens ++ .blockEnd :: rest) }
        =
      some (.mapping (members.map Member.nodes), { c with tokens := rest }) := by
  obtain ⟨fuel, hfuel⟩ : ∃ fuel, (members.flatMap Member.tokens ++ .blockEnd :: rest).length + 2
      = fuel + 1 + members.length := by
    have := length_le_flatMap_tokens members
    rw [List.length_append]
    exact ⟨(members.flatMap Member.tokens).length + (Token.blockEnd :: rest).length + 1
      - members.length, by omega⟩
  rw [readNode_blockMapping, hfuel, readBlockMembers_members, readBlockMembers_end]
  rw [List.append_nil, List.reverse_reverse]

def nestedNode (members : List Member) (key : String) (inner : List Member) : Node :=
  .mapping (members.map Member.nodes
    ++ [(.scalar none .plain key, .mapping (inner.map Member.nodes))])

theorem readBlockMembers_nested (c : Composer) (depth fuel : Nat) (read : List (Node × Node))
    (key : String) (rest : List Token)
    : readBlockMembers (readNode (depth + 1)) (fuel + 1) read
          { c with tokens := .key :: .scalar .plain key :: .value :: .blockMappingStart :: rest }
        =
      (readNode (depth + 1) true true { c with tokens := .blockMappingStart :: rest }).bind
        (fun step => readBlockMembers (readNode (depth + 1)) fuel
          ((.scalar none .plain key, step.1) :: read) step.2) := rfl

theorem readNode_nested (c : Composer) (depth : Nat) (indentless : Bool)
    (members : List Member) (key : String) (inner : List Member)
    : readNode (depth + 3) true indentless { c with tokens := nestedTokens members key inner }
        =
      some (nestedNode members key inner, { c with tokens := [] }) := by
  unfold nestedTokens
  rw [readNode_blockMapping]
  generalize hrest : Token.key :: Token.scalar .plain key :: Token.value :: Token.blockMappingStart
    :: (inner.flatMap Member.tokens ++ [Token.blockEnd, Token.blockEnd]) = rest
  obtain ⟨fuel, hfuel⟩ : ∃ fuel, (members.flatMap Member.tokens ++ rest).length + 2
      = fuel + 2 + members.length := by
    have := length_le_flatMap_tokens members
    rw [List.length_append]
    exact ⟨(members.flatMap Member.tokens).length + rest.length - members.length, by omega⟩
  rw [hfuel, readBlockMembers_members, List.append_nil, ← hrest]
  rw [readBlockMembers_nested, readNode_mapping, Option.bind_some]
  dsimp only
  rw [readBlockMembers_end, List.reverse_cons, List.reverse_reverse]
  rfl

theorem readDocument_nested (members : List Member) (key : String) (inner : List Member)
    : readDocument { tokens := nestedTokens members key inner }
        =
      some { root := some (nestedNode members key inner), anchored := [] } := by
  obtain ⟨depth, hdepth⟩ : ∃ depth, (nestedTokens members key inner).length.succ = depth + 3 := by
    unfold nestedTokens
    rw [List.length_cons, List.length_append]
    exact ⟨_, rfl⟩
  have hread := readNode_nested { tokens := nestedTokens members key inner, handles := defaultHandles }
    depth false members key inner
  change Option.bind (readNode (nestedTokens members key inner).length.succ true false
      { tokens := nestedTokens members key inner, handles := defaultHandles })
    (fun step => if step.2.tokens.all (· == .documentEnd)
      then some ({ root := some step.1, anchored := step.2.anchored } : Document) else none) = _
  rw [hdepth, hread]
  rfl

end Composer

theorem document?_nested {m i : Member} {members inner : List Member} {key : String} {text : String}
    (hmembers : ∀ m' ∈ m :: members, m'.Fits 0) (hkey : Lexer.IsKey key)
    (hinner : ∀ m' ∈ i :: inner, m'.Fits 2)
    (htext : text.toList = Lexer.nestedText (m :: members) key (i :: inner))
    : document? text
        =
      some { root := some (Composer.nestedNode (m :: members) key (i :: inner)), anchored := [] } := by
  unfold document?
  rw [htext, Lexer.tokens?_nested hmembers hkey hinner, Option.bind_some]
  exact Composer.readDocument_nested _ _ _

end Yaml
end CallWire
