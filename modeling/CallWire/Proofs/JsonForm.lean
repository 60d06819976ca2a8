import CallWire.Json.Basic
import Mathlib.Data.List.Basic

/-!
This module contains what JSON values look like: how deep they are nested, which numbers are in
them, and whether the members of their objects are in order.
-/

namespace CallWire

namespace Json

mutual

def all (p : Json → Bool) : Json → Bool
  | .array items => p (.array items) && allItems p items
  | .object members => p (.object members) && allMembers p members
  | v => p v

def allItems (p : Json → Bool) : List Json → Bool
  | [] => true
  | v :: more => all p v && allItems p more

def allMembers (p : Json → Bool) : List (String × Json) → Bool
  | [] => true
  | (_, v) :: more => all p v && allMembers p more

end

mutual

def depth : Json → Nat
  | .array items => depthItems items + 1
  | .object members => depthMembers members + 1
  | _ => 0

def depthItems : List Json → Nat
  | [] => 0
  | v :: more => max (depth v) (depthItems more)

def depthMembers : List (String × Json) → Nat
  | [] => 0
  | (_, v) :: more => max (depth v) (depthMembers more)

end

def isIntegral : Json → Bool :=
  all fun
    | .number (.int i) => decide (Number.IntRange i)
    | .number (.double _) => false
    | _ => true

def isSorted : Json → Bool :=
  all fun
    | .object members => decide ((members.map Prod.fst).Pairwise (· < ·))
    | _ => true

variable {p : Json → Bool} {v : Json} {items : List Json} {members : List (String × Json)}

theorem allItems_iff : allItems p items = true ↔ ∀ v ∈ items, v.all p = true := by
  induction items with
  | nil => simp [allItems]
  | cons v items ih => simp [allItems, ih]

theorem allMembers_iff : allMembers p members = true ↔ ∀ m ∈ members, m.2.all p = true := by
  induction members with
  | nil => simp [allMembers]
  | cons m members ih => simp [allMembers, ih]

theorem all_array_iff
    : (array items).all p = true ↔ p (.array items) = true ∧ ∀ v ∈ items, v.all p = true := by
  rw [all, Bool.and_eq_true, allItems_iff]

theorem all_object_iff
    : (object members).all p = true
        ↔
      p (.object members) = true ∧ ∀ m ∈ members, m.2.all p = true := by
  rw [all, Bool.and_eq_true, allMembers_iff]

theorem depthItems_le_iff {d : Nat} : depthItems items ≤ d ↔ ∀ v ∈ items, v.depth ≤ d := by
  induction items with
  | nil => simp [depthItems]
  | cons v items ih =>
    rw [depthItems, Nat.max_le, ih]
    simp

theorem depthMembers_le_iff {d : Nat}
    : depthMembers members ≤ d ↔ ∀ m ∈ members, m.2.depth ≤ d := by
  induction members with
  | nil => simp [depthMembers]
  | cons m members ih =>
    rw [depthMembers, Nat.max_le, ih]
    simp

variable {key : String} {value : Json} {m : String × Json}

theorem mem_insertMember (h : m ∈ insertMember key value members)
    : m = (key, value) ∨ m ∈ members := by
  induction members with
  | nil => exact .inl (List.mem_singleton.mp h)
  | cons n members ih =>
    unfold insertMember at h
    split at h
    . exact List.mem_cons.mp h
    . split at h
      . rcases List.mem_cons.mp h with rfl | h
        . exact .inl rfl
        . exact .inr (List.mem_cons_of_mem _ h)
      . rcases List.mem_cons.mp h with rfl | h
        . exact .inr List.mem_cons_self
        . rcases ih h with rfl | h
          . exact .inl rfl
          . exact .inr (List.mem_cons_of_mem _ h)

theorem pairwise_insertMember (h : members.Pairwise (fun m n => m.1 < n.1))
    : (insertMember key value members).Pairwise (fun m n => m.1 < n.1) := by
  induction members with
  | nil => exact List.pairwise_singleton _ _
  | cons n members ih =>
    obtain ⟨hfront, hmore⟩ := List.pairwise_cons.mp h
    unfold insertMember
    split
    . next hlt =>
      refine List.pairwise_cons.mpr ⟨?_, h⟩
      intro m hm
      rcases List.mem_cons.mp hm with rfl | hm
      . exact hlt
      . exact String.lt_trans hlt (hfront m hm)
    . split
      . next heq =>
        subst heq
        exact List.pairwise_cons.mpr ⟨hfront, hmore⟩
      . next hnlt hne =>
        refine List.pairwise_cons.mpr ⟨?_, ih hmore⟩
        intro m hm
        rcases mem_insertMember hm with rfl | hm
        . apply Decidable.byContradiction
          intro hge
          exact hne (String.le_antisymm (String.not_lt.mp hge) (String.not_lt.mp hnlt))
        . exact hfront m hm

theorem insertMember_of_lt (h : ∀ m ∈ members, m.1 < key)
    : insertMember key value members = members ++ [(key, value)] := by
  induction members with
  | nil => rfl
  | cons n members ih =>
    have hlt := h n List.mem_cons_self
    unfold insertMember
    rw [if_neg (String.lt_asymm hlt)]
    rw [if_neg (by rintro rfl; exact String.lt_irrefl _ hlt)]
    rw [ih (fun m hm => h m (List.mem_cons_of_mem _ hm))]
    rfl

theorem foldl_insertMember_of_pairwise (sorted : List (String × Json))
    (h : (sorted ++ members).Pairwise (fun m n => m.1 < n.1))
    : members.foldl (fun sorted (k, v) => insertMember k v sorted) sorted = sorted ++ members := by
  induction members generalizing sorted with
  | nil => exact (List.append_nil sorted).symm
  | cons n members ih =>
    obtain ⟨k, v⟩ := n
    have hlast : ∀ m ∈ sorted, m.1 < k := by
      intro m hm
      exact (List.pairwise_append.mp h).2.2 m hm (k, v) List.mem_cons_self
    rw [List.foldl_cons]
    dsimp only
    rw [insertMember_of_lt hlast, ih (sorted ++ [(k, v)])]
    . rw [List.append_assoc, List.singleton_append]
    . rw [List.append_assoc, List.singleton_append]
      exact h

theorem member?_nil (key : String) : member? key [] = none := rfl

theorem member?_cons (key : String) (m : String × Json) (members : List (String × Json))
    : member? key (m :: members) = if key = m.1 then some m.2 else member? key members := by
  unfold member?
  obtain ⟨k, v⟩ := m
  rw [List.lookup_cons]
  by_cases h : key = k
  . rw [if_pos h, beq_iff_eq.mpr h]
  . rw [if_neg h, beq_eq_false_iff_ne.mpr h]

theorem member?_insertMember (key : String) (value : Json) (members : List (String × Json))
    (other : String)
    : member? other (insertMember key value members)
        =
      if other = key then some value else member? other members := by
  induction members with
  | nil => exact member?_cons other (key, value) []
  | cons n members ih =>
    unfold insertMember
    split
    . exact member?_cons other (key, value) (n :: members)
    . split
      . next heq =>
        subst heq
        rw [member?_cons, member?_cons]
        by_cases h : other = n.1
        . rw [if_pos h, if_pos h]
        . rw [if_neg h, if_neg h, if_neg h]
      . next hne =>
        rw [member?_cons, member?_cons, ih]
        by_cases h : other = n.1
        . rw [if_pos h, if_neg (h ▸ Ne.symm hne), if_pos h]
        . rw [if_neg h, if_neg h]

end Json
end CallWire
