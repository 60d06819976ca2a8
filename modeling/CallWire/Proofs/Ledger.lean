import CallWire.Call.Table
import Mathlib.Data.List.Perm.Basic
import Mathlib.Data.List.Nodup

/-!
This module contains lemmas on the outcomes in a ledger, and the accounts of a ledger: which records
still wait for their outcomes, and how all others were disposed of.
-/

namespace CallWire

theorem CallRecord.outcome_fulfill (r : CallRecord) (v : Json)
    : r.outcome (.fulfill v)
        =
      match r.decoder.decode v with
      | .ok value => .ok value
      | .error fault => .error (.decode r.method fault) := by
  unfold outcome
  dsimp only
  cases r.decoder.decode v with
  | ok value => rfl
  | error fault => rfl

namespace Ledger

@[simp]
theorem length_issue (l : Ledger) (id : Option String)
    : (l.issue id).2.handles.length = l.handles.length + 1 := by
  simp [issue]

@[simp]
theorem length_settle (l : Ledger) (call : Nat) (o : Outcome)
    : (l.settle call o).handles.length = l.handles.length := by
  simp [settle]

@[simp]
theorem length_forget (l : Ledger) (call : Nat)
    : (l.forget call).handles.length = l.handles.length := by
  simp [forget]

theorem settle_issue (l : Ledger) (id : Option String) (o : Outcome)
    : (l.issue id).2.settle l.handles.length o
        =
      ⟨l.handles ++ [{ id := id, outcome := some o }]⟩ := by
  unfold issue settle
  exact congrArg Ledger.mk (List.modifyTailIdx_add _ 0 _ _)

@[simp]
theorem outcome?_issue (l : Ledger) (id : Option String) (call : Nat)
    : (l.issue id).2.outcome? call = l.outcome? call := by
  unfold outcome? handle? issue
  dsimp
  rw [List.getElem?_append]
  split
  . rfl
  . next h =>
    rw [List.getElem?_eq_none (Nat.le_of_not_lt h)]
    cases hidx : call - l.handles.length with
    | zero => rfl
    | succ _ => rfl

@[simp]
theorem outcome?_forget (l : Ledger) (call other : Nat)
    : (l.forget call).outcome? other = l.outcome? other := by
  unfold outcome? handle? forget
  dsimp
  rw [List.getElem?_modify]
  split
  . cases l.handles[other]? <;> rfl
  . cases l.handles[other]? <;> rfl

theorem outcome?_settle_self (l : Ledger) (call : Nat) (o : Outcome)
    (h : call < l.handles.length)
    : (l.settle call o).outcome? call = some o := by
  unfold outcome? handle? settle
  dsimp
  rw [List.getElem?_modify_eq]
  rw [List.getElem?_eq_getElem h]
  rfl

theorem outcome?_settle_of_ne (l : Ledger) (call other : Nat) (o : Outcome) (h : call ≠ other)
    : (l.settle call o).outcome? other = l.outcome? other := by
  unfold outcome? handle? settle
  dsimp
  rw [List.getElem?_modify_ne _ _ h]

theorem lt_length_of_outcome? {l : Ledger} {call : Nat} {o : Outcome}
    (h : l.outcome? call = some o)
    : call < l.handles.length := by
  apply Decidable.byContradiction
  intro hge
  unfold outcome? handle? at h
  rw [List.getElem?_eq_none (by omega)] at h
  simp at h

theorem settle_comm (l : Ledger) {i j : Nat} (h : i ≠ j) (o p : Outcome)
    : (l.settle i o).settle j p = (l.settle j p).settle i o := by
  unfold settle
  dsimp
  rw [List.modify_modify_ne _ _ _ h]

def Keeps (l l' : Ledger) : Prop := ∀ call o, l.outcome? call = some o → l'.outcome? call = some o

theorem Keeps.refl (l : Ledger) : l.Keeps l := fun _ _ h => h

theorem Keeps.trans {l l' l'' : Ledger} (h : l.Keeps l') (h' : l'.Keeps l'') : l.Keeps l'' := by
  intro call o ho
  exact h' call o (h call o ho)

theorem keeps_issue (l : Ledger) (id : Option String) : l.Keeps (l.issue id).2 := by
  intro call o ho
  rw [outcome?_issue]
  exact ho

theorem keeps_settle {l : Ledger} {call : Nat} (h : l.outcome? call = none) (o : Outcome)
    : l.Keeps (l.settle call o) := by
  intro other p hp
  rw [outcome?_settle_of_ne]
  . exact hp
  . rintro rfl
    rw [h] at hp
    simp at hp

def disposeAll (x : CallRecord → Disposal) (rs : List CallRecord) (l : Ledger) : Ledger :=
  rs.foldl (fun l r => r.dispose (x r) l) l

/--
Every record of `waiting` is owed an outcome, and every one of `used` has come to the outcome of its
disposal. No two of them are of one call.
-/
structure Accounts (l : Ledger) (waiting : List CallRecord)
    (used : List (CallRecord × Disposal)) : Prop where
  distinct : ((waiting ++ used.map Prod.fst).map (·.call)).Nodup
  issued : ∀ r ∈ waiting, r.call < l.handles.length
  pending : ∀ r ∈ waiting, l.outcome? r.call = none
  settled : ∀ u ∈ used, l.outcome? u.1.call = some (u.1.outcome u.2)

namespace Accounts

variable {l : Ledger} {w w' : List CallRecord} {u : List (CallRecord × Disposal)} {r : CallRecord}

theorem empty (l : Ledger) : l.Accounts [] [] := by
  constructor <;> simp

theorem perm (h : l.Accounts w u) (hw : w.Perm w') : l.Accounts w' u := by
  constructor
  . refine (List.Perm.nodup_iff ?_).mp h.distinct
    exact (hw.append_right _).map _
  . intro r hr
    exact h.issued r (hw.mem_iff.mpr hr)
  . intro r hr
    exact h.pending r (hw.mem_iff.mpr hr)
  . exact h.settled

theorem perm_used {u' : List (CallRecord × Disposal)} (h : l.Accounts w u) (hu : u.Perm u')
    : l.Accounts w u' := by
  constructor
  . refine (List.Perm.nodup_iff ?_).mp h.distinct
    exact ((hu.map _).append_left _).map _
  . exact h.issued
  . exact h.pending
  . intro d hd
    exact h.settled d (hu.mem_iff.mpr hd)

theorem waiting_distinct (h : l.Accounts w u) : (w.map (·.call)).Nodup := by
  have := h.distinct
  rw [List.map_append] at this
  exact this.of_append_left

theorem used_distinct (h : l.Accounts w u) : (u.map (·.1.call)).Nodup := by
  have := h.distinct
  rw [List.map_append, List.map_map] at this
  exact this.of_append_right

theorem eq_of_call_eq (h : l.Accounts w u) {s : CallRecord} (hr : r ∈ w) (hs : s ∈ w)
    (hcall : r.call = s.call)
    : r = s := by
  exact List.inj_on_of_nodup_map h.waiting_distinct hr hs hcall

theorem used_issued (h : l.Accounts w u) : ∀ d ∈ u, d.1.call < l.handles.length := by
  intro d hd
  exact lt_length_of_outcome? (h.settled d hd)

theorem forgetUsed (h : l.Accounts w u) : l.Accounts w [] := by
  constructor
  . simpa using h.waiting_distinct
  . exact h.issued
  . exact h.pending
  . simp

theorem issue (h : l.Accounts w u) (id : Option String) (hr : r.call = l.handles.length)
    : (l.issue id).2.Accounts (r :: w) u := by
  have hnew : ∀ s ∈ w ++ u.map Prod.fst, s.call < l.handles.length := by
    intro s hs
    rcases List.mem_append.mp hs with hs | hs
    . exact h.issued s hs
    . obtain ⟨d, hd, rfl⟩ := List.mem_map.mp hs
      exact h.used_issued d hd
  constructor
  . rw [List.cons_append, List.map_cons, List.nodup_cons]
    refine ⟨?_, h.distinct⟩
    intro hmem
    obtain ⟨s, hs, heq⟩ := List.mem_map.mp hmem
    have := hnew s hs
    omega
  . intro s hs
    rw [length_issue]
    rcases List.mem_cons.mp hs with rfl | hs
    . omega
    . have := h.issued s hs
      omega
  . intro s hs
    rw [outcome?_issue]
    rcases List.mem_cons.mp hs with rfl | hs
    . unfold outcome? handle?
      rw [List.getElem?_eq_none (by omega)]
      rfl
    . exact h.pending s hs
  . intro d hd
    rw [outcome?_issue]
    exact h.settled d hd

theorem dispose (h : l.Accounts (r :: w) u) (x : Disposal)
    : (r.dispose x l).Accounts w ((r, x) :: u) := by
  unfold CallRecord.dispose
  have hdistinct := h.distinct
  rw [List.cons_append, List.map_cons, List.nodup_cons] at hdistinct
  have hne : ∀ s ∈ w ++ u.map Prod.fst, r.call ≠ s.call := by
    intro s hs heq
    exact hdistinct.1 (List.mem_map.mpr ⟨s, hs, heq.symm⟩)
  constructor
  . rw [List.map_cons]
    refine (List.Perm.nodup_iff ?_).mp h.distinct
    exact (List.perm_middle.symm).map _
  . intro s hs
    rw [length_settle]
    exact h.issued s (List.mem_cons_of_mem _ hs)
  . intro s hs
    rw [outcome?_settle_of_ne _ _ _ _ (hne s (List.mem_append_left _ hs))]
    exact h.pending s (List.mem_cons_of_mem _ hs)
  . intro d hd
    rcases List.mem_cons.mp hd with rfl | hd
    . exact outcome?_settle_self _ _ _ (h.issued _ List.mem_cons_self)
    . have hmem : d.1 ∈ u.map Prod.fst := List.mem_map.mpr ⟨d, hd, rfl⟩
      rw [outcome?_settle_of_ne _ _ _ _ (hne d.1 (List.mem_append_right _ hmem))]
      exact h.settled d hd

theorem keeps_dispose (h : l.Accounts (r :: w) u) (x : Disposal) : l.Keeps (r.dispose x l) := by
  exact keeps_settle (h.pending r List.mem_cons_self) _

theorem disposeAll (x : CallRecord → Disposal) (rs : List CallRecord)
    (h : l.Accounts (rs ++ w) u)
    : (l.disposeAll x rs).Accounts w ((rs.map (fun r => (r, x r))).reverse ++ u)
        ∧ l.Keeps (l.disposeAll x rs) := by
  induction rs generalizing l u with
  | nil => exact ⟨h, .refl l⟩
  | cons r rs ih =>
    rw [List.cons_append] at h
    obtain ⟨hacc, hkeeps⟩ := ih (h.dispose (x r))
    constructor
    . rw [List.map_cons, List.reverse_cons, List.append_assoc]
      exact hacc
    . exact (h.keeps_dispose (x r)).trans hkeeps

theorem forget (h : l.Accounts w u) (call : Nat) : (l.forget call).Accounts w u := by
  constructor
  . exact h.distinct
  . simpa using h.issued
  . simpa using h.pending
  . simpa using h.settled

end Accounts
end Ledger
end CallWire
