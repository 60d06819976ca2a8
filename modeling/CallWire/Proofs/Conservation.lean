import CallWire.Call.Desk
import CallWire.Proofs.Ledger
import CallWire.Proofs.Table

/-!
This module contains the conservation of records at a desk. Whatever is done there in whatever
order, each record that was ever made is in the table, at hand or used up, and it is in one of these
places only. Its handle is pending until it is used up, and has from then on the outcome of that
use.
-/

namespace CallWire

/-- What is done at a desk. `refused` is what becomes of a record that the table does not take. -/
inductive DeskAct where
  | register (id method : String) (decoder : ResultDecoder) (refused : Option Handling)
  | record (id method : String) (decoder : ResultDecoder) (handling : Handling)
  | resolve (id : String) (handling : Handling)
  | drain (handling : Handling)
  | close (handling : Handling)
  | expire (timeout : Duration) (handling : Handling)
  | handleHeld (index : Nat) (handling : Handling)
  | reregister (index : Nat) (refused : Option Handling)
  | forget (call : Nat)
  | elapse (span : Duration)

def CallDesk.step (d : CallDesk) : DeskAct → CallDesk
  | .register id method decoder refused => (d.register id method decoder refused).2
  | .record id method decoder handling => (d.record id method decoder handling).2
  | .resolve id handling => (d.resolve id handling).2
  | .drain handling => (d.drain handling).2
  | .close handling => (d.close handling).2
  | .expire timeout handling => (d.expire timeout handling).2
  | .handleHeld index handling => (d.handleHeld index handling).2
  | .reregister index refused => (d.reregister index refused).2
  | .forget call => (d.forget call).2
  | .elapse span => { d with now := ⟨d.now.nanos + span.nanos⟩ }

def CallDesk.held (d : CallDesk) : List CallRecord := d.hand.filterMap id

def Handling.uses : Handling → CallRecord → List (CallRecord × Disposal)
  | .dispose x, r => [(r, x)]
  | .hold, _ => []

def CallDesk.entryUses (d : CallDesk) (refused : Option Handling) (r : CallRecord)
    : List (CallRecord × Disposal) :=
  match d.table.register r with
  | .ok _ => []
  | .error why => (refused.getD (.dispose (.fail (why.error r)))).uses r

namespace DeskAct

def made (d : CallDesk) : DeskAct → List CallRecord
  | .register id method decoder _ => [(d.newCall id method decoder).1]
  | .record id method decoder _ => [(d.newCall id method decoder).1]
  | _ => []

def used (d : CallDesk) : DeskAct → List (CallRecord × Disposal)
  | .register id method decoder refused =>
    d.entryUses refused (d.newCall id method decoder).1
  | .record id method decoder handling => handling.uses (d.newCall id method decoder).1
  | .resolve id handling => (d.resolve id handling).1.toList.flatMap handling.uses
  | .drain handling => (d.drain handling).1.flatMap handling.uses
  | .close handling => (d.close handling).1.flatMap handling.uses
  | .expire timeout handling => (d.expire timeout handling).1.flatMap handling.uses
  | .handleHeld index handling => (d.handleHeld index handling).1.toList.flatMap handling.uses
  | .reregister index refused => (d.held? index).toList.flatMap (d.entryUses refused)
  | .forget _ => []
  | .elapse _ => []

end DeskAct

/-- A desk, with the records that were made there and those that were used up there, and how. -/
structure DeskRun where
  desk : CallDesk := {}
  made : List CallRecord := []
  used : List (CallRecord × Disposal) := []

namespace DeskRun

def step (s : DeskRun) (a : DeskAct) : DeskRun :=
  { desk := s.desk.step a, made := a.made s.desk ++ s.made, used := a.used s.desk ++ s.used }

def after (acts : List DeskAct) : DeskRun := acts.foldl step {}

end DeskRun

namespace CallDesk

@[simp]
theorem table_handle (d : CallDesk) (handling : Handling) (r : CallRecord)
    : (d.handle handling r).table = d.table := by
  cases handling <;> rfl

@[simp]
theorem table_handleAll (d : CallDesk) (handling : Handling) (rs : List CallRecord)
    : (d.handleAll handling rs).table = d.table := by
  induction rs generalizing d with
  | nil => rfl
  | cons r rs ih => exact (ih (d.handle handling r)).trans (table_handle d handling r)

theorem takeOut_eq (d : CallDesk) (taken : List CallRecord × PendingTable) (handling : Handling)
    : (d.takeOut taken handling).1 = taken.1 ∧ (d.takeOut taken handling).2.table = taken.2 := by
  exact ⟨rfl, table_handleAll _ handling taken.1⟩

theorem expire_eq (d : CallDesk) (timeout : Duration) (handling : Handling)
    : let late := PendingTable.isExpired d.now timeout
      (d.expire timeout handling).1 = d.table.records.filter late
        ∧ (d.expire timeout handling).2.table
          = { d.table with records := d.table.records.filter (!late ·) } := by
  unfold expire
  rw [PendingTable.takeExpired_eq]
  exact takeOut_eq d _ handling

theorem resolve_eq (d : CallDesk) (id : String) (handling : Handling)
    : (d.resolve id handling).1 = d.table.get? id
        ∧ (d.resolve id handling).2.table
          = { d.table with records := d.table.records.filter (·.id ≠ id) } := by
  unfold resolve
  cases hres : d.table.resolve id with
  | none =>
    have hnone := PendingTable.resolve_eq_none_iff.mp hres
    rw [PendingTable.filter_id_ne hnone]
    exact ⟨(PendingTable.get?_eq_none_iff.mpr hnone).symm, rfl⟩
  | some taken =>
    obtain ⟨hget, htable⟩ := PendingTable.resolve_eq_some_iff.mp hres
    exact ⟨hget.symm, (table_handle _ handling _).trans htable⟩

end CallDesk

/-- The records that were made at a desk are the loose ones and those in the three places. -/
structure CallDesk.Conserves (d : CallDesk) (loose made : List CallRecord)
    (used : List (CallRecord × Disposal)) : Prop where
  table : d.table.WellFormed
  accounts : d.ledger.Accounts (loose ++ (d.table.records ++ d.held)) used
  placed : made.Perm (loose ++ (d.table.records ++ d.held) ++ used.map Prod.fst)
  numbered : (made.map (·.call)).Perm (List.range d.ledger.handles.length)

namespace CallDesk.Conserves

variable {d : CallDesk} {loose made : List CallRecord} {used : List (CallRecord × Disposal)}
variable {r : CallRecord}

theorem empty : Conserves {} [] [] [] := by
  constructor
  . exact PendingTable.WellFormed.empty
  . exact Ledger.Accounts.empty _
  . rfl
  . rfl

theorem newCall (h : d.Conserves loose made used) (id method : String) (decoder : ResultDecoder)
    : (d.newCall id method decoder).2.Conserves ((d.newCall id method decoder).1 :: loose)
        ((d.newCall id method decoder).1 :: made) used := by
  constructor
  . exact h.table
  . exact h.accounts.issue _ rfl
  . exact h.placed.cons _
  . have hlen : (d.newCall id method decoder).2.ledger.handles.length
        = d.ledger.handles.length + 1 :=
      Ledger.length_issue _ _
    rw [hlen, List.range_succ, List.map_cons]
    exact (h.numbered.cons _).trans (List.perm_append_singleton _ _).symm

theorem handle (h : d.Conserves (r :: loose) made used) (handling : Handling)
    : (d.handle handling r).Conserves loose made (handling.uses r ++ used) := by
  cases handling with
  | dispose x =>
    constructor
    . exact h.table
    . exact h.accounts.dispose x
    . refine h.placed.trans ?_
      exact List.perm_middle.symm
    . have hlen : (d.handle (.dispose x) r).ledger.handles.length = d.ledger.handles.length :=
        Ledger.length_settle _ _ _
      rw [hlen]
      exact h.numbered
  | hold =>
    have hheld : (d.handle .hold r).held = d.held ++ [r] := by
      simp [CallDesk.handle, CallDesk.held]
    have hplace : (r :: loose ++ (d.table.records ++ d.held)).Perm
        (loose ++ (d.table.records ++ (d.held ++ [r]))) := by
      rw [← List.append_assoc d.table.records, ← List.append_assoc loose]
      exact (List.perm_append_singleton r _).symm
    constructor
    . exact h.table
    . rw [hheld]
      exact h.accounts.perm hplace
    . rw [hheld]
      exact h.placed.trans (hplace.append_right _)
    . exact h.numbered

theorem perm_used {used' : List (CallRecord × Disposal)} (h : d.Conserves loose made used)
    (hu : used.Perm used')
    : d.Conserves loose made used' := by
  constructor
  . exact h.table
  . exact h.accounts.perm_used hu
  . exact h.placed.trans ((hu.map _).append_left _)
  . exact h.numbered

theorem handleAll (handling : Handling) (rs : List CallRecord)
    (h : d.Conserves (rs ++ loose) made used)
    : (d.handleAll handling rs).Conserves loose made (rs.flatMap handling.uses ++ used) := by
  induction rs generalizing d used with
  | nil => exact h
  | cons r rs ih =>
    refine (ih (h.handle handling)).perm_used ?_
    rw [List.flatMap_cons, ← List.append_assoc]
    exact (List.perm_append_comm).append_right _

theorem setTable {t : PendingTable} {loose' : List CallRecord} (h : d.Conserves loose made used)
    (ht : t.WellFormed) (hplace : (loose ++ d.table.records).Perm (loose' ++ t.records))
    : { d with table := t }.Conserves loose' made used := by
  have hperm : (loose ++ (d.table.records ++ d.held)).Perm
      (loose' ++ (t.records ++ d.held)) := by
    rw [← List.append_assoc, ← List.append_assoc]
    exact hplace.append_right _
  constructor
  . exact ht
  . exact h.accounts.perm hperm
  . exact h.placed.trans (hperm.append_right _)
  . exact h.numbered

theorem enter (h : d.Conserves (r :: loose) made used) (refused : Option Handling)
    : (d.enter r refused).2.Conserves loose made (d.entryUses refused r ++ used) := by
  unfold CallDesk.enter CallDesk.entryUses
  cases hreg : d.table.register r with
  | ok t =>
    apply h.setTable (h.table.register hreg)
    refine List.perm_middle.symm.trans ?_
    exact (PendingTable.register_perm hreg).symm.append_left loose
  | error why => exact h.handle _

theorem takeOut {taken : List CallRecord × PendingTable} (h : d.Conserves loose made used)
    (ht : taken.2.WellFormed) (hplace : (taken.1 ++ taken.2.records).Perm d.table.records)
    (handling : Handling)
    : (d.takeOut taken handling).2.Conserves loose made
        ((d.takeOut taken handling).1.flatMap handling.uses ++ used) := by
  unfold CallDesk.takeOut
  apply handleAll
  apply h.setTable ht
  refine (hplace.symm.append_left loose).trans ?_
  rw [← List.append_assoc]
  exact List.perm_append_comm.append_right _

theorem resolve (h : d.Conserves loose made used) (id : String) (handling : Handling)
    : (d.resolve id handling).2.Conserves loose made
        ((d.resolve id handling).1.toList.flatMap handling.uses ++ used) := by
  unfold CallDesk.resolve
  cases hres : d.table.resolve id with
  | none => exact h
  | some taken =>
    obtain ⟨r, t⟩ := taken
    rw [Option.toList_some, List.flatMap_singleton]
    apply handle
    apply h.setTable (h.table.resolve hres)
    refine ((PendingTable.resolve_perm h.table hres).append_left loose).trans ?_
    exact List.perm_middle

theorem held_perm_of_held? {index : Nat} (hr : d.held? index = some r)
    : d.held.Perm (r :: { d with hand := d.hand.set index none }.held) := by
  unfold CallDesk.held? at hr
  unfold CallDesk.held
  dsimp
  generalize d.hand = hand at hr
  induction hand generalizing index with
  | nil => simp at hr
  | cons place hand ih =>
    cases index with
    | zero =>
      simp only [List.getElem?_cons_zero, Option.join_some] at hr
      simp [hr]
    | succ index =>
      rw [List.getElem?_cons_succ] at hr
      have := ih hr
      cases place with
      | none => simpa using this
      | some s =>
        simp only [List.set_cons_succ, id_eq]
        exact (this.cons s).trans (List.Perm.swap r s _)

theorem pickUp {index : Nat} {d' : CallDesk} (h : d.Conserves loose made used)
    (hpick : d.pickUp index = some (r, d'))
    : d'.Conserves (r :: loose) made used := by
  unfold CallDesk.pickUp at hpick
  rw [Option.map_eq_some_iff] at hpick
  obtain ⟨s, hs, heq⟩ := hpick
  obtain ⟨rfl, rfl⟩ := Prod.mk.inj heq
  have hplace : (loose ++ (d.table.records ++ d.held)).Perm
      (s :: loose ++ (d.table.records ++ { d with hand := d.hand.set index none }.held)) := by
    rw [← List.append_assoc loose, List.cons_append, ← List.append_assoc loose]
    exact ((held_perm_of_held? hs).append_left _).trans List.perm_middle
  constructor
  . exact h.table
  . exact h.accounts.perm hplace
  . exact h.placed.trans (hplace.append_right _)
  . exact h.numbered

theorem handleHeld (h : d.Conserves loose made used) (index : Nat) (handling : Handling)
    : (d.handleHeld index handling).2.Conserves loose made
        ((d.handleHeld index handling).1.toList.flatMap handling.uses ++ used) := by
  unfold CallDesk.handleHeld
  cases hpick : d.pickUp index with
  | none => exact h
  | some picked =>
    obtain ⟨r, d'⟩ := picked
    rw [Option.toList_some, List.flatMap_singleton]
    exact (h.pickUp hpick).handle handling

theorem reregister (h : d.Conserves loose made used) (index : Nat) (refused : Option Handling)
    : (d.reregister index refused).2.Conserves loose made
        ((d.held? index).toList.flatMap (d.entryUses refused) ++ used) := by
  unfold CallDesk.reregister CallDesk.pickUp
  cases hheld : d.held? index with
  | none => exact h
  | some r =>
    have hpick : d.pickUp index = some (r, { d with hand := d.hand.set index none }) := by
      unfold CallDesk.pickUp
      rw [hheld]
      rfl
    rw [Option.toList_some, List.flatMap_singleton]
    exact (h.pickUp hpick).enter refused

theorem step (h : d.Conserves [] made used) (a : DeskAct)
    : (d.step a).Conserves [] (a.made d ++ made) (a.used d ++ used) := by
  cases a with
  | register id method decoder refused => exact (h.newCall id method decoder).enter refused
  | record id method decoder handling => exact (h.newCall id method decoder).handle handling
  | resolve id handling => exact h.resolve id handling
  | drain handling =>
    exact h.takeOut h.table.drain (by simp [PendingTable.drain]) handling
  | close handling =>
    exact h.takeOut (.close _) (by simp [PendingTable.close]) handling
  | expire timeout handling =>
    exact h.takeOut (h.table.takeExpired _ _) (PendingTable.takeExpired_perm _ _ _) handling
  | handleHeld index handling => exact h.handleHeld index handling
  | reregister index refused => exact h.reregister index refused
  | forget call =>
    constructor
    . exact h.table
    . exact h.accounts.forget call
    . exact h.placed
    . have hlen : (d.step (.forget call)).ledger.handles.length = d.ledger.handles.length :=
        Ledger.length_forget _ _
      rw [hlen]
      exact h.numbered
  | elapse span => exact ⟨h.table, h.accounts, h.placed, h.numbered⟩

theorem outcome?_eq_none_iff (h : d.Conserves [] made used) (hr : r ∈ made)
    : d.ledger.outcome? r.call = none ↔ r ∈ d.table.records ∨ r ∈ d.held := by
  rw [← List.mem_append]
  constructor
  . intro hnone
    rcases List.mem_append.mp (h.placed.mem_iff.mp hr) with hmem | hmem
    . exact hmem
    . obtain ⟨u, hu, rfl⟩ := List.mem_map.mp hmem
      rw [h.accounts.settled u hu] at hnone
      simp at hnone
  . intro hmem
    exact h.accounts.pending r hmem

theorem outcome?_eq_none_of_used {a : DeskAct} (h : d.Conserves [] made used)
    {u : CallRecord × Disposal} (hu : u ∈ a.used d)
    : d.ledger.outcome? u.1.call = none := by
  cases hout : d.ledger.outcome? u.1.call with
  | none => rfl
  | some o =>
    exfalso
    have hlt := Ledger.lt_length_of_outcome? hout
    rw [← List.mem_range, ← h.numbered.mem_iff] at hlt
    obtain ⟨r, hr, hcall⟩ := List.mem_map.mp hlt
    have hplace := h.placed.mem_iff.mp hr
    rcases List.mem_append.mp hplace with hwait | husedBefore
    . have hnone := h.accounts.pending r hwait
      rw [hcall, hout] at hnone
      simp at hnone
    . have hdistinct := (h.step a).accounts.used_distinct
      rw [List.map_append, List.nodup_append] at hdistinct
      obtain ⟨v, hv, rfl⟩ := List.mem_map.mp husedBefore
      exact hdistinct.2.2 u.1.call (List.mem_map.mpr ⟨u, hu, rfl⟩) v.1.call
        (List.mem_map.mpr ⟨v, hv, rfl⟩) hcall.symm

end CallDesk.Conserves

namespace DeskRun

theorem conserves_foldl (s : DeskRun) (hs : s.desk.Conserves [] s.made s.used)
    (acts : List DeskAct)
    : let s' := acts.foldl step s
      s'.desk.Conserves [] s'.made s'.used ∧ ∀ u ∈ s.used, u ∈ s'.used := by
  induction acts generalizing s with
  | nil => exact ⟨hs, fun _ hu => hu⟩
  | cons a acts ih =>
    obtain ⟨hcons, hused⟩ := ih (s.step a) (hs.step a)
    refine ⟨hcons, ?_⟩
    intro u hu
    exact hused u (List.mem_append_right _ hu)

theorem conserves_after (acts : List DeskAct)
    : (after acts).desk.Conserves [] (after acts).made (after acts).used := by
  exact (conserves_foldl {} .empty acts).1

theorem mem_used_after_append {u : CallRecord × Disposal} {acts : List DeskAct}
    (hu : u ∈ (after acts).used) (later : List DeskAct)
    : u ∈ (after (acts ++ later)).used := by
  unfold after
  rw [List.foldl_append]
  exact (conserves_foldl (after acts) (conserves_after acts) later).2 u hu

theorem outcome?_of_used {r : CallRecord} {x : Disposal} {acts : List DeskAct}
    (hu : (r, x) ∈ (after acts).used) (later : List DeskAct)
    : (after (acts ++ later)).desk.ledger.outcome? r.call = some (r.outcome x) := by
  exact (conserves_after _).accounts.settled (r, x) (mem_used_after_append hu later)

/--
The records of a desk are conserved, and each of their handles is resolved once and for all when its
record is used up.
-/
theorem records_conserved (acts : List DeskAct)
    : let s := after acts
      -- Every handle has one record, and every record is in one place.
      (s.made.map (·.call)).Perm (List.range s.desk.ledger.handles.length)
        ∧ s.made.Perm (s.desk.table.records ++ s.desk.held ++ s.used.map Prod.fst)
        ∧ (∀ r ∈ s.desk.table.records, s.desk.table.get? r.id = some r)
      -- A handle is pending as long as its record is in the table or at hand.
        ∧ (∀ r ∈ s.made,
            s.desk.ledger.outcome? r.call = none
              ↔
            r ∈ s.desk.table.records ∨ r ∈ s.desk.held)
      -- A record that is used up finds its handle pending, and the outcome stays.
        ∧ (∀ a : DeskAct, ∀ u ∈ a.used s.desk, s.desk.ledger.outcome? u.1.call = none)
        ∧ (∀ r v, (r, .fulfill v) ∈ s.used → ∀ later,
            (after (acts ++ later)).desk.ledger.outcome? r.call
              =
            some (match r.decoder.decode v with
              | .ok value => .ok value
              | .error fault => .error (.decode r.method fault)))
        ∧ (∀ r e, (r, .fail e) ∈ s.used → ∀ later,
            (after (acts ++ later)).desk.ledger.outcome? r.call = some (.error e))
        ∧ (∀ r, (r, .drop) ∈ s.used → ∀ later,
            (after (acts ++ later)).desk.ledger.outcome? r.call = some (.error .notConnected))
      -- A table refuses records because it is closed or has their ids, and nothing else changes.
        ∧ (∀ r, s.desk.table.register r = .error .closed ↔ s.desk.table.closed = true)
        ∧ (∀ r, s.desk.table.register r = .error .duplicate
              ↔
            s.desk.table.closed = false ∧ ∃ other ∈ s.desk.table.records, other.id = r.id)
        ∧ (∀ r why, s.desk.table.register r = .error why →
            s.desk.enter r (some .hold)
              =
            (some (why.error r), { s.desk with hand := s.desk.hand ++ [some r] }))
      -- The four ways out of a table: what each of them hands out, and what it leaves behind.
        ∧ (∀ id handling,
            (s.desk.resolve id handling).1 = s.desk.table.get? id
              ∧ (s.desk.resolve id handling).2.table
                = { s.desk.table with records := s.desk.table.records.filter (·.id ≠ id) })
        ∧ (∀ handling,
            (s.desk.drain handling).1 = s.desk.table.records
              ∧ (s.desk.drain handling).2.table = { records := [], closed := s.desk.table.closed })
        ∧ (∀ handling,
            (s.desk.close handling).1 = s.desk.table.records
              ∧ (s.desk.close handling).2.table = { records := [], closed := true })
        ∧ (∀ timeout handling,
            let late : CallRecord → Bool :=
              fun r => timeout.nanos ≤ (r.elapsed s.desk.now).nanos
            (s.desk.expire timeout handling).1 = s.desk.table.records.filter late
              ∧ (s.desk.expire timeout handling).2.table
                = { s.desk.table with records := s.desk.table.records.filter (!late ·) }) := by
  intro s
  have h := conserves_after acts
  refine ⟨h.numbered, h.placed, ?_, ?_, ?_, ?_, ?_, ?_, ?_, ?_, ?_, ?_, ?_, ?_, ?_⟩
  . intro r hr
    exact (PendingTable.get?_eq_some_iff h.table).mpr ⟨hr, rfl⟩
  . intro r hr
    exact h.outcome?_eq_none_iff hr
  . intro a u hu
    exact h.outcome?_eq_none_of_used hu
  . intro r v hu later
    rw [outcome?_of_used hu later]
    exact congrArg some (CallRecord.outcome_fulfill r v)
  . intro r e hu later
    exact outcome?_of_used hu later
  . intro r hu later
    exact outcome?_of_used hu later
  . intro r
    exact PendingTable.register_eq_closed_iff
  . intro r
    exact PendingTable.register_eq_duplicate_iff
  . intro r why hwhy
    unfold CallDesk.enter
    rw [hwhy]
    rfl
  . exact s.desk.resolve_eq
  . exact s.desk.takeOut_eq _
  . exact s.desk.takeOut_eq _
  . exact s.desk.expire_eq

end DeskRun
end CallWire
