import CallWire.Proofs.Conservation
import Mathlib.Data.List.Induction

/-!
This module contains what it means to others that a caller gives up the handle of a call. A run at a
desk and the same run in which no handle is given up go side by side: they differ in the handles
that are given up and in nothing else.
-/

namespace CallWire

inductive DeskMoment where
  | act (a : DeskAct)
  | collect

/-- What those who use a desk learn from a moment. -/
inductive DeskAnswer where
  | entered (refusal : Option ClientError)
  | made (r : CallRecord)
  | found (r? : Option CallRecord)
  | removed (rs : List CallRecord)
  | returned (entered? : Option (Option ClientError))
  | forgot (wasWatched : Bool)
  | elapsed
  | ready (outcomes : List (Nat × Handle))

namespace DeskAnswer

def records : DeskAnswer → List CallRecord
  | .found r? => r?.toList
  | .removed rs => rs
  | _ => []

def without (calls : List Nat) : DeskAnswer → DeskAnswer
  | .ready outcomes => .ready (outcomes.filter (·.1 ∉ calls))
  | answer => answer

end DeskAnswer

namespace DeskMoment

def forgets? : DeskMoment → Option Nat
  | .act (.forget call) => some call
  | _ => none

theorem eq_forget_of_forgets? {m : DeskMoment} {call : Nat} (h : m.forgets? = some call)
    : m = .act (.forget call) := by
  unfold forgets? at h
  split at h
  . rw [Option.some.inj h]
  . cases h

def forgotten (moments : List DeskMoment) : List Nat := moments.filterMap forgets?

def others (moments : List DeskMoment) : List DeskMoment := moments.filter (·.forgets?.isNone)

end DeskMoment

namespace CallDesk

def answer (d : CallDesk) : DeskMoment → DeskAnswer
  | .act (.register id method decoder refused) =>
    .entered (d.register id method decoder refused).1
  | .act (.record id method decoder handling) => .made (d.record id method decoder handling).1
  | .act (.resolve id handling) => .found (d.resolve id handling).1
  | .act (.drain handling) => .removed (d.drain handling).1
  | .act (.close handling) => .removed (d.close handling).1
  | .act (.expire timeout handling) => .removed (d.expire timeout handling).1
  | .act (.handleHeld index handling) => .found (d.handleHeld index handling).1
  | .act (.reregister index refused) => .returned (d.reregister index refused).1
  | .act (.forget call) => .forgot (d.forget call).1
  | .act (.elapse _) => .elapsed
  | .collect => .ready d.collect.1

def attend (d : CallDesk) : DeskMoment → CallDesk
  | .act a => d.step a
  | .collect => d.collect.2

def after (moments : List DeskMoment) : CallDesk := moments.foldl attend {}

end CallDesk

namespace Ledger

structure AgreeBut (calls : List Nat) (l l' : Ledger) : Prop where
  issued : l.handles.length = l'.handles.length
  kept : ∀ call ∉ calls, l.handle? call = l'.handle? call

theorem handle?_settle (l : Ledger) (call other : Nat) (o : Outcome)
    : (l.settle call o).handle? other
        =
      (l.handle? other).map
        (fun h => if call = other then { h with outcome := some o } else h) := by
  unfold handle? settle
  dsimp only
  rw [List.getElem?_modify]
  split
  . rfl
  . cases l.handles[other]? <;> rfl

theorem handle?_settle_of_ne (l : Ledger) {call other : Nat} (h : call ≠ other) (o : Outcome)
    : (l.settle call o).handle? other = l.handle? other := by
  rw [handle?_settle]
  simp [h]

theorem isWatched_settle (l : Ledger) (call other : Nat) (o : Outcome)
    : (l.settle call o).isWatched other = l.isWatched other := by
  unfold isWatched
  rw [handle?_settle]
  cases l.handle? other with
  | none => rfl
  | some h => by_cases hcall : call = other <;> simp [hcall]

theorem handle?_forget_of_ne (l : Ledger) {call other : Nat} (h : call ≠ other)
    : (l.forget call).handle? other = l.handle? other := by
  unfold handle? forget
  dsimp only
  rw [List.getElem?_modify_ne _ _ h]

theorem handle?_collect (l : Ledger) (call : Nat)
    : l.collect.2.handle? call
        =
      (l.handle? call).map (fun h => if h.isReady then { h with watched := false } else h) := by
  exact List.getElem?_map

theorem length_collect (l : Ledger) : l.collect.2.handles.length = l.handles.length :=
  List.length_map _

theorem outcome?_collect (l : Ledger) (call : Nat)
    : l.collect.2.outcome? call = l.outcome? call := by
  unfold outcome?
  rw [handle?_collect]
  cases l.handle? call with
  | none => rfl
  | some h => cases hready : h.isReady <;> simp [hready]

theorem Accounts.collect {l : Ledger} {waiting : List CallRecord}
    {used : List (CallRecord × Disposal)} (h : l.Accounts waiting used)
    : l.collect.2.Accounts waiting used := by
  constructor
  . exact h.distinct
  . simpa only [length_collect] using h.issued
  . simpa only [outcome?_collect] using h.pending
  . simpa only [outcome?_collect] using h.settled

theorem numbered_eq_filterMap (l : Ledger)
    : l.numbered
        =
      (List.range l.handles.length).filterMap
        (fun call => (l.handle? call).map (Prod.mk call)) := by
  obtain ⟨handles⟩ := l
  unfold numbered handle?
  dsimp only
  induction handles using List.reverseRecOn with
  | nil => rfl
  | append_singleton hs h ih =>
    have hold : ∀ call ∈ List.range hs.length, (hs ++ [h])[call]? = hs[call]? := by
      intro call hcall
      exact List.getElem?_append_left (List.mem_range.mp hcall)
    rw [List.length_append, List.length_singleton, List.range_succ]
    rw [List.zip_append (by simp), List.filterMap_append, ih]
    congr 1
    . apply List.filterMap_congr
      intro call hcall
      rw [hold call hcall]
    . simp

theorem ready_settle_of_unwatched {l : Ledger} {call : Nat} (h : l.isWatched call = false)
    (o : Outcome)
    : (l.settle call o).collect.1 = l.collect.1 := by
  unfold collect
  dsimp only
  rw [numbered_eq_filterMap, numbered_eq_filterMap, length_settle]
  rw [List.filter_filterMap, List.filter_filterMap]
  apply List.filterMap_congr
  intro other _
  by_cases hcall : call = other
  . subst hcall
    rw [handle?_settle]
    unfold isWatched at h
    cases hh : l.handle? call with
    | none => rfl
    | some handle =>
      rw [hh] at h
      have hwatched : handle.watched = false := h
      simp [Option.filter, Handle.isReady, hwatched]
  . rw [handle?_settle_of_ne l hcall]

namespace AgreeBut

variable {calls : List Nat} {l l' : Ledger}

theorem refl (l : Ledger) : l.AgreeBut calls l := by
  constructor
  . rfl
  . intro call _
    rfl

theorem issue (h : l.AgreeBut calls l') (id : Option String)
    : (l.issue id).2.AgreeBut calls (l'.issue id).2 := by
  constructor
  . rw [length_issue, length_issue, h.issued]
  . intro call hcall
    have hkept := h.kept call hcall
    unfold handle? at hkept ⊢
    unfold Ledger.issue
    dsimp only
    rw [List.getElem?_append, List.getElem?_append, hkept, h.issued]

theorem settle (h : l.AgreeBut calls l') (call : Nat) (o : Outcome)
    : (l.settle call o).AgreeBut calls (l'.settle call o) := by
  constructor
  . rw [length_settle, length_settle, h.issued]
  . intro other hother
    rw [handle?_settle, handle?_settle, h.kept other hother]

theorem forget (h : l.AgreeBut calls l') {call : Nat} (hcall : call ∈ calls)
    : (l.forget call).AgreeBut calls l' := by
  constructor
  . rw [length_forget, h.issued]
  . intro other hother
    rw [handle?_forget_of_ne, h.kept other hother]
    rintro rfl
    exact hother hcall

theorem collect (h : l.AgreeBut calls l') : l.collect.2.AgreeBut calls l'.collect.2 := by
  constructor
  . simp [Ledger.collect, h.issued]
  . intro call hcall
    rw [handle?_collect, handle?_collect, h.kept call hcall]

theorem ready (h : l.AgreeBut calls l')
    : l.collect.1.filter (·.1 ∉ calls) = l'.collect.1.filter (·.1 ∉ calls) := by
  unfold Ledger.collect
  dsimp only
  rw [List.filter_filter, List.filter_filter, numbered_eq_filterMap, numbered_eq_filterMap]
  rw [h.issued]
  rw [List.filter_filterMap, List.filter_filterMap]
  apply List.filterMap_congr
  intro call _
  by_cases hcall : call ∈ calls
  . have hnone : ∀ h? : Option Handle,
        (h?.map (Prod.mk call)).filter (fun e => decide (e.1 ∉ calls) && e.2.isReady) = none := by
      intro h?
      cases h? <;> simp [Option.filter, hcall]
    rw [hnone, hnone]
  . rw [h.kept call hcall]

end AgreeBut
end Ledger

namespace CallDesk

/-- Two desks are the same but for the handles of some calls. -/
inductive AgreeBut (calls : List Nat) : CallDesk → CallDesk → Prop where
  | intro (table : PendingTable) (hand : List (Option CallRecord)) (now : Duration)
      {l l' : Ledger} (h : l.AgreeBut calls l')
    : AgreeBut calls ⟨table, hand, l, now⟩ ⟨table, hand, l', now⟩

namespace AgreeBut

variable {calls : List Nat} {d d' : CallDesk}

theorem table (h : d.AgreeBut calls d') : d.table = d'.table := by
  cases h
  rfl

theorem hand (h : d.AgreeBut calls d') : d.hand = d'.hand := by
  cases h
  rfl

theorem now (h : d.AgreeBut calls d') : d.now = d'.now := by
  cases h
  rfl

theorem ledger (h : d.AgreeBut calls d') : d.ledger.AgreeBut calls d'.ledger := by
  cases h with
  | intro table hand now hledger => exact hledger

theorem refl (d : CallDesk) : d.AgreeBut calls d := .intro _ _ _ (.refl d.ledger)

theorem setTable (h : d.AgreeBut calls d') (t : PendingTable)
    : { d with table := t }.AgreeBut calls { d' with table := t } := by
  cases h with
  | intro table hand now hledger => exact .intro t hand now hledger

theorem newCall (h : d.AgreeBut calls d') (id method : String) (decoder : ResultDecoder)
    : (d.newCall id method decoder).1 = (d'.newCall id method decoder).1
        ∧ (d.newCall id method decoder).2.AgreeBut calls (d'.newCall id method decoder).2 := by
  cases h with
  | intro table hand now hledger =>
    refine ⟨?_, .intro table hand now (hledger.issue _)⟩
    unfold CallDesk.newCall Ledger.issue
    dsimp only
    rw [hledger.issued]

theorem handle (h : d.AgreeBut calls d') (handling : Handling) (r : CallRecord)
    : (d.handle handling r).AgreeBut calls (d'.handle handling r) := by
  cases h with
  | intro table hand now hledger =>
    cases handling with
    | dispose x => exact .intro table hand now (hledger.settle _ _)
    | hold => exact .intro table _ now hledger

theorem handleAll (h : d.AgreeBut calls d') (handling : Handling) (rs : List CallRecord)
    : (d.handleAll handling rs).AgreeBut calls (d'.handleAll handling rs) := by
  induction rs generalizing d d' with
  | nil => exact h
  | cons r rs ih => exact ih (h.handle handling r)

theorem enter (h : d.AgreeBut calls d') (r : CallRecord) (refused : Option Handling)
    : (d.enter r refused).1 = (d'.enter r refused).1
        ∧ (d.enter r refused).2.AgreeBut calls (d'.enter r refused).2 := by
  unfold CallDesk.enter
  rw [h.table]
  cases d'.table.register r with
  | ok table => exact ⟨rfl, h.setTable table⟩
  | error refusal => exact ⟨rfl, h.handle _ r⟩

theorem resolve (h : d.AgreeBut calls d') (id : String) (handling : Handling)
    : (d.resolve id handling).1 = (d'.resolve id handling).1
        ∧ (d.resolve id handling).2.AgreeBut calls (d'.resolve id handling).2 := by
  unfold CallDesk.resolve
  rw [h.table]
  cases d'.table.resolve id with
  | none => exact ⟨rfl, h⟩
  | some taken => exact ⟨rfl, (h.setTable taken.2).handle handling taken.1⟩

theorem takeOut (h : d.AgreeBut calls d') (taken : List CallRecord × PendingTable)
    (handling : Handling)
    : (d.takeOut taken handling).2.AgreeBut calls (d'.takeOut taken handling).2 := by
  exact (h.setTable taken.2).handleAll handling taken.1

theorem pickUp (h : d.AgreeBut calls d') (index : Nat)
    : (d.pickUp index = none ∧ d'.pickUp index = none)
        ∨ ∃ r e e', d.pickUp index = some (r, e) ∧ d'.pickUp index = some (r, e')
            ∧ e.AgreeBut calls e' := by
  cases h with
  | intro table hand now hledger =>
    unfold CallDesk.pickUp CallDesk.held?
    dsimp only
    cases hand[index]?.join with
    | none => exact .inl ⟨rfl, rfl⟩
    | some r => exact .inr ⟨r, _, _, rfl, rfl, .intro table _ now hledger⟩

theorem handleHeld (h : d.AgreeBut calls d') (index : Nat) (handling : Handling)
    : (d.handleHeld index handling).1 = (d'.handleHeld index handling).1
        ∧ (d.handleHeld index handling).2.AgreeBut calls (d'.handleHeld index handling).2 := by
  unfold CallDesk.handleHeld
  rcases h.pickUp index with ⟨hpick, hpick'⟩ | ⟨r, e, e', hpick, hpick', he⟩
  . rw [hpick, hpick']
    exact ⟨rfl, h⟩
  . rw [hpick, hpick']
    exact ⟨rfl, he.handle handling r⟩

theorem reregister (h : d.AgreeBut calls d') (index : Nat) (refused : Option Handling)
    : (d.reregister index refused).1 = (d'.reregister index refused).1
        ∧ (d.reregister index refused).2.AgreeBut calls (d'.reregister index refused).2 := by
  unfold CallDesk.reregister
  rcases h.pickUp index with ⟨hpick, hpick'⟩ | ⟨r, e, e', hpick, hpick', he⟩
  . rw [hpick, hpick']
    exact ⟨rfl, h⟩
  . obtain ⟨hrefusal, hdesk⟩ := he.enter r refused
    rw [hpick, hpick']
    exact ⟨congrArg some hrefusal, hdesk⟩

theorem forget (h : d.AgreeBut calls d') {call : Nat} (hcall : call ∈ calls)
    : (d.forget call).2.AgreeBut calls d' := by
  cases h with
  | intro table hand now hledger => exact .intro table hand now (hledger.forget hcall)

theorem collect (h : d.AgreeBut calls d') : d.collect.2.AgreeBut calls d'.collect.2 := by
  cases h with
  | intro table hand now hledger => exact .intro table hand now hledger.collect

theorem register (h : d.AgreeBut calls d') (id method : String) (decoder : ResultDecoder)
    (refused : Option Handling)
    : (d.register id method decoder refused).1 = (d'.register id method decoder refused).1
        ∧ (d.register id method decoder refused).2.AgreeBut calls
            (d'.register id method decoder refused).2 := by
  obtain ⟨hr, hmade⟩ := h.newCall id method decoder
  unfold CallDesk.register
  dsimp only
  rw [hr]
  exact hmade.enter _ refused

theorem record (h : d.AgreeBut calls d') (id method : String) (decoder : ResultDecoder)
    (handling : Handling)
    : (d.record id method decoder handling).1 = (d'.record id method decoder handling).1
        ∧ (d.record id method decoder handling).2.AgreeBut calls
            (d'.record id method decoder handling).2 := by
  obtain ⟨hr, hmade⟩ := h.newCall id method decoder
  unfold CallDesk.record
  dsimp only
  rw [hr]
  exact ⟨rfl, hmade.handle handling _⟩

theorem elapse (h : d.AgreeBut calls d') (span : Duration)
    : (d.step (.elapse span)).AgreeBut calls (d'.step (.elapse span)) := by
  cases h with
  | intro table hand now hledger => exact .intro table hand _ hledger

theorem attend (h : d.AgreeBut calls d') {m : DeskMoment} (hm : m.forgets? = none)
    : (d.answer m).without calls = (d'.answer m).without calls
        ∧ (d.attend m).AgreeBut calls (d'.attend m) := by
  cases m with
  | collect => exact ⟨congrArg DeskAnswer.ready h.ledger.ready, h.collect⟩
  | act a =>
    unfold answer CallDesk.attend CallDesk.step
    cases a with
    | register id method decoder refused =>
      obtain ⟨hrefusal, hdesk⟩ := h.register id method decoder refused
      exact ⟨congrArg _ (congrArg _ hrefusal), hdesk⟩
    | record id method decoder handling =>
      obtain ⟨hmade, hdesk⟩ := h.record id method decoder handling
      exact ⟨congrArg _ (congrArg _ hmade), hdesk⟩
    | resolve id handling =>
      obtain ⟨hfound, hdesk⟩ := h.resolve id handling
      exact ⟨congrArg _ (congrArg _ hfound), hdesk⟩
    | drain handling =>
      unfold CallDesk.drain
      rw [h.table]
      exact ⟨rfl, h.takeOut _ handling⟩
    | close handling =>
      unfold CallDesk.close
      rw [h.table]
      exact ⟨rfl, h.takeOut _ handling⟩
    | expire timeout handling =>
      unfold CallDesk.expire
      rw [h.table, h.now]
      exact ⟨rfl, h.takeOut _ handling⟩
    | handleHeld index handling =>
      obtain ⟨hfound, hdesk⟩ := h.handleHeld index handling
      exact ⟨congrArg _ (congrArg _ hfound), hdesk⟩
    | reregister index refused =>
      obtain ⟨hreturned, hdesk⟩ := h.reregister index refused
      exact ⟨congrArg _ (congrArg _ hreturned), hdesk⟩
    | forget call => cases hm
    | elapse span => exact ⟨rfl, h.elapse span⟩

theorem foldl_attend (h : d.AgreeBut calls d') (moments : List DeskMoment)
    (hcalls : DeskMoment.forgotten moments ⊆ calls)
    : (moments.foldl CallDesk.attend d).AgreeBut calls
        ((DeskMoment.others moments).foldl CallDesk.attend d') := by
  induction moments generalizing d d' with
  | nil => exact h
  | cons m ms ih =>
    unfold DeskMoment.forgotten DeskMoment.others at *
    cases hm : m.forgets? with
    | none =>
      rw [List.filterMap_cons_none hm] at hcalls
      rw [List.filter_cons_of_pos (by simp [hm])]
      exact ih (h.attend hm).2 hcalls
    | some call =>
      rw [List.filterMap_cons_some hm, List.cons_subset] at hcalls
      rw [List.filter_cons_of_neg (by simp [hm])]
      obtain rfl : m = .act (.forget call) := DeskMoment.eq_forget_of_forgets? hm
      exact ih (h.forget hcalls.1) hcalls.2

end AgreeBut

/-! A record leaves the table only where an answer hands it out. -/

variable {d : CallDesk} {r : CallRecord}

theorem mem_records_enter (hr : r ∈ d.table.records) (other : CallRecord)
    (refused : Option Handling)
    : r ∈ (d.enter other refused).2.table.records := by
  unfold enter
  cases hreg : d.table.register other with
  | ok t => exact (PendingTable.register_perm hreg).mem_iff.mpr (List.mem_cons_of_mem _ hr)
  | error refusal =>
    rw [table_handle]
    exact hr

theorem mem_records_takeOut {taken : List CallRecord × PendingTable} (hr : r ∈ d.table.records)
    (hplace : (taken.1 ++ taken.2.records).Perm d.table.records) (handling : Handling)
    : r ∈ (d.takeOut taken handling).2.table.records ∨ r ∈ taken.1 := by
  unfold takeOut
  rw [table_handleAll, or_comm, ← List.mem_append]
  exact hplace.mem_iff.mpr hr

theorem mem_records_resolve (hwf : d.table.WellFormed) (hr : r ∈ d.table.records) (id : String)
    (handling : Handling)
    : r ∈ (d.resolve id handling).2.table.records ∨ (d.resolve id handling).1 = some r := by
  unfold resolve
  cases hres : d.table.resolve id with
  | none => exact .inl hr
  | some taken =>
    dsimp only
    rw [table_handle]
    have hperm := PendingTable.resolve_perm hwf hres
    rcases List.mem_cons.mp (hperm.mem_iff.mp hr) with rfl | hr
    . exact .inr rfl
    . exact .inl hr

theorem table_handleHeld (d : CallDesk) (index : Nat) (handling : Handling)
    : (d.handleHeld index handling).2.table = d.table := by
  unfold handleHeld pickUp
  cases d.held? index with
  | none => rfl
  | some s => exact table_handle _ handling s

theorem mem_records_reregister (hr : r ∈ d.table.records) (index : Nat) (refused : Option Handling)
    : r ∈ (d.reregister index refused).2.table.records := by
  unfold reregister pickUp
  cases d.held? index with
  | none => exact hr
  | some s => exact mem_records_enter (d := { d with hand := d.hand.set index none }) hr s refused

theorem mem_records_attend (hwf : d.table.WellFormed) (hr : r ∈ d.table.records) (m : DeskMoment)
    : r ∈ (d.attend m).table.records ∨ r ∈ (d.answer m).records := by
  cases m with
  | collect => exact .inl hr
  | act a =>
    unfold attend step
    cases a with
    | register id method decoder refused =>
      exact .inl (mem_records_enter (d := (d.newCall id method decoder).2) hr _ refused)
    | record id method decoder handling =>
      left
      dsimp only [record]
      rw [table_handle]
      exact hr
    | resolve id handling =>
      rcases mem_records_resolve hwf hr id handling with hin | hfound
      . exact .inl hin
      . exact .inr (Option.mem_toList.mpr hfound)
    | drain handling =>
      exact mem_records_takeOut hr (by simp [PendingTable.drain]) handling
    | close handling =>
      exact mem_records_takeOut hr (by simp [PendingTable.close]) handling
    | expire timeout handling =>
      exact mem_records_takeOut hr (PendingTable.takeExpired_perm _ _ _) handling
    | handleHeld index handling =>
      left
      dsimp only
      rw [table_handleHeld]
      exact hr
    | reregister index refused => exact .inl (mem_records_reregister hr index refused)
    | forget call => exact .inl hr
    | elapse span => exact .inl hr

theorem register_eq_duplicate (hwf : d.table.WellFormed) (hr : r ∈ d.table.records)
    {other : CallRecord} (hid : other.id = r.id)
    : d.table.register other = .error .duplicate := by
  rw [PendingTable.register_eq_duplicate_iff]
  refine ⟨?_, r, hr, hid.symm⟩
  rw [Bool.eq_false_iff]
  intro hclosed
  rw [hwf.empty_of_closed hclosed] at hr
  cases hr

/-! The records of a run are conserved whenever outcomes are taken in between. -/

theorem Conserves.collect {loose made : List CallRecord} {used : List (CallRecord × Disposal)}
    (h : d.Conserves loose made used)
    : d.collect.2.Conserves loose made used := by
  constructor
  . exact h.table
  . exact h.accounts.collect
  . exact h.placed
  . have hlen : d.collect.2.ledger.handles.length = d.ledger.handles.length :=
      Ledger.length_collect _
    rw [hlen]
    exact h.numbered

theorem exists_conserves_after (moments : List DeskMoment)
    : ∃ made used, (after moments).Conserves [] made used := by
  unfold after
  induction moments using List.reverseRecOn with
  | nil => exact ⟨[], [], .empty⟩
  | append_singleton ms m ih =>
    obtain ⟨made, used, h⟩ := ih
    rw [List.foldl_append]
    cases m with
    | act a => exact ⟨_, _, h.step a⟩
    | collect => exact ⟨made, used, h.collect⟩

/--
A caller that gives up the handle of a call changes nothing for anybody else: the run goes on as if
the handle were still there.
-/
theorem forgotten_handles_unseen (moments : List DeskMoment)
    : let forgotten := DeskMoment.forgotten moments
      let d := after moments
      let d' := after (DeskMoment.others moments)
      -- Nothing but the handles that were given up differs from the run in which they were not.
      d.table = d'.table
        ∧ d.hand = d'.hand
        ∧ d.now = d'.now
        ∧ (∀ call ∉ forgotten, d.ledger.handle? call = d'.ledger.handle? call)
      -- Whatever is done next has the same answer in both runs.
        ∧ (∀ m, m.forgets? = none →
            (d.answer m).without forgotten = (d'.answer m).without forgotten)
      -- A record in the table reserves its id until it is handed out, whoever waits for it.
        ∧ (∀ r ∈ d.table.records,
            (∀ other, other.id = r.id → d.table.register other = .error .duplicate)
              ∧ ∀ m, r ∈ (d.attend m).table.records ∨ r ∈ (d.answer m).records)
      -- An outcome that nobody waits for concerns no other handle, and nobody is told of it.
        ∧ (∀ r x, d.ledger.isWatched r.call = false →
            let e := d.handle (.dispose x) r
            e.table = d.table
              ∧ e.hand = d.hand
              ∧ (∀ call ≠ r.call, e.ledger.handle? call = d.ledger.handle? call)
              ∧ e.ledger.isWatched r.call = false
              ∧ e.collect.1 = d.collect.1) := by
  intro forgotten d d'
  have hagree : d.AgreeBut forgotten d' := .foldl_attend (.refl {}) moments (List.Subset.refl _)
  obtain ⟨made, used, hcons⟩ := exists_conserves_after moments
  refine ⟨hagree.table, hagree.hand, hagree.now, hagree.ledger.kept, ?_, ?_, ?_⟩
  . intro m hm
    exact (hagree.attend hm).1
  . intro r hr
    constructor
    . intro other hid
      exact register_eq_duplicate hcons.table hr hid
    . intro m
      exact mem_records_attend hcons.table hr m
  . intro r x hunwatched
    refine ⟨rfl, rfl, ?_, ?_, ?_⟩
    . intro call hcall
      exact Ledger.handle?_settle_of_ne _ hcall.symm _
    . exact (Ledger.isWatched_settle _ _ _ _).trans hunwatched
    . exact Ledger.ready_settle_of_unwatched hunwatched _

end CallDesk
end CallWire
