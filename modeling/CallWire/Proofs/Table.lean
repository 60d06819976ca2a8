import CallWire.Call.Table
import Mathlib.Data.List.Perm.Basic
import Mathlib.Data.List.Nodup

/-!
This module contains the invariant of tables of calls, and what each operation of a table does to
its records: every record is either left in the table or handed out, and none is both.
-/

namespace CallWire
namespace PendingTable

/-- A table has at most one record for each id, and none once it is closed. -/
structure WellFormed (t : PendingTable) : Prop where
  keyed : (t.records.map (·.id)).Nodup
  empty_of_closed : t.closed = true → t.records = []

theorem WellFormed.empty : WellFormed {} := by
  constructor <;> simp

variable {t t' : PendingTable} {r : CallRecord} {id : String}

theorem insertSorted_perm (r : CallRecord) (rs : List CallRecord)
    : (insertSorted r rs).Perm (r :: rs) := by
  induction rs with
  | nil => rfl
  | cons s rs ih =>
    unfold insertSorted
    split
    . rfl
    . exact (ih.cons s).trans (List.Perm.swap r s rs)

theorem get?_eq_some_iff (h : t.WellFormed)
    : t.get? id = some r ↔ r ∈ t.records ∧ r.id = id := by
  unfold get?
  constructor
  . intro hfind
    refine ⟨List.mem_of_find?_eq_some hfind, ?_⟩
    simpa using List.find?_some hfind
  . intro ⟨hmem, hid⟩
    cases hfind : t.records.find? (·.id = id) with
    | none =>
      rw [List.find?_eq_none] at hfind
      have := hfind r hmem
      simp [hid] at this
    | some s =>
      have hs : s.id = id := by simpa using List.find?_some hfind
      have : s = r := by
        apply List.inj_on_of_nodup_map h.keyed
        . exact List.mem_of_find?_eq_some hfind
        . exact hmem
        . rw [hs, hid]
      rw [this]

theorem get?_eq_none_iff : t.get? id = none ↔ ∀ r ∈ t.records, r.id ≠ id := by
  unfold get?
  rw [List.find?_eq_none]
  simp

theorem get?_isSome_iff : (t.get? id).isSome ↔ ∃ r ∈ t.records, r.id = id := by
  unfold get?
  rw [List.find?_isSome]
  simp

theorem register_eq_ok_iff
    : t.register r = .ok t'
        ↔
      t.closed = false ∧ t.get? r.id = none
        ∧ t' = { t with records := insertSorted r t.records } := by
  unfold register
  split
  . next hclosed => simp [hclosed]
  . next hclosed =>
    split
    . next hsome =>
      cases hget : t.get? r.id with
      | none => simp [hget] at hsome
      | some _ => simp
    . next hsome =>
      rw [Option.not_isSome_iff_eq_none] at hsome
      simp only [Bool.not_eq_true] at hclosed
      simp [hclosed, hsome, eq_comm]

theorem exists_register (hopen : t.closed = false) (hfresh : ∀ s ∈ t.records, s.id ≠ r.id)
    : ∃ t', t.register r = .ok t' := by
  exact ⟨_, register_eq_ok_iff.mpr ⟨hopen, get?_eq_none_iff.mpr hfresh, rfl⟩⟩

theorem register_eq_closed_iff : t.register r = .error .closed ↔ t.closed = true := by
  unfold register
  split
  . next hclosed => simp [hclosed]
  . next hclosed =>
    split <;> simp [hclosed]

theorem register_eq_duplicate_iff
    : t.register r = .error .duplicate
        ↔
      t.closed = false ∧ ∃ s ∈ t.records, s.id = r.id := by
  rw [← get?_isSome_iff]
  unfold register
  split
  . next hclosed => simp [hclosed]
  . next hclosed =>
    simp only [Bool.not_eq_true] at hclosed
    split
    . next hsome => simp [hclosed, hsome]
    . next hsome => simp [hclosed, hsome]

theorem register_perm (h : t.register r = .ok t') : t'.records.Perm (r :: t.records) := by
  obtain ⟨_, _, rfl⟩ := register_eq_ok_iff.mp h
  exact insertSorted_perm r t.records

theorem closed_of_register (h : t.register r = .ok t') : t'.closed = t.closed := by
  obtain ⟨_, _, rfl⟩ := register_eq_ok_iff.mp h
  rfl

theorem WellFormed.register (h : t.WellFormed) (hreg : t.register r = .ok t') : t'.WellFormed := by
  have hperm := register_perm hreg
  obtain ⟨hopen, hget, rfl⟩ := register_eq_ok_iff.mp hreg
  rw [get?_eq_none_iff] at hget
  constructor
  . rw [(hperm.map _).nodup_iff, List.map_cons, List.nodup_cons]
    refine ⟨?_, h.keyed⟩
    intro hmem
    obtain ⟨s, hs, hid⟩ := List.mem_map.mp hmem
    exact hget s hs hid
  . intro hclosed
    simp [hopen] at hclosed

theorem resolve_eq_none_iff : t.resolve id = none ↔ ∀ r ∈ t.records, r.id ≠ id := by
  unfold resolve
  rw [Option.map_eq_none_iff]
  exact get?_eq_none_iff

theorem resolve_eq_some_iff
    : t.resolve id = some (r, t')
        ↔
      t.get? id = some r ∧ t' = { t with records := t.records.filter (·.id ≠ id) } := by
  unfold resolve
  rw [Option.map_eq_some_iff]
  constructor
  . rintro ⟨s, hs, heq⟩
    obtain ⟨rfl, rfl⟩ := Prod.mk.inj heq
    exact ⟨hs, rfl⟩
  . rintro ⟨hs, rfl⟩
    exact ⟨r, hs, rfl⟩

theorem resolve_id (h : t.resolve id = some (r, t')) : r.id = id := by
  have hget := (resolve_eq_some_iff.mp h).1
  unfold get? at hget
  simpa using List.find?_some hget

theorem get?_of_resolve_ne {other : String} (h : t.resolve id = some (r, t')) (hne : id ≠ other)
    : t'.get? other = t.get? other := by
  obtain ⟨_, rfl⟩ := resolve_eq_some_iff.mp h
  unfold get?
  rw [List.find?_filter]
  congr 1
  funext s
  by_cases hs : s.id = other
  . simp [hs, hne.symm]
  . simp [hs]

theorem resolve_of_resolve_ne {other : String} (h : t.resolve id = some (r, t')) (hne : id ≠ other)
    : t'.resolve other
        =
      (t.get? other).map (fun s =>
        (s, { t with records := t.records.filter (fun r => r.id ≠ id ∧ r.id ≠ other) })) := by
  unfold resolve
  rw [get?_of_resolve_ne h hne]
  obtain ⟨_, rfl⟩ := resolve_eq_some_iff.mp h
  dsimp
  rw [List.filter_filter]
  congr 1
  funext s
  congr 2
  apply List.filter_congr
  intro r hr
  simp [Bool.and_comm]

theorem closed_of_resolve (h : t.resolve id = some (r, t')) : t'.closed = t.closed := by
  obtain ⟨_, rfl⟩ := resolve_eq_some_iff.mp h
  rfl

theorem filter_id_ne {rs : List CallRecord} (h : ∀ s ∈ rs, s.id ≠ id)
    : rs.filter (·.id ≠ id) = rs := by
  rw [List.filter_eq_self]
  intro s hs
  simpa using h s hs

theorem filter_insertSorted {p : CallRecord → Bool} (h : p r = false) (rs : List CallRecord)
    : (insertSorted r rs).filter p = rs.filter p := by
  induction rs with
  | nil => exact List.filter_cons_of_neg (by simp [h])
  | cons s rs ih =>
    unfold insertSorted
    split
    . exact List.filter_cons_of_neg (by simp [h])
    . rw [List.filter_cons, List.filter_cons, ih]

theorem get?_of_register (h : t.register r = .ok t') : t'.get? r.id = some r := by
  have hperm := register_perm h
  obtain ⟨_, hfresh, _⟩ := register_eq_ok_iff.mp h
  have hr : r ∈ t'.records := hperm.mem_iff.mpr List.mem_cons_self
  obtain ⟨s, hs⟩ := Option.isSome_iff_exists.mp (get?_isSome_iff.mpr ⟨r, hr, rfl⟩)
  have hid : s.id = r.id := by simpa using List.find?_some hs
  rw [hs]
  rcases List.mem_cons.mp (hperm.mem_iff.mp (List.mem_of_find?_eq_some hs)) with rfl | hold
  . rfl
  . exact absurd hid (get?_eq_none_iff.mp hfresh s hold)

theorem resolve_of_register (h : t.register r = .ok t') : t'.resolve r.id = some (r, t) := by
  rw [resolve_eq_some_iff]
  refine ⟨get?_of_register h, ?_⟩
  obtain ⟨_, hfresh, rfl⟩ := register_eq_ok_iff.mp h
  dsimp only
  rw [filter_insertSorted (by simp), filter_id_ne (get?_eq_none_iff.mp hfresh)]

theorem perm_cons_filter {rs : List CallRecord} (hkeyed : (rs.map (·.id)).Nodup) (hr : r ∈ rs)
    : rs.Perm (r :: rs.filter (·.id ≠ r.id)) := by
  induction rs with
  | nil => simp at hr
  | cons s rs ih =>
    rw [List.map_cons, List.nodup_cons] at hkeyed
    obtain ⟨hfresh, hkeyed⟩ := hkeyed
    rcases List.mem_cons.mp hr with rfl | hr
    . have hall : ∀ s ∈ rs, s.id ≠ r.id := by
        intro s hs hid
        exact hfresh (List.mem_map.mpr ⟨s, hs, hid⟩)
      rw [List.filter_cons_of_neg (by simp)]
      rw [filter_id_ne hall]
    . have hne : s.id ≠ r.id := by
        intro hid
        exact hfresh (List.mem_map.mpr ⟨r, hr, hid.symm⟩)
      rw [List.filter_cons_of_pos (by simpa using hne)]
      exact ((ih hkeyed hr).cons s).trans (List.Perm.swap r s _)

theorem resolve_perm (hwf : t.WellFormed) (h : t.resolve id = some (r, t'))
    : t.records.Perm (r :: t'.records) := by
  obtain ⟨hget, rfl⟩ := resolve_eq_some_iff.mp h
  obtain ⟨hmem, rfl⟩ := (get?_eq_some_iff hwf).mp hget
  exact perm_cons_filter hwf.keyed hmem

theorem WellFormed.of_sublist (h : t.WellFormed) (hrs : t'.records.Sublist t.records)
    (hclosed : t'.closed = t.closed)
    : t'.WellFormed := by
  constructor
  . exact h.keyed.sublist (hrs.map _)
  . intro hc
    rw [hclosed] at hc
    have := h.empty_of_closed hc
    rw [this] at hrs
    exact List.sublist_nil.mp hrs

theorem WellFormed.resolve (h : t.WellFormed) (hres : t.resolve id = some (r, t'))
    : t'.WellFormed := by
  obtain ⟨_, rfl⟩ := resolve_eq_some_iff.mp hres
  exact h.of_sublist List.filter_sublist rfl

theorem WellFormed.drain (h : t.WellFormed) : t.drain.2.WellFormed := by
  exact h.of_sublist (List.nil_sublist _) rfl

theorem WellFormed.close (t : PendingTable) : t.close.2.WellFormed := by
  constructor <;> simp [PendingTable.close]

theorem takeExpired_eq (t : PendingTable) (now timeout : Duration)
    : t.takeExpired now timeout
        =
      (t.records.filter (isExpired now timeout),
        { t with records := t.records.filter (fun r => !isExpired now timeout r) }) := by
  unfold takeExpired
  rw [List.partition_eq_filter_filter]
  rfl

theorem takeExpired_perm (t : PendingTable) (now timeout : Duration)
    : ((t.takeExpired now timeout).1 ++ (t.takeExpired now timeout).2.records).Perm t.records := by
  rw [takeExpired_eq]
  exact List.filter_append_perm _ _

theorem elapsed_of_mem_takeExpired {now timeout : Duration}
    (hr : r ∈ (t.takeExpired now timeout).1)
    : timeout.nanos ≤ (r.elapsed now).nanos := by
  rw [takeExpired_eq] at hr
  have hexpired := (List.mem_filter.mp hr).2
  unfold isExpired at hexpired
  exact of_decide_eq_true hexpired

theorem WellFormed.takeExpired (h : t.WellFormed) (now timeout : Duration)
    : (t.takeExpired now timeout).2.WellFormed := by
  rw [takeExpired_eq]
  exact h.of_sublist List.filter_sublist rfl

end PendingTable
end CallWire
