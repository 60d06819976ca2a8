import CallWire.Proofs.FreshIds
import CallWire.Proofs.SettingsKept

/-!
This module contains that sweeps expire exactly the calls that are overdue. A sweep takes out of its
table the records that have waited long enough, and no others; a call has timed out only if a sweep
found its record unanswered and old enough; and a reply that comes after that does nothing.
-/

namespace CallWire

theorem Response.outcome_ne_timeout {method method' : String} {span : Duration}
    {decoder : ResultDecoder} (x : Response)
    : x.outcome method decoder ≠ .error (.requestTimeout method' span) := by
  apply Response.outcome_ne_error
  . simp [ClientError.ofServer]
  . simp

namespace PendingTable

variable {t left : PendingTable} {r : CallRecord} {rs taken : List CallRecord} {now span : Duration}

structure Parts (t : PendingTable) (p : CallRecord → Prop) (taken : List CallRecord)
    (left : PendingTable) : Prop where
  once : (taken ++ left.records).Perm t.records
  passed : ∀ r ∈ taken, p r
  stayed : ∀ r ∈ left.records, ¬p r
  inPlace : left.records.Sublist t.records
  closed : left.closed = t.closed

def Overdue (now span : Duration) (r : CallRecord) : Prop := span.nanos ≤ (r.elapsed now).nanos

theorem isExpired_iff : isExpired now span r = true ↔ Overdue now span r := decide_eq_true_iff

theorem parts_takeExpired (t : PendingTable) (now span : Duration)
    : t.Parts (Overdue now span) (t.takeExpired now span).1 (t.takeExpired now span).2 := by
  have hperm := takeExpired_perm t now span
  rw [takeExpired_eq] at hperm ⊢
  constructor
  . exact hperm
  . intro r hr
    exact isExpired_iff.mp (List.mem_filter.mp hr).2
  . intro r hr hoverdue
    have hstays := (List.mem_filter.mp hr).2
    rw [isExpired_iff.mpr hoverdue] at hstays
    cases hstays
  . exact List.filter_sublist
  . rfl

def takeEach (t : PendingTable) : List String → List CallRecord × PendingTable
  | [] => ([], t)
  | id :: ids =>
    match t.resolve id with
    | none => t.takeEach ids
    | some (r, t) => (r :: (t.takeEach ids).1, (t.takeEach ids).2)

theorem takeEach_records (h : t.WellFormed) (hrs : ∀ r ∈ rs, r ∈ t.records)
    (hkeyed : (rs.map (·.id)).Nodup)
    : t.takeEach (rs.map (·.id))
        =
      (rs, { t with records := t.records.filter (fun s => s.id ∉ rs.map (·.id)) }) := by
  induction rs generalizing t with
  | nil =>
    have hall : t.records.filter (fun s => s.id ∉ ([] : List CallRecord).map (·.id)) = t.records := by
      rw [List.filter_eq_self]
      simp
    rw [hall]
    rfl
  | cons r rs ih =>
    rw [List.map_cons, List.nodup_cons] at hkeyed
    have hget := (get?_eq_some_iff h).mpr ⟨hrs r List.mem_cons_self, rfl⟩
    have hres := resolve_eq_some_iff.mpr ⟨hget, rfl⟩
    have hrest : ∀ s ∈ rs, s ∈ t.records.filter (·.id ≠ r.id) := by
      intro s hs
      have hne : s.id ≠ r.id := fun hid => hkeyed.1 (List.mem_map.mpr ⟨s, hs, hid⟩)
      exact List.mem_filter.mpr ⟨hrs s (List.mem_cons_of_mem _ hs), decide_eq_true hne⟩
    rw [List.map_cons, takeEach, hres]
    dsimp only
    rw [ih (h.resolve hres) hrest hkeyed.2]
    dsimp only
    rw [List.filter_filter]
    simp [Bool.and_comm]

/--
To collect the ids of all records that are overdue, and then to take these records out, is to take
out the records that are overdue.
-/
theorem takeExpired_eq_takeEach (h : t.WellFormed) (now span : Duration)
    : t.takeExpired now span
        =
      t.takeEach ((t.records.filter (isExpired now span)).map (·.id)) := by
  have hsublist : (t.records.filter (isExpired now span)).Sublist t.records := List.filter_sublist
  rw [takeExpired_eq]
  rw [takeEach_records h (fun r hr => hsublist.subset hr) (h.keyed.sublist (hsublist.map _))]
  congr 2
  apply List.filter_congr
  intro s hs
  -- A record has the id of an expired one only if it is this record.
  have hsame : s.id ∈ (t.records.filter (isExpired now span)).map (·.id)
      ↔ isExpired now span s = true := by
    constructor
    . intro hid
      obtain ⟨r, hr, hid⟩ := List.mem_map.mp hid
      rw [← List.inj_on_of_nodup_map h.keyed (hsublist.subset hr) hs hid]
      exact (List.mem_filter.mp hr).2
    . intro hexpired
      exact List.mem_map.mpr ⟨s, List.mem_filter.mpr ⟨hs, hexpired⟩, rfl⟩
  rw [decide_not, Bool.not_inj_iff, Bool.eq_iff_iff, decide_eq_true_iff]
  exact hsame.symm

end PendingTable

namespace Client

variable {c : Client} {n : Nat}

theorem table_eq_books (c : Client) (n : Nat)
    : c.table n = (c.books.tables[n]?).getD { closed := true } := by
  unfold table books session?
  rw [List.getElem?_map]

theorem table_setTable_ne {k : Nat} (hk : k ≠ n) (t : PendingTable)
    : (c.setTable n t).table k = c.table k := by
  rw [table_eq_books, table_eq_books c, books_setTable]
  dsimp only
  rw [List.getElem?_set_ne hk.symm]

theorem takeExpired_of_closed {t : PendingTable} (h : t.WellFormed) (hclosed : t.closed = true)
    (now span : Duration)
    : t.takeExpired now span = ([], t) := by
  have hempty := h.empty_of_closed hclosed
  cases t with
  | mk records closed =>
    cases hempty
    rfl

theorem takeExpired_spec (hwf : (c.table n).WellFormed) (timeout : Duration)
    : (c.takeExpired n timeout).1 = ((c.table n).takeExpired c.now timeout).1
      ∧ (c.takeExpired n timeout).2.table n = ((c.table n).takeExpired c.now timeout).2
      ∧ (c.takeExpired n timeout).2.now = c.now
      ∧ (c.takeExpired n timeout).2.ledger = c.ledger
      ∧ ∀ k ≠ n, (c.takeExpired n timeout).2.table k = c.table k := by
  cases hclosed : (c.table n).closed with
  | true =>
    rw [Move.takeExpired_of_shut hclosed, takeExpired_of_closed hwf hclosed]
    exact ⟨rfl, rfl, rfl, rfl, fun _ _ => rfl⟩
  | false =>
    obtain ⟨htaken, hcore⟩ := Move.takeExpired_of_open timeout hclosed
    have htable := table_of_core_eq hcore
    have hnow : (c.takeExpired n timeout).2.core.now = c.now := by
      rw [hcore]
      rfl
    refine ⟨htaken, ?_, hnow, (ledger_of_core_eq hcore).trans rfl, ?_⟩
    . cases hs : c.session? n with
      | none =>
        unfold table at hclosed
        rw [hs] at hclosed
        cases hclosed
      | some s =>
        have hlt := (List.getElem?_eq_some_iff.mp (tables_getElem? hs)).1
        rw [htable, table_eq_books, books_setTable]
        dsimp only
        rw [List.getElem?_set_self hlt]
        rfl
    . intro k hk
      rw [htable, table_setTable_ne hk]

end Client

namespace World

variable {w : World} {i n k call : Nat} {done rest : List Move} {m x : Move} {r : CallRecord}
variable {a : Act} {T : Task} {timeout : Duration} {settings : Settings} {acts : List Act}

theorem Sound.table_wellFormed (h : w.Sound) (n : Nat) : (w.client.table n).WellFormed := by
  rw [Client.table_eq_books]
  cases ht : w.client.books.tables[n]? with
  | none =>
    constructor
    . exact List.nodup_nil
    . exact fun _ => rfl
  | some t => exact h.tables.table ht

def Does (w : World) (i : Nat) (m : Move) : Prop := ∃ T, w.tasks[i]? = some T ∧ m ∈ T.moves

theorem does_advanced (hT : w.tasks[i]? = some ⟨done, m :: rest⟩) (h : w.Does k x)
    : (w.advanced i done m rest).Does k x := by
  obtain ⟨S, hk, hx⟩ := h
  obtain ⟨S', hk', hmoves, _⟩ := getElem?_advanced_of_old hT hk
  exact ⟨S', hk', hmoves hx⟩

theorem does_begun (h : w.Does k x) (m : Move) : (w.begun m).Does k x := by
  obtain ⟨S, hk, hx⟩ := h
  exact ⟨S, getElem?_begun_of_old hk m, hx⟩

theorem does_run (hs : w.Sound) (h : w.Does k x) (acts : List Act) : (w.run acts).Does k x := by
  apply hs.run_induction (P := fun w => w.Does k x) h
  . exact fun _ m _ h => does_begun h m
  . exact fun _ _ _ _ _ _ hT h => does_advanced hT h

theorem issues_iff : w.Issues i n r ↔ ∃ params, w.Does i (.register n r params) := by
  constructor
  . rintro ⟨T, hT, params, hreg⟩
    exact ⟨params, T, hT, hreg⟩
  . rintro ⟨params, T, hT, hreg⟩
    exact ⟨T, hT, params, hreg⟩

theorem issues_run (hs : w.Sound) (h : w.Issues i n r) (acts : List Act)
    : (w.run acts).Issues i n r := by
  obtain ⟨params, hreg⟩ := issues_iff.mp h
  exact issues_iff.mpr ⟨params, does_run hs hreg acts⟩

theorem asked_run (settings : Settings) (acts : List Act)
    (hr : ((start settings).run acts).Issues i n r)
    : ∃ params, ((start settings).run acts).Does i (.lookup r.method params r.decoder) := by
  have h : ((start settings).run acts).Orderly
      ∧ ∀ i n r, ((start settings).run acts).Issues i n r →
        ∃ params, ((start settings).run acts).Does i (.lookup r.method params r.decoder) := by
    apply (Sound.start settings).run_induction (P := fun w => w.Orderly ∧ ∀ i n r, w.Issues i n r →
      ∃ params, w.Does i (.lookup r.method params r.decoder))
    . refine ⟨.start settings, ?_⟩
      rintro i n r ⟨T, hT, _⟩
      simp [World.start] at hT
    . rintro w m hm ⟨ho, hasked⟩
      refine ⟨ho.begun hm, ?_⟩
      intro i n r hr
      obtain ⟨params, hlookup⟩ := hasked i n r (issues_of_begun hm hr)
      exact ⟨params, does_begun hlookup m⟩
    . rintro w i done m rest hs hT ⟨ho, hasked⟩
      refine ⟨ho.advanced hs hT, ?_⟩
      intro j n r hr
      rcases issues_advanced hs hT hr with hr | ⟨rfl, method, params, decoder, ids, rfl, _, rfl⟩
      . obtain ⟨params, hlookup⟩ := hasked j n r hr
        exact ⟨params, does_advanced hT hlookup⟩
      -- An id is drawn for a call only after its operation has found the session.
      . have hordered := ho.ordered _ (mem_tasks_of_getElem? hT)
        have hprepare : .prepare n method params decoder
            ∈ (Task.mk done (.prepare n method params decoder :: rest)).moves :=
          List.mem_append_right _ List.mem_cons_self
        obtain ⟨y, hy, hfollows⟩ := hordered.followed _ hprepare 0 rfl
        cases hfollows
        refine ⟨params, does_advanced hT ⟨_, hT, List.mem_append_left _ hy⟩⟩
  exact h.2 i n r hr

structure FindsOverdue (w : World) (a : Act) (n : Nat) (timeout : Duration) (r : CallRecord) :
    Prop where
  move : w.move? a = some (.sweep n)
  waiting : r ∈ (w.client.table n).records
  unanswered : w.client.ledger.outcome? r.call = none
  overdue : PendingTable.Overdue w.client.now timeout r

/--
The call of a record times out in a run, and for good: a sweep finds the record overdue, and the
operation of the sweep goes on to fail the call.
-/
def TimesOut (settings : Settings) (acts : List Act) (n : Nat) (timeout : Duration)
    (r : CallRecord) : Prop :=
  ∃ pre a mid post, acts = pre ++ a :: mid ++ a :: post
    ∧ ((start settings).run pre).FindsOverdue a n timeout r
    ∧ ((start settings).run (pre ++ a :: mid)).move? a
        = some (.dispose n (.fail (.requestTimeout r.method timeout)) r)
    ∧ ∀ later, ((start settings).run (pre ++ a :: mid ++ a :: later)).client.ledger.outcome? r.call
        = some (.error (.requestTimeout r.method timeout))

structure Sweeps (w : World) (i n : Nat) (timeout : Duration) (taken : List CallRecord) :
    Prop where
  table : (w.client.table n).Parts (PendingTable.Overdue w.client.now timeout) taken
    ((w.act (.advance i)).client.table n)
  now : (w.act (.advance i)).client.now = w.client.now
  ledger : (w.act (.advance i)).client.ledger = w.client.ledger
  elsewhere : ∀ k ≠ n, (w.act (.advance i)).client.table k = w.client.table k
  next : w.next (.sweep n)
    = Move.disposals n (fun r => .fail (.requestTimeout r.method timeout)) taken
  failed : ∀ r ∈ taken, ∀ later,
    let v := (w.act (.advance i)).run later
    (v.Disposes i n (.fail (.requestTimeout r.method timeout)) r
        ∧ v.client.ledger.outcome? r.call = none)
      ∨ v.client.ledger.outcome? r.call = some (.error (.requestTimeout r.method timeout))

theorem Sound.pending_of_disposes (h : w.Sound) {d : Disposal} (hr : w.Disposes i n d r)
    : w.client.ledger.outcome? r.call = none := by
  obtain ⟨T, hT, hx, _⟩ := hr
  apply h.pending (n := n)
  exact .inr ⟨T, mem_tasks_of_getElem? hT, _, hx, rfl, List.mem_singleton_self r⟩

theorem Sound.disposes_later (h : w.Sound) {d : Disposal} (hr : w.Disposes i n d r)
    (later : List Act)
    : ((w.run later).Disposes i n d r ∧ (w.run later).client.ledger.outcome? r.call = none)
        ∨ (w.run later).client.ledger.outcome? r.call = some (r.outcome d) := by
  induction later generalizing w with
  | nil => exact .inl ⟨hr, h.pending_of_disposes hr⟩
  | cons a later ih =>
    rcases hr.act a with hr | ⟨rfl, done, rest, hT, hact⟩
    . exact ih (h.act a) hr
    . apply Or.inr
      apply (h.act (.advance i)).keeps_run later
      rw [hact]
      exact h.outcome_of_dispose hT

theorem Sound.sweeps (h : w.Sound) (htimeout : w.client.settings.requestTimeout = some timeout)
    (hmove : w.move? (.advance i) = some (.sweep n))
    : ∃ taken, w.Sweeps i n timeout taken := by
  obtain ⟨done, rest, hT, hact⟩ := advance_of_move hmove
  have hrun := Move.run_sweep_of_some (n := n) htimeout
  have hclient : (w.act (.advance i)).client = (w.client.takeExpired n timeout).2 := by
    rw [hact, World.advanced, hrun]
  obtain ⟨htaken, htable, hnow, hledger, helsewhere⟩ :=
    Client.takeExpired_spec (h.table_wellFormed n) timeout
  have hnext : w.next (.sweep n) = Move.disposals n
      (fun r => .fail (.requestTimeout r.method timeout)) (w.client.takeExpired n timeout).1 := by
    unfold next
    rw [hrun]
  have hparts := (w.client.table n).parts_takeExpired w.client.now timeout
  rw [← htaken, ← htable, ← hclient] at hparts
  refine ⟨(w.client.takeExpired n timeout).1, ?_⟩
  constructor
  . exact hparts
  . rw [hclient]
    exact hnow
  . rw [hclient]
    exact hledger
  . intro k hk
    rw [hclient]
    exact helsewhere k hk
  . exact hnext
  . intro r hr
    have hx : .dispose n (.fail (.requestTimeout r.method timeout)) r ∈ w.next (.sweep n) := by
      rw [hnext]
      exact List.mem_map_of_mem hr
    apply (h.act (.advance i)).disposes_later
    rw [hact]
    refine ⟨_, getElem?_advanced_self hT, List.mem_append_left _ hx, h.grounds_of_next hT hx, ?_⟩
    refine .inl (List.any_eq_true.mpr ⟨.sweep n, ?_, decide_eq_true rfl⟩)
    exact List.mem_append_left _ List.mem_cons_self

theorem Sound.findsOverdue_of_next (h : w.Sound) (hT : w.tasks[i]? = some ⟨done, m :: rest⟩)
    {method : String} {span : Duration}
    (hx : .dispose n (.fail (.requestTimeout method span)) r ∈ w.next m)
    : w.client.settings.requestTimeout = some span ∧ method = r.method
        ∧ w.FindsOverdue (.advance i) n span r := by
  have hcarries : (Move.dispose n (.fail (.requestTimeout method span)) r).Carries n r :=
    ⟨rfl, List.mem_singleton_self r⟩
  have horigin := (h.effect hT).origin_of_carries h.tables ⟨_, hx, hcarries⟩
  have hwarrants := (h.effect hT).warrants hx
  generalize hd : Disposal.fail (.requestTimeout method span) = d at hwarrants
  cases hwarrants with
  | @answered f x _ _ =>
    have ho : x.outcome r.method r.decoder = .error (.requestTimeout method span) := by
      rw [← CallRecord.outcome_disposal, ← hd]
      rfl
    exact absurd ho x.outcome_ne_timeout
  | expired htimeout hoverdue =>
    cases hd
    rcases horigin with ⟨hsession, _⟩ | hholds | ⟨_, _, _, _, hm, _⟩
    . cases hsession
    . refine ⟨htimeout, rfl, move?_of_getElem? hT, ?_, h.pending (.inl hholds), hoverdue⟩
      obtain ⟨t, ht, hmem⟩ := hholds
      rw [Client.table_of_tables ht]
      exact hmem
    . cases hm
  | ended | unsent | refused | duplicate => cases hd

/-- An operation that fails a call for its age, or is about to, has found it overdue before. -/
theorem foundOverdue_run {method : String} {span : Duration} (acts : List Act)
    (hT : ((start settings).run acts).tasks[i]? = some T)
    (hx : .dispose n (.fail (.requestTimeout method span)) r ∈ T.moves)
    : settings.requestTimeout = some span ∧ method = r.method
        ∧ ∃ pre mid, acts = pre ++ .advance i :: mid
          ∧ ((start settings).run pre).FindsOverdue (.advance i) n span r := by
  induction acts using List.reverseRecOn generalizing T with
  | nil => simp [run, start] at hT
  | append_singleton acts a ih =>
    rw [run_concat] at hT
    rcases moves_act hT hx with ⟨S, hS, hx, _⟩ | hfirst | ⟨rfl, done, m, rest, hT, hx, _⟩
    . obtain ⟨hspan, hmethod, pre, mid, rfl, hfinds⟩ := ih hS hx
      exact ⟨hspan, hmethod, pre, mid ++ [a], List.append_assoc pre _ _, hfinds⟩
    . cases hfirst
    . have hs := (Sound.start settings).run acts
      obtain ⟨hspan, hmethod, hfinds⟩ := hs.findsOverdue_of_next hT hx
      rw [settings_run] at hspan
      exact ⟨hspan, hmethod, acts, [], rfl, hfinds⟩

theorem timesOut_of_outcome (htimeout : settings.requestTimeout = some timeout)
    (hr : ((start settings).run acts).Issues i n r) {method : String} {span : Duration}
    (ho : ((start settings).run acts).client.ledger.outcome? r.call
      = some (.error (.requestTimeout method span)))
    : method = r.method ∧ span = timeout ∧ TimesOut settings acts n timeout r := by
  have hs := (Sound.start settings).run acts
  obtain ⟨T, hT, params, hreg⟩ := hr
  have hissued : ((start settings).run acts).Issued n r :=
    ⟨T, mem_tasks_of_getElem? hT, params, hreg⟩
  rcases waits_of_issued acts hissued with hwaits | hsettled
  . rw [hs.pending hwaits] at ho
    cases ho
  . obtain ⟨pre, a, post, o, rfl, _, ⟨j, done, d, rest, rfl, hj, hgrounds, rfl⟩, hlater⟩ := hsettled
    rw [hlater post] at ho
    have hd : d = .fail (.requestTimeout method span) := by
      obtain ⟨m, _, hwarrants⟩ := hgrounds
      cases hwarrants with
      | @answered f x _ _ =>
        rw [CallRecord.outcome_disposal] at ho
        exact absurd (Option.some.inj ho) x.outcome_ne_timeout
      | expired =>
        cases ho
        rfl
      | _ => cases ho
    subst hd
    obtain ⟨hspan, rfl, before, mid, rfl, hfinds⟩ := foundOverdue_run pre hj
      (List.mem_append_right _ List.mem_cons_self)
    rw [htimeout] at hspan
    cases hspan
    exact ⟨rfl, rfl, before, .advance j, mid, post, rfl, hfinds, move?_of_getElem? hj, hlater⟩

theorem Orderly.dropped_of_late_reply (h : w.Orderly) (hs : w.Sound) {f : String} {x : Response}
    (hr : w.Issues i n r)
    (hover : w.client.ledger.outcome? r.call ≠ none ∨ ∃ j d, w.Disposes j n d r)
    (hmove : w.move? a = some (.event n (.frame f)))
    (hdec : w.client.frameDecoder.decodeResponse f = .ok x) (hid : x.id = r.id)
    : ((w.act a).client.core = w.client.core ∧ w.next (.event n (.frame f)) = [])
      ∨ (∃ s ∈ (w.client.table n).records, s.id = x.id) ∧ 2 ^ 64 < w.drawn n := by
  have hgone : ∀ s ∈ (w.client.table n).records, r.call ≠ s.call := by
    intro s hmem hcall
    rcases hover with ho | ⟨j, d, T, hT, hx, _⟩
    . rw [hcall, hs.pending (.inl (holds_of_mem_table hmem))] at ho
      exact ho rfl
    . exact hs.call_ne (mem_tasks_of_getElem? hT) hx ⟨rfl, List.mem_singleton_self r⟩
        (holds_of_mem_table hmem) hcall
  exact (h.unknown_of_issued hr hid hgone).imp_left (dropped_of_unknown hmove hdec)

/--
A sweep of a table takes out the records that are overdue, each once, and leaves the others where they
are. Let any number of operations go on move by move, in any order, with sweeps at any times. A call
has timed out only if a sweep found its record unanswered and overdue, and then with its own method,
the timeout of the settings, and for good. A sweep takes the records that are overdue, and no others,
and none of these remains; it goes on to fail their calls. A call keeps its outcome. A reply to a call
that has its outcome, or whose record an operation has taken, does nothing, unless the ids of the
session have come round since and another call waits under its id.
-/
theorem overdue_calls_expire (settings : Settings) (timeout : Duration)
    (htimeout : settings.requestTimeout = some timeout) (acts : List Act)
    : let w := (start settings).run acts
      (∀ (t : PendingTable) (now span : Duration),
          t.Parts (PendingTable.Overdue now span) (t.takeExpired now span).1
              (t.takeExpired now span).2
            ∧ (t.WellFormed → t.takeExpired now span
                = t.takeEach ((t.records.filter (PendingTable.isExpired now span)).map (·.id))))
        ∧ (∀ call method span,
            w.client.ledger.outcome? call = some (.error (.requestTimeout method span)) →
            span = timeout ∧ ∃ i n r params, r.call = call ∧ r.method = method
              ∧ w.Issues i n r ∧ w.Does i (.lookup method params r.decoder)
              ∧ TimesOut settings acts n timeout r)
        ∧ (∀ i n, w.move? (.advance i) = some (.sweep n) →
            (∃ taken, w.Sweeps i n timeout taken)
              ∧ ∀ r ∈ ((w.act (.advance i)).client.table n).records,
                ¬PendingTable.Overdue (w.act (.advance i)).client.now timeout r)
        ∧ (∀ call o, w.client.ledger.outcome? call = some o →
            ∀ later, (w.run later).client.ledger.outcome? call = some o)
        ∧ ∀ i n r, w.Issues i n r →
            w.client.ledger.outcome? r.call ≠ none ∨ (∃ j d, w.Disposes j n d r) →
            ∀ a f x, w.move? a = some (.event n (.frame f)) →
              w.client.frameDecoder.decodeResponse f = .ok x → x.id = r.id →
              ((w.act a).client.core = w.client.core ∧ w.next (.event n (.frame f)) = [])
                ∨ (∃ s ∈ (w.client.table n).records, s.id = x.id) ∧ 2 ^ 64 < w.drawn n := by
  intro w
  have hs : w.Sound := (Sound.start settings).run acts
  have ho : w.Orderly := (Orderly.start settings).run (.start settings) acts
  have hgranted : w.client.settings.requestTimeout = some timeout := by
    rw [settings_run, htimeout]
  refine ⟨?_, ?_, ?_, ?_, ?_⟩
  . intro t now span
    exact ⟨t.parts_takeExpired now span, fun h => PendingTable.takeExpired_eq_takeEach h now span⟩
  . intro call method span hout
    rcases recorded_run settings acts (Ledger.lt_length_of_outcome? hout) with
      ⟨i, n, r, hr, rfl⟩ | hfailed
    . obtain ⟨rfl, rfl, htimes⟩ := timesOut_of_outcome htimeout hr hout
      obtain ⟨params, hlookup⟩ := asked_run settings acts hr
      exact ⟨rfl, i, n, r, params, rfl, rfl, hr, hlookup, htimes⟩
    . rw [hfailed] at hout
      cases hout
  . intro i n hmove
    obtain ⟨taken, hsweeps⟩ := hs.sweeps hgranted hmove
    refine ⟨⟨taken, hsweeps⟩, ?_⟩
    rw [hsweeps.now]
    exact hsweeps.table.stayed
  . exact fun call o hout later => hs.keeps_run later _ _ hout
  . intro i n r hr hover a f x hmove hdec hid
    exact ho.dropped_of_late_reply hs hr hover hmove hdec hid

def isTimeout (method : String) (span : Duration) : Outcome → Bool
  | .error (.requestTimeout m s) => m = method && s = span
  | _ => false

theorem outcome?_of_isTimeout {l : Ledger} {method : String} {span : Duration}
    (h : (l.outcome? call).any (isTimeout method span) = true)
    : l.outcome? call = some (.error (.requestTimeout method span)) := by
  obtain ⟨o, ho, hspan⟩ := (Option.any_eq_true _ _).mp h
  rw [ho]
  unfold isTimeout at hspan
  split at hspan
  . simp only [Bool.and_eq_true, decide_eq_true_eq] at hspan
    rw [hspan.1, hspan.2]
  . cases hspan

def registersCall (call : Nat) (id : String) : Move → Bool
  | .register 0 r _ => r.call = call && r.id = id
  | _ => false

theorem issues_of_registersCall {id : String}
    (h : (w.tasks[i]?).any (fun T => T.moves.any (registersCall call id)) = true)
    : ∃ r, w.Issues i 0 r ∧ r.call = call ∧ r.id = id := by
  obtain ⟨T, hT, hmoves⟩ := (Option.any_eq_true _ _).mp h
  obtain ⟨m, hm, hreg⟩ := List.any_eq_true.mp hmoves
  unfold registersCall at hreg
  split at hreg
  . next r params =>
    simp only [Bool.and_eq_true, decide_eq_true_eq] at hreg
    exact ⟨r, ⟨T, hT, params, hm⟩, hreg⟩
  . cases hreg

/-- Two calls wait, and a sweep finds that one has waited for too long. Then its reply comes in. -/
theorem overdue_calls_expire_older
    : let timeout : Duration := .ofSecs 1
      let settings : Settings := { url := "ws://a", requestTimeout := some timeout }
      let net : Network :=
        { reachable := true, hosts := ["a"], port := 80, reception := .plain }
      let f := "\x7b\"id\":\"1\",\"result\":null\x7d"
      let acts : List Act := [
        .begin (.connect (.ofSecs 15) net {}),
        .advance 0, .advance 0, .advance 0, .advance 0, .advance 0, .advance 0,
        .begin (.lookup "version" [] Decoding.raw.decoder),
        .advance 1, .advance 1, .advance 1, .advance 1,
        .begin (.elapse (.ofMillis 600)), .advance 2,
        .begin (.lookup "ping" [] Decoding.nothing.decoder),
        .advance 3, .advance 3, .advance 3, .advance 3,
        .begin (.elapse (.ofMillis 400)), .advance 4,
        .begin (.sweep 0), .advance 5, .advance 5,
        .begin (.event 0 (.frame f))]
      let w := (start settings).run acts
      settings.requestTimeout = some timeout
        ∧ (w.client.table 0).records.map (·.id) = ["2"]
        ∧ (∃ n r, r.call = 0 ∧ r.method = "version" ∧ TimesOut settings acts n timeout r)
        ∧ (w.act (.advance 6)).client.core = w.client.core
        ∧ w.next (.event 0 (.frame f)) = [] := by
  intro timeout settings net f acts w
  have htable : (w.client.table 0).records.map (·.id) = ["2"] := by decide +kernel
  have hout : (w.client.ledger.outcome? 0).any (isTimeout "version" timeout) = true := by
    decide +kernel
  have hcall : (w.tasks[1]?).any (fun T => T.moves.any (registersCall 0 "1")) = true := by
    decide +kernel
  have hmove : (w.move? (.advance 6)).any (takesFrame f) = true := by decide +kernel
  have hread : FrameDecoder.decodeResponse {} "\x7b\"id\":\"1\",\"result\":null\x7d"
      = .ok { id := "1" } := by
    decide +kernel
  have hdecoder : w.client.frameDecoder = {} := by decide +kernel
  have ho := outcome?_of_isTimeout hout
  obtain ⟨r, hr, hcall, hid⟩ := issues_of_registersCall hcall
  obtain ⟨_, htimes, _, _, hlate⟩ := overdue_calls_expire settings timeout rfl acts
  obtain ⟨_, i, n, s, _, hs, hmethod, _, _, hs'⟩ := htimes 0 _ _ ho
  refine ⟨rfl, htable, ⟨n, s, hs, hmethod, hs'⟩, ?_⟩
  have hover : w.client.ledger.outcome? r.call ≠ none := by
    rw [hcall, ho]
    exact Option.some_ne_none _
  have hdropped := hlate 1 0 r hr (.inl hover)
  have hfew : w.drawn 0 ≤ 2 ^ 64 := by decide +kernel
  apply (hdropped _ f { id := "1" } (move?_of_takesFrame hmove) _ hid.symm).resolve_right
  . exact fun hround => Nat.not_lt.mpr hfew hround.2
  . rw [hdecoder]
    exact hread

end World
end CallWire
