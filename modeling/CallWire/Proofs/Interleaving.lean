import CallWire.Proofs.Flow
import CallWire.Proofs.Ids
import CallWire.Proofs.Slot

/-!
This module contains clients that any number of operations work on at once. The operations go on
move by move, in any order, and nothing of what is known of the books depends on the order.
-/

namespace CallWire

namespace Move

def isFirst : Move → Bool
  | .lookup _ _ _ | .event _ _ | .hangUp _ | .sweep _ | .disconnect | .connect _ _ _ | .drop => true
  | .stopWriting | .elapse _ | .forget _ => true
  | _ => false

variable {c : Client} {m : Move} {n generation : Nat}

theorem held_of_isFirst (hm : m.isFirst = true) : m.held = [] := by
  cases m <;> simp [isFirst, held] at hm ⊢

theorem startSession_of_publish (hx : .publish n ∈ (m.run c).1)
    : ∃ generation, m = .startSession generation := by
  cases yields_of_mem_run hx
  exact ⟨_, rfl⟩

theorem mem_run_startSession
    : .publish n ∈ ((startSession generation).run c).1 ↔ n = c.books.tables.length := by
  rw [Client.length_tables]
  unfold run Client.addSession
  simp

end Move

/-- An operation: the moves that it has made, the newest first, and those that it goes on with. -/
structure Task where
  done : List Move := []
  todo : List Move

namespace Task

def moves (T : Task) : List Move := T.done ++ T.todo

def hasReturned (T : Task) : Bool := T.todo.isEmpty

def callsThrough (T : Task) (n : Nat) : Bool := T.moves.any (·.draws n)

def ends (T : Task) (n : Nat) : Bool := T.moves.any (·.closes n)

def takes (T : Task) (n : Nat) : Bool := T.moves.any (·.takes n)

def concerns (T : Task) (n : Nat) : Bool := T.moves.any (·.concerns n)

theorem concerns_iff {T : Task} {n : Nat}
    : T.concerns n = true ↔ T.callsThrough n = true ∨ T.ends n = true ∨ T.takes n = true := by
  simp only [concerns, callsThrough, ends, takes, List.any_eq_true, Move.concerns, Bool.or_eq_true,
    and_or_left, exists_or, or_assoc]

end Task

/-- A client and the operations that work on it. -/
structure World where
  client : Client
  tasks : List Task := []

/-- What happens next: an operation begins, or one of those that have begun makes its next move. -/
inductive Act where
  | begin (m : Move)
  | advance (i : Nat)

namespace World

def start (settings : Settings) : World := { client := { settings } }

def move? (w : World) : Act → Option Move
  | .begin _ => none
  | .advance i => (w.tasks[i]?).bind (·.todo.head?)

def advanced (w : World) (i : Nat) (done : List Move) (m : Move) (rest : List Move) : World where
  client := (m.run w.client).2
  tasks := w.tasks.set i { done := m :: done, todo := (m.run w.client).1 ++ rest }

def begun (w : World) (m : Move) : World := { w with tasks := w.tasks ++ [{ todo := [m] }] }

def act (w : World) : Act → World
  | .begin m => if m.isFirst then w.begun m else w
  | .advance i =>
    match w.tasks[i]? with
    | some { done, todo := m :: rest } => w.advanced i done m rest
    | _ => w

def run (w : World) (acts : List Act) : World := acts.foldl act w

def held (w : World) : List CallRecord := w.tasks.flatMap (·.todo.flatMap Move.held)

def drawn (w : World) (n : Nat) : Nat := (w.tasks.flatMap Task.done).countP (·.draws n)

def Waits (w : World) (n : Nat) (r : CallRecord) : Prop :=
  w.client.books.Holds n r ∨ ∃ T ∈ w.tasks, ∃ m ∈ T.todo, m.Carries n r

def Issued (w : World) (n : Nat) (r : CallRecord) : Prop :=
  ∃ T ∈ w.tasks, ∃ params, .register n r params ∈ T.moves

end World

namespace Task

structure Sound (T : Task) (b : Books) : Prop where
  known : ∀ m ∈ T.moves, ∀ n, m.session? = some n → n < b.tables.length
  owned : ∀ m ∈ T.todo, ∀ n, m.session? = some n → T.concerns n = true
  entering : ∀ n, .publish n ∈ T.todo → n < b.tables.length
  closed : ∀ n, .close n ∈ T.done → ∃ t, b.tables[n]? = some t ∧ t.closed = true
  made : ∀ m ∈ T.done, ∀ n, m.draws n = true → ∃ r params, .register n r params ∈ T.moves

end Task

/-- What is true of a client that operations work on, in whatever order their moves are made. -/
structure World.Sound (w : World) : Prop where
  tables : w.client.books.WellFormed
  slot : ∀ n, w.client.slot = some n → n < w.client.books.tables.length
  accounts : w.client.ledger.Accounts (w.held ++ w.client.books.waiting) []
  tasks : ∀ T ∈ w.tasks, T.Sound w.client.books
  counters : ∀ n ids, w.client.books.counters[n]? = some ids → ids = CallIds.after (w.drawn n)
  numbered : ∀ n r, w.Waits n r → ∃ k < w.drawn n, r.id = (CallIds.after k).draw.1
  apart : ∀ n r r', w.Waits n r → w.Waits n r' → r.call ≠ r'.call → r.id = r'.id →
    2 ^ 64 < w.drawn n

namespace World

variable {w : World} {i n : Nat} {done rest : List Move} {m : Move} {r : CallRecord} {T : Task}

abbrev next (w : World) (m : Move) : List Move := (m.run w.client).1

theorem mem_tasks_of_getElem? (hT : w.tasks[i]? = some T) : T ∈ w.tasks := List.mem_of_getElem? hT

theorem Sound.known_session (h : w.Sound) (hT : T ∈ w.tasks) (hm : m ∈ T.moves)
    : ∀ n, m.session? = some n → ∃ s, w.client.session? n = some s := by
  intro n hn
  have hlt := (h.tasks T hT).known m hm n hn
  unfold Client.books at hlt
  rw [List.length_map] at hlt
  exact ⟨_, List.getElem?_eq_getElem hlt⟩

theorem Sound.effect (h : w.Sound) (hT : w.tasks[i]? = some ⟨done, m :: rest⟩)
    : m.Effect w.client (w.next m) (w.advanced i done m rest).client.books := by
  apply Move.effect_run
  apply h.known_session (mem_tasks_of_getElem? hT)
  exact List.mem_append_right _ List.mem_cons_self

theorem held_perm (hT : w.tasks[i]? = some ⟨done, m :: rest⟩)
    : ∃ others, w.held.Perm (m.held ++ others)
        ∧ (w.advanced i done m rest).held.Perm ((w.next m).flatMap Move.held ++ others) := by
  obtain ⟨others, hold, hnew⟩ :=
    Books.flatMap_set_perm (f := fun T : Task => T.todo.flatMap Move.held) hT
  refine ⟨rest.flatMap Move.held ++ others, ?_, ?_⟩
  . rw [← List.append_assoc]
    exact hold
  . rw [← List.append_assoc]
    have := hnew ⟨m :: done, w.next m ++ rest⟩
    rw [List.flatMap_append] at this
    exact this

theorem Sound.accounts_effect (h : w.Sound) (hT : w.tasks[i]? = some ⟨done, m :: rest⟩)
    : ∃ others,
        w.client.ledger.Accounts (m.held ++ (w.client.books.waiting ++ others)) []
        ∧ ((w.next m).flatMap Move.held
            ++ ((w.advanced i done m rest).client.books.waiting ++ others)).Perm
          ((w.advanced i done m rest).held
            ++ (w.advanced i done m rest).client.books.waiting) := by
  obtain ⟨others, hold, hnew⟩ := held_perm hT
  refine ⟨others, h.accounts.perm ?_, ?_⟩
  . apply (hold.append_right _).trans
    rw [List.append_assoc]
    exact List.perm_append_comm.append_left _
  . apply List.Perm.symm
    apply (hnew.append_right _).trans
    rw [List.append_assoc]
    exact List.perm_append_comm.append_left _

theorem Sound.accounts_advanced (h : w.Sound) (hT : w.tasks[i]? = some ⟨done, m :: rest⟩)
    : (w.advanced i done m rest).client.ledger.Accounts
        ((w.advanced i done m rest).held ++ (w.advanced i done m rest).client.books.waiting) []
      ∧ w.client.ledger.Keeps (w.advanced i done m rest).client.ledger := by
  obtain ⟨others, hacc, hperm⟩ := h.accounts_effect hT
  obtain ⟨hacc, hkeeps⟩ := (h.effect hT).accounts h.tables hacc
  exact ⟨hacc.perm hperm, hkeeps⟩

theorem mem_tasks_advanced (hT : T ∈ (w.advanced i done m rest).tasks)
    : T = ⟨m :: done, w.next m ++ rest⟩ ∨ T ∈ w.tasks := by
  rcases List.mem_or_eq_of_mem_set hT with hT | hT
  . exact .inr hT
  . exact .inl hT

theorem getElem?_advanced_self (hT : w.tasks[i]? = some ⟨done, m :: rest⟩)
    : (w.advanced i done m rest).tasks[i]? = some ⟨m :: done, w.next m ++ rest⟩ := by
  exact List.getElem?_set_self (List.getElem?_eq_some_iff.mp hT).1

theorem getElem?_advanced_ne {j : Nat} (hij : i ≠ j)
    : (w.advanced i done m rest).tasks[j]? = w.tasks[j]? := by
  exact List.getElem?_set_ne hij

theorem drawn_advanced (hT : w.tasks[i]? = some ⟨done, m :: rest⟩) (n : Nat)
    : (w.advanced i done m rest).drawn n = w.drawn n + if m.draws n then 1 else 0 := by
  obtain ⟨others, hold, hnew⟩ := Books.flatMap_set_perm (f := Task.done) hT
  unfold drawn advanced
  rw [hold.countP_eq, (hnew _).countP_eq]
  rw [List.countP_append, List.countP_append, List.countP_cons]
  dsimp only
  omega

theorem drawn_le_advanced (hT : w.tasks[i]? = some ⟨done, m :: rest⟩) (n : Nat)
    : w.drawn n ≤ (w.advanced i done m rest).drawn n := by
  rw [drawn_advanced hT]
  omega

theorem Sound.waits_of_advanced (h : w.Sound) (hT : w.tasks[i]? = some ⟨done, m :: rest⟩)
    (hr : (w.advanced i done m rest).Waits n r)
    : w.Waits n r ∨ m.Makes w.client n r := by
  have hold := mem_tasks_of_getElem? hT
  have horigin : (∃ x ∈ w.next m, x.Carries n r)
      ∨ (w.advanced i done m rest).client.books.Holds n r →
      w.Waits n r ∨ m.Makes w.client n r := by
    intro hr
    rcases (h.effect hT).origin h.tables hr with hcarries | hholds | hmakes
    . exact .inl (.inr ⟨_, hold, m, List.mem_cons_self, hcarries⟩)
    . exact .inl (.inl hholds)
    . exact .inr hmakes
  rcases hr with hholds | ⟨T, hT', x, hx, hcarries⟩
  . exact horigin (.inr hholds)
  . rcases mem_tasks_advanced hT' with rfl | hT'
    . rcases List.mem_append.mp hx with hx | hx
      . exact horigin (.inl ⟨x, hx, hcarries⟩)
      . exact .inl (.inr ⟨_, hold, x, List.mem_cons_of_mem _ hx, hcarries⟩)
    . exact .inl (.inr ⟨T, hT', x, hx, hcarries⟩)

theorem Sound.waits_advanced (h : w.Sound) (hT : w.tasks[i]? = some ⟨done, m :: rest⟩)
    (hr : w.Waits n r)
    : (w.advanced i done m rest).Waits n r
      ∨ ∃ d, m = .dispose n d r
          ∧ (w.advanced i done m rest).client.ledger.outcome? r.call = some (r.outcome d) := by
  have hlt := (List.getElem?_eq_some_iff.mp hT).1
  have hnew : ⟨m :: done, w.next m ++ rest⟩ ∈ (w.advanced i done m rest).tasks :=
    List.mem_of_getElem? (List.getElem?_set_self hlt)
  obtain ⟨others, hacc, _⟩ := h.accounts_effect hT
  rcases hr with hholds | ⟨T, hT', x, hx, hcarries⟩
  . rcases (h.effect hT).fate_of_holds h.tables hholds with ⟨x, hx, hcarries⟩ | hholds
    . exact .inl (.inr ⟨_, hnew, x, List.mem_append_left _ hx, hcarries⟩)
    . exact .inl (.inl hholds)
  . obtain ⟨j, hj⟩ := List.mem_iff_getElem?.mp hT'
    by_cases hij : i = j
    . subst hij
      rw [hT] at hj
      cases hj
      rcases List.mem_cons.mp hx with rfl | hx
      . rcases (h.effect hT).fate_of_carries hacc hcarries with
          ⟨x, hx, hcarries⟩ | hholds | hdisposed
        . exact .inl (.inr ⟨_, hnew, x, List.mem_append_left _ hx, hcarries⟩)
        . exact .inl (.inl hholds)
        . exact .inr hdisposed
      . exact .inl (.inr ⟨_, hnew, x, List.mem_append_right _ hx, hcarries⟩)
    . refine .inl (.inr ⟨T, ?_, x, hx, hcarries⟩)
      apply List.mem_of_getElem? (i := j)
      unfold advanced
      dsimp
      rw [List.getElem?_set_ne hij]
      exact hj

theorem Sound.length_le (h : w.Sound) (hT : w.tasks[i]? = some ⟨done, m :: rest⟩)
    : w.client.books.tables.length ≤ (w.advanced i done m rest).client.books.tables.length := by
  exact (h.effect hT).length_le.1

theorem Sound.slot_advanced (h : w.Sound) (hT : w.tasks[i]? = some ⟨done, m :: rest⟩)
    (hslot : (w.advanced i done m rest).client.slot = some n)
    : n < (w.advanced i done m rest).client.books.tables.length := by
  have hle := h.length_le hT
  rcases m.slot_run w.client with hsame | hnone | ⟨k, rfl, hentered⟩
  . unfold advanced at hslot
    rw [hsame] at hslot
    have := h.slot n hslot
    omega
  . unfold advanced at hslot
    rw [hnone] at hslot
    simp at hslot
  . unfold advanced at hslot
    rw [hentered] at hslot
    cases hslot
    have := (h.tasks _ (mem_tasks_of_getElem? hT)).entering n List.mem_cons_self
    omega

theorem Sound.drawn_eq_zero (h : w.Sound) (hn : w.client.books.tables.length ≤ n)
    : w.drawn n = 0 := by
  unfold drawn
  rw [List.countP_eq_zero]
  intro m hm hdraws
  obtain ⟨T, hT, hm⟩ := List.mem_flatMap.mp hm
  have := (h.tasks T hT).known m (List.mem_append_left _ hm) n (Move.session?_of_draws hdraws)
  omega

theorem Sound.counters_advanced (h : w.Sound) (hT : w.tasks[i]? = some ⟨done, m :: rest⟩)
    {ids : CallIds} (hids : (w.advanced i done m rest).client.books.counters[n]? = some ids)
    : ids = CallIds.after ((w.advanced i done m rest).drawn n) := by
  rw [drawn_advanced hT]
  rcases (h.effect hT).counters hids with ⟨old, hold, hdraw⟩ | ⟨hfresh, hnew, hdraw⟩
  . rw [h.counters n old hold] at hdraw
    rw [hdraw]
    split
    . exact CallIds.draw_after _
    . rfl
  . rw [Client.length_counters] at hfresh
    rw [h.drawn_eq_zero (Nat.le_of_eq hfresh.symm), hdraw, hnew]
    rfl

theorem Sound.id_of_makes (h : w.Sound) (hmakes : m.Makes w.client n r)
    : r.id = (CallIds.after (w.drawn n)).draw.1 ∧ m.draws n = true := by
  obtain ⟨method, params, decoder, ids, rfl, hids, rfl⟩ := hmakes
  rw [← h.counters n ids hids]
  exact ⟨rfl, decide_eq_true rfl⟩

section Numbering

/-! The records of a session are numbered as they are made, whichever of them are looked at. -/

variable {old new : CallRecord → Prop}

theorem Sound.numbered_of_origin (h : w.Sound) (hT : w.tasks[i]? = some ⟨done, m :: rest⟩)
    (hnumbered : ∀ r, old r → ∃ k < w.drawn n, r.id = (CallIds.after k).draw.1)
    (horigin : ∀ r, new r → old r ∨ m.Makes w.client n r) (hr : new r)
    : ∃ k < (w.advanced i done m rest).drawn n, r.id = (CallIds.after k).draw.1 := by
  rcases horigin r hr with hr | hmakes
  . obtain ⟨k, hk, hid⟩ := hnumbered r hr
    exact ⟨k, Nat.lt_of_lt_of_le hk (drawn_le_advanced hT n), hid⟩
  . obtain ⟨hid, hdraws⟩ := h.id_of_makes hmakes
    refine ⟨w.drawn n, ?_, hid⟩
    rw [drawn_advanced hT, hdraws]
    exact Nat.lt_succ_self _

theorem Sound.apart_of_origin (h : w.Sound) (hT : w.tasks[i]? = some ⟨done, m :: rest⟩)
    (hnumbered : ∀ r, old r → ∃ k < w.drawn n, r.id = (CallIds.after k).draw.1)
    (hapart : ∀ r r', old r → old r' → r.call ≠ r'.call → r.id = r'.id → 2 ^ 64 < w.drawn n)
    (horigin : ∀ r, new r → old r ∨ m.Makes w.client n r) {r' : CallRecord} (hr : new r)
    (hr' : new r') (hne : r.call ≠ r'.call) (hid : r.id = r'.id)
    : 2 ^ 64 < (w.advanced i done m rest).drawn n := by
  -- A new record can have the id of an older one only if the ids have come round.
  have hfresh : ∀ {s s'}, m.Makes w.client n s → old s' → s.id = s'.id →
      2 ^ 64 < (w.advanced i done m rest).drawn n := by
    intro s s' hmakes hs' hid
    obtain ⟨k, hk, hid'⟩ := hnumbered s' hs'
    obtain ⟨hmade, hdraws⟩ := h.id_of_makes hmakes
    have hround : 2 ^ 64 ≤ w.drawn n := by
      apply CallIds.le_of_draw_eq hk
      rw [← hid', ← hid]
      exact hmade
    rw [drawn_advanced hT, hdraws]
    exact Nat.lt_succ_of_le hround
  rcases horigin r hr with hr | hmakes
  . rcases horigin r' hr' with hr' | hmakes'
    . exact Nat.lt_of_lt_of_le (hapart r r' hr hr' hne hid) (drawn_le_advanced hT n)
    . exact hfresh hmakes' hr hid.symm
  . rcases horigin r' hr' with hr' | hmakes'
    . exact hfresh hmakes hr' hid
    . obtain ⟨_, _, _, _, _, _, rfl⟩ := hmakes
      obtain ⟨_, _, _, _, _, _, rfl⟩ := hmakes'
      exact absurd rfl hne

end Numbering

theorem Sound.numbered_advanced (h : w.Sound) (hT : w.tasks[i]? = some ⟨done, m :: rest⟩)
    (hr : (w.advanced i done m rest).Waits n r)
    : ∃ k < (w.advanced i done m rest).drawn n, r.id = (CallIds.after k).draw.1 := by
  exact h.numbered_of_origin hT (h.numbered n) (fun _ => h.waits_of_advanced hT) hr

theorem Sound.apart_advanced (h : w.Sound) (hT : w.tasks[i]? = some ⟨done, m :: rest⟩)
    {r' : CallRecord} (hr : (w.advanced i done m rest).Waits n r)
    (hr' : (w.advanced i done m rest).Waits n r') (hne : r.call ≠ r'.call) (hid : r.id = r'.id)
    : 2 ^ 64 < (w.advanced i done m rest).drawn n := by
  exact h.apart_of_origin hT (h.numbered n) (h.apart n) (fun _ => h.waits_of_advanced hT) hr hr' hne
    hid

theorem Sound.call_ne (h : w.Sound) (hT : T ∈ w.tasks) (hm : m ∈ T.todo) (hr : m.Carries n r)
    {k : Nat} {r' : CallRecord} (hr' : w.client.books.Holds k r')
    : r.call ≠ r'.call := by
  have hdistinct := h.accounts.waiting_distinct
  rw [List.map_append] at hdistinct
  have hheld : r ∈ w.held := List.mem_flatMap.mpr ⟨T, hT, List.mem_flatMap.mpr ⟨m, hm, hr.2⟩⟩
  obtain ⟨t, ht, hmem⟩ := hr'
  have hwaiting : r' ∈ w.client.books.waiting :=
    List.mem_flatMap.mpr ⟨t, List.mem_of_getElem? ht, hmem⟩
  intro hcall
  apply List.disjoint_of_nodup_append hdistinct (List.mem_map_of_mem hheld)
  rw [hcall]
  exact List.mem_map_of_mem hwaiting

theorem session?_of_next (h : w.Sound) (hT : w.tasks[i]? = some ⟨done, m :: rest⟩) {x : Move}
    (hx : x ∈ w.next m) (hn : x.session? = some n)
    : n < w.client.books.tables.length
      ∧ (m.session? = some n ∨ ∃ y ∈ m :: w.next m, y.concerns n = true) := by
  have hold := mem_tasks_of_getElem? hT
  rcases Move.session?_of_mem_run hx hn with hsame | ⟨hslot | ⟨s, hs⟩, hnew⟩
  . refine ⟨?_, .inl hsame⟩
    exact (h.tasks _ hold).known m (List.mem_append_right _ List.mem_cons_self) n hsame
  . exact ⟨h.slot n hslot, .inr hnew⟩
  . exact ⟨(List.getElem?_eq_some_iff.mp (Client.tables_getElem? hs)).1, .inr hnew⟩

theorem mem_moves_advanced {x : Move}
    : x ∈ (Task.mk (m :: done) (w.next m ++ rest)).moves
        ↔
      x ∈ (Task.mk done (m :: rest)).moves ∨ x ∈ w.next m := by
  unfold Task.moves
  simp only [List.mem_append, List.mem_cons]
  tauto

theorem getElem?_advanced_of_old (hT : w.tasks[i]? = some ⟨done, m :: rest⟩) {j : Nat}
    (hj : w.tasks[j]? = some T)
    : ∃ T', (w.advanced i done m rest).tasks[j]? = some T' ∧ T.moves ⊆ T'.moves
        ∧ T.done ⊆ T'.done := by
  by_cases hij : i = j
  . subst hij
    rw [hT] at hj
    cases hj
    refine ⟨_, getElem?_advanced_self hT, ?_, List.subset_cons_self _ _⟩
    exact fun _ hx => mem_moves_advanced.mpr (.inl hx)
  . rw [← getElem?_advanced_ne hij] at hj
    exact ⟨T, hj, List.Subset.refl _, List.Subset.refl _⟩

theorem any_moves_mono {p : Move → Bool} {T T' : Task} (hsub : ∀ x ∈ T.moves, x ∈ T'.moves)
    (h : T.moves.any p = true)
    : T'.moves.any p = true := by
  obtain ⟨x, hx, hp⟩ := List.any_eq_true.mp h
  exact List.any_eq_true.mpr ⟨x, hsub x hx, hp⟩

theorem Sound.known_advanced (h : w.Sound) (hT : w.tasks[i]? = some ⟨done, m :: rest⟩) {x : Move}
    (hx : x ∈ (Task.mk (m :: done) (w.next m ++ rest)).moves) (hn : x.session? = some n)
    : n < (w.advanced i done m rest).client.books.tables.length := by
  have hold := h.tasks _ (mem_tasks_of_getElem? hT)
  have hle := h.length_le hT
  rcases mem_moves_advanced.mp hx with hx | hx
  . have := hold.known x hx n hn
    omega
  . have := (session?_of_next h hT hx hn).1
    omega

theorem Sound.owned_advanced (h : w.Sound) (hT : w.tasks[i]? = some ⟨done, m :: rest⟩) {x : Move}
    (hx : x ∈ w.next m ++ rest) (hn : x.session? = some n)
    : (Task.mk (m :: done) (w.next m ++ rest)).concerns n = true := by
  have hold := h.tasks _ (mem_tasks_of_getElem? hT)
  have hbefore : ∀ y ∈ m :: rest, y.session? = some n →
      (Task.mk (m :: done) (w.next m ++ rest)).concerns n = true := by
    intro y hy hyn
    apply any_moves_mono _ (hold.owned y hy n hyn)
    exact fun x hx => mem_moves_advanced.mpr (.inl hx)
  rcases List.mem_append.mp hx with hx | hx
  . rcases (session?_of_next h hT hx hn).2 with hsame | ⟨y, hy, hconcerns⟩
    . exact hbefore m List.mem_cons_self hsame
    . refine List.any_eq_true.mpr ⟨y, ?_, hconcerns⟩
      rcases List.mem_cons.mp hy with rfl | hy
      . exact List.mem_append_left _ List.mem_cons_self
      . exact mem_moves_advanced.mpr (.inr hy)
  . exact hbefore x (List.mem_cons_of_mem _ hx) hn

theorem Sound.entering_advanced (h : w.Sound) (hT : w.tasks[i]? = some ⟨done, m :: rest⟩)
    (hx : .publish n ∈ w.next m ++ rest)
    : n < (w.advanced i done m rest).client.books.tables.length := by
  have hle := h.length_le hT
  rcases List.mem_append.mp hx with hx | hx
  . obtain ⟨generation, rfl⟩ := Move.startSession_of_publish hx
    rw [Move.mem_run_startSession.mp hx]
    have hbooks := Client.books_addSession w.client generation
    change _ < (w.client.addSession generation).2.books.tables.length
    rw [hbooks]
    simp
  . have := (h.tasks _ (mem_tasks_of_getElem? hT)).entering n (List.mem_cons_of_mem _ hx)
    omega

theorem Sound.closed_advanced (h : w.Sound) (hT : w.tasks[i]? = some ⟨done, m :: rest⟩)
    (hn : .close n ∈ m :: done)
    : ∃ t, (w.advanced i done m rest).client.books.tables[n]? = some t ∧ t.closed = true := by
  have hold := h.tasks _ (mem_tasks_of_getElem? hT)
  rcases List.mem_cons.mp hn with hm | hn
  . subst hm
    apply Move.closed_of_close
    exact hold.known (.close n) (List.mem_append_right _ List.mem_cons_self) n rfl
  . obtain ⟨t, ht, hclosed⟩ := hold.closed n hn
    exact (h.effect hT).closed_of_closed h.tables ht hclosed

theorem Sound.made_advanced (h : w.Sound) (hT : w.tasks[i]? = some ⟨done, m :: rest⟩) {x : Move}
    (hx : x ∈ m :: done) (hdraws : x.draws n = true)
    : ∃ r params, .register n r params ∈ (Task.mk (m :: done) (w.next m ++ rest)).moves := by
  have hold := h.tasks _ (mem_tasks_of_getElem? hT)
  rcases List.mem_cons.mp hx with rfl | hx
  . obtain ⟨r, params, hreg⟩ := Move.exists_register_of_draws (c := w.client) hdraws
    exact ⟨r, params, mem_moves_advanced.mpr (.inr hreg)⟩
  . obtain ⟨r, params, hreg⟩ := hold.made x hx n hdraws
    exact ⟨r, params, mem_moves_advanced.mpr (.inl hreg)⟩

theorem Sound.task_advanced (h : w.Sound) (hT : w.tasks[i]? = some ⟨done, m :: rest⟩)
    : (Task.mk (m :: done) (w.next m ++ rest)).Sound (w.advanced i done m rest).client.books := by
  constructor
  . intro x hx n hn
    exact h.known_advanced hT hx hn
  . intro x hx n hn
    exact h.owned_advanced hT hx hn
  . intro n hn
    exact h.entering_advanced hT hn
  . intro n hn
    exact h.closed_advanced hT hn
  . intro x hx n hdraws
    exact h.made_advanced hT hx hdraws

theorem Sound.task_waiting (h : w.Sound) (hT : w.tasks[i]? = some ⟨done, m :: rest⟩)
    (hT' : T ∈ w.tasks)
    : T.Sound (w.advanced i done m rest).client.books := by
  have hold := h.tasks T hT'
  have hle := h.length_le hT
  constructor
  . intro x hx n hn
    exact Nat.lt_of_lt_of_le (hold.known x hx n hn) hle
  . exact hold.owned
  . intro n hn
    exact Nat.lt_of_lt_of_le (hold.entering n hn) hle
  . intro n hn
    obtain ⟨t, ht, hclosed⟩ := hold.closed n hn
    exact (h.effect hT).closed_of_closed h.tables ht hclosed
  . exact hold.made

theorem Sound.advanced (h : w.Sound) (hT : w.tasks[i]? = some ⟨done, m :: rest⟩)
    : (w.advanced i done m rest).Sound := by
  constructor
  . exact (h.effect hT).wellFormed h.tables
  . exact fun n hslot => h.slot_advanced hT hslot
  . exact (h.accounts_advanced hT).1
  . intro T hT'
    rcases mem_tasks_advanced hT' with rfl | hT'
    . exact h.task_advanced hT
    . exact h.task_waiting hT hT'
  . exact fun n ids hids => h.counters_advanced hT hids
  . exact fun n r hr => h.numbered_advanced hT hr
  . exact fun n r r' hr hr' hne hid => h.apart_advanced hT hr hr' hne hid

theorem Sound.start (settings : Settings) : (start settings).Sound := by
  have hwaits : ∀ n r, ¬(World.start settings).Waits n r := by
    rintro n r (⟨t, ht, _⟩ | ⟨T, hT, _⟩)
    . simp [World.start, Client.books] at ht
    . simp [World.start] at hT
  constructor
  . intro t ht
    simp [World.start, Client.books] at ht
  . intro n hslot
    simp [World.start] at hslot
  . exact .empty _
  . intro T hT
    simp [World.start] at hT
  . intro n ids hids
    simp [World.start, Client.books] at hids
  . intro n r hr
    exact absurd hr (hwaits n r)
  . intro n r r' hr
    exact absurd hr (hwaits n r)

theorem mem_tasks_begun (hT : T ∈ (w.begun m).tasks) : T ∈ w.tasks ∨ T = { todo := [m] } := by
  rcases List.mem_append.mp hT with hT | hT
  . exact .inl hT
  . exact .inr (List.mem_singleton.mp hT)

theorem getElem?_begun {j : Nat} (hT : (w.begun m).tasks[j]? = some T)
    : w.tasks[j]? = some T ∨ (j = w.tasks.length ∧ T = { todo := [m] }) := by
  unfold begun at hT
  dsimp at hT
  rw [List.getElem?_append] at hT
  split at hT
  . exact .inl hT
  . have hlt := (List.getElem?_eq_some_iff.mp hT).1
    rw [List.length_singleton] at hlt
    exact .inr ⟨by omega, List.mem_singleton.mp (List.mem_of_getElem? hT)⟩

theorem getElem?_begun_of_old {j : Nat} (hT : w.tasks[j]? = some T) (m : Move)
    : (w.begun m).tasks[j]? = some T := by
  exact (List.getElem?_append_left (List.getElem?_eq_some_iff.mp hT).1).trans hT

theorem drawn_begun (w : World) (m : Move) : (w.begun m).drawn = w.drawn := by
  funext n
  unfold drawn begun
  dsimp
  rw [List.flatMap_append]
  exact congrArg (List.countP _) (List.append_nil _)

theorem held_begun (hm : m.held = []) : (w.begun m).held = w.held := by
  unfold held begun
  dsimp
  rw [List.flatMap_append]
  simp [hm]

theorem waits_of_begun (hm : m.held = []) (hr : (w.begun m).Waits n r) : w.Waits n r := by
  rcases hr with hholds | ⟨T, hT, x, hx, hcarries⟩
  . exact .inl hholds
  . rcases mem_tasks_begun hT with hT | rfl
    . exact .inr ⟨T, hT, x, hx, hcarries⟩
    . rw [List.mem_singleton] at hx
      subst hx
      have := hcarries.2
      rw [hm] at this
      simp at this

theorem sound_of_begun (hm : m.isFirst = true) (b : Books) : Task.Sound { todo := [m] } b := by
  have hfresh : ∀ x ∈ [m], ∀ n, x.session? ≠ some n := by
    intro x hx n
    rw [List.mem_singleton.mp hx]
    cases m <;> simp [Move.isFirst, Move.session?] at hm ⊢
  constructor
  . intro x hx n hn
    exact absurd hn (hfresh x hx n)
  . intro x hx n hn
    exact absurd hn (hfresh x hx n)
  . intro n hn
    rw [← List.mem_singleton.mp hn] at hm
    simp [Move.isFirst] at hm
  . exact fun n hn => absurd hn List.not_mem_nil
  . exact fun m hm => absurd hm List.not_mem_nil

theorem Sound.begun (h : w.Sound) (hm : m.isFirst = true) : (w.begun m).Sound := by
  have hheld := Move.held_of_isFirst hm
  constructor
  . exact h.tables
  . exact h.slot
  . rw [held_begun hheld]
    exact h.accounts
  . intro T hT
    rcases mem_tasks_begun hT with hT | rfl
    . exact h.tasks T hT
    . exact sound_of_begun hm _
  . intro n ids hids
    rw [drawn_begun]
    exact h.counters n ids hids
  . intro n r hr
    rw [drawn_begun]
    exact h.numbered n r (waits_of_begun hheld hr)
  . intro n r r' hr hr' hne hid
    rw [drawn_begun]
    exact h.apart n r r' (waits_of_begun hheld hr) (waits_of_begun hheld hr') hne hid

theorem act_advance (w : World) (i : Nat)
    : (∃ done m rest, w.tasks[i]? = some ⟨done, m :: rest⟩
          ∧ w.act (.advance i) = w.advanced i done m rest)
      ∨ w.act (.advance i) = w := by
  unfold act
  dsimp
  split
  . next done m rest hT => exact .inl ⟨done, m, rest, hT, rfl⟩
  . exact .inr rfl

theorem move?_of_getElem? (hT : w.tasks[i]? = some ⟨done, m :: rest⟩)
    : w.move? (.advance i) = some m := by
  unfold move?
  dsimp
  rw [hT]
  rfl

theorem act_cases (w : World) (a : Act)
    : (∃ m, m.isFirst = true ∧ w.act a = w.begun m)
      ∨ (∃ i done m rest, w.tasks[i]? = some ⟨done, m :: rest⟩ ∧ a = .advance i
          ∧ w.act a = w.advanced i done m rest)
      ∨ w.act a = w := by
  cases a with
  | begin m =>
    unfold act
    dsimp
    split
    . next hm => exact .inl ⟨m, hm, rfl⟩
    . exact .inr (.inr rfl)
  | advance i =>
    rcases act_advance w i with ⟨done, m, rest, hT, hact⟩ | hact
    . exact .inr (.inl ⟨i, done, m, rest, hT, rfl, hact⟩)
    . exact .inr (.inr hact)

theorem advance_of_move (hmove : w.move? (.advance i) = some m)
    : ∃ done rest, w.tasks[i]? = some ⟨done, m :: rest⟩
        ∧ w.act (.advance i) = w.advanced i done m rest := by
  unfold move? at hmove
  dsimp at hmove
  cases hT : w.tasks[i]? with
  | none => simp [hT] at hmove
  | some T =>
    obtain ⟨done, todo⟩ := T
    cases todo with
    | nil => simp [hT] at hmove
    | cons m' rest =>
      rw [hT] at hmove
      cases hmove
      refine ⟨done, rest, rfl, ?_⟩
      unfold act
      simp only [hT]

theorem act_of_move {a : Act} (hmove : w.move? a = some m)
    : ∃ i done rest, w.tasks[i]? = some ⟨done, m :: rest⟩ ∧ w.act a = w.advanced i done m rest := by
  cases a with
  | begin m => cases hmove
  | advance i => exact ⟨i, advance_of_move hmove⟩

theorem Sound.act (h : w.Sound) (a : Act) : (w.act a).Sound := by
  rcases act_cases w a with ⟨m, hm, hact⟩ | ⟨i, done, m, rest, hT, _, hact⟩ | hact
  . rw [hact]
    exact h.begun hm
  . rw [hact]
    exact h.advanced hT
  . rw [hact]
    exact h

theorem Sound.run (h : w.Sound) (acts : List Act) : (w.run acts).Sound := by
  induction acts generalizing w with
  | nil => exact h
  | cons a acts ih => exact ih (h.act a)

@[simp]
theorem run_cons (w : World) (a : Act) (acts : List Act)
    : w.run (a :: acts) = (w.act a).run acts := rfl

theorem run_append (w : World) (acts more : List Act)
    : w.run (acts ++ more) = (w.run acts).run more := by
  exact List.foldl_append

theorem run_concat (w : World) (acts : List Act) (a : Act)
    : w.run (acts ++ [a]) = (w.run acts).act a := by
  rw [run_append]
  rfl

/-- What is kept when an operation begins and when one makes a move is kept by every run. -/
theorem Sound.run_induction {P : World → Prop} (hs : w.Sound) (h : P w)
    (hbegun : ∀ w m, m.isFirst = true → P w → P (w.begun m))
    (hadvanced : ∀ w i done m rest, w.Sound → w.tasks[i]? = some ⟨done, m :: rest⟩ → P w →
      P (w.advanced i done m rest))
    (acts : List Act)
    : P (w.run acts) := by
  induction acts generalizing w with
  | nil => exact h
  | cons a acts ih =>
    apply ih (hs.act a)
    rcases act_cases w a with ⟨m, hm, hact⟩ | ⟨i, done, m, rest, hT, _, hact⟩ | hact
    . rw [hact]
      exact hbegun w m hm h
    . rw [hact]
      exact hadvanced w i done m rest hs hT h
    . rw [hact]
      exact h

theorem Sound.keeps_run (h : w.Sound) (acts : List Act)
    : w.client.ledger.Keeps (w.run acts).client.ledger := by
  apply h.run_induction (P := fun w' => w.client.ledger.Keeps w'.client.ledger)
  . exact .refl _
  . exact fun _ _ _ hkeeps => hkeeps
  . exact fun _ _ _ _ _ hs hT hkeeps => hkeeps.trans (hs.accounts_advanced hT).2

theorem Sound.closed_run (h : w.Sound) {t : PendingTable}
    (ht : w.client.books.tables[n]? = some t) (hclosed : t.closed = true) (acts : List Act)
    : ∃ t', (w.run acts).client.books.tables[n]? = some t' ∧ t'.closed = true := by
  apply h.run_induction
    (P := fun w' => ∃ t', w'.client.books.tables[n]? = some t' ∧ t'.closed = true)
  . exact ⟨t, ht, hclosed⟩
  . exact fun _ _ _ hclosed => hclosed
  . rintro _ _ _ _ _ hs hT ⟨t, ht, hclosed⟩
    exact (hs.effect hT).closed_of_closed hs.tables ht hclosed

theorem Sound.outcome_of_dispose (h : w.Sound) {d : Disposal}
    (hT : w.tasks[i]? = some ⟨done, .dispose n d r :: rest⟩)
    : (w.advanced i done (.dispose n d r) rest).client.ledger.outcome? r.call
        =
      some (r.outcome d) := by
  obtain ⟨others, hacc, _⟩ := h.accounts_effect hT
  exact (hacc.dispose d).settled (r, d) List.mem_cons_self

theorem Sound.pending (h : w.Sound) (hr : w.Waits n r)
    : w.client.ledger.outcome? r.call = none := by
  apply h.accounts.pending
  rcases hr with ⟨t, ht, hmem⟩ | ⟨T, hT, x, hx, hcarries⟩
  . apply List.mem_append_right
    exact List.mem_flatMap.mpr ⟨t, List.mem_of_getElem? ht, hmem⟩
  . apply List.mem_append_left
    exact List.mem_flatMap.mpr ⟨T, hT, List.mem_flatMap.mpr ⟨x, hx, hcarries.2⟩⟩

end World
end CallWire
