import CallWire.Proofs.Course
import CallWire.Proofs.Grounds
import Mathlib.Data.List.Induction

/-!
This module contains what the end of a session leaves behind when other operations go on meanwhile:
its table stays empty, and every call that was issued through it has its outcome or gets it from an
operation that took its record before.
-/

namespace CallWire

namespace World

variable {w : World} {i n : Nat} {done rest : List Move} {m : Move} {r : CallRecord} {T : Task}
variable {a : Act} {acts : List Act} {d : Disposal} {settings : Settings}

/-- How an act settles the call of a record: an operation that has grounds disposes of the record. -/
def Settles (w : World) (a : Act) (n : Nat) (r : CallRecord) (o : Outcome) : Prop :=
  ∃ i done d rest, a = .advance i ∧ w.tasks[i]? = some ⟨done, .dispose n d r :: rest⟩
    ∧ w.Grounds done n r d ∧ o = r.outcome d

/-- The call of a record is settled by one act of a run, and for good. -/
def SettledOnce (settings : Settings) (acts : List Act) (n : Nat) (r : CallRecord) : Prop :=
  ∃ pre a post o, acts = pre ++ a :: post
    ∧ ((start settings).run pre).client.ledger.outcome? r.call = none
    ∧ ((start settings).run pre).Settles a n r o
    ∧ ∀ later, ((start settings).run (pre ++ a :: later)).client.ledger.outcome? r.call = some o

/--
An operation that takes records of a session, or ends it, has a record of the session in its hands,
and goes on to dispose of it.
-/
def Disposes (w : World) (i n : Nat) (d : Disposal) (r : CallRecord) : Prop :=
  ∃ T, w.tasks[i]? = some T ∧ .dispose n d r ∈ T.todo ∧ w.Grounds T.done n r d
    ∧ (T.takes n = true ∨ T.ends n = true)

theorem SettledOnce.append (h : SettledOnce settings acts n r) (more : List Act)
    : SettledOnce settings (acts ++ more) n r := by
  obtain ⟨pre, a, post, o, rfl, hpending, hsettles, hlater⟩ := h
  refine ⟨pre, a, post ++ more, o, ?_, hpending, hsettles, hlater⟩
  rw [List.append_assoc]
  rfl

theorem settled_of_dispose
    (hT : ((start settings).run acts).tasks[i]? = some ⟨done, .dispose n d r :: rest⟩)
    : SettledOnce settings (acts ++ [.advance i]) n r := by
  have h := (Sound.start settings).run acts
  have hmem := mem_tasks_of_getElem? hT
  have hact : ((start settings).run acts).act (.advance i)
      = ((start settings).run acts).advanced i done (.dispose n d r) rest := by
    unfold act
    simp only [hT]
  refine ⟨acts, .advance i, [], r.outcome d, rfl, ?_, ⟨i, done, d, rest, rfl, hT, ?_, rfl⟩, ?_⟩
  . apply h.pending (n := n)
    exact .inr ⟨_, hmem, _, List.mem_cons_self, rfl, List.mem_singleton_self r⟩
  . exact grounded_run settings acts _ hmem n d r List.mem_cons_self
  . intro later
    rw [run_append, run_cons]
    apply (h.act (.advance i)).keeps_run later
    rw [hact]
    exact h.outcome_of_dispose hT

theorem waits_or_settled (acts : List Act) (a : Act) (hr : ((start settings).run acts).Waits n r)
    : ((start settings).run (acts ++ [a])).Waits n r ∨ SettledOnce settings (acts ++ [a]) n r := by
  have h := (Sound.start settings).run acts
  rw [run_concat]
  cases a with
  | begin m =>
    apply Or.inl
    unfold act
    dsimp
    split
    . rcases hr with hholds | ⟨T, hT, hcarries⟩
      . exact .inl hholds
      . exact .inr ⟨T, List.mem_append_left _ hT, hcarries⟩
    . exact hr
  | advance i =>
    rcases act_advance ((start settings).run acts) i with ⟨done, m, rest, hT, hact⟩ | hact
    . rcases h.waits_advanced hT hr with hwaits | ⟨d, rfl, _⟩
      . rw [hact]
        exact .inl hwaits
      . exact .inr (settled_of_dispose hT)
    . rw [hact]
      exact .inl hr

theorem Disposes.act (hr : w.Disposes i n d r) (a : Act)
    : (w.act a).Disposes i n d r
        ∨ (a = .advance i ∧ ∃ done rest, w.tasks[i]? = some ⟨done, .dispose n d r :: rest⟩
            ∧ w.act a = w.advanced i done (.dispose n d r) rest) := by
  obtain ⟨T, hi, hx, hgrounds, hconcerned⟩ := hr
  cases a with
  | begin m =>
    apply Or.inl
    unfold World.act
    dsimp
    split
    . refine ⟨T, getElem?_begun_of_old hi m, hx, ?_, hconcerned⟩
      unfold Grounds
      rw [drawn_begun]
      exact hgrounds
    . exact ⟨T, hi, hx, hgrounds, hconcerned⟩
  | advance j =>
    rcases act_advance w j with ⟨done, m, rest, hT, hact⟩ | hact
    . by_cases hij : j = i
      . subst hij
        rw [hT] at hi
        cases hi
        rcases List.mem_cons.mp hx with rfl | hx
        . exact .inr ⟨rfl, done, rest, hT, hact⟩
        . rw [hact]
          refine .inl ⟨_, getElem?_advanced_self hT, List.mem_append_right _ hx, ?_, ?_⟩
          . exact hgrounds.advanced hT (List.subset_cons_self _ _)
          . have hsub : ∀ x ∈ (Task.mk done (m :: rest)).moves,
                x ∈ (Task.mk (m :: done) (w.next m ++ rest)).moves :=
              fun _ hx => mem_moves_advanced.mpr (.inl hx)
            exact hconcerned.imp (any_moves_mono hsub) (any_moves_mono hsub)
      . rw [hact]
        refine .inl ⟨T, ?_, hx, hgrounds.advanced hT (List.Subset.refl _), hconcerned⟩
        rw [getElem?_advanced_ne hij]
        exact hi
    . rw [hact]
      exact .inl ⟨T, hi, hx, hgrounds, hconcerned⟩

theorem disposes_or_settled_later (hr : ((start settings).run acts).Disposes i n d r)
    (later : List Act)
    : ((start settings).run (acts ++ later)).Disposes i n d r
        ∨ SettledOnce settings (acts ++ later) n r := by
  induction later using List.reverseRecOn with
  | nil =>
    rw [List.append_nil]
    exact .inl hr
  | append_singleton later a ih =>
    rw [← List.append_assoc]
    rcases ih with hdisposes | hsettled
    . rw [run_concat]
      rcases hdisposes.act a with hdisposes | ⟨rfl, done, rest, hT, _⟩
      . exact .inl hdisposes
      . exact .inr (settled_of_dispose hT)
    . exact .inr (hsettled.append [a])

theorem issued_act (a : Act) (hr : (w.act a).Issued n r)
    : w.Issued n r ∨ (w.act a).Waits n r := by
  obtain ⟨T, hT, params, hreg⟩ := hr
  rcases act_cases w a with ⟨m, hm, hact⟩ | ⟨i, done, m, rest, hold, _, hact⟩ | hact
  . rw [hact] at hT
    rcases mem_tasks_begun hT with hT | rfl
    . exact .inl ⟨T, hT, params, hreg⟩
    . rw [Task.moves, List.nil_append, List.mem_singleton] at hreg
      rw [← hreg] at hm
      simp [Move.isFirst] at hm
  . rw [hact] at hT ⊢
    rcases mem_tasks_advanced hT with rfl | hT
    . rcases mem_moves_advanced.mp hreg with hreg | hreg
      . exact .inl ⟨_, mem_tasks_of_getElem? hold, params, hreg⟩
      -- The record is in the hands of the operation that is to register it.
      . have hcarries : (Move.register n r params).Carries n r := ⟨rfl, List.mem_singleton_self r⟩
        have hlt := (List.getElem?_eq_some_iff.mp hold).1
        refine .inr (.inr ⟨⟨m :: done, w.next m ++ rest⟩, ?_, .register n r params, ?_, hcarries⟩)
        . exact List.mem_of_getElem? (List.getElem?_set_self hlt)
        . exact List.mem_append_left _ hreg
    . exact .inl ⟨T, hT, params, hreg⟩
  . rw [hact] at hT
    exact .inl ⟨T, hT, params, hreg⟩

theorem waits_of_issued (acts : List Act) (hr : ((start settings).run acts).Issued n r)
    : ((start settings).run acts).Waits n r ∨ SettledOnce settings acts n r := by
  induction acts using List.reverseRecOn with
  | nil =>
    obtain ⟨T, hT, _⟩ := hr
    simp [run, start] at hT
  | append_singleton acts a ih =>
    rw [run_concat] at hr
    rcases issued_act a hr with hr | hwaits
    . rcases ih hr with hwaits | hsettled
      . exact waits_or_settled acts a hwaits
      . exact .inr (hsettled.append [a])
    . rw [run_concat]
      exact .inl hwaits

theorem table_of_closed (h : w.Sound) {t : PendingTable}
    (ht : w.client.books.tables[n]? = some t) (hclosed : t.closed = true)
    : t = { records := [], closed := true } := by
  have hrecords := (h.tables.table ht).empty_of_closed hclosed
  cases t with
  | mk records closed =>
    cases hclosed
    cases hrecords
    rfl

theorem todo_of_hasReturned (h : T.hasReturned = true) : T.todo = [] := by
  unfold Task.hasReturned at h
  rw [List.isEmpty_iff] at h
  exact h

theorem moves_of_hasReturned (h : T.hasReturned = true) : T.moves = T.done := by
  unfold Task.moves
  rw [todo_of_hasReturned h, List.append_nil]

theorem closes_of_ends (h : T.ends n = true) (hreturned : T.hasReturned = true)
    : .close n ∈ T.done := by
  obtain ⟨x, hx, hcloses⟩ := List.any_eq_true.mp h
  rw [moves_of_hasReturned hreturned] at hx
  cases x with
  | close k =>
    have hk : k = n := of_decide_eq_true hcloses
    rw [← hk]
    exact hx
  | _ => simp [Move.closes] at hcloses

theorem Sound.issued_of_callsThrough (h : w.Sound) (hT : T ∈ w.tasks)
    (hcalls : T.callsThrough n = true) (hreturned : T.hasReturned = true)
    : ∃ r params, .register n r params ∈ T.moves := by
  obtain ⟨x, hx, hdraws⟩ := List.any_eq_true.mp hcalls
  rw [moves_of_hasReturned hreturned] at hx
  exact (h.tasks T hT).made x hx n hdraws

theorem disposes_of_waits {t : PendingTable}
    (ht : ((start settings).run acts).client.books.tables[n]? = some t) (hclosed : t.closed = true)
    (hreturned : ∀ T ∈ ((start settings).run acts).tasks,
      T.callsThrough n = true → T.hasReturned = true)
    (hr : ((start settings).run acts).Waits n r)
    : ∃ i d, ((start settings).run acts).Disposes i n d r := by
  have h := (Sound.start settings).run acts
  have ho := (Orderly.start settings).run (Sound.start settings) acts
  rcases hr with ⟨t', ht', hmem⟩ | ⟨T, hT, x, hx, hsession, hheld⟩
  . rw [ht] at ht'
    cases ht'
    rw [(h.tables.table ht).empty_of_closed hclosed] at hmem
    simp at hmem
  . have hmidway : T.callsThrough n ≠ true := by
      intro hcalls
      rw [todo_of_hasReturned (hreturned T hT hcalls)] at hx
      simp at hx
    cases x with
    | register k r' params =>
      cases hsession
      have hcalls := (ho.ordered T hT).callsThrough_of_register (List.mem_append_right _ hx)
      exact absurd hcalls hmidway
    | dispose k d r' =>
      cases hsession
      rw [Move.held, List.mem_singleton] at hheld
      subst hheld
      obtain ⟨i, hi⟩ := List.mem_iff_getElem?.mp hT
      refine ⟨i, d, T, hi, hx, grounded_run settings acts T hT n d r hx, ?_⟩
      have hconcerns := (h.tasks T hT).owned _ hx n rfl
      rcases Task.concerns_iff.mp hconcerns with hcalls | hends | htakes
      . exact absurd hcalls hmidway
      . exact .inr hends
      . exact .inl htakes
    | _ => simp [Move.held] at hheld

/--
A session ends while any number of operations go on, each move by move, and in any order. When an
operation that ends the session has returned, and so have all calls that go through it, its table is
closed and empty and remains so. Each of the calls has a record. The call of every record that was
made for the session is settled exactly once, or the record was taken out of the table before by an
operation that heeds a frame, sweeps the session or ends it too: this one goes on to settle the call,
and when no such operation goes on any more, all calls are settled.
-/
theorem ended_session_settled (settings : Settings) (acts : List Act) (n : Nat)
    (hended : ∃ T ∈ ((start settings).run acts).tasks, T.ends n = true ∧ T.hasReturned = true)
    (hreturned : ∀ T ∈ ((start settings).run acts).tasks,
      T.callsThrough n = true → T.hasReturned = true)
    : (∀ later, ((start settings).run (acts ++ later)).client.table n
          = { records := [], closed := true })
      ∧ (∀ T ∈ ((start settings).run acts).tasks, T.callsThrough n = true →
          ∃ r params, .register n r params ∈ T.moves)
      ∧ ∀ r, ((start settings).run acts).Issued n r →
          (SettledOnce settings acts n r
            ∨ ∃ i d, ∀ later, ((start settings).run (acts ++ later)).Disposes i n d r
                ∨ SettledOnce settings (acts ++ later) n r)
          ∧ ∀ later, (∀ T ∈ ((start settings).run (acts ++ later)).tasks,
                T.takes n = true ∨ T.ends n = true → T.hasReturned = true) →
              SettledOnce settings (acts ++ later) n r := by
  have h := (Sound.start settings).run acts
  obtain ⟨T, hT, hends, hdone⟩ := hended
  obtain ⟨t, ht, hclosed⟩ := (h.tasks T hT).closed n (closes_of_ends hends hdone)
  refine ⟨?_, ?_, ?_⟩
  . intro later
    rw [run_append]
    obtain ⟨t', ht', hclosed'⟩ := h.closed_run ht hclosed later
    rw [Client.table_of_tables ht']
    exact table_of_closed (h.run later) ht' hclosed'
  . intro T' hT' hcalls
    exact h.issued_of_callsThrough hT' hcalls (hreturned T' hT' hcalls)
  . intro r hr
    rcases waits_of_issued acts hr with hwaits | hsettled
    . obtain ⟨i, d, hdisposes⟩ := disposes_of_waits ht hclosed hreturned hwaits
      refine ⟨.inr ⟨i, d, disposes_or_settled_later hdisposes⟩, ?_⟩
      intro later hback
      rcases disposes_or_settled_later hdisposes later with
        ⟨T', hi, hx, _, hconcerned⟩ | hsettled
      . rw [todo_of_hasReturned (hback T' (mem_tasks_of_getElem? hi) hconcerned)] at hx
        simp at hx
      . exact hsettled
    . exact ⟨.inl hsettled, fun later _ => hsettled.append later⟩

theorem ended_of_any (h : w.tasks.any (fun T => T.ends n && T.hasReturned) = true)
    : ∃ T ∈ w.tasks, T.ends n = true ∧ T.hasReturned = true := by
  obtain ⟨T, hT, h⟩ := List.any_eq_true.mp h
  rw [Bool.and_eq_true] at h
  exact ⟨T, hT, h⟩

theorem returned_of_all {p : Task → Bool}
    (h : w.tasks.all (fun T => !p T || T.hasReturned) = true)
    : ∀ T ∈ w.tasks, p T = true → T.hasReturned = true := by
  intro T hT hp
  have h := List.all_eq_true.mp h T hT
  rw [hp] at h
  exact h

theorem issued_of_any {p : CallRecord → Bool}
    (h : w.tasks.any (fun T => T.moves.any (fun
      | .register k r _ => k == n && p r
      | _ => false)) = true)
    : ∃ r, w.Issued n r ∧ p r = true := by
  obtain ⟨T, hT, h⟩ := List.any_eq_true.mp h
  obtain ⟨x, hx, h⟩ := List.any_eq_true.mp h
  cases x with
  | register k r params =>
    rw [Bool.and_eq_true, beq_iff_eq] at h
    obtain ⟨rfl, hp⟩ := h
    exact ⟨r, ⟨T, hT, params, hx⟩, hp⟩
  | _ => cases h

/--
One call has found the session but enters the table only when the client has disconnected. A reply to
another one is in the hands of an operation meanwhile, which completes the call afterwards.
-/
theorem ended_session_settled_late_call
    : let settings : Settings := { url := "ws://a" }
      let net : Network :=
        { reachable := true, hosts := ["a"], port := 80, reception := .plain }
      let acts : List Act := [
        .begin (.connect (.ofSecs 15) net {}),
        .advance 0, .advance 0, .advance 0, .advance 0, .advance 0, .advance 0,
        .begin (.lookup "version" [] Decoding.raw.decoder), .advance 1,
        .begin (.lookup "ping" [] Decoding.nothing.decoder),
        .advance 2, .advance 2, .advance 2, .advance 2,
        .begin (.event 0 (.frame "\x7b\"id\":\"1\"\x7d")), .advance 3,
        .begin .disconnect, .advance 4, .advance 4, .advance 4,
        .advance 1, .advance 1, .advance 1,
        .advance 4]
      let w := (start settings).run (acts ++ [.advance 3])
      w.client.table 0 = { records := [], closed := true }
        ∧ (∀ r, ((start settings).run acts).Issued 0 r →
            SettledOnce settings (acts ++ [.advance 3]) 0 r)
        ∧ ((start settings).run acts).client.ledger.outcome? 0 = none
        ∧ ((w.client.ledger.outcome? 0).bind Except.toOption).isSome = true
        ∧ (w.client.ledger.outcome? 1).isSome = true
        ∧ ((w.client.ledger.outcome? 1).bind Except.toOption).isSome = false := by
  intro settings net acts w
  have h := ended_session_settled settings acts 0 (ended_of_any (by decide +kernel))
    (returned_of_all (by decide +kernel))
  refine ⟨h.1 [.advance 3], ?_, by decide +kernel, by decide +kernel, by decide +kernel,
    by decide +kernel⟩
  intro r hr
  have hback : ∀ T ∈ w.tasks, (T.takes 0 || T.ends 0) = true → T.hasReturned = true :=
    returned_of_all (by decide +kernel)
  apply (h.2.2 r hr).2 [.advance 3]
  intro T hT hconcerned
  exact hback T hT (Bool.or_eq_true_iff.mpr hconcerned)

/--
The client has disconnected and the call has returned, but the call is not settled: its record is in
the hands of an operation that heeds a reply, or of one that heeds the end of the socket.
-/
theorem ended_session_unsettled
    : let settings : Settings := { url := "ws://a" }
      let net : Network :=
        { reachable := true, hosts := ["a"], port := 80, reception := .plain }
      let called : List Act := [
        .begin (.connect (.ofSecs 15) net {}),
        .advance 0, .advance 0, .advance 0, .advance 0, .advance 0, .advance 0,
        .begin (.lookup "ping" [] Decoding.nothing.decoder),
        .advance 1, .advance 1, .advance 1, .advance 1]
      let answered : List Act :=
        [.begin (.event 0 (.frame "\x7b\"id\":\"1\"\x7d")), .advance 2]
      let broken : List Act := [.begin (.event 0 .failed), .advance 2, .advance 2]
      let left : List Act := [.begin .disconnect, .advance 3, .advance 3, .advance 3, .advance 3]
      ∀ midway ∈ [answered, broken],
        let w := (start settings).run (called ++ midway ++ left)
        (∃ T ∈ w.tasks, T.ends 0 = true ∧ T.hasReturned = true)
          ∧ (∀ T ∈ w.tasks, T.callsThrough 0 = true → T.hasReturned = true)
          ∧ ∃ r, w.Issued 0 r ∧ w.client.ledger.outcome? r.call = none := by
  intro settings net called answered broken left midway hmidway w
  have hended : ∃ T ∈ w.tasks, T.ends 0 = true ∧ T.hasReturned = true := by
    rcases List.mem_pair.mp hmidway with rfl | rfl <;> exact ended_of_any (by decide +kernel)
  have hreturned : ∀ T ∈ w.tasks, T.callsThrough 0 = true → T.hasReturned = true := by
    rcases List.mem_pair.mp hmidway with rfl | rfl <;> exact returned_of_all (by decide +kernel)
  have hpending : ∃ r, w.Issued 0 r ∧ (w.client.ledger.outcome? r.call).isNone = true := by
    rcases List.mem_pair.mp hmidway with rfl | rfl <;> exact issued_of_any (by decide +kernel)
  obtain ⟨r, hr, hnone⟩ := hpending
  exact ⟨hended, hreturned, r, hr, Option.isNone_iff_eq_none.mp hnone⟩

end World
end CallWire
