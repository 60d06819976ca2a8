import CallWire.Proofs.Interleaving

/-!
This module contains the course of a call: its moves follow one another, each of them alone, and no
two operations issue one call. What is known of the ids of the records that wait is known of the
records of all calls that were ever issued.
-/

namespace CallWire

namespace Move

variable {c : Client} {m x : Move} {next : List Move} {b : Books} {n k : Nat} {r : CallRecord}

def place? : Move → Option Nat
  | .lookup _ _ _ => some 0
  | .prepare _ _ _ _ => some 1
  | .register _ _ _ => some 2
  | .send _ _ _ => some 3
  | .retract _ _ => some 4
  | _ => none

inductive Follows : Move → Move → Prop where
  | prepare (n : Nat) (method : String) (params : List Json) (decoder : ResultDecoder)
      : Follows (.lookup method params decoder) (.prepare n method params decoder)
  | register (n : Nat) (method : String) (params : List Json) (decoder : ResultDecoder)
      (r : CallRecord)
      : Follows (.prepare n method params decoder) (.register n r params)
  | send (n : Nat) (r : CallRecord) (params : List Json)
      : Follows (.register n r params) (.send n r params)
  | retract (n : Nat) (r : CallRecord) (params : List Json)
      : Follows (.send n r params) (.retract n r.id)

theorem Follows.place (h : Follows m x) : ∃ k, m.place? = some k ∧ x.place? = some (k + 1) := by
  cases h <;> exact ⟨_, rfl, rfl⟩

theorem Follows.send_of_retract {id : String} (h : Follows m (.retract n id))
    : ∃ r params, m = .send n r params ∧ r.id = id := by
  cases h
  exact ⟨_, _, rfl, rfl⟩

theorem Follows.register_of_send {params : List Json} (h : Follows m (.send n r params))
    : m = .register n r params := by
  cases h
  rfl

theorem follows_of_run {y : Move} (hrun : (m.run c).1 = [y]) (hy : Follows m y)
    (hx : x ∈ (m.run c).1)
    : (m.run c).1 = [x] ∧ Follows m x := by
  rw [hrun, List.mem_singleton] at hx
  subst hx
  exact ⟨hrun, hy⟩

theorem follows_of_mem_run (hx : x ∈ (m.run c).1) (hplace : x.place? = some k)
    : (m.run c).1 = [x] ∧ Follows m x := by
  cases yields_of_mem_run hx with
  | found n method params decoder =>
    cases hfound : c.currentSession? with
    | none => simp [run, hfound] at hx
    | some k =>
      apply follows_of_run _ (.prepare k method params decoder) hx
      simp only [run, hfound]
  | prepared n => exact follows_of_run rfl (.register n _ _ _ _) hx
  | entered n r params =>
    cases hreg : (c.table n).register r with
    | ok t => exact follows_of_run (by rw [run_register_of_ok hreg]) (.send n r params) hx
    | error why => simp [run_register_of_error hreg] at hx
  | unsent n r params =>
    cases htaken : (c.putFrame (request r params)).1 with
    | true => simp [run_send_of_taken htaken] at hx
    | false => exact follows_of_run (by rw [run_send_of_left htaken]) (.retract n r params) hx
  | _ => cases hplace

theorem Effect.makes_of_register {params : List Json} (he : m.Effect c next b)
    (hx : .register n r params ∈ next)
    : m.Makes c n r := by
  cases he with
  | quiet hheld _ hnext =>
    have := hnext _ hx
    simp [held] at this
  | @prepared k ids method params decoder hids =>
    rw [List.mem_singleton] at hx
    cases hx
    exact ⟨method, params, decoder, ids, rfl, hids, rfl⟩
  | refused | forgotten | disposed => simp at hx
  | started | entered | turnedAway | retracted | answered => simp at hx
  | expired | closed => simp [disposals] at hx

theorem Effect.register_of_makes (he : m.Effect c next b) (hr : m.Makes c n r)
    : ∃ params, .register n r params ∈ next := by
  obtain ⟨method, params, decoder, ids, rfl, hids, rfl⟩ := hr
  cases he with
  | quiet _ hdraws _ => simp [draws] at hdraws
  | prepared _ _ _ hids' =>
    rw [hids] at hids'
    cases hids'
    exact ⟨params, List.mem_singleton_self _⟩

theorem Makes.eq {s : CallRecord} (hr : m.Makes c n r) (hs : m.Makes c k s) : n = k ∧ r = s := by
  obtain ⟨method, params, decoder, ids, rfl, hids, rfl⟩ := hr
  obtain ⟨method', params', decoder', ids', hm, hids', rfl⟩ := hs
  cases hm
  rw [hids] at hids'
  cases hids'
  exact ⟨rfl, rfl⟩

theorem Makes.call_eq (hr : m.Makes c n r) : r.call = c.ledger.handles.length := by
  obtain ⟨_, _, _, _, _, _, rfl⟩ := hr
  rfl

theorem Effect.handles_le (he : m.Effect c next b)
    : c.ledger.handles.length ≤ b.ledger.handles.length := by
  cases he with
  | refused => simp [Client.refuseCall]
  | prepared => simp
  | forgotten => simp
  | disposed => simp [CallRecord.dispose]
  | quiet | started | entered | turnedAway | retracted | answered | expired | closed =>
    exact Nat.le_refl _

theorem Effect.handle_cases (he : m.Effect c next b) {call : Nat}
    (hcall : call < b.ledger.handles.length)
    : call < c.ledger.handles.length
      ∨ b.ledger.outcome? call = some (.error .notConnected)
      ∨ ∃ n r params, .register n r params ∈ next ∧ r.call = call := by
  cases he with
  | refused =>
    rcases Nat.lt_or_ge call c.ledger.handles.length with hold | hnew
    . exact .inl hold
    . simp only [Client.refuseCall, Ledger.length_settle, Ledger.length_issue] at hcall
      have hlast : c.ledger.handles.length = call := by omega
      apply Or.inr
      apply Or.inl
      rw [← hlast]
      apply Ledger.outcome?_settle_self
      simp
  | prepared method params decoder hids =>
    simp only [Ledger.length_issue] at hcall
    rcases Nat.lt_or_ge call c.ledger.handles.length with hold | hnew
    . exact .inl hold
    . refine .inr (.inr ⟨_, _, params, List.mem_singleton_self _, ?_⟩)
      change c.ledger.handles.length = call
      omega
  | forgotten =>
    simp only [Ledger.length_forget] at hcall
    exact .inl hcall
  | disposed =>
    simp only [CallRecord.dispose, Ledger.length_settle] at hcall
    exact .inl hcall
  | quiet | started | entered | turnedAway | retracted | answered | expired | closed =>
    exact .inl hcall

theorem Effect.handles_lt (he : m.Effect c next b) (hr : m.Makes c n r)
    : r.call < b.ledger.handles.length := by
  rw [hr.call_eq]
  obtain ⟨method, params, decoder, ids, rfl, _, _⟩ := hr
  cases he with
  | quiet _ hdraws _ => simp [draws] at hdraws
  | prepared => simp

end Move

namespace Task

structure Ordered (T : Task) : Prop where
  alone : ∀ x ∈ T.todo, ∀ k, x.place? = some k →
    T.todo = [x] ∧ ∀ y ∈ T.done, ∀ j, y.place? = some j → j < k
  followed : ∀ x ∈ T.moves, ∀ k, x.place? = some (k + 1) → ∃ y ∈ T.done, Move.Follows y x

theorem Ordered.send_of_retract {T : Task} (h : T.Ordered) {n : Nat} {id : String}
    (hx : .retract n id ∈ T.moves)
    : ∃ r params, .send n r params ∈ T.done ∧ r.id = id := by
  obtain ⟨y, hy, hfollows⟩ := h.followed _ hx 3 rfl
  obtain ⟨r, params, rfl, hid⟩ := hfollows.send_of_retract
  exact ⟨r, params, hy, hid⟩

theorem Ordered.register_of_send {T : Task} (h : T.Ordered) {n : Nat} {r : CallRecord}
    {params : List Json} (hx : .send n r params ∈ T.moves)
    : .register n r params ∈ T.done := by
  obtain ⟨y, hy, hfollows⟩ := h.followed _ hx 2 rfl
  rw [← hfollows.register_of_send]
  exact hy

theorem Ordered.callsThrough_of_register {T : Task} (h : T.Ordered) {n : Nat} {r : CallRecord}
    {params : List Json} (hx : .register n r params ∈ T.moves)
    : T.callsThrough n = true := by
  obtain ⟨y, hy, hfollows⟩ := h.followed _ hx 1 rfl
  refine List.any_eq_true.mpr ⟨y, List.mem_append_left _ hy, ?_⟩
  cases hfollows
  exact decide_eq_true rfl

theorem ordered_of_begun {m : Move} (hm : m.isFirst = true) : Ordered { todo := [m] } := by
  constructor
  . intro x hx k _
    rw [List.mem_singleton.mp hx]
    exact ⟨rfl, fun y hy => absurd hy List.not_mem_nil⟩
  . intro x hx k hplace
    rw [List.mem_singleton.mp hx] at hplace
    cases m <;> simp [Move.isFirst, Move.place?] at hm hplace

end Task

namespace World

variable {w : World} {i j n k : Nat} {done rest : List Move} {m : Move} {r s : CallRecord}
variable {T : Task}

/-- An operation issued a call through a session, and this is its record. -/
def Issues (w : World) (i n : Nat) (r : CallRecord) : Prop :=
  ∃ T, w.tasks[i]? = some T ∧ ∃ params, .register n r params ∈ T.moves

/-- What is true of the calls that operations issue, besides what is true of the world. -/
structure Orderly (w : World) : Prop where
  ordered : ∀ T ∈ w.tasks, T.Ordered
  waiting : ∀ n r, w.Waits n r → ∃ i, w.Issues i n r
  issued : ∀ i n r, w.Issues i n r → r.call < w.client.ledger.handles.length
  numbered : ∀ i n r, w.Issues i n r → ∃ k < w.drawn n, r.id = (CallIds.after k).draw.1
  owned : ∀ i j n k r s, w.Issues i n r → w.Issues j k s → r.call = s.call →
    i = j ∧ n = k ∧ r = s
  apart : ∀ i j n r s, w.Issues i n r → w.Issues j n s → r.call ≠ s.call → r.id = s.id →
    2 ^ 64 < w.drawn n

theorem ordered_advanced (h : (Task.mk done (m :: rest)).Ordered)
    : (Task.mk (m :: done) (w.next m ++ rest)).Ordered := by
  constructor
  . intro x hx k hplace
    rcases List.mem_append.mp hx with hx | hx
    . obtain ⟨hnext, hfollows⟩ := Move.follows_of_mem_run hx hplace
      obtain ⟨l, hl, hk⟩ := hfollows.place
      obtain ⟨halone, hearlier⟩ := h.alone m List.mem_cons_self l hl
      rw [hplace] at hk
      cases hk
      refine ⟨?_, ?_⟩
      . change (m.run w.client).1 ++ rest = [x]
        rw [hnext, (List.cons.inj halone).2]
        rfl
      . intro y hy j hj
        rcases List.mem_cons.mp hy with rfl | hy
        . rw [hl] at hj
          cases hj
          exact Nat.lt_succ_self _
        . have := hearlier y hy j hj
          omega
    -- A move of a call that is still to come is alone, so it is not behind `m`.
    . obtain ⟨halone, _⟩ := h.alone x (List.mem_cons_of_mem _ hx) k hplace
      rw [(List.cons.inj halone).2] at hx
      simp at hx
  . intro x hx k hplace
    rcases mem_moves_advanced.mp hx with hx | hx
    . obtain ⟨y, hy, hfollows⟩ := h.followed x hx k hplace
      exact ⟨y, List.mem_cons_of_mem _ hy, hfollows⟩
    . exact ⟨m, List.mem_cons_self, (Move.follows_of_mem_run hx hplace).2⟩

theorem issues_advanced (h : w.Sound) (hT : w.tasks[i]? = some ⟨done, m :: rest⟩)
    (hr : (w.advanced i done m rest).Issues j n r)
    : w.Issues j n r ∨ (j = i ∧ m.Makes w.client n r) := by
  obtain ⟨T, hj, params, hreg⟩ := hr
  by_cases hij : i = j
  . subst hij
    rw [getElem?_advanced_self hT] at hj
    cases hj
    rcases mem_moves_advanced.mp hreg with hreg | hreg
    . exact .inl ⟨_, hT, params, hreg⟩
    . exact .inr ⟨rfl, (h.effect hT).makes_of_register hreg⟩
  . rw [getElem?_advanced_ne hij] at hj
    exact .inl ⟨T, hj, params, hreg⟩

theorem Orderly.issued_advanced (h : w.Orderly) (hs : w.Sound)
    (hT : w.tasks[i]? = some ⟨done, m :: rest⟩) (hr : (w.advanced i done m rest).Issues j n r)
    : r.call < (w.advanced i done m rest).client.ledger.handles.length := by
  have heffect := hs.effect hT
  rcases issues_advanced hs hT hr with hr | ⟨_, hmakes⟩
  . exact Nat.lt_of_lt_of_le (h.issued j n r hr) heffect.handles_le
  . exact heffect.handles_lt hmakes

theorem Orderly.numbered_any (h : w.Orderly) (n : Nat) (r : CallRecord) (hr : ∃ j, w.Issues j n r)
    : ∃ k < w.drawn n, r.id = (CallIds.after k).draw.1 := by
  obtain ⟨j, hr⟩ := hr
  exact h.numbered j n r hr

theorem exists_issues_advanced (hs : w.Sound) (hT : w.tasks[i]? = some ⟨done, m :: rest⟩)
    (hr : ∃ j, (w.advanced i done m rest).Issues j n r)
    : (∃ j, w.Issues j n r) ∨ m.Makes w.client n r := by
  obtain ⟨j, hr⟩ := hr
  exact (issues_advanced hs hT hr).imp (fun hr => ⟨j, hr⟩) And.right

theorem Orderly.numbered_advanced (h : w.Orderly) (hs : w.Sound)
    (hT : w.tasks[i]? = some ⟨done, m :: rest⟩) (hr : (w.advanced i done m rest).Issues j n r)
    : ∃ k < (w.advanced i done m rest).drawn n, r.id = (CallIds.after k).draw.1 := by
  exact hs.numbered_of_origin hT (h.numbered_any n) (fun _ => exists_issues_advanced hs hT) ⟨j, hr⟩

theorem Orderly.owned_advanced (h : w.Orderly) (hs : w.Sound)
    (hT : w.tasks[i]? = some ⟨done, m :: rest⟩) {j' : Nat}
    (hr : (w.advanced i done m rest).Issues j n r) (hr' : (w.advanced i done m rest).Issues j' k s)
    (hcall : r.call = s.call)
    : j = j' ∧ n = k ∧ r = s := by
  rcases issues_advanced hs hT hr with hr | ⟨hj, hmakes⟩
  . rcases issues_advanced hs hT hr' with hr' | ⟨_, hmakes'⟩
    . exact h.owned j j' n k r s hr hr' hcall
    . have := h.issued j n r hr
      have := hmakes'.call_eq
      omega
  . rcases issues_advanced hs hT hr' with hr' | ⟨hj', hmakes'⟩
    . have := h.issued j' k s hr'
      have := hmakes.call_eq
      omega
    . exact ⟨hj.trans hj'.symm, hmakes.eq hmakes'⟩

theorem Orderly.apart_advanced (h : w.Orderly) (hs : w.Sound)
    (hT : w.tasks[i]? = some ⟨done, m :: rest⟩) {j' : Nat}
    (hr : (w.advanced i done m rest).Issues j n r) (hr' : (w.advanced i done m rest).Issues j' n s)
    (hne : r.call ≠ s.call) (hid : r.id = s.id)
    : 2 ^ 64 < (w.advanced i done m rest).drawn n := by
  have hapart : ∀ r s, (∃ j, w.Issues j n r) → (∃ j, w.Issues j n s) → r.call ≠ s.call →
      r.id = s.id → 2 ^ 64 < w.drawn n := by
    rintro r s ⟨j, hr⟩ ⟨j', hs⟩
    exact h.apart j j' n r s hr hs
  exact hs.apart_of_origin hT (h.numbered_any n) hapart (fun _ => exists_issues_advanced hs hT)
    ⟨j, hr⟩ ⟨j', hr'⟩ hne hid

theorem issues_mono (hT : w.tasks[i]? = some ⟨done, m :: rest⟩) (hr : w.Issues j n r)
    : (w.advanced i done m rest).Issues j n r := by
  obtain ⟨T, hj, params, hreg⟩ := hr
  obtain ⟨T', hj', hmoves, _⟩ := getElem?_advanced_of_old hT hj
  exact ⟨T', hj', params, hmoves hreg⟩

theorem Orderly.waiting_advanced (h : w.Orderly) (hs : w.Sound)
    (hT : w.tasks[i]? = some ⟨done, m :: rest⟩) (hr : (w.advanced i done m rest).Waits n r)
    : ∃ j, (w.advanced i done m rest).Issues j n r := by
  rcases hs.waits_of_advanced hT hr with hr | hmakes
  . obtain ⟨j, hj⟩ := h.waiting n r hr
    exact ⟨j, issues_mono hT hj⟩
  . obtain ⟨params, hreg⟩ := (hs.effect hT).register_of_makes hmakes
    exact ⟨i, _, getElem?_advanced_self hT, params, mem_moves_advanced.mpr (.inr hreg)⟩

theorem Orderly.advanced (h : w.Orderly) (hs : w.Sound)
    (hT : w.tasks[i]? = some ⟨done, m :: rest⟩)
    : (w.advanced i done m rest).Orderly := by
  constructor
  . intro T hT'
    rcases mem_tasks_advanced hT' with rfl | hT'
    . exact ordered_advanced (h.ordered _ (mem_tasks_of_getElem? hT))
    . exact h.ordered T hT'
  . exact fun n r hr => h.waiting_advanced hs hT hr
  . exact fun j n r hr => h.issued_advanced hs hT hr
  . exact fun j n r hr => h.numbered_advanced hs hT hr
  . exact fun j j' n k r s hr hr' hcall => h.owned_advanced hs hT hr hr' hcall
  . exact fun j j' n r s hr hr' hne hid => h.apart_advanced hs hT hr hr' hne hid

theorem issues_of_begun (hm : m.isFirst = true) (hr : (w.begun m).Issues j n r)
    : w.Issues j n r := by
  obtain ⟨T, hj, params, hreg⟩ := hr
  rcases getElem?_begun hj with hj | ⟨_, rfl⟩
  . exact ⟨T, hj, params, hreg⟩
  . rw [Task.moves, List.nil_append, List.mem_singleton] at hreg
    rw [← hreg] at hm
    simp [Move.isFirst] at hm

theorem issues_begun (m : Move) (hr : w.Issues j n r) : (w.begun m).Issues j n r := by
  obtain ⟨T, hj, hreg⟩ := hr
  exact ⟨T, getElem?_begun_of_old hj m, hreg⟩

theorem Orderly.begun (h : w.Orderly) (hm : m.isFirst = true) : (w.begun m).Orderly := by
  have hheld := Move.held_of_isFirst hm
  constructor
  . intro T hT
    rcases mem_tasks_begun hT with hT | rfl
    . exact h.ordered T hT
    . exact Task.ordered_of_begun hm
  . intro n r hr
    obtain ⟨i, hi⟩ := h.waiting n r (waits_of_begun hheld hr)
    exact ⟨i, issues_begun m hi⟩
  . exact fun i n r hr => h.issued i n r (issues_of_begun hm hr)
  . intro i n r hr
    rw [drawn_begun]
    exact h.numbered i n r (issues_of_begun hm hr)
  . exact fun i j n k r s hr hs hcall =>
      h.owned i j n k r s (issues_of_begun hm hr) (issues_of_begun hm hs) hcall
  . intro i j n r s hr hs hne hid
    rw [drawn_begun]
    exact h.apart i j n r s (issues_of_begun hm hr) (issues_of_begun hm hs) hne hid

theorem Orderly.start (settings : Settings) : (start settings).Orderly := by
  have hissues : ∀ i n r, ¬(World.start settings).Issues i n r := by
    rintro i n r ⟨T, hT, _⟩
    simp [World.start] at hT
  constructor
  . intro T hT
    simp [World.start] at hT
  . rintro n r (⟨t, ht, _⟩ | ⟨T, hT, _⟩)
    . simp [World.start, Client.books] at ht
    . simp [World.start] at hT
  . exact fun i n r hr => absurd hr (hissues i n r)
  . exact fun i n r hr => absurd hr (hissues i n r)
  . exact fun i j n k r s hr => absurd hr (hissues i n r)
  . exact fun i j n r s hr => absurd hr (hissues i n r)

theorem Orderly.run (h : w.Orderly) (hs : w.Sound) (acts : List Act) : (w.run acts).Orderly := by
  apply hs.run_induction h
  . exact fun _ _ hm h => h.begun hm
  . exact fun _ _ _ _ _ hs hT h => h.advanced hs hT

theorem recorded_run (settings : Settings) (acts : List Act) {call : Nat}
    (hcall : call < ((start settings).run acts).client.ledger.handles.length)
    : (∃ i n r, ((start settings).run acts).Issues i n r ∧ r.call = call)
      ∨ ((start settings).run acts).client.ledger.outcome? call
          = some (.error .notConnected) := by
  revert call
  apply (Sound.start settings).run_induction (P := fun w => ∀ call < w.client.ledger.handles.length,
    (∃ i n r, w.Issues i n r ∧ r.call = call)
      ∨ w.client.ledger.outcome? call = some (.error .notConnected))
  . intro call hcall
    exact absurd hcall (Nat.not_lt_zero call)
  . intro w m _ h call hcall
    apply (h call hcall).imp_left
    rintro ⟨i, n, r, hr, rfl⟩
    exact ⟨i, n, r, issues_begun m hr, rfl⟩
  . intro w i done m rest hs hT h call hcall
    rcases (hs.effect hT).handle_cases hcall with hold | hfailed | ⟨n, r, params, hreg, rfl⟩
    . apply (h call hold).imp
      . rintro ⟨j, n, r, hr, rfl⟩
        exact ⟨j, n, r, issues_mono hT hr, rfl⟩
      . exact (hs.accounts_advanced hT).2 call _
    . exact .inr hfailed
    . refine .inl ⟨i, n, r, ?_, rfl⟩
      exact ⟨_, getElem?_advanced_self hT, params, mem_moves_advanced.mpr (.inr hreg)⟩

end World
end CallWire
