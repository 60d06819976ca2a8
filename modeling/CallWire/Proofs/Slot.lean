import CallWire.Proofs.Books

/-!
This module contains what moves do to the slot of a client, and how an operation comes to the moves
of a session: it goes on with a session, or it turns to one that is there and makes a move of it that
tells what it wants there.
-/

namespace CallWire

namespace Client

variable {c c' : Client} {n : Nat}

theorem slot_of_currentSession? (h : c.currentSession? = some n) : c.slot = some n := by
  exact (currentSession?_eq_some_iff.mp h).2

@[simp]
theorem slot_warnAll (c : Client) (messages : List String)
    : (messages.foldl (fun c message => c.warn (.insecure message)) c).slot = c.slot := by
  induction messages generalizing c with
  | nil => rfl
  | cons message messages ih =>
    rw [List.foldl_cons, ih]
    simp

theorem slot_dialServer (c : Client) (generation : Nat) (route : Route) (timeout : Duration)
    (net : Network)
    : (c.dialServer generation route timeout net).2.slot = c.slot := by
  unfold dialServer
  generalize hseen : (if net.isAbsent route then c.tell (.absent c.settings.url) else c) = seen
  have hslot : seen.slot = c.slot := by
    rw [← hseen]
    split <;> simp
  dsimp
  rw [← hslot]
  split <;> exact slot_setTransport seen _

theorem slot_of_core_eq (h : c.core = c'.core) : c.slot = c'.slot := by
  rw [← slot_core, h, slot_core]

theorem slot_takeAnswered (c : Client) (n : Nat) (f : String)
    : (c.takeAnswered n f).2.slot = c.slot := by
  unfold takeAnswered
  dsimp
  split
  . rfl
  . split <;> rfl

theorem slot_takeExpired (c : Client) (n : Nat) (timeout : Duration)
    : (c.takeExpired n timeout).2.slot = c.slot := by
  cases hclosed : (c.table n).closed with
  | true => rw [Move.takeExpired_of_shut hclosed]
  | false =>
    have hslot := slot_of_core_eq (Move.takeExpired_of_open timeout hclosed).2
    exact hslot

end Client

namespace Move

variable {c : Client} {m x : Move} {n : Nat}

theorem slot_run (m : Move) (c : Client)
    : (m.run c).2.slot = c.slot ∨ (m.run c).2.slot = none
      ∨ ∃ n, m = .publish n ∧ (m.run c).2.slot = some n := by
  cases m with
  | publish n => exact .inr (.inr ⟨n, rfl, rfl⟩)
  | disconnect | replace | drop =>
    apply Or.inr
    apply Or.inl
    unfold run
    dsimp
    split <;> simp
  | dial generation route timeout net =>
    have hdialled := Client.slot_dialServer c generation route timeout net
    apply Or.inl
    unfold run
    dsimp
    split
    . next hdial => simpa [hdial] using hdialled
    . next hdial => simpa [hdial] using hdialled
  | event k e =>
    apply Or.inl
    unfold run
    dsimp
    split
    . cases e with
      | frame f =>
        have htaken := Client.slot_takeAnswered c k f
        dsimp
        split
        . next hframe => simpa [hframe] using htaken
        . next hframe => simpa [hframe] using htaken
      | closed | failed => rfl
    . rfl
  | prepare =>
    apply Or.inl
    unfold run Client.drawId
    dsimp
    split <;> rfl
  | send =>
    apply Or.inl
    unfold run Client.putFrame
    dsimp
    split <;> rfl
  | lookup | register | retract | hangUp | connect =>
    apply Or.inl
    unfold run
    dsimp
    split <;> rfl
  | endGeneration | «open» =>
    apply Or.inl
    unfold run
    dsimp
    split <;> simp
  | sweep k =>
    apply Or.inl
    unfold run
    dsimp
    split
    . rfl
    . exact Client.slot_takeExpired c k _
  | closeLink => exact .inl (Client.slot_closeLink c)
  | dispose | close | farewell | startSession | stopWriting | abort | elapse | forget =>
    exact .inl rfl

theorem session?_of_draws (h : m.draws n = true) : m.session? = some n := by
  cases m with
  | prepare k method params decoder => exact congrArg some (of_decide_eq_true h)
  | _ => simp [draws] at h

theorem exists_register_of_draws (h : m.draws n = true)
    : ∃ r params, .register n r params ∈ (m.run c).1 := by
  cases m with
  | prepare k method params decoder =>
    have hk : k = n := of_decide_eq_true h
    subst hk
    exact ⟨_, params, List.mem_singleton_self _⟩
  | _ => simp [draws] at h

def concerns (m : Move) (n : Nat) : Bool := m.draws n || m.closes n || m.takes n

/-- An operation turns to a session, and one of the moves that it makes concerns the session. -/
def TurnsTo (c : Client) (m : Move) (n : Nat) : Prop :=
  (c.slot = some n ∨ ∃ s, c.session? n = some s) ∧ ∃ y ∈ m :: (m.run c).1, y.concerns n = true

theorem concerns_close (n : Nat) : (close n).concerns n = true := by
  simp [concerns, closes]

theorem turnsTo_of_slot {k : Nat} {next : List Move} (hslot : c.slot = some k)
    (hrun : (m.run c).1 = next) (hclose : .close k ∈ next)
    (hnext : ∀ y ∈ next, y.session? = none ∨ y.session? = some k)
    (hx : x ∈ (m.run c).1) (hn : x.session? = some n)
    : TurnsTo c m n := by
  rw [hrun] at hx
  rcases hnext x hx with hnone | hsome
  . rw [hnone] at hn
    simp at hn
  . rw [hsome] at hn
    cases hn
    refine ⟨.inl hslot, .close n, ?_, concerns_close n⟩
    rw [hrun]
    exact List.mem_cons_of_mem _ hclose

theorem turnsTo_of_isListening {k : Nat} (hlisten : c.isListening k = true)
    (hrun : (m.run c).1 = ending k) (hx : x ∈ (m.run c).1) (hn : x.session? = some n)
    : TurnsTo c m n := by
  rw [hrun] at hx
  have hk : x.session? = some k := by
    simp only [ending, List.mem_cons, List.not_mem_nil, or_false] at hx
    rcases hx with rfl | rfl <;> rfl
  rw [hk] at hn
  cases hn
  obtain ⟨s, hs, _⟩ := Client.session?_of_isListening hlisten
  refine ⟨.inr ⟨s, hs⟩, .close n, ?_, concerns_close n⟩
  rw [hrun]
  exact List.mem_cons_of_mem _ List.mem_cons_self

theorem turnsTo_of_takes {k : Nat} {s : Session} (hs : c.session? k = some s)
    (htakes : m.takes k = true) (hsession : x.session? = some k) (hn : x.session? = some n)
    : TurnsTo c m n := by
  rw [hsession] at hn
  cases hn
  refine ⟨.inr ⟨s, hs⟩, m, List.mem_cons_self, ?_⟩
  simp [concerns, htakes]

theorem turnsTo_of_event {k : Nat} {e : Event} (hx : x ∈ ((event k e).run c).1)
    (hn : x.session? = some n)
    : TurnsTo c (event k e) n := by
  cases hlisten : c.isListening k with
  | false =>
    rw [run_event_of_deaf hlisten] at hx
    cases hx
  | true =>
    obtain ⟨s, hs, _⟩ := Client.session?_of_isListening hlisten
    cases e with
    | frame f =>
      cases htaken : c.takeAnswered k f with
      | mk taken d =>
        cases taken with
        | none =>
          rw [run_frame_of_none hlisten htaken] at hx
          cases hx
        | some taken =>
          rw [run_frame_of_some hlisten htaken, List.mem_singleton] at hx
          subst hx
          exact turnsTo_of_takes hs (decide_eq_true rfl) rfl hn
    | closed | failed => exact turnsTo_of_isListening hlisten (by simp [run, hlisten]) hx hn

theorem turnsTo_of_sweep {k : Nat} (hx : x ∈ ((sweep k).run c).1) (hn : x.session? = some n)
    : TurnsTo c (sweep k) n := by
  cases htimeout : c.settings.requestTimeout with
  | none =>
    rw [run_sweep_of_none htimeout] at hx
    cases hx
  | some timeout =>
    cases hs : c.session? k with
    | none =>
      have hclosed : (c.table k).closed = true := by
        unfold Client.table
        rw [hs]
        rfl
      rw [run_sweep_of_some htimeout, takeExpired_of_shut hclosed] at hx
      cases hx
    | some s =>
      cases yields_of_mem_run hx with
      | expired => exact turnsTo_of_takes hs (decide_eq_true rfl) rfl hn

theorem turnsTo_of_lookup {method : String} {params : List Json} {decoder : ResultDecoder}
    (hx : x ∈ ((lookup method params decoder).run c).1) (hn : x.session? = some n)
    : TurnsTo c (lookup method params decoder) n := by
  cases hfound : c.currentSession? with
  | none => simp [run, hfound] at hx
  | some k =>
    have hrun : ((lookup method params decoder).run c).1 = [.prepare k method params decoder] := by
      simp only [run, hfound]
    rw [hrun, List.mem_singleton] at hx
    subst hx
    cases hn
    refine ⟨.inl (Client.slot_of_currentSession? hfound), .prepare n method params decoder, ?_, ?_⟩
    . simp [hrun]
    . simp [concerns, draws]

theorem session?_of_mem_run (hx : x ∈ (m.run c).1) (hn : x.session? = some n)
    : m.session? = some n ∨ TurnsTo c m n := by
  cases m with
  | lookup => exact .inr (turnsTo_of_lookup hx hn)
  | event k e => exact .inr (turnsTo_of_event hx hn)
  | sweep k => exact .inr (turnsTo_of_sweep hx hn)
  | hangUp k =>
    cases hlisten : c.isListening k with
    | false => simp [run, hlisten] at hx
    | true => exact .inr (turnsTo_of_isListening hlisten (by simp [run, hlisten]) hx hn)
  -- The session leaves the slot first, and is closed only by the moves that follow.
  | disconnect | replace | drop =>
    cases hslot : c.slot with
    | none =>
      simp only [run, hslot, List.mem_singleton] at hx
      subst hx
      simp [session?] at hn
    | some k =>
      apply Or.inr
      apply turnsTo_of_slot hslot (by simp only [run, hslot]; rfl) _ _ hx hn
      . simp
      . simp [session?]
  | prepare =>
    rw [run, List.mem_singleton] at hx
    subst hx
    exact .inl hn
  | register | send | retract =>
    unfold run at hx
    dsimp at hx
    split at hx <;> simp at hx <;> (subst hx; exact .inl hn)
  | close k =>
    obtain ⟨r, _, rfl⟩ := List.mem_map.mp hx
    exact .inl hn
  | connect | «open» | dial | endGeneration =>
    unfold run at hx
    dsimp at hx
    split at hx <;> simp at hx <;> (subst hx; simp [session?] at hn)
  | startSession =>
    rw [run, List.mem_singleton] at hx
    subst hx
    simp [session?] at hn
  | dispose | closeLink | farewell | publish | stopWriting | abort | elapse | forget =>
    simp [run] at hx

end Move
end CallWire
