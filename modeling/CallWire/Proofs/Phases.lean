import CallWire.Proofs.Interleaving
import CallWire.Proofs.Settled

/-!
This module contains the phases of the operations that open and close the connection of a client, and
what all other operations can do meanwhile.
-/

namespace CallWire

namespace Move

def locks : Move → Bool
  | .disconnect | .connect _ _ _ | .drop => true
  | _ => false

def isCalm : Move → Bool
  | .lookup _ _ _ | .prepare _ _ _ _ | .register _ _ _ | .send _ _ _ | .retract _ _ => true
  | .dispose _ _ _ | .sweep _ | .elapse _ | .forget _ => true
  | _ => false

def listens : Move → Bool
  | .event _ _ | .hangUp _ => true
  | _ => false

/-- What is true of the connection and the slot before a move that is made with no table open. -/
def RestsIn (o : Outline) : Move → Prop
  | .replace _ _ _ | .farewell _ => o.transport.state = .disconnected
  | .open _ _ _ => o.transport.state = .disconnected ∧ o.slot = none
  | .closeLink | .abort => o.transport.state ≠ .connecting ∧ o.slot = none
  | _ => False

/-- Where an operation is that has the lock, by the moves that it goes on with. -/
inductive Phase (o : Outline) (ends : Nat → Prop) : List Move → Prop where
  | returned (h : o.Settled ends) : Phase o ends []
  | begun {m : Move} (h : o.Settled ends) (hm : m.locks = true) : Phase o ends [m]
  | disposing {n : Nat} {d : Disposal} {r : CallRecord} {l : List Move} (h : Phase o ends l)
      : Phase o ends (.dispose n d r :: l)
  | resting {m : Move} (hshut : o.Shut) (hm : m.RestsIn o) : Phase o ends [m]
  | leaving {n : Nat} (hopen : o.OnlyOpen n) (hm : closeLink.RestsIn o)
      : Phase o ends [.closeLink, .close n, .farewell n]
  | closing {n : Nat} {m : Move} (hopen : o.OnlyOpen n) (hm : m.RestsIn o)
      : Phase o ends [.close n, m]
  | dialling {generation : Nat} {route : Route} {timeout : Duration} {net : Network}
      (hfresh : o.Fresh generation) (hstate : o.transport.state = .connecting)
      (hslot : o.slot = none)
      : Phase o ends [.dial generation route timeout net]
  | starting {generation : Nat} (hfresh : o.Fresh generation)
      (hstate : o.transport.state = .connected) (hslot : o.slot = none)
      : Phase o ends [.startSession generation]
  | publishing {n : Nat} (h : (o.publish n).Settled ends) (hslot : o.slot = none)
      : Phase o ends [.publish n]

/-- Where an operation is that does not need the lock, by the moves it made and goes on with. -/
inductive Beside (done : List Move) : List Move → Prop where
  | returned : Beside done []
  | calm {m : Move} {l : List Move} (hm : m.isCalm = true) (h : Beside done l) : Beside done (m :: l)
  | listening {m : Move} (hm : m.listens = true) : Beside done [m]
  | stopping : Beside done [.stopWriting]
  | ending (n : Nat) : Beside done (ending n)
  | ended {n : Nat} (hn : .close n ∈ done) : Beside done [.endGeneration n]

end Move

namespace Outline

variable {o o' : Outline} {ends ends' : Nat → Prop} {n k generation : Nat} {m : Move}
variable {l : List Move}

/-- What a move can do that is made without the lock. -/
structure Nudge (o o' : Outline) (ends ends' : Nat → Prop) : Prop where
  slot : o'.slot = o.slot
  generation : o'.transport.generation = o.transport.generation
  runs : ∀ n generation, o'.RunsOver n generation ↔ o.RunsOver n generation
  opens : ∀ n, o'.Open n → o.Open n
  state : o'.transport.state = o.transport.state
    ∨ (o'.transport.state = .disconnected
      ∧ ∃ n, o.RunsOver n o.transport.generation ∧ ¬o.Open n)
  kept : ∀ n, o'.transport.state = .connected → o.RunsOver n o.transport.generation →
    o.Open n ∨ ends n → o'.Open n ∨ ends' n
  recorded : o.transport.Recorded → o'.transport.Recorded

theorem Nudge.of_imp (h : ∀ n, ends n → ends' n) : o.Nudge o ends ends' := by
  constructor
  . rfl
  . rfl
  . exact fun _ _ => .rfl
  . exact fun _ => id
  . exact .inl rfl
  . exact fun n _ _ hn => hn.imp_right (h n)
  . exact id

theorem Nudge.close (h : ∀ k, ends k → ends' k) (hn : ends n)
    : o.Nudge (o.close n) ends ends' := by
  constructor
  . rfl
  . rfl
  . exact fun _ _ => runsOver_close_iff
  . exact fun _ hk => (open_of_close hk).1
  . exact .inl rfl
  . intro k _ _ hk
    by_cases heq : k = n
    . rw [heq]
      exact .inr (h n hn)
    . exact hk.imp (open_close · heq) (h k)
  . exact id

theorem Nudge.endGeneration (h : ∀ k, k ≠ n → ends k → ends' k) (hn : ¬o.Open n)
    : o.Nudge (o.endGeneration n) ends ends' := by
  rcases endGeneration_cases o n with ⟨heq, hother⟩ | ⟨hruns, heq⟩
  . rw [heq]
    constructor
    . rfl
    . rfl
    . exact fun _ _ => .rfl
    . exact fun _ => id
    . exact .inl rfl
    . intro k _ hk
      apply Or.imp_right (h k _)
      rintro rfl
      exact hother hk
    . exact id
  . rw [heq]
    constructor
    . rfl
    . exact Transport.generation_setState _ _
    . exact fun _ _ => .rfl
    . exact fun _ => id
    . exact .inr ⟨Transport.state_setState _ _, n, hruns, hn⟩
    . intro k hstate
      unfold withTransport at hstate
      rw [Transport.state_setState] at hstate
      cases hstate
    . exact Transport.Recorded.close

theorem Nudge.stopWriting (h : ∀ k, ends k → ends' k)
    : o.Nudge (o.withTransport o.transport.stopWriting) ends ends' := by
  constructor
  . rfl
  . rfl
  . exact fun _ _ => .rfl
  . exact fun _ => id
  . exact .inl rfl
  . exact fun k _ _ hk => hk.imp_right (h k)
  . exact id

theorem Nudge.publish (hn : o.Nudge o' ends ends') (n : Nat)
    : (o.publish n).Nudge (o'.publish n) ends ends' :=
  ⟨rfl, hn.generation, hn.runs, hn.opens, hn.state, hn.kept, hn.recorded⟩

theorem Nudge.sound (hn : o.Nudge o' ends ends') (h : o.Sound) : o'.Sound := by
  constructor
  . intro n generation hruns
    rw [hn.generation]
    exact h.known n generation ((hn.runs n generation).mp hruns)
  . intro n k generation hruns hruns'
    exact h.single n k generation ((hn.runs n generation).mp hruns) ((hn.runs k generation).mp hruns')
  . exact hn.recorded h.recorded

theorem Nudge.settled (hn : o.Nudge o' ends ends') (h : o.Settled ends) (hs : o.Sound)
    : o'.Settled ends' := by
  constructor
  . rcases hn.state with hsame | ⟨hstate, _⟩
    . rw [hsame]
      exact h.state
    . simp [hstate]
  . intro n hopen
    obtain ⟨hslot, hstate, hruns⟩ := h.current n (hn.opens n hopen)
    refine ⟨hn.slot.trans hslot, ?_, ?_⟩
    . rcases hn.state with hsame | ⟨_, k, hruns', hclosed⟩
      . exact hsame.trans hstate
      -- One session runs over a socket, and the one whose socket ended is closed.
      . rw [hs.single k n _ hruns' hruns] at hclosed
        exact absurd (hn.opens n hopen) hclosed
    . rw [hn.generation]
      exact (hn.runs n _).mpr hruns
  . intro hstate
    have hbefore : o.transport.state = .connected := by
      rcases hn.state with hsame | ⟨hdisconnected, _⟩
      . exact hsame.symm.trans hstate
      . rw [hdisconnected] at hstate
        cases hstate
    obtain ⟨n, hslot, hruns, hserved⟩ := h.served hbefore
    refine ⟨n, hn.slot.trans hslot, ?_, hn.kept n hstate hruns hserved⟩
    rw [hn.generation]
    exact (hn.runs n _).mpr hruns

theorem Nudge.shut (hn : o.Nudge o' ends ends') (h : o.Shut) : o'.Shut := by
  exact fun n hopen => h n (hn.opens n hopen)

theorem Nudge.onlyOpen (hn : o.Nudge o' ends ends') (h : o.OnlyOpen n) : o'.OnlyOpen n := by
  exact fun k hopen => h k (hn.opens k hopen)

theorem Nudge.fresh (hn : o.Nudge o' ends ends') (h : o.Fresh generation)
    : o'.Fresh generation ∧ o'.transport.state = o.transport.state := by
  refine ⟨⟨hn.generation.trans h.newest, hn.shut h.shut, ?_⟩, ?_⟩
  . exact fun n hruns => h.unused n ((hn.runs n _).mp hruns)
  . rcases hn.state with hsame | ⟨_, n, hruns, _⟩
    . exact hsame
    . rw [h.newest] at hruns
      exact absurd hruns (h.unused n)

theorem Nudge.restsIn (hn : o.Nudge o' ends ends') (h : m.RestsIn o) : m.RestsIn o' := by
  unfold Move.RestsIn at h ⊢
  rw [hn.slot]
  rcases hn.state with hsame | ⟨hstate, _⟩
  . rw [hsame]
    exact h
  . rw [hstate]
    cases m with
    | «open» | closeLink | abort => exact ⟨by simp, h.2⟩
    | replace | farewell => rfl
    | _ => exact h

theorem Nudge.phase (hn : o.Nudge o' ends ends') (hs : o.Sound) (h : Move.Phase o ends l)
    : Move.Phase o' ends' l := by
  induction h with
  | returned h => exact .returned (hn.settled h hs)
  | begun h hm => exact .begun (hn.settled h hs) hm
  | disposing h ih => exact .disposing ih
  | resting hshut hm => exact .resting (hn.shut hshut) (hn.restsIn hm)
  | leaving hopen hm => exact .leaving (hn.onlyOpen hopen) (hn.restsIn hm)
  | closing hopen hm => exact .closing (hn.onlyOpen hopen) (hn.restsIn hm)
  | dialling hfresh hstate hslot =>
    obtain ⟨hfresh, hsame⟩ := hn.fresh hfresh
    exact .dialling hfresh (hsame.trans hstate) (hn.slot.trans hslot)
  | starting hfresh hstate hslot =>
    obtain ⟨hfresh, hsame⟩ := hn.fresh hfresh
    exact .starting hfresh (hsame.trans hstate) (hn.slot.trans hslot)
  | publishing h hslot =>
    exact .publishing ((hn.publish _).settled h (hs.publish _)) (hn.slot.trans hslot)

end Outline

namespace Move

variable {c : Client} {m x : Move} {done rest l : List Move} {n : Nat} {o : Outline}
variable {ends ends' : Nat → Prop}

theorem isPlain_of_isCalm (h : m.isCalm = true) : m.isPlain = true := by
  cases m <;> simp [isCalm, isPlain] at h ⊢

theorem isPlain_of_listens (h : m.listens = true) : m.isPlain = true := by
  cases m <;> simp [listens, isPlain] at h ⊢

theorem isCalm_of_mem_run (hm : m.isCalm = true) (hx : x ∈ (m.run c).1) : x.isCalm = true := by
  cases yields_of_mem_run hx with
  | found | prepared | entered | turnedAway | unsent | retracted | expired => rfl
  | _ => cases hm

theorem run_of_listens (hm : m.listens = true)
    : (∀ x ∈ (m.run c).1, x.isCalm = true) ∨ ∃ n, (m.run c).1 = ending n := by
  cases m with
  | event n e =>
    cases hlisten : c.isListening n with
    | false =>
      rw [run_event_of_deaf hlisten]
      exact .inl (List.forall_mem_nil _)
    | true =>
      cases e with
      | frame f =>
        cases htaken : c.takeAnswered n f with
        | mk taken d =>
          cases taken with
          | none =>
            rw [run_frame_of_none hlisten htaken]
            exact .inl (List.forall_mem_nil _)
          | some taken =>
            rw [run_frame_of_some hlisten htaken]
            apply Or.inl
            intro x hx
            rw [List.mem_singleton.mp hx]
            rfl
      | closed | failed => exact .inr ⟨n, by simp [run, hlisten]⟩
  | hangUp n =>
    unfold run
    dsimp
    split
    . exact .inr ⟨n, rfl⟩
    . exact .inl (List.forall_mem_nil _)
  | _ => simp [listens] at hm

theorem locks_of_mem_run (hx : x ∈ (m.run c).1) : x.locks = false := by
  cases yields_of_mem_run hx <;> rfl

theorem Beside.calm_append (hl : ∀ x ∈ l, x.isCalm = true) (h : Beside done rest)
    : Beside done (l ++ rest) := by
  induction l with
  | nil => exact h
  | cons x l ih =>
    apply Beside.calm
    . exact hl x List.mem_cons_self
    . exact ih (fun y hy => hl y (List.mem_cons_of_mem _ hy))

theorem Beside.cons_done (h : Beside done l) (m : Move) : Beside (m :: done) l := by
  induction h with
  | returned => exact .returned
  | calm hm h ih => exact .calm hm ih
  | listening hm => exact .listening hm
  | stopping => exact .stopping
  | ending n => exact .ending n
  | ended hn => exact .ended (List.mem_cons_of_mem _ hn)

theorem isCalm_disposals (n : Nat) (d : CallRecord → Disposal) (rs : List CallRecord)
    : ∀ x ∈ disposals n d rs, x.isCalm = true := by
  intro x hx
  obtain ⟨r, _, rfl⟩ := List.mem_map.mp hx
  rfl

theorem Beside.run (h : Beside done (m :: rest)) (c : Client)
    : Beside (m :: done) ((m.run c).1 ++ rest) := by
  cases h with
  | calm hm h => exact .calm_append (fun x hx => isCalm_of_mem_run hm hx) (h.cons_done m)
  | listening hm =>
    rcases run_of_listens (c := c) hm with hcalm | ⟨n, hnext⟩
    . exact .calm_append hcalm .returned
    . rw [List.append_nil, hnext]
      exact .ending n
  | stopping => exact .returned
  | ending n => exact .calm_append (isCalm_disposals n _ _) (.ended List.mem_cons_self)
  | ended =>
    unfold Move.run
    dsimp
    split <;> exact .returned

theorem beside_of_isFirst (hm : m.isFirst = true) (hlocks : m.locks = false) : Beside [] [m] := by
  cases m with
  | event | hangUp => exact .listening rfl
  | disconnect | connect | drop => cases hlocks
  | lookup | sweep | elapse | forget => exact .calm rfl .returned
  | stopWriting => exact .stopping
  | _ => cases hm

theorem Beside.nudge (h : Beside done (m :: rest))
    (hclosed : ∀ n, .close n ∈ done → ¬c.outline.Open n)
    (hending : ∀ n, .endGeneration n ∈ m :: rest → ends n)
    (hkept : ∀ n, m ≠ .endGeneration n → ends n → ends' n)
    : c.outline.Nudge (m.run c).2.outline ends ends' := by
  cases h with
  | calm hm _ =>
    rw [outline_run_of_isPlain (isPlain_of_isCalm hm)]
    apply Outline.Nudge.of_imp
    intro n
    apply hkept
    rintro rfl
    cases hm
  | listening hm =>
    rw [outline_run_of_isPlain (isPlain_of_listens hm)]
    apply Outline.Nudge.of_imp
    intro n
    apply hkept
    rintro rfl
    cases hm
  | stopping =>
    rw [outline_stopWriting]
    exact .stopWriting (fun n => hkept n nofun)
  | ending n =>
    rw [outline_close]
    apply Outline.Nudge.close
    . exact fun k => hkept k nofun
    . exact hending n (List.mem_cons_of_mem _ (List.mem_singleton_self _))
  | @ended n hn =>
    rw [outline_endGeneration]
    apply Outline.Nudge.endGeneration
    . intro k hne
      apply hkept
      rintro ⟨⟩
      exact hne rfl
    . exact hclosed n hn

theorem Phase.disposals (h : Phase o ends l) (n : Nat) (d : CallRecord → Disposal)
    (rs : List CallRecord)
    : Phase o ends (disposals n d rs ++ l) := by
  induction rs with
  | nil => exact h
  | cons r rs ih => exact .disposing ih

theorem phase_begun (h : c.outline.Settled ends) (hs : c.outline.Sound) (hm : m.locks = true)
    : Phase (m.run c).2.outline ends (m.run c).1 ∧ (m.run c).2.outline.Sound := by
  cases m with
  | disconnect =>
    cases hslot : c.slot with
    | none =>
      simp only [run, hslot]
      exact ⟨.resting (h.shut_of_slot hslot) ⟨h.state, rfl⟩, hs.vacate⟩
    | some n =>
      simp only [run, hslot]
      exact ⟨.leaving (h.onlyOpen hslot) ⟨h.state, rfl⟩, hs.vacate⟩
  | drop =>
    cases hslot : c.slot with
    | none =>
      simp only [run, hslot]
      exact ⟨.resting (h.shut_of_slot hslot) ⟨h.state, rfl⟩, hs.vacate⟩
    | some n =>
      simp only [run, hslot, Client.outline_vacate, Client.outline_stopListening]
      exact ⟨.closing (h.onlyOpen hslot) ⟨h.state, rfl⟩, hs.vacate⟩
  | connect deadline net files =>
    unfold run
    dsimp
    split
    . exact ⟨.returned h, hs⟩
    . next hleft =>
      have hstate : c.outline.transport.state ≠ .connected := by
        intro hstate
        obtain ⟨n, hslot, _⟩ := h.served hstate
        have hslot : c.slot = some n := hslot
        have hstate : c.transport.state = .connected := hstate
        apply hleft
        unfold Client.isConnected Transport.isConnected
        rw [hslot, hstate]
        rfl
      have hdisconnected : c.outline.transport.state = .disconnected := by
        have := h.state
        revert hstate this
        cases c.outline.transport.state <;> simp
      exact ⟨.resting (h.shut hstate) hdisconnected, hs⟩
  | _ => cases hm

theorem phase_open {deadline : Duration} {net : Network} {files : FileTree}
    (hshut : c.outline.Shut) (hs : c.outline.Sound) (hstate : c.transport.state = .disconnected)
    (hslot : c.slot = none)
    : let m : Move := .open deadline net files
      Phase (m.run c).2.outline ends (m.run c).1 ∧ (m.run c).2.outline.Sound := by
  dsimp only
  rcases outline_open c deadline net files with ⟨hnext, houtline⟩ | ⟨_, _, hnext, houtline⟩
  . rw [hnext, houtline]
    exact ⟨.returned (hshut.settled hstate), hs⟩
  . rw [hnext, houtline]
    refine ⟨.dialling ⟨?_, hshut, ?_⟩ ?_ hslot, ?_⟩
    . exact Transport.generation_setState _ _
    . intro n hruns
      have hknown : c.transport.generation + 1 ≤ c.transport.generation := hs.known n _ hruns
      exact Nat.not_succ_le_self _ hknown
    . exact Transport.state_setState _ _
    . apply hs.withTransport
      . unfold Transport.startOpening
        rw [Transport.generation_setState]
        exact Nat.le_succ _
      . exact Transport.Recorded.startOpening hs.recorded hstate

theorem phase_dial {route : Route} {timeout : Duration} {net : Network}
    (hfresh : c.outline.Fresh c.transport.generation) (hs : c.outline.Sound)
    (hstate : c.transport.state = .connecting) (hslot : c.slot = none)
    : let m : Move := .dial c.transport.generation route timeout net
      Phase (m.run c).2.outline ends (m.run c).1 ∧ (m.run c).2.outline.Sound := by
  have hrecorded : c.transport.Recorded := hs.recorded
  have hrecorded := hrecorded.settleOpening hstate (net.dial route timeout)
  dsimp only
  by_cases hresult : net.dial route timeout = .opened
  . obtain ⟨hnext, houtline⟩ := outline_dial_of_opened hresult c
    rw [hresult, Transport.settleOpening_opened] at hrecorded
    rw [hnext, houtline]
    refine ⟨.starting ⟨?_, hfresh.shut, hfresh.unused⟩ ?_ hslot, ?_⟩
    . exact Transport.generation_setState _ _
    . exact Transport.state_setState _ _
    . apply hs.withTransport _ hrecorded
      rw [Transport.generation_setState]
      exact Nat.le_refl _
  . obtain ⟨hnext, houtline⟩ := outline_dial_of_failed hresult c
    rw [Transport.settleOpening_of_failed hresult] at hrecorded
    rw [hnext, houtline]
    refine ⟨.returned (Outline.Shut.settled ?_ ?_), ?_⟩
    . exact hfresh.shut
    . exact Transport.state_setState _ _
    . apply hs.withTransport _ hrecorded
      rw [Transport.generation_setState]
      exact Nat.le_refl _

theorem phase_resting (hshut : c.outline.Shut) (hs : c.outline.Sound)
    (hm : m.RestsIn c.outline)
    : Phase (m.run c).2.outline ends (m.run c).1 ∧ (m.run c).2.outline.Sound := by
  cases m with
  | replace deadline net files =>
    cases hslot : c.slot with
    | none =>
      simp only [run, hslot]
      exact ⟨.resting hshut ⟨hm, rfl⟩, hs.vacate⟩
    | some n =>
      simp only [run, hslot]
      refine ⟨.closing ?_ ⟨hm, rfl⟩, hs.vacate⟩
      exact fun k hopen => absurd hopen (hshut k)
  | «open» deadline net files => exact phase_open hshut hs hm.1 hm.2
  | closeLink =>
    rw [outline_closeLink]
    exact ⟨.returned (Outline.Shut.settled hshut (Transport.state_close _)), hs.closed⟩
  | abort =>
    exact ⟨.returned (Outline.Shut.settled hshut (Transport.state_close _)), hs.closed⟩
  | farewell n => exact ⟨.returned (hshut.settled hm), hs⟩
  | _ => cases hm

theorem Phase.head_ne (h : Phase o ends (m :: rest)) : m ≠ .endGeneration n := by
  rintro rfl
  cases h with
  | begun _ hm => cases hm
  | resting _ hm => cases hm

theorem Phase.run (h : Phase c.outline ends (m :: rest)) (hs : c.outline.Sound)
    : Phase (m.run c).2.outline ends ((m.run c).1 ++ rest) ∧ (m.run c).2.outline.Sound := by
  cases h with
  | begun h hm =>
    rw [List.append_nil]
    exact phase_begun h hs hm
  | disposing h => exact ⟨h, hs⟩
  | resting hshut hm =>
    rw [List.append_nil]
    exact phase_resting hshut hs hm
  | leaving hopen hm =>
    rw [outline_closeLink]
    exact ⟨.closing hopen (Transport.state_close _), hs.closed⟩
  | @closing n x hopen hm =>
    rw [outline_close]
    exact ⟨(Phase.resting hopen.shut_close hm).disposals n _ _, hs.close n⟩
  | dialling hfresh hstate hslot =>
    rw [List.append_nil]
    have hgeneration := hfresh.newest
    subst hgeneration
    exact phase_dial hfresh hs hstate hslot
  | @starting generation hfresh hstate hslot =>
    have houtline := Client.outline_addSession c generation
    have hn : c.sessions.length = c.outline.sessions.length := (List.length_map _).symm
    unfold Move.run
    dsimp
    rw [houtline]
    unfold Client.addSession
    dsimp
    rw [hn]
    exact ⟨.publishing (hfresh.settled hstate) hslot, hs.addSession hfresh⟩
  | publishing h _ => exact ⟨.returned h, hs.publish _⟩

end Move

end CallWire
