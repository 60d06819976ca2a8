import CallWire.Proofs.Outline
import Mathlib.Data.List.Chain

/-!
This module contains how the connection and the sessions of a client go together while nobody opens
or closes the connection, and what leads there again. The states of the connection are recorded.
-/

namespace CallWire

namespace ConnectionState

inductive Changes : ConnectionState → ConnectionState → Prop where
  | opening : Changes .disconnected .connecting
  | opened : Changes .connecting .connected
  | failed : Changes .connecting .disconnected
  | ended : Changes .connected .disconnected

theorem changes_disconnected (s : ConnectionState) : s = .disconnected ∨ s.Changes .disconnected := by
  cases s with
  | disconnected => exact .inl rfl
  | connecting => exact .inr .failed
  | connected => exact .inr .ended

end ConnectionState

namespace Transport

variable {t : Transport}

def history (t : Transport) : List ConnectionState := .disconnected :: t.published.reverse

inductive Leads : List ConnectionState → ConnectionState → Prop where
  | start : Leads [] .disconnected
  | change {older : List ConnectionState} {s s' : ConnectionState} (h : Leads older s)
      (hchange : s.Changes s')
      : Leads (s' :: older) s'

def Recorded (t : Transport) : Prop := Leads t.published t.state

theorem Leads.isChain {published : List ConnectionState} {s : ConnectionState}
    (h : Leads published s)
    : (published ++ [ConnectionState.disconnected]).IsChain (flip ConnectionState.Changes)
        ∧ (published ++ [ConnectionState.disconnected]).head? = some s := by
  induction h with
  | start => exact ⟨.singleton _, rfl⟩
  | change h hchange ih =>
    rw [List.cons_append]
    refine ⟨List.isChain_cons.mpr ⟨?_, ih.1⟩, rfl⟩
    intro s hs
    rw [ih.2] at hs
    cases hs
    exact hchange

theorem Recorded.history (h : t.Recorded)
    : t.history.IsChain ConnectionState.Changes ∧ t.history.getLast? = some t.state := by
  obtain ⟨hchain, hhead⟩ := Leads.isChain h
  have hhistory : (t.published ++ [ConnectionState.disconnected]).reverse = t.history := by
    rw [List.reverse_append]
    rfl
  rw [← hhistory]
  refine ⟨List.isChain_reverse.mpr hchain, ?_⟩
  rw [List.getLast?_reverse]
  exact hhead

theorem Recorded.setState (h : t.Recorded) {next : ConnectionState}
    (hchange : t.state = next ∨ t.state.Changes next)
    : (t.setState next).Recorded := by
  unfold Recorded
  rw [published_setState, state_setState]
  split
  . next heq =>
    rw [← heq]
    exact h
  . next hne => exact .change h (hchange.resolve_left hne)

theorem Recorded.close (h : t.Recorded) : t.close.2.Recorded := by
  apply Recorded.setState
  . exact h
  . exact ConnectionState.changes_disconnected _

theorem Recorded.startOpening (h : t.Recorded) (hstate : t.state = .disconnected)
    : t.startOpening.2.Recorded := by
  apply Recorded.setState
  . exact h
  . rw [hstate]
    exact .inr .opening

theorem Recorded.settleOpening (h : t.Recorded) (hstate : t.state = .connecting)
    (result : DialResult)
    : (t.settleOpening t.generation result).2.Recorded := by
  by_cases hresult : result = .opened
  . subst hresult
    rw [settleOpening_opened]
    apply Recorded.setState
    . exact h
    . rw [hstate]
      exact .inr .opened
  . rw [settleOpening_of_failed hresult]
    exact h.setState (ConnectionState.changes_disconnected _)

end Transport

namespace Outline

variable {o : Outline} {ends : Nat → Prop} {n generation : Nat} {t : Transport}

def Shut (o : Outline) : Prop := ∀ n, ¬o.Open n

def OnlyOpen (o : Outline) (n : Nat) : Prop := ∀ k, o.Open k → k = n

/-- What is true of the sessions and the connection of every client. -/
structure Sound (o : Outline) : Prop where
  known : ∀ n generation, o.RunsOver n generation → generation ≤ o.transport.generation
  single : ∀ n k generation, o.RunsOver n generation → o.RunsOver k generation → n = k
  recorded : o.transport.Recorded

/--
What is true while nobody opens or closes the connection. Of some sessions the end of the socket is
yet to be reported, though their tables may be closed.
-/
structure Settled (o : Outline) (ends : Nat → Prop) : Prop where
  state : o.transport.state ≠ .connecting
  current : ∀ n, o.Open n →
    o.slot = some n ∧ o.transport.state = .connected ∧ o.RunsOver n o.transport.generation
  served : o.transport.state = .connected → ∃ n,
    o.slot = some n ∧ o.RunsOver n o.transport.generation ∧ (o.Open n ∨ ends n)

/-- A generation is the newest one, and no session is there for it. -/
structure Fresh (o : Outline) (generation : Nat) : Prop where
  newest : o.transport.generation = generation
  shut : o.Shut
  unused : ∀ n, ¬o.RunsOver n generation

theorem Settled.shut (h : o.Settled ends) (hstate : o.transport.state ≠ .connected) : o.Shut := by
  exact fun n hopen => hstate (h.current n hopen).2.1

theorem Settled.shut_of_slot (h : o.Settled ends) (hslot : o.slot = none) : o.Shut := by
  intro n hopen
  rw [(h.current n hopen).1] at hslot
  cases hslot

theorem Settled.onlyOpen (h : o.Settled ends) (hslot : o.slot = some n) : o.OnlyOpen n := by
  intro k hopen
  rw [(h.current k hopen).1] at hslot
  exact Option.some.inj hslot

theorem Shut.settled (h : o.Shut) (hstate : o.transport.state = .disconnected) : o.Settled ends := by
  constructor
  . simp [hstate]
  . exact fun n hopen => absurd hopen (h n)
  . simp [hstate]

theorem OnlyOpen.shut_close (h : o.OnlyOpen n) : (o.close n).Shut := by
  intro k hopen
  obtain ⟨hopen, hne⟩ := open_of_close hopen
  exact hne (h k hopen)

theorem Sound.vacate (h : o.Sound) : o.vacate.Sound := ⟨h.known, h.single, h.recorded⟩

theorem Sound.publish (h : o.Sound) (n : Nat) : (o.publish n).Sound :=
  ⟨h.known, h.single, h.recorded⟩

theorem Sound.close (h : o.Sound) (n : Nat) : (o.close n).Sound := by
  constructor
  . exact fun k generation hruns => h.known k generation (runsOver_close_iff.mp hruns)
  . intro k k' generation hruns hruns'
    exact h.single k k' generation (runsOver_close_iff.mp hruns) (runsOver_close_iff.mp hruns')
  . exact h.recorded

theorem Sound.withTransport (h : o.Sound) (hle : o.transport.generation ≤ t.generation)
    (hrecorded : t.Recorded)
    : (o.withTransport t).Sound := by
  constructor
  . exact fun n generation hruns => Nat.le_trans (h.known n generation hruns) hle
  . exact h.single
  . exact hrecorded

theorem Sound.closed (h : o.Sound) : (o.withTransport o.transport.close.2).Sound := by
  apply h.withTransport
  . unfold Transport.close
    rw [Transport.generation_setState]
  . exact Transport.Recorded.close h.recorded

theorem runsOver_addSession {k : Nat} (h : (o.addSession generation).RunsOver n k)
    : (n = o.sessions.length ∧ k = generation) ∨ o.RunsOver n k := by
  obtain ⟨closed, hn⟩ := h
  rw [sessions_addSession] at hn
  split at hn
  . next heq =>
    cases hn
    exact .inl ⟨heq, rfl⟩
  . exact .inr ⟨closed, hn⟩

theorem Sound.addSession (h : o.Sound) (hfresh : o.Fresh generation)
    : (o.addSession generation).Sound := by
  constructor
  . intro n k hruns
    rcases runsOver_addSession hruns with ⟨_, rfl⟩ | hruns
    . exact Nat.le_of_eq hfresh.newest.symm
    . exact h.known n k hruns
  . intro n n' k hruns hruns'
    rcases runsOver_addSession hruns with ⟨hn, hk⟩ | hruns
    . rcases runsOver_addSession hruns' with ⟨hn', _⟩ | hruns'
      . exact hn.trans hn'.symm
      . rw [hk] at hruns'
        exact absurd hruns' (hfresh.unused n')
    . rcases runsOver_addSession hruns' with ⟨_, hk⟩ | hruns'
      . rw [hk] at hruns
        exact absurd hruns (hfresh.unused n)
      . exact h.single n n' k hruns hruns'
  . exact h.recorded

theorem Fresh.settled (h : o.Fresh generation) (hstate : o.transport.state = .connected)
    : ((o.addSession generation).publish o.sessions.length).Settled ends := by
  have hnew : (o.addSession generation).sessions[o.sessions.length]? = some (generation, false) := by
    rw [sessions_addSession, if_pos rfl]
  have hruns : (o.addSession generation).RunsOver o.sessions.length o.transport.generation := by
    rw [h.newest]
    exact ⟨false, hnew⟩
  constructor
  . unfold publish addSession
    simp [hstate]
  . rintro n ⟨k, hn⟩
    have hn : (o.addSession generation).sessions[n]? = some (k, false) := hn
    rw [sessions_addSession] at hn
    split at hn
    . next heq =>
      subst heq
      exact ⟨rfl, hstate, hruns⟩
    . exact absurd ⟨k, hn⟩ (h.shut n)
  . exact fun _ => ⟨o.sessions.length, rfl, hruns, .inl ⟨generation, hnew⟩⟩

end Outline

end CallWire
