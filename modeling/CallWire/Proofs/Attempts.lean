import CallWire.Connection.Network

/-!
This module contains transports that are opened by several attempts at once. Attempts overlap in any
way, and what is reported of a socket may come late; only the newest attempt, and the socket that it
opened, changes the state.
-/

namespace CallWire

namespace Transport

variable {t : Transport}

@[simp]
theorem state_setState (t : Transport) (next : ConnectionState)
    : (t.setState next).state = next := by
  unfold setState
  split
  . assumption
  . rfl

@[simp]
theorem link_setState (t : Transport) (next : ConnectionState)
    : (t.setState next).link = t.link := by
  unfold setState
  split <;> rfl

@[simp]
theorem generation_setState (t : Transport) (next : ConnectionState)
    : (t.setState next).generation = t.generation := by
  unfold setState
  split <;> rfl

theorem published_setState (t : Transport) (next : ConnectionState)
    : (t.setState next).published
        =
      if t.state = next then t.published else next :: t.published := by
  unfold setState
  split <;> rfl

theorem state_close (t : Transport) : t.close.2.state = .disconnected := state_setState _ _

theorem endGeneration_of_ne {generation : Nat} (h : t.generation ≠ generation)
    : t.endGeneration generation = t := by
  unfold endGeneration
  rw [if_neg h]

theorem endGeneration_self (t : Transport)
    : t.endGeneration t.generation = { t with link := none }.setState .disconnected := by
  unfold endGeneration
  rw [if_pos rfl]

def lateError : DialResult → ClientError
  | .opened => .notConnected
  | _ => .connectionTimeout

theorem settleOpening_of_ne {generation : Nat} (h : t.generation ≠ generation)
    (result : DialResult)
    : t.settleOpening generation result = (.error (lateError result), t) := by
  unfold settleOpening finishOpening failOpening
  rw [if_neg h, if_neg h]
  cases result <;> rfl

theorem settleOpening_opened (t : Transport)
    : t.settleOpening t.generation .opened
        =
      (.ok t.generation,
        { t with link := some { generation := t.generation } }.setState .connected) := by
  unfold settleOpening finishOpening
  simp

theorem settleOpening_of_failed {result : DialResult} (h : result ≠ .opened) (t : Transport)
    : t.settleOpening t.generation result
        =
      (.error .connectionTimeout, t.setState .disconnected) := by
  unfold settleOpening failOpening
  rw [if_pos rfl]
  cases result with
  | opened => exact absurd rfl h
  | refused | timedOut => rfl

end Transport

/-- What happens to a transport. Attempts, and the sockets they open, go by their generations. -/
inductive TransportStep where
  | start
  | settle (generation : Nat) (result : DialResult)
  | close
  | abort
  | report (generation : Nat)
  deriving DecidableEq

structure Attempts where
  transport : Transport := {}
  opening : List Nat := []
  opened : List Nat := []

namespace Attempts

def settle (a : Attempts) (generation : Nat) (result : DialResult) : Attempts :=
  match a.transport.settleOpening generation result with
  | (.ok g, transport) =>
    { transport, opening := a.opening.erase generation, opened := g :: a.opened }
  | (.error _, transport) => { a with transport, opening := a.opening.erase generation }

/-- An attempt ends once, and only of sockets that were opened is the end reported. -/
def step (a : Attempts) : TransportStep → Attempts
  | .start =>
    let (generation, transport) := a.transport.startOpening
    { a with transport, opening := generation :: a.opening }
  | .settle generation result =>
    if generation ∈ a.opening then a.settle generation result else a
  | .close => { a with transport := a.transport.close.2 }
  | .abort => { a with transport := a.transport.abort }
  | .report generation =>
    if generation ∈ a.opened then { a with transport := a.transport.endGeneration generation }
    else a

def run (a : Attempts) (steps : List TransportStep) : Attempts := steps.foldl step a

/-- What is true of a transport in whatever order its attempts start and end. -/
structure Sound (a : Attempts) : Prop where
  linked : a.transport.state = .connected ↔ a.transport.link.isSome = true
  newest : ∀ link, a.transport.link = some link → link.generation = a.transport.generation
  connecting : a.transport.state = .connecting → a.transport.generation ∈ a.opening
  started : ∀ g ∈ a.opening, g ≤ a.transport.generation
  distinct : a.opening.Nodup
  -- A failed attempt leaves the link alone, so there must be none while the newest one goes on.
  unlinked : a.transport.generation ∈ a.opening → a.transport.link = none

variable {a : Attempts} {generation : Nat}

theorem Sound.empty : ({} : Attempts).Sound := by
  constructor <;> simp

theorem Sound.disconnected (h : a.Sound)
    : Sound { a with transport := { a.transport with link := none }.setState .disconnected } := by
  constructor
  . simp
  . simp
  . simp
  . simpa using h.started
  . exact h.distinct
  . simp

theorem Sound.start (h : a.Sound) : (a.step .start).Sound := by
  unfold step Transport.startOpening
  constructor
  . simp
  . simp
  . simp
  . intro g hg
    rw [Transport.generation_setState]
    rcases List.mem_cons.mp hg with rfl | hg
    . exact Nat.le_refl _
    . have := h.started g hg
      dsimp
      omega
  . refine List.nodup_cons.mpr ⟨?_, h.distinct⟩
    intro hmem
    have := h.started _ hmem
    omega
  . simp

theorem Sound.settle_older (h : a.Sound) (hne : a.transport.generation ≠ generation)
    : Sound { a with opening := a.opening.erase generation } := by
  constructor
  . exact h.linked
  . exact h.newest
  . intro hstate
    exact (List.mem_erase_of_ne hne).mpr (h.connecting hstate)
  . intro g hg
    exact h.started g (List.mem_of_mem_erase hg)
  . exact h.distinct.erase generation
  . intro hmem
    exact h.unlinked (List.mem_of_mem_erase hmem)

theorem Sound.settle_newest (h : a.Sound) (hmem : a.transport.generation ∈ a.opening)
    (result : DialResult)
    : (a.settle a.transport.generation result).Sound := by
  have hdone : a.transport.generation ∉ a.opening.erase a.transport.generation :=
    h.distinct.not_mem_erase
  have hstarted : ∀ g ∈ a.opening.erase a.transport.generation, g ≤ a.transport.generation :=
    fun g hg => h.started g (List.mem_of_mem_erase hg)
  have hdistinct := h.distinct.erase a.transport.generation
  unfold Attempts.settle
  by_cases hresult : result = .opened
  . subst hresult
    rw [Transport.settleOpening_opened]
    constructor
    . simp
    . simp
    . simp
    . simpa using hstarted
    . exact hdistinct
    . intro hmem
      rw [Transport.generation_setState] at hmem
      exact absurd hmem hdone
  . rw [Transport.settleOpening_of_failed hresult]
    have hnone := h.unlinked hmem
    constructor
    . simp [hnone]
    . simp [hnone]
    . simp
    . simpa using hstarted
    . exact hdistinct
    . simp [hnone]

theorem Sound.settle (h : a.Sound) (hmem : generation ∈ a.opening) (result : DialResult)
    : (a.settle generation result).Sound := by
  by_cases hnewest : a.transport.generation = generation
  . subst hnewest
    exact h.settle_newest hmem result
  . unfold Attempts.settle
    rw [Transport.settleOpening_of_ne hnewest]
    exact h.settle_older hnewest

theorem Sound.step (h : a.Sound) (x : TransportStep) : (a.step x).Sound := by
  cases x with
  | start => exact h.start
  | settle generation result =>
    unfold Attempts.step
    dsimp
    split
    . next hmem => exact h.settle hmem result
    . exact h
  | close | abort => exact h.disconnected
  | report generation =>
    unfold Attempts.step
    dsimp
    split
    . by_cases hnewest : a.transport.generation = generation
      . subst hnewest
        rw [Transport.endGeneration_self]
        exact h.disconnected
      . rw [Transport.endGeneration_of_ne hnewest]
        exact h
    . exact h

theorem Sound.run (h : a.Sound) (steps : List TransportStep) : (a.run steps).Sound := by
  induction steps generalizing a with
  | nil => exact h
  | cons x steps ih => exact ih (h.step x)

theorem generation_settle (a : Attempts) (generation : Nat) (result : DialResult)
    : (a.settle generation result).transport.generation = a.transport.generation := by
  unfold settle
  by_cases hnewest : a.transport.generation = generation
  . subst hnewest
    by_cases hresult : result = .opened
    . subst hresult
      rw [Transport.settleOpening_opened]
      simp
    . rw [Transport.settleOpening_of_failed hresult]
      simp
  . rw [Transport.settleOpening_of_ne hnewest]

theorem generation_step (a : Attempts) (x : TransportStep)
    : (a.step x).transport.generation
        =
      a.transport.generation + if x = .start then 1 else 0 := by
  cases x with
  | start => simp [step, Transport.startOpening]
  | settle generation result =>
    unfold step
    dsimp
    split
    . exact generation_settle a generation result
    . rfl
  | close => simp [step, Transport.close]
  | abort => simp [step, Transport.abort, Transport.close]
  | report generation =>
    unfold step Transport.endGeneration
    dsimp
    split
    . split <;> simp
    . rfl

theorem generation_run (a : Attempts) (steps : List TransportStep)
    : (a.run steps).transport.generation = a.transport.generation + steps.count .start := by
  induction steps generalizing a with
  | nil => rfl
  | cons x steps ih =>
    have hrun : a.run (x :: steps) = (a.step x).run steps := rfl
    rw [hrun, ih, generation_step, List.count_cons]
    simp only [beq_iff_eq]
    omega

theorem transport_step_of_lt (h : generation < a.transport.generation) (result : DialResult)
    : (a.step (.settle generation result)).transport = a.transport
        ∧ (a.step (.report generation)).transport = a.transport := by
  have hne : a.transport.generation ≠ generation := by omega
  unfold step settle
  dsimp
  rw [Transport.settleOpening_of_ne hne, Transport.endGeneration_of_ne hne]
  constructor <;> split <;> rfl

theorem Sound.step_newest (h : a.Sound) (hmem : a.transport.generation ∈ a.opening)
    (result : DialResult)
    : (a.step (.settle a.transport.generation result)).transport.state
        = (if result = .opened then .connected else .disconnected)
      ∧ (a.step (.settle a.transport.generation result)).transport.link
        = (if result = .opened then some { generation := a.transport.generation } else none) := by
  unfold Attempts.step Attempts.settle
  dsimp
  rw [if_pos hmem]
  by_cases hresult : result = .opened
  . subst hresult
    rw [Transport.settleOpening_opened]
    simp
  . rw [Transport.settleOpening_of_failed hresult]
    simp [hresult, h.unlinked hmem]

theorem step_report_newest (hmem : a.transport.generation ∈ a.opened)
    : (a.step (.report a.transport.generation)).transport.state = .disconnected
      ∧ (a.step (.report a.transport.generation)).transport.link = none := by
  unfold step
  dsimp
  rw [if_pos hmem, Transport.endGeneration_self]
  simp

/--
Attempts to open a socket start and end in any order, sockets are closed meanwhile, and their ends
are reported late. The transport is connected when it has a link, which is of the newest generation,
and it is connecting only while the newest attempt goes on. An attempt that ends after a newer one
has started reports a failure, and neither its end nor that of its socket changes the transport. The
end of the newest attempt does, and so does the end of the newest socket.
-/
theorem newest_attempt_decides (steps : List TransportStep)
    : let a := ({} : Attempts).run steps
      (a.transport.state = .connected ↔ a.transport.link.isSome = true)
      ∧ (∀ link, a.transport.link = some link → link.generation = a.transport.generation)
      ∧ (a.transport.state = .connecting → a.transport.generation ∈ a.opening)
      ∧ (∀ pre mid, steps = pre ++ .start :: mid → .start ∈ mid →
          (({} : Attempts).run pre).transport.startOpening.1 < a.transport.generation)
      ∧ (∀ older < a.transport.generation, ∀ result,
          a.transport.settleOpening older result
            = (.error (Transport.lateError result), a.transport)
          ∧ (a.step (.settle older result)).transport = a.transport
          ∧ (a.step (.report older)).transport = a.transport)
      ∧ (a.transport.generation ∈ a.opening → ∀ result,
          (a.step (.settle a.transport.generation result)).transport.state
            = (if result = .opened then .connected else .disconnected)
          ∧ (a.step (.settle a.transport.generation result)).transport.link
            = (if result = .opened then some { generation := a.transport.generation } else none))
      ∧ (a.transport.generation ∈ a.opened →
          (a.step (.report a.transport.generation)).transport.state = .disconnected
          ∧ (a.step (.report a.transport.generation)).transport.link = none) := by
  intro a
  have h : a.Sound := Sound.empty.run steps
  refine ⟨h.linked, h.newest, h.connecting, ?_, ?_, h.step_newest, step_report_newest⟩
  . intro pre mid hsteps hmid
    have hnewer : 0 < mid.count .start := List.count_pos_iff.mpr hmid
    have hcount := generation_run {} steps
    rw [hsteps, List.count_append, List.count_cons_self] at hcount
    change (({} : Attempts).run pre).transport.generation + 1 < a.transport.generation
    rw [generation_run]
    change (({} : Attempts).run (pre ++ .start :: mid)).transport.generation = _ at hcount
    subst hsteps
    rw [hcount]
    omega
  . intro older holder result
    have hne : a.transport.generation ≠ older := by omega
    obtain ⟨hsettle, hreport⟩ := transport_step_of_lt holder result
    exact ⟨Transport.settleOpening_of_ne hne result, hsettle, hreport⟩

end Attempts
end CallWire
