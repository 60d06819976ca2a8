import CallWire.Proofs.Phases

/-!
This module contains the lock that operations take which open and close the connection of a client.
Calls, the ends of sockets and the passing of time come between their moves all the same.
-/

namespace CallWire

namespace Task

def locks (T : Task) : Bool := T.moves.any Move.locks

end Task

namespace World

variable {w : World} {i n : Nat} {done rest : List Move} {m : Move} {T : Task} {lock : Option Nat}

def isLocked (w : World) : Bool := w.tasks.any (fun T => T.locks && !T.hasReturned)

/-- An act, unless it begins an operation that has to wait for the lock. -/
def turn (w : World) : Act → World
  | .begin m => if m.locks && w.isLocked then w else w.act (.begin m)
  | .advance i => w.act (.advance i)

def turns (w : World) (acts : List Act) : World := acts.foldl turn w

def Ending (w : World) (n : Nat) : Prop := ∃ T ∈ w.tasks, .endGeneration n ∈ T.todo

/-- What is true of a client when operations wait for the lock, and which of them has it. -/
structure Guarded (w : World) (lock : Option Nat) : Prop where
  beside : ∀ i T, w.tasks[i]? = some T → lock ≠ some i →
    Move.Beside T.done T.todo ∧ (T.locks = true → T.todo = [])
  free : lock = none → w.client.outline.Settled w.Ending
  taken : ∀ i, lock = some i →
    ∃ T, w.tasks[i]? = some T ∧ T.locks = true ∧ Move.Phase w.client.outline w.Ending T.todo
  outline : w.client.outline.Sound

theorem turn_cases (w : World) (a : Act)
    : (∃ m, m.isFirst = true ∧ (m.locks = true → w.isLocked = false) ∧ w.turn a = w.begun m)
      ∨ (∃ i done m rest, w.tasks[i]? = some ⟨done, m :: rest⟩ ∧ w.move? a = some m
          ∧ w.turn a = w.advanced i done m rest)
      ∨ w.turn a = w := by
  cases a with
  | begin m =>
    unfold turn
    dsimp
    split
    . exact .inr (.inr rfl)
    . next hfree =>
      unfold act
      dsimp
      split
      . next hm =>
        refine .inl ⟨m, hm, ?_, rfl⟩
        intro hlocks
        simpa [hlocks] using hfree
      . exact .inr (.inr rfl)
  | advance i =>
    rcases act_advance w i with ⟨done, m, rest, hT, hact⟩ | hact
    . exact .inr (.inl ⟨i, done, m, rest, hT, move?_of_getElem? hT, hact⟩)
    . exact .inr (.inr hact)

theorem turn_eq_act (w : World) (a : Act) : w.turn a = w.act a ∨ w.turn a = w := by
  cases a with
  | begin m =>
    unfold turn
    dsimp
    split
    . exact .inr rfl
    . exact .inl rfl
  | advance i => exact .inl rfl

theorem turn_of_move {a : Act} (hmove : w.move? a = some m)
    : ∃ i done rest, w.tasks[i]? = some ⟨done, m :: rest⟩
        ∧ w.turn a = w.advanced i done m rest := by
  cases a with
  | begin => simp [move?] at hmove
  | advance i => exact act_of_move hmove

theorem ending_advanced (hT : w.tasks[i]? = some ⟨done, m :: rest⟩) (hne : m ≠ .endGeneration n)
    (hn : w.Ending n)
    : (w.advanced i done m rest).Ending n := by
  obtain ⟨T, hT', hmem⟩ := hn
  obtain ⟨j, hj⟩ := List.mem_iff_getElem?.mp hT'
  by_cases hij : i = j
  . subst hij
    rw [hT] at hj
    cases hj
    refine ⟨_, mem_tasks_of_getElem? (getElem?_advanced_self hT), ?_⟩
    apply List.mem_append_right
    exact (List.mem_cons.mp hmem).resolve_left (Ne.symm hne)
  . exact ⟨T, mem_tasks_of_getElem? ((getElem?_advanced_ne hij).trans hj), hmem⟩

theorem locks_advanced
    : (Task.mk (m :: done) (w.next m ++ rest)).locks = (Task.mk done (m :: rest)).locks := by
  apply Bool.eq_iff_iff.mpr
  unfold Task.locks
  rw [List.any_eq_true, List.any_eq_true]
  constructor
  . rintro ⟨x, hx, hlocks⟩
    rcases mem_moves_advanced.mp hx with hx | hx
    . exact ⟨x, hx, hlocks⟩
    . rw [Move.locks_of_mem_run hx] at hlocks
      cases hlocks
  . rintro ⟨x, hx, hlocks⟩
    exact ⟨x, mem_moves_advanced.mpr (.inl hx), hlocks⟩

theorem Sound.not_open (h : w.Sound) (hT : T ∈ w.tasks) (hn : .close n ∈ T.done)
    : ¬w.client.outline.Open n := by
  rintro ⟨generation, hopen⟩
  obtain ⟨t, ht, hclosed⟩ := (h.tasks T hT).closed n hn
  obtain ⟨s, hs, _, htaking⟩ := Client.session?_of_outline hopen
  rw [Client.tables_getElem? hs] at ht
  cases ht
  rw [hclosed] at htaking
  cases htaking

theorem Guarded.advanced_taken (h : w.Guarded (some i))
    (hT : w.tasks[i]? = some ⟨done, m :: rest⟩)
    : (w.advanced i done m rest).Guarded (some i) := by
  obtain ⟨T, hT', hlocks, hphase⟩ := h.taken i rfl
  rw [hT] at hT'
  cases hT'
  obtain ⟨hnext, houtline⟩ := hphase.run h.outline
  constructor
  . intro j T hj hne
    rw [getElem?_advanced_ne (fun heq => hne (congrArg some heq))] at hj
    exact h.beside j T hj hne
  . exact nofun
  . rintro _ ⟨⟩
    refine ⟨_, getElem?_advanced_self hT, locks_advanced.trans hlocks, ?_⟩
    refine (Outline.Nudge.of_imp ?_).phase houtline hnext
    exact fun n => ending_advanced hT hphase.head_ne
  . exact houtline

theorem Guarded.advanced_beside (h : w.Guarded lock) (hs : w.Sound)
    (hT : w.tasks[i]? = some ⟨done, m :: rest⟩) (hi : lock ≠ some i)
    : (w.advanced i done m rest).Guarded lock := by
  obtain ⟨hbeside, hlocks⟩ := h.beside i _ hT hi
  have hnudge : w.client.outline.Nudge (w.advanced i done m rest).client.outline w.Ending
      (w.advanced i done m rest).Ending := by
    apply hbeside.nudge
    . exact fun n hn => hs.not_open (mem_tasks_of_getElem? hT) hn
    . exact fun n hn => ⟨_, mem_tasks_of_getElem? hT, hn⟩
    . exact fun n hne => ending_advanced hT hne
  constructor
  . intro j T hj hne
    by_cases hij : i = j
    . subst hij
      rw [getElem?_advanced_self hT] at hj
      cases hj
      refine ⟨hbeside.run w.client, ?_⟩
      intro hlocks'
      have := hlocks (locks_advanced.symm.trans hlocks')
      cases this
    . rw [getElem?_advanced_ne hij] at hj
      exact h.beside j T hj hne
  . exact fun hfree => hnudge.settled (h.free hfree) h.outline
  . intro j hj
    obtain ⟨T, hT', hlocks', hphase⟩ := h.taken j hj
    refine ⟨T, ?_, hlocks', hnudge.phase h.outline hphase⟩
    rw [getElem?_advanced_ne]
    . exact hT'
    . rintro rfl
      exact hi hj
  . exact hnudge.sound h.outline

theorem ending_begun (m : Move) (hn : w.Ending n) : (w.begun m).Ending n := by
  obtain ⟨T, hT, hmem⟩ := hn
  exact ⟨T, List.mem_append_left _ hT, hmem⟩

theorem nudge_begun (w : World) (m : Move)
    : w.client.outline.Nudge (w.begun m).client.outline w.Ending (w.begun m).Ending := by
  exact .of_imp (fun _ => ending_begun m)

theorem Guarded.begun_beside (h : w.Guarded lock) (hm : m.isFirst = true)
    (hlocks : m.locks = false)
    : (w.begun m).Guarded lock := by
  have hnudge := nudge_begun w m
  constructor
  . intro j T hj hne
    rcases getElem?_begun hj with hj | ⟨_, rfl⟩
    . exact h.beside j T hj hne
    . refine ⟨Move.beside_of_isFirst hm hlocks, ?_⟩
      intro hlocks'
      simp [Task.locks, Task.moves, hlocks] at hlocks'
  . exact fun hfree => hnudge.settled (h.free hfree) h.outline
  . intro j hj
    obtain ⟨T, hT, hlocks', hphase⟩ := h.taken j hj
    exact ⟨T, getElem?_begun_of_old hT m, hlocks', hnudge.phase h.outline hphase⟩
  . exact h.outline

theorem Guarded.todo_of_taken (h : w.Guarded (some i)) (hfree : w.isLocked = false)
    : ∃ done, w.tasks[i]? = some ⟨done, []⟩ := by
  obtain ⟨T, hT, hlocks, _⟩ := h.taken i rfl
  have hreturned : T.hasReturned = true := by
    have := List.any_eq_false.mp hfree T (mem_tasks_of_getElem? hT)
    simpa [hlocks] using this
  obtain ⟨done, todo⟩ := T
  cases List.isEmpty_iff.mp hreturned
  exact ⟨done, hT⟩

theorem Guarded.settled (h : w.Guarded lock) (hfree : w.isLocked = false)
    : w.client.outline.Settled w.Ending := by
  cases lock with
  | none => exact h.free rfl
  | some i =>
    obtain ⟨done, hT⟩ := h.todo_of_taken hfree
    obtain ⟨T, hT', _, hphase⟩ := h.taken i rfl
    rw [hT] at hT'
    cases hT'
    cases hphase with
    | returned h => exact h

theorem Guarded.begun_locks (h : w.Guarded lock) (hm : m.locks = true) (hfree : w.isLocked = false)
    : (w.begun m).Guarded (some w.tasks.length) := by
  have hsettled := h.settled hfree
  have hnudge := nudge_begun w m
  constructor
  . intro j T hj hne
    rcases getElem?_begun hj with hj | ⟨rfl, _⟩
    . by_cases hlock : lock = some j
      -- The operation that had the lock before has returned.
      . subst hlock
        obtain ⟨done, hT⟩ := h.todo_of_taken hfree
        rw [hT] at hj
        cases hj
        exact ⟨.returned, fun _ => rfl⟩
      . exact h.beside j T hj hlock
    . exact absurd rfl hne
  . exact nofun
  . rintro _ ⟨⟩
    refine ⟨{ todo := [m] }, ?_, ?_, .begun (hnudge.settled hsettled h.outline) hm⟩
    . exact List.getElem?_concat_length
    . simp [Task.locks, Task.moves, hm]
  . exact h.outline

theorem Guarded.turn (h : w.Guarded lock) (hs : w.Sound) (a : Act)
    : ∃ lock', (w.turn a).Guarded lock' := by
  rcases turn_cases w a with ⟨m, hm, hlocks, hturn⟩ | ⟨i, done, m, rest, hT, _, hturn⟩ | hturn
  . rw [hturn]
    cases hneeds : m.locks with
    | true => exact ⟨_, h.begun_locks hneeds (hlocks hneeds)⟩
    | false => exact ⟨lock, h.begun_beside hm hneeds⟩
  . rw [hturn]
    by_cases hi : lock = some i
    . subst hi
      exact ⟨_, h.advanced_taken hT⟩
    . exact ⟨lock, h.advanced_beside hs hT hi⟩
  . rw [hturn]
    exact ⟨lock, h⟩

theorem Guarded.start (settings : Settings) : (start settings).Guarded none := by
  constructor
  . intro i T hT
    simp [World.start] at hT
  . intro _
    apply Outline.Shut.settled
    . rintro n ⟨generation, hn⟩
      simp [World.start, Client.outline] at hn
    . rfl
  . intro i hi
    cases hi
  . constructor
    . rintro n generation ⟨closed, hn⟩
      simp [World.start, Client.outline] at hn
    . rintro n k generation ⟨closed, hn⟩
      simp [World.start, Client.outline] at hn
    . exact .start

end World
end CallWire
