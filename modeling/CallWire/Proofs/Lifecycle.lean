import CallWire.Proofs.Course
import CallWire.Proofs.Lock
import CallWire.Proofs.SessionEnd

/-!
This module contains the life of a client: when none of its operations is under way, its connection,
its session and the table of its session agree, and if it is not connected no call is left over.
-/

namespace CallWire

namespace Move

variable {c : Client} {m : Move}

theorem state_run (m : Move) (c : Client)
    : (m.run c).2.transport.state = c.transport.state
      ∨ (m.run c).2.transport.state ≠ .connected
      ∨ ((m.run c).1 = [.startSession c.transport.generation]
        ∧ (m.run c).2.transport.generation = c.transport.generation) := by
  have h := reshapes_run m c
  have htransport : (m.run c).2.transport = (m.run c).2.outline.transport := rfl
  rw [htransport]
  generalize (m.run c).2.outline = o at h
  cases h with
  | unlinked | opening | failed =>
    refine .inr (.inl ?_)
    exact ne_of_eq_of_ne (Transport.state_setState _ _) nofun
  | opened _ hnext => exact .inr (.inr ⟨hnext, Transport.generation_setState _ _⟩)
  | _ => exact .inl rfl

theorem run_of_connected (hbefore : c.transport.state ≠ .connected)
    (hafter : (m.run c).2.transport.state = .connected)
    : (m.run c).1 = [.startSession (m.run c).2.transport.generation] := by
  rcases m.state_run c with hsame | hstate | ⟨hnext, hgeneration⟩
  . rw [hsame] at hafter
    exact absurd hafter hbefore
  . exact absurd hafter hstate
  . rw [hnext, hgeneration]

theorem Beside.publish_not_mem {done l : List Move} {n : Nat} (h : Beside done l)
    : .publish n ∉ l := by
  induction h with
  | calm hm _ ih =>
    intro hx
    rcases List.mem_cons.mp hx with rfl | hx
    . cases hm
    . exact ih hx
  | listening hm =>
    intro hx
    rw [← List.mem_singleton.mp hx] at hm
    cases hm
  | returned | stopping | ended => simp
  | ending => simp [Move.ending]

theorem Phase.rest_of_publish {o : Outline} {ends : Nat → Prop} {rest : List Move} {n : Nat}
    (h : Phase o ends (.publish n :: rest))
    : rest = [] ∧ (o.publish n).Settled ends := by
  cases h with
  | begun _ hm => cases hm
  | resting _ hm => cases hm
  | publishing h _ => exact ⟨rfl, h⟩

end Move

/-- What is true of a client while none of its operations is under way. -/
structure Client.AtRest (c : Client) : Prop where
  connected : c.transport.state = .connected →
    ∃ n s, c.slot = some n ∧ c.session? n = some s ∧ s.table.closed = false
      ∧ s.generation = c.transport.generation
  disconnected : c.transport.state ≠ .connected →
    c.pendingCount = 0 ∧ c.currentSession? = none
      ∧ ∀ call < c.ledger.handles.length, (c.ledger.outcome? call).isSome = true

namespace World

variable {w : World} {i n generation : Nat} {done rest : List Move} {m : Move} {lock : Option Nat}
variable {a : Act} {r : CallRecord}

def isQuiet (w : World) : Bool := w.tasks.all Task.hasReturned

def Starts (w : World) (generation : Nat) : Prop :=
  ∃ (i : Nat) (done : List Move), w.tasks[i]? = some ⟨done, [.startSession generation]⟩

def Publishes (w : World) (n : Nat) : Prop :=
  ∃ (i : Nat) (done : List Move), w.tasks[i]? = some ⟨done, [.publish n]⟩

def Unseen (w : World) (n : Nat) : Prop :=
  w.client.slot ≠ some n ∧ ∀ T ∈ w.tasks, T.callsThrough n = false

def Secluded (w : World) : Prop :=
  ∀ (i : Nat) (T : Task) (n : Nat), w.tasks[i]? = some T → .publish n ∈ T.todo → w.Unseen n

theorem slot_of_draws {c : Client} {x : Move} (hx : x ∈ (m.run c).1) (hdraws : x.draws n = true)
    : c.slot = some n := by
  cases Move.yields_of_mem_run hx with
  | found k method params decoder =>
    have hk : k = n := of_decide_eq_true hdraws
    subst hk
    cases hfound : c.currentSession? with
    | none => simp [Move.run, hfound] at hx
    | some l =>
      simp only [Move.run, hfound, List.mem_singleton] at hx
      cases hx
      exact Client.slot_of_currentSession? hfound
  | _ => simp [Move.draws] at hdraws

theorem Unseen.advanced (h : w.Unseen n) (hT : w.tasks[i]? = some ⟨done, m :: rest⟩)
    (hm : m ≠ .publish n)
    : (w.advanced i done m rest).Unseen n := by
  constructor
  . intro hslot
    unfold World.advanced at hslot
    rcases m.slot_run w.client with hsame | hnone | ⟨k, rfl, hentered⟩
    . exact h.1 (hsame.symm.trans hslot)
    . rw [hnone] at hslot
      cases hslot
    . rw [hentered] at hslot
      cases hslot
      exact hm rfl
  . intro T hT'
    rcases mem_tasks_advanced hT' with rfl | hT'
    . rw [Bool.eq_false_iff]
      intro hcalls
      obtain ⟨x, hx, hdraws⟩ := List.any_eq_true.mp hcalls
      rcases mem_moves_advanced.mp hx with hx | hx
      . have hold := h.2 _ (mem_tasks_of_getElem? hT)
        exact Bool.eq_false_iff.mp hold (List.any_eq_true.mpr ⟨x, hx, hdraws⟩)
      . exact h.1 (slot_of_draws hx hdraws)
    . exact h.2 T hT'

theorem Sound.unseen_of_new (h : w.Sound) : w.Unseen w.client.books.tables.length := by
  constructor
  . intro hslot
    exact Nat.lt_irrefl _ (h.slot _ hslot)
  . intro T hT
    rw [Bool.eq_false_iff]
    intro hcalls
    obtain ⟨x, hx, hdraws⟩ := List.any_eq_true.mp hcalls
    exact Nat.lt_irrefl _ ((h.tasks T hT).known x hx _ (Move.session?_of_draws hdraws))

theorem turns_eq_run (w : World) (acts : List Act) : ∃ acts', w.turns acts = w.run acts' := by
  induction acts generalizing w with
  | nil => exact ⟨[], rfl⟩
  | cons a acts ih =>
    obtain ⟨acts', hrun⟩ := ih (w.turn a)
    rcases turn_eq_act w a with hact | hsame
    . rw [hact] at hrun
      refine ⟨a :: acts', ?_⟩
      rw [run_cons, ← hrun, ← hact]
      rfl
    . rw [hsame] at hrun
      refine ⟨acts', ?_⟩
      rw [← hrun]
      change (w.turn a).turns acts = w.turns acts
      rw [hsame]

theorem Guarded.turns (h : w.Guarded lock) (hs : w.Sound) (acts : List Act)
    : ∃ lock', (w.turns acts).Guarded lock' := by
  induction acts generalizing w lock with
  | nil => exact ⟨lock, h⟩
  | cons a acts ih =>
    obtain ⟨lock', h⟩ := h.turn hs a
    apply ih h
    rcases turn_eq_act w a with hact | hsame
    . rw [hact]
      exact hs.act a
    . rw [hsame]
      exact hs

theorem todo_of_isQuiet (hquiet : w.isQuiet = true) {T : Task} (hT : T ∈ w.tasks) : T.todo = [] := by
  exact todo_of_hasReturned (List.all_eq_true.mp hquiet T hT)

theorem Guarded.settled_of_isQuiet (h : w.Guarded lock) (hquiet : w.isQuiet = true)
    : w.client.outline.Settled w.Ending := by
  apply h.settled
  apply List.any_eq_false.mpr
  intro T hT
  simp [List.all_eq_true.mp hquiet T hT]

theorem not_ending_of_isQuiet (hquiet : w.isQuiet = true) : ¬w.Ending n := by
  rintro ⟨T, hT, hmem⟩
  rw [todo_of_isQuiet hquiet hT] at hmem
  cases hmem

theorem Guarded.connected (h : w.Guarded lock) (hquiet : w.isQuiet = true)
    (hstate : w.client.transport.state = .connected)
    : ∃ n s, w.client.slot = some n ∧ w.client.session? n = some s ∧ s.table.closed = false
        ∧ s.generation = w.client.transport.generation := by
  have hsettled := h.settled_of_isQuiet hquiet
  obtain ⟨n, hslot, hruns, hopen | hending⟩ := hsettled.served hstate
  . obtain ⟨_, hopen⟩ := hopen
    obtain ⟨_, hruns⟩ := hruns
    rw [hopen] at hruns
    cases hruns
    obtain ⟨s, hs, hgeneration, hclosed⟩ := Client.session?_of_outline hopen
    exact ⟨n, s, hslot, hs, hclosed, hgeneration⟩
  . exact absurd hending (not_ending_of_isQuiet hquiet)

theorem Guarded.table_of_not_connected (h : w.Guarded lock) (hs : w.Sound)
    (hquiet : w.isQuiet = true) (hstate : w.client.transport.state ≠ .connected) {t : PendingTable}
    (ht : w.client.books.tables[n]? = some t)
    : t.records = [] := by
  apply (hs.tables.table ht).empty_of_closed
  unfold Client.books at ht
  dsimp at ht
  rw [List.getElem?_map, Option.map_eq_some_iff] at ht
  obtain ⟨s, hs, rfl⟩ := ht
  cases hclosed : s.table.closed with
  | true => rfl
  | false =>
    have hopen : w.client.outline.Open n := by
      refine ⟨s.generation, ?_⟩
      rw [Client.sessions_outline hs, hclosed]
    exact absurd hopen ((h.settled_of_isQuiet hquiet).shut hstate n)

theorem Guarded.not_waits (h : w.Guarded lock) (hs : w.Sound) (hquiet : w.isQuiet = true)
    (hstate : w.client.transport.state ≠ .connected)
    : ¬w.Waits n r := by
  rintro (⟨t, ht, hmem⟩ | ⟨T, hT, x, hx, _⟩)
  . rw [h.table_of_not_connected hs hquiet hstate ht] at hmem
    cases hmem
  . rw [todo_of_isQuiet hquiet hT] at hx
    cases hx

theorem Guarded.pendingCount (h : w.Guarded lock) (hs : w.Sound) (hquiet : w.isQuiet = true)
    (hstate : w.client.transport.state ≠ .connected)
    : w.client.pendingCount = 0 := by
  unfold Client.pendingCount
  cases hslot : w.client.slot with
  | none => rfl
  | some n =>
    have ht := List.getElem?_eq_getElem (hs.slot n hslot)
    rw [Option.map_some, Option.getD_some, Client.table_of_tables ht]
    exact congrArg List.length (h.table_of_not_connected hs hquiet hstate ht)

theorem outcome_of_issued {settings : Settings} (acts : List Act)
    (hr : ((World.start settings).run acts).Issued n r)
    (hwaits : ¬((World.start settings).run acts).Waits n r)
    : (((World.start settings).run acts).client.ledger.outcome? r.call).isSome = true := by
  rcases waits_of_issued acts hr with hw | ⟨pre, a, post, o, hacts, _, _, hlater⟩
  . exact absurd hw hwaits
  . rw [hacts]
    exact Option.isSome_of_eq_some (hlater post)

theorem Guarded.phase_of_not_beside (h : w.Guarded lock)
    (hT : w.tasks[i]? = some ⟨done, m :: rest⟩) (hm : ¬Move.Beside done (m :: rest))
    : Move.Phase w.client.outline w.Ending (m :: rest) := by
  by_cases hi : lock = some i
  . obtain ⟨T, hT', _, hphase⟩ := h.taken i hi
    rw [hT] at hT'
    cases hT'
    exact hphase
  . exact absurd (h.beside i _ hT hi).1 hm

theorem Guarded.phase_of_publish (h : w.Guarded lock) {T : Task} (hT : w.tasks[i]? = some T)
    (hx : .publish n ∈ T.todo)
    : lock = some i ∧ Move.Phase w.client.outline w.Ending T.todo := by
  by_cases hi : lock = some i
  . obtain ⟨T', hT', _, hphase⟩ := h.taken i hi
    rw [hT] at hT'
    cases hT'
    exact ⟨hi, hphase⟩
  . exact absurd hx (h.beside i T hT hi).1.publish_not_mem

theorem Guarded.session_of_starting (h : w.Guarded lock)
    (hT : w.tasks[i]? = some ⟨done, .startSession generation :: rest⟩)
    : w.client.outline.Fresh generation ∧ w.client.transport.state = .connected ∧ rest = [] := by
  have hphase := h.phase_of_not_beside hT (by
    rintro (_ | hm | hm)
    . cases hm
    . cases hm)
  cases hphase with
  | starting hfresh hstate => exact ⟨hfresh, hstate, rfl⟩
  | begun _ hm => cases hm
  | resting _ hm => cases hm

theorem Guarded.fresh_of_dialling {route : Route} {timeout : Duration} {net : Network}
    (h : w.Guarded lock) (hT : w.tasks[i]? = some ⟨done, .dial generation route timeout net :: rest⟩)
    : w.client.outline.Fresh generation ∧ rest = [] := by
  have hphase := h.phase_of_not_beside hT (by
    rintro (_ | hm | hm)
    . cases hm
    . cases hm)
  cases hphase with
  | dialling hfresh hstate => exact ⟨hfresh, rfl⟩
  | begun _ hm => cases hm
  | resting _ hm => cases hm

theorem Secluded.advanced (h : w.Secluded) (hg : w.Guarded lock) (hs : w.Sound)
    (hT : w.tasks[i]? = some ⟨done, m :: rest⟩)
    : (w.advanced i done m rest).Secluded := by
  intro j T n hj hx
  by_cases hij : i = j
  . subst hij
    rw [getElem?_advanced_self hT] at hj
    cases hj
    rcases List.mem_append.mp hx with hx | hx
    . obtain ⟨generation, rfl⟩ := Move.startSession_of_publish hx
      rw [Move.mem_run_startSession.mp hx]
      exact hs.unseen_of_new.advanced hT nofun
    . apply (h i _ n hT (List.mem_cons_of_mem _ hx)).advanced hT
      rintro rfl
      rw [(hg.phase_of_publish hT List.mem_cons_self).2.rest_of_publish.1] at hx
      cases hx
  . rw [getElem?_advanced_ne hij] at hj
    apply (h j T n hj hx).advanced hT
    -- Only the operation that has the lock is about to publish a session.
    rintro rfl
    have hlock := (hg.phase_of_publish hj hx).1
    rw [(hg.phase_of_publish hT List.mem_cons_self).1] at hlock
    exact hij (Option.some.inj hlock)

theorem Secluded.begun (h : w.Secluded) (hm : m.isFirst = true) : (w.begun m).Secluded := by
  intro j T n hj hx
  rcases getElem?_begun hj with hj | ⟨_, rfl⟩
  . obtain ⟨hslot, hcalls⟩ := h j T n hj hx
    refine ⟨hslot, ?_⟩
    intro T' hT'
    rcases mem_tasks_begun hT' with hT' | rfl
    . exact hcalls T' hT'
    . cases m <;> first | rfl | cases hm
  . rw [← List.mem_singleton.mp hx] at hm
    cases hm

theorem Secluded.turns (h : w.Secluded) (hg : w.Guarded lock) (hs : w.Sound) (acts : List Act)
    : (w.turns acts).Secluded := by
  induction acts generalizing w lock with
  | nil => exact h
  | cons a acts ih =>
    obtain ⟨lock', hg'⟩ := hg.turn hs a
    apply ih _ hg'
    . rcases turn_eq_act w a with hact | hsame
      . rw [hact]
        exact hs.act a
      . rw [hsame]
        exact hs
    . rcases turn_cases w a with ⟨m, hm, _, hturn⟩ | ⟨i, done, m, rest, hT, _, hturn⟩ | hturn
      . rw [hturn]
        exact h.begun hm
      . rw [hturn]
        exact h.advanced hg hs hT
      . rw [hturn]
        exact h

theorem Guarded.starting_of_opened {route : Route} {timeout : Duration} {net : Network}
    (h : w.Guarded lock) (hmove : w.move? a = some (.dial generation route timeout net))
    (hopened : net.dial route timeout = .opened)
    : (w.turn a).client.transport.state = .connected ∧ (w.turn a).Starts generation := by
  obtain ⟨i, done, rest, hT, hturn⟩ := turn_of_move hmove
  obtain ⟨hfresh, rfl⟩ := h.fresh_of_dialling hT
  have hgeneration : w.client.transport.generation = generation := hfresh.newest
  subst hgeneration
  obtain ⟨hnext, houtline⟩ := Move.outline_dial_of_opened hopened w.client
  have hnew := getElem?_advanced_self hT
  rw [next, hnext] at hnew
  rw [hturn]
  have htransport := congrArg Outline.transport houtline
  exact ⟨(congrArg Transport.state htransport).trans (Transport.state_setState _ _), i, _, hnew⟩

theorem Guarded.starting_of_connected (h : w.Guarded lock) (hs : w.Sound)
    (hbefore : w.client.transport.state ≠ .connected)
    (hafter : (w.turn a).client.transport.state = .connected)
    : (w.turn a).Starts (w.turn a).client.transport.generation := by
  obtain ⟨lock', h'⟩ := h.turn hs a
  rcases turn_cases w a with ⟨m, _, _, hturn⟩ | ⟨i, done, m, rest, hT, _, hturn⟩ | hturn
  . rw [hturn] at hafter
    exact absurd hafter hbefore
  . rw [hturn] at hafter h' ⊢
    have hnext : w.next m = [.startSession (w.advanced i done m rest).client.transport.generation] :=
      Move.run_of_connected hbefore hafter
    have hnew := getElem?_advanced_self hT
    rw [hnext] at hnew
    obtain ⟨_, _, rfl⟩ := h'.session_of_starting hnew
    exact ⟨i, m :: done, hnew⟩
  . rw [hturn] at hafter
    exact absurd hafter hbefore

/-- The session that an operation starts is there for the socket that it opened, and is new. -/
theorem Guarded.session_of_move (h : w.Guarded lock)
    (hmove : w.move? a = some (.startSession generation))
    : let w' := w.turn a
      let n := w.client.sessions.length
      w'.client.session? n = some { generation } ∧ w'.client.transport.generation = generation
        ∧ w'.client.transport.state = .connected ∧ w'.Publishes n := by
  obtain ⟨i, done, rest, hT, hturn⟩ := turn_of_move hmove
  obtain ⟨hfresh, hstate, rfl⟩ := h.session_of_starting hT
  dsimp only
  rw [hturn]
  exact ⟨List.getElem?_concat_length, hfresh.newest, hstate, i, _, getElem?_advanced_self hT⟩

theorem Sound.untouched_of_unseen (h : w.Sound) (hn : w.Unseen n) {s : Session}
    (hs : w.client.session? n = some s)
    : s.table.records = [] ∧ s.ids = {} := by
  have hdrawn : w.drawn n = 0 := by
    unfold drawn
    rw [List.countP_eq_zero]
    intro m hm hdraws
    obtain ⟨T, hT, hm⟩ := List.mem_flatMap.mp hm
    have hm : m ∈ T.moves := List.mem_append_left _ hm
    exact Bool.eq_false_iff.mp (hn.2 T hT) (List.any_eq_true.mpr ⟨m, hm, hdraws⟩)
  constructor
  . apply List.eq_nil_iff_forall_not_mem.mpr
    intro r hr
    obtain ⟨k, hk, _⟩ := h.numbered n r (.inl ⟨s.table, Client.tables_getElem? hs, hr⟩)
    rw [hdrawn] at hk
    exact Nat.not_lt_zero k hk
  . have hids := h.counters n s.ids (Client.counters_getElem? hs)
    rw [hdrawn] at hids
    exact hids

theorem Guarded.session_of_publish (h : w.Guarded lock) (hw : w.Secluded) (hs : w.Sound)
    (hmove : w.move? a = some (.publish n))
    : let c := (w.turn a).client
      ∃ s, c.slot = some n ∧ c.session? n = some s ∧ s.table.records = [] ∧ c.pendingCount = 0
        ∧ (c.drawId n).1 = "1"
        ∧ ((c.isConnected = true ∧ s.generation = c.transport.generation)
          ∨ s.table.closed = true) := by
  obtain ⟨i, done, rest, hT, hturn⟩ := turn_of_move hmove
  have hlt := (hs.tasks _ (mem_tasks_of_getElem? hT)).entering n List.mem_cons_self
  rw [Client.length_tables] at hlt
  have hsession : w.client.session? n = some w.client.sessions[n] := List.getElem?_eq_getElem hlt
  obtain ⟨hempty, hids⟩ := hs.untouched_of_unseen (hw i _ n hT List.mem_cons_self) hsession
  obtain ⟨_, hsettled⟩ := (h.phase_of_publish hT List.mem_cons_self).2.rest_of_publish
  intro c
  have hc : c = w.client.publishSession n := congrArg World.client hturn
  have hpublished : c.session? n = some w.client.sessions[n] := by
    rw [hc]
    exact hsession
  have hslot : c.slot = some n := by
    rw [hc]
    rfl
  refine ⟨w.client.sessions[n], hslot, hpublished, hempty, ?_, ?_, ?_⟩
  . unfold Client.pendingCount
    rw [hslot, Option.map_some, Client.table_of_session? hpublished]
    exact congrArg List.length hempty
  . have hfirst : ({} : CallIds).draw.1 = "1" := by decide
    rw [(Client.books_drawId hpublished).1, hids]
    exact hfirst
  . cases hclosed : w.client.sessions[n].table.closed with
    | true => exact .inr rfl
    | false =>
      have hsessions := Client.sessions_outline hsession
      rw [hclosed] at hsessions
      obtain ⟨_, hstate, closed, hruns⟩ := hsettled.current n ⟨_, hsessions⟩
      have hcurrent := hsessions.symm.trans hruns
      refine .inl ⟨?_, ?_⟩
      . have hstate : c.transport.state = .connected := by
          rw [hc]
          exact hstate
        unfold Client.isConnected Transport.isConnected
        rw [hstate, hslot]
        rfl
      . rw [hc]
        exact congrArg Prod.fst (Option.some.inj hcurrent)

theorem Sound.turns (h : w.Sound) (acts : List Act) : (w.turns acts).Sound := by
  obtain ⟨acts', hrun⟩ := turns_eq_run w acts
  rw [hrun]
  exact h.run acts'

theorem atRest_of_isQuiet {settings : Settings} (acts : List Act)
    (hquiet : ((World.start settings).turns acts).isQuiet = true)
    : ((World.start settings).turns acts).client.AtRest := by
  have hs := (Sound.start settings).turns acts
  obtain ⟨lock, h⟩ := (Guarded.start settings).turns (.start settings) acts
  constructor
  . exact h.connected hquiet
  . intro hstate
    refine ⟨h.pendingCount hs hquiet hstate, ?_, ?_⟩
    . unfold Client.currentSession? Transport.isConnected
      rw [if_neg]
      simp [hstate]
    . intro call hcall
      have hwaits : ∀ n r, ¬((World.start settings).turns acts).Waits n r :=
        fun n r => h.not_waits hs hquiet hstate
      obtain ⟨acts', hrun⟩ := turns_eq_run (World.start settings) acts
      rw [hrun] at hcall hwaits ⊢
      rcases recorded_run settings acts' hcall with ⟨i, n, r, ⟨T, hT, hreg⟩, rfl⟩ | hfailed
      . exact outcome_of_issued acts' ⟨T, mem_tasks_of_getElem? hT, hreg⟩ (hwaits n r)
      . exact Option.isSome_of_eq_some hfailed

/--
A client is connected, disconnected and given up by operations that wait for each other, while calls
are issued, replies and the ends of sockets come in, and sweeps are made, each move by move and in
any order. Whenever no operation is under way, the connection is connected only if a session is
there whose table is open and whose socket is the one of the connection, and otherwise no call is
pending and all calls that were ever issued have their outcomes. An operation whose socket was opened,
and no other one, gets the client connected, and then starts a new session over the socket and
publishes it. The table of a session that gets published is empty and its first id is 1, and it is the
session of the connection unless the socket is over already. The connection goes only from
disconnected to connecting, from there to connected or back, and from connected to disconnected.
-/
theorem lifecycle_of_turns (settings : Settings) (acts : List Act)
    : let w := (World.start settings).turns acts
      (w.isQuiet = true → w.client.AtRest)
        ∧ (∀ a generation route timeout net,
          w.move? a = some (.dial generation route timeout net) →
          net.dial route timeout = .opened →
          (w.turn a).client.transport.state = .connected ∧ (w.turn a).Starts generation)
        ∧ (∀ a, w.client.transport.state ≠ .connected →
          (w.turn a).client.transport.state = .connected →
          (w.turn a).Starts (w.turn a).client.transport.generation)
        ∧ (∀ a generation, w.move? a = some (.startSession generation) →
          let w' := w.turn a
          let n := w.client.sessions.length
          w'.client.session? n = some { generation }
            ∧ w'.client.transport.generation = generation
            ∧ w'.client.transport.state = .connected ∧ w'.Publishes n)
        ∧ (∀ a n, w.move? a = some (.publish n) →
          let c := (w.turn a).client
          ∃ s, c.slot = some n ∧ c.session? n = some s ∧ s.table.records = [] ∧ c.pendingCount = 0
            ∧ (c.drawId n).1 = "1"
            ∧ ((c.isConnected = true ∧ s.generation = c.transport.generation)
              ∨ s.table.closed = true))
        ∧ w.client.transport.history.IsChain ConnectionState.Changes
        ∧ w.client.transport.history.getLast? = some w.client.transport.state := by
  have hs := (Sound.start settings).turns acts
  obtain ⟨lock, h⟩ := (Guarded.start settings).turns (.start settings) acts
  have hw : (World.start settings).Secluded := nofun
  have hw := hw.turns (Guarded.start settings) (.start settings) acts
  refine ⟨atRest_of_isQuiet acts, ?_, ?_, ?_, ?_, h.outline.recorded.history⟩
  . exact fun a generation route timeout net hmove hopened => h.starting_of_opened hmove hopened
  . exact fun a hbefore hafter => h.starting_of_connected hs hbefore hafter
  . exact fun a generation hmove => h.session_of_move hmove
  . exact fun a n hmove => h.session_of_publish hw hs hmove

/--
The peer closes the connection while a call waits, and the session stays in the slot until the client
connects again. Another attempt to connect has to wait meanwhile.
-/
theorem lifecycle_of_turns_reconnect
    : let settings : Settings := { url := "ws://a" }
      let net : Network :=
        { reachable := true, hosts := ["a"], port := 80, reception := .plain }
      let connect : Act := .begin (.connect (.ofSecs 15) net {})
      let acts : List Act := [
        connect, .advance 0, .advance 0, connect, .advance 0, .advance 0, .advance 0, .advance 0,
        .begin (.lookup "version" [] Decoding.raw.decoder),
        .advance 1, .advance 1, .advance 1, .advance 1,
        .begin (.event 0 (.closed none "")), .advance 2, .advance 2, .advance 2, .advance 2]
      let more : List Act :=
        acts ++ [connect, .advance 3, .advance 3, .advance 3, .advance 3, .advance 3]
      let w := (World.start settings).turns acts
      let w' := (World.start settings).turns more
      let c := (((World.start settings).turns (more ++ [.advance 3])).turn (.advance 3)).client
      w.client.slot = some 0 ∧ w.client.pendingCount = 0
        ∧ (∀ call < 1, (w.client.ledger.outcome? call).isSome = true)
        ∧ (w'.turn (.advance 3)).client.session? 1 = some { generation := 2 }
        ∧ c.slot = some 1 ∧ c.pendingCount = 0 ∧ (c.drawId 1).1 = "1"
        ∧ c.transport.history
          = [.disconnected, .connecting, .connected, .disconnected, .connecting, .connected] := by
  intro settings net connect acts more w w' c
  have hquiet : w.isQuiet = true := by decide +kernel
  have hstate : w.client.transport.state = .disconnected := by decide +kernel
  have hcalls : w.client.ledger.handles.length = 1 := by decide +kernel
  have hsessions : w'.client.sessions.length = 1 := by decide +kernel
  have hstarts : (w'.move? (.advance 3)).any (fun m => match m with
      | .startSession generation => generation = 2
      | _ => false) = true := by
    decide +kernel
  have hpublishes : (((World.start settings).turns (more ++ [.advance 3])).move? (.advance 3)).any
      (fun m => match m with
        | .publish n => n = 1
        | _ => false) = true := by
    decide +kernel
  have hrest : w.client.AtRest := (lifecycle_of_turns settings acts).1 hquiet
  obtain ⟨hpending, _, hsettled⟩ := hrest.disconnected (by rw [hstate]; exact nofun)
  rw [hcalls] at hsettled
  obtain ⟨m, hm, hstarts⟩ := (Option.any_eq_true _ _).mp hstarts
  obtain ⟨m', hm', hpublishes⟩ := (Option.any_eq_true _ _).mp hpublishes
  split at hstarts
  . next generation =>
    have hgeneration : generation = 2 := of_decide_eq_true hstarts
    subst hgeneration
    have hlife := lifecycle_of_turns settings more
    dsimp only at hlife
    have h := hlife.2.2.2.1 (.advance 3) 2 hm
    have hw' : (World.start settings).turns more = w' := rfl
    rw [hw', hsessions] at h
    have hsession := h.1
    split at hpublishes
    . next n =>
      have hn : n = 1 := of_decide_eq_true hpublishes
      subst hn
      have hlife := lifecycle_of_turns settings (more ++ [.advance 3])
      dsimp only at hlife
      have h := hlife.2.2.2.2.1 (.advance 3) 1 hm'
      have hc : (((World.start settings).turns (more ++ [.advance 3])).turn (.advance 3)).client
          = c := rfl
      rw [hc] at h
      have hslot : w.client.slot = some 0 := by decide +kernel
      have hhistory : c.transport.history
          = [.disconnected, .connecting, .connected, .disconnected, .connecting, .connected] := by
        decide +kernel
      clear_value c
      obtain ⟨_, hpublished, _, _, hcount, hfirst, _⟩ := h
      exact ⟨hslot, hpending, hsettled, hsession, hpublished, hcount, hfirst, hhistory⟩
    . cases hpublishes
  . cases hstarts

end World
end CallWire
