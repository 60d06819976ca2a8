import CallWire.Proofs.Attempts
import CallWire.Proofs.Slot

/-!
This module contains the outlines of clients: a connection, a slot, and which sessions are over which
sockets. Most moves leave the outline of a client as it is.
-/

namespace CallWire

/-- What decides whether a client is connected: each session with its generation, and closed or not. -/
structure Outline where
  transport : Transport := {}
  slot : Option Nat := none
  sessions : List (Nat × Bool) := []

namespace Outline

def close (o : Outline) (n : Nat) : Outline :=
  { o with sessions := o.sessions.modify n (fun s => (s.1, true)) }

def withTransport (o : Outline) (t : Transport) : Outline := { o with transport := t }

def vacate (o : Outline) : Outline := { o with slot := none }

def addSession (o : Outline) (generation : Nat) : Outline :=
  { o with sessions := o.sessions ++ [(generation, false)] }

def publish (o : Outline) (n : Nat) : Outline := { o with slot := some n }

def endGeneration (o : Outline) (n : Nat) : Outline :=
  match o.sessions[n]? with
  | none => o
  | some s => o.withTransport (o.transport.endGeneration s.1)

def Open (o : Outline) (n : Nat) : Prop := ∃ generation, o.sessions[n]? = some (generation, false)

def RunsOver (o : Outline) (n generation : Nat) : Prop :=
  ∃ closed, o.sessions[n]? = some (generation, closed)

variable {o : Outline} {n k generation : Nat}

theorem sessions_close (o : Outline) (n k : Nat)
    : (o.close n).sessions[k]?
        =
      (o.sessions[k]?).map (fun s => if n = k then (s.1, true) else s) := by
  unfold close
  dsimp
  rw [List.getElem?_modify]
  cases o.sessions[k]? with
  | none => rfl
  | some s => split <;> simp

theorem open_of_close (h : (o.close n).Open k) : o.Open k ∧ k ≠ n := by
  obtain ⟨generation, hk⟩ := h
  rw [sessions_close, Option.map_eq_some_iff] at hk
  obtain ⟨s, hs, heq⟩ := hk
  split at heq
  . cases heq
  . next hne =>
    subst heq
    exact ⟨⟨generation, hs⟩, Ne.symm hne⟩

theorem open_close (h : o.Open k) (hne : k ≠ n) : (o.close n).Open k := by
  obtain ⟨generation, hk⟩ := h
  refine ⟨generation, ?_⟩
  rw [sessions_close, hk, Option.map_some, if_neg hne.symm]

theorem runsOver_close_iff : (o.close n).RunsOver k generation ↔ o.RunsOver k generation := by
  unfold RunsOver
  rw [sessions_close]
  cases o.sessions[k]? with
  | none => rfl
  | some s =>
    rw [Option.map_some]
    split
    . simp only [Option.some.injEq, Prod.ext_iff]
      constructor
      . rintro ⟨_, hs, _⟩
        exact ⟨s.2, hs, rfl⟩
      . rintro ⟨_, hs, _⟩
        exact ⟨true, hs, rfl⟩
    . rfl

/-- The end of a socket changes nothing but the connection, and that only if the socket is its. -/
theorem endGeneration_cases (o : Outline) (n : Nat)
    : (o.endGeneration n = o ∧ ¬o.RunsOver n o.transport.generation)
        ∨ (o.RunsOver n o.transport.generation
          ∧ o.endGeneration n
            = o.withTransport ({ o.transport with link := none }.setState .disconnected)) := by
  unfold endGeneration
  cases hn : o.sessions[n]? with
  | none =>
    refine .inl ⟨rfl, ?_⟩
    rintro ⟨closed, hs⟩
    rw [hn] at hs
    cases hs
  | some s =>
    dsimp
    by_cases hs : o.transport.generation = s.1
    . refine .inr ⟨⟨s.2, ?_⟩, ?_⟩
      . rw [hn, hs]
      . rw [← hs, Transport.endGeneration_self]
    . refine .inl ⟨?_, ?_⟩
      . rw [Transport.endGeneration_of_ne hs]
        rfl
      . rintro ⟨closed, hrun⟩
        rw [hn] at hrun
        cases hrun
        exact hs rfl

theorem sessions_addSession (o : Outline) (generation k : Nat)
    : (o.addSession generation).sessions[k]?
        =
      if k = o.sessions.length then some (generation, false) else o.sessions[k]? := by
  unfold addSession
  dsimp
  rw [List.getElem?_append]
  split
  . next hlt => rw [if_neg (Nat.ne_of_lt hlt)]
  . next hge =>
    split
    . next heq => rw [heq, Nat.sub_self, List.getElem?_cons_zero]
    . next hne =>
      rw [List.getElem?_eq_none (by rw [List.length_singleton]; omega)]
      rw [List.getElem?_eq_none (by omega)]

end Outline

namespace Client

variable {c c' : Client} {n : Nat} {t : PendingTable} {s : Session}

def outline (c : Client) : Outline where
  transport := c.transport
  slot := c.slot
  sessions := c.sessions.map (fun s => (s.generation, s.table.closed))

@[simp]
theorem outline_core (c : Client) : c.core.outline = c.outline := rfl

theorem outline_of_core_eq (h : c.core = c'.core) : c.outline = c'.outline := by
  rw [← outline_core, h, outline_core]

@[simp]
theorem outline_tell (c : Client) (e : Notice) : (c.tell e).outline = c.outline := rfl

@[simp]
theorem outline_warn (c : Client) (w : Warning) : (c.warn w).outline = c.outline := rfl

@[simp]
theorem outline_vacate (c : Client) : c.vacate.outline = c.outline.vacate := rfl

theorem outline_setTransport (c : Client) (t : Transport)
    : (c.setTransport t).outline = c.outline.withTransport t := by
  unfold setTransport
  dsimp
  split <;> rfl

theorem outline_modifySession {f : Session → Session}
    (hgeneration : ∀ s, (f s).generation = s.generation) (htable : ∀ s, (f s).table = s.table)
    (c : Client) (n : Nat)
    : (c.modifySession n f).outline = c.outline := by
  unfold outline modifySession
  dsimp
  rw [map_modify_same]
  intro s
  rw [hgeneration, htable]

theorem outline_stopListening (c : Client) (n : Nat) : (c.stopListening n).outline = c.outline := by
  apply outline_modifySession
  . exact fun _ => rfl
  . exact fun _ => rfl

theorem sessions_outline (hs : c.session? n = some s)
    : c.outline.sessions[n]? = some (s.generation, s.table.closed) := by
  unfold outline
  dsimp
  rw [List.getElem?_map]
  exact congrArg (Option.map _) hs

theorem session?_of_outline {generation : Nat} {closed : Bool}
    (h : c.outline.sessions[n]? = some (generation, closed))
    : ∃ s, c.session? n = some s ∧ s.generation = generation ∧ s.table.closed = closed := by
  unfold outline at h
  dsimp at h
  rw [List.getElem?_map, Option.map_eq_some_iff] at h
  obtain ⟨s, hs, heq⟩ := h
  rw [Prod.ext_iff] at heq
  exact ⟨s, hs, heq⟩

theorem outline_setTable (h : t.closed = (c.table n).closed)
    : (c.setTable n t).outline = c.outline := by
  unfold setTable modifySession outline
  dsimp
  congr 1
  apply List.ext_getElem?
  intro k
  rw [List.getElem?_map, List.getElem?_modify, List.getElem?_map]
  cases hs : c.sessions[k]? with
  | none => rfl
  | some s =>
    split
    . next hk =>
      subst hk
      rw [table_of_session? hs] at h
      dsimp
      rw [h]
    . rfl

theorem outline_setTable_closed (c : Client) (n : Nat) (h : t.closed = true)
    : (c.setTable n t).outline = c.outline.close n := by
  unfold setTable modifySession outline Outline.close
  dsimp
  congr 1
  apply List.ext_getElem?
  intro k
  rw [List.getElem?_map, List.getElem?_modify, List.getElem?_modify, List.getElem?_map]
  cases c.sessions[k]? with
  | none => rfl
  | some s =>
    split
    . dsimp
      rw [h]
    . rfl

theorem outline_addSession (c : Client) (generation : Nat)
    : (c.addSession generation).2.outline = c.outline.addSession generation := by
  unfold addSession outline Outline.addSession
  dsimp
  rw [List.map_append]
  rfl

@[simp]
theorem outline_warnAll (c : Client) (messages : List String)
    : (messages.foldl (fun c message => c.warn (.insecure message)) c).outline = c.outline := by
  induction messages generalizing c with
  | nil => rfl
  | cons message messages ih =>
    rw [List.foldl_cons, ih]
    simp

theorem outline_closeLink (c : Client)
    : c.closeLink.outline = c.outline.withTransport c.transport.close.2 := by
  unfold closeLink
  dsimp
  split
  . rw [outline_tell]
    exact outline_setTransport c _
  . exact outline_setTransport c _

theorem outline_dialServer (c : Client) (generation : Nat) (route : Route) (timeout : Duration)
    (net : Network)
    : (c.dialServer generation route timeout net).2.outline
        = c.outline.withTransport
          (c.transport.settleOpening generation (net.dial route timeout)).2
      ∧ (c.dialServer generation route timeout net).1
        = (c.transport.settleOpening generation (net.dial route timeout)).1 := by
  unfold dialServer
  generalize hseen : (if net.isAbsent route then c.tell (.absent c.settings.url) else c) = seen
  have hcore : seen.core = c.core := by
    rw [← hseen]
    split <;> rfl
  have htransport := transport_of_core_eq hcore
  have houtline := outline_of_core_eq hcore
  dsimp
  rw [htransport]
  refine ⟨?_, rfl⟩
  rw [← houtline, ← outline_setTransport]
  split <;> rfl

theorem outline_takeAnswered (c : Client) (n : Nat) (f : String)
    : (c.takeAnswered n f).2.outline = c.outline := by
  cases hdec : c.frameDecoder.decodeResponse f with
  | error e =>
    rw [takeAnswered_of_error hdec]
    rfl
  | ok a =>
    cases hres : (c.table n).resolve a.id with
    | none =>
      rw [takeAnswered_of_none hdec hres]
      rfl
    | some taken =>
      rw [takeAnswered_of_some hdec hres]
      have hclosed : taken.2.closed = ((c.note (.incoming f)).table n).closed :=
        PendingTable.closed_of_resolve hres
      exact outline_setTable hclosed

theorem outline_takeExpired (c : Client) (n : Nat) (timeout : Duration)
    : (c.takeExpired n timeout).2.outline = c.outline := by
  cases hclosed : (c.table n).closed with
  | true => rw [Move.takeExpired_of_shut hclosed]
  | false =>
    rw [outline_of_core_eq (Move.takeExpired_of_open timeout hclosed).2]
    exact outline_setTable rfl

theorem outline_drawId (c : Client) (n : Nat) : (c.drawId n).2.outline = c.outline := by
  unfold drawId
  cases c.session? n with
  | none => rfl
  | some s =>
    apply outline_modifySession
    . exact fun _ => rfl
    . exact fun _ => rfl

theorem outline_putFrame (c : Client) (request : Request)
    : (c.putFrame request).2.outline = c.outline := by
  unfold putFrame
  dsimp
  split <;> rfl

end Client

namespace Move

variable {c : Client} {m : Move} {n : Nat}

def isPlain : Move → Bool
  | .lookup _ _ _ | .prepare _ _ _ _ | .register _ _ _ | .send _ _ _ | .retract _ _ => true
  | .dispose _ _ _ | .event _ _ | .hangUp _ | .sweep _ | .farewell _ | .connect _ _ _ => true
  | .elapse _ | .forget _ => true
  | _ => false

theorem outline_register (c : Client) (n : Nat) (r : CallRecord) (params : List Json)
    : ((register n r params).run c).2.outline = c.outline := by
  cases hreg : (c.table n).register r with
  | ok t =>
    rw [run_register_of_ok hreg]
    exact Client.outline_setTable (PendingTable.closed_of_register hreg)
  | error why => rw [run_register_of_error hreg]

theorem outline_retract (c : Client) (n : Nat) (id : String)
    : ((retract n id).run c).2.outline = c.outline := by
  cases hres : (c.table n).resolve id with
  | none => rw [run_retract_of_none hres]
  | some taken =>
    rw [run_retract_of_some hres]
    exact Client.outline_setTable (PendingTable.closed_of_resolve hres)

theorem outline_event (c : Client) (n : Nat) (e : Event)
    : ((event n e).run c).2.outline = c.outline := by
  unfold run
  dsimp
  split
  . cases e with
    | frame f =>
      have htaken := Client.outline_takeAnswered c n f
      dsimp
      split
      . next hframe => simpa [hframe] using htaken
      . next hframe => simpa [hframe] using htaken
    | closed code reason =>
      dsimp
      rw [Client.outline_stopListening, Client.outline_tell]
    | failed =>
      dsimp
      rw [Client.outline_stopListening, Client.outline_warn]
  . rfl

theorem outline_sweep (c : Client) (n : Nat) : ((sweep n).run c).2.outline = c.outline := by
  unfold run
  dsimp
  split
  . rfl
  . exact Client.outline_takeExpired c n _

theorem outline_run_of_isPlain (hm : m.isPlain = true) : (m.run c).2.outline = c.outline := by
  cases m with
  | prepare n method params decoder => exact Client.outline_drawId c n
  | register n r params => exact outline_register c n r params
  | retract n id => exact outline_retract c n id
  | event n e => exact outline_event c n e
  | sweep n => exact outline_sweep c n
  | send n r params =>
    have hput := Client.outline_putFrame c (request r params)
    cases htaken : (c.putFrame (request r params)).1 with
    | true =>
      rw [run_send_of_taken htaken]
      exact hput
    | false =>
      rw [run_send_of_left htaken]
      exact hput
  | hangUp n =>
    unfold run
    dsimp
    split
    . exact Client.outline_stopListening c n
    . rfl
  | lookup | connect =>
    unfold run
    dsimp
    split <;> rfl
  | dispose | farewell | elapse | forget => rfl
  | _ => simp [isPlain] at hm

theorem outline_stopWriting (c : Client)
    : (stopWriting.run c).2.outline = c.outline.withTransport c.transport.stopWriting := rfl

theorem outline_close (c : Client) (n : Nat)
    : ((close n).run c).2.outline = c.outline.close n := by
  exact Client.outline_setTable_closed c n rfl

theorem outline_endGeneration (c : Client) (n : Nat)
    : ((endGeneration n).run c).2.outline = c.outline.endGeneration n := by
  unfold run Outline.endGeneration
  dsimp
  cases hs : c.session? n with
  | none =>
    have hnone : c.outline.sessions[n]? = none := by
      unfold Client.outline
      dsimp
      rw [List.getElem?_map]
      exact congrArg (Option.map _) hs
    rw [hnone]
  | some s =>
    rw [Client.sessions_outline hs]
    exact Client.outline_setTransport c _

theorem outline_closeLink (c : Client)
    : (closeLink.run c).2.outline = c.outline.withTransport c.transport.close.2 := by
  exact Client.outline_closeLink c

theorem outline_open (c : Client) (deadline : Duration) (net : Network) (files : FileTree)
    : let m : Move := .open deadline net files
      ((m.run c).1 = [] ∧ (m.run c).2.outline = c.outline)
        ∨ ∃ route timeout,
          (m.run c).1 = [.dial (c.transport.generation + 1) route timeout net]
            ∧ (m.run c).2.outline = c.outline.withTransport c.transport.startOpening.2 := by
  unfold run
  dsimp
  generalize hwarned : c.settings.routeWarnings.foldl
    (fun c message => c.warn (.insecure message)) c = warned
  have houtline : warned.outline = c.outline := by
    rw [← hwarned]
    exact Client.outline_warnAll c _
  have htransport : warned.transport = c.transport := congrArg Outline.transport houtline
  split
  . exact .inl ⟨rfl, houtline⟩
  . next route _ =>
    rw [Client.outline_tell, Client.outline_setTransport, houtline, htransport]
    exact .inr ⟨route, _, rfl, rfl⟩

theorem run_dial_of_ok {generation g : Nat} {route : Route} {timeout : Duration} {net : Network}
    (h : (c.dialServer generation route timeout net).1 = .ok g)
    : (dial generation route timeout net).run c
        = ([.startSession g], (c.dialServer generation route timeout net).2) := by
  unfold run
  dsimp
  split
  . next hdial => simp [hdial] at h
  . next hdial =>
    rw [hdial] at h ⊢
    cases h
    rfl

theorem run_dial_of_error {generation : Nat} {route : Route} {timeout : Duration} {net : Network}
    {e : ClientError} (h : (c.dialServer generation route timeout net).1 = .error e)
    : (dial generation route timeout net).run c
        = ([], (c.dialServer generation route timeout net).2) := by
  unfold run
  dsimp
  split
  . next hdial =>
    rw [hdial]
  . next hdial => simp [hdial] at h

theorem outline_dial_of_opened {route : Route} {timeout : Duration} {net : Network}
    (h : net.dial route timeout = .opened) (c : Client)
    : let m : Move := .dial c.transport.generation route timeout net
      (m.run c).1 = [.startSession c.transport.generation]
        ∧ (m.run c).2.outline
          = c.outline.withTransport
            ({ c.transport with link := some { generation := c.transport.generation } }.setState
              .connected) := by
  obtain ⟨houtline, hdialled⟩ :=
    Client.outline_dialServer c c.transport.generation route timeout net
  rw [h, Transport.settleOpening_opened] at houtline hdialled
  dsimp only
  rw [run_dial_of_ok hdialled]
  exact ⟨rfl, houtline⟩

theorem outline_dial_of_failed {route : Route} {timeout : Duration} {net : Network}
    (h : net.dial route timeout ≠ .opened) (c : Client)
    : let m : Move := .dial c.transport.generation route timeout net
      (m.run c).1 = []
        ∧ (m.run c).2.outline = c.outline.withTransport (c.transport.setState .disconnected) := by
  obtain ⟨houtline, hdialled⟩ :=
    Client.outline_dialServer c c.transport.generation route timeout net
  rw [Transport.settleOpening_of_failed h] at houtline hdialled
  dsimp only
  rw [run_dial_of_error hdialled]
  exact ⟨rfl, houtline⟩

theorem outline_dial_of_ne {generation : Nat} {route : Route} {timeout : Duration} {net : Network}
    (h : c.transport.generation ≠ generation)
    : ((dial generation route timeout net).run c).2.outline = c.outline := by
  obtain ⟨houtline, hdialled⟩ := Client.outline_dialServer c generation route timeout net
  rw [Transport.settleOpening_of_ne h] at houtline hdialled
  rw [run_dial_of_error hdialled]
  exact houtline

/-- What a move makes of an outline, by the moves that its operation goes on with. -/
inductive Reshapes (o : Outline) (next : List Move) : Move → Outline → Prop where
  | kept (m : Move) : Reshapes o next m o
  | vacated (m : Move) : Reshapes o next m o.vacate
  | closed (n : Nat) : Reshapes o next (.close n) (o.close n)
  | started (generation : Nat)
      : Reshapes o next (.startSession generation) (o.addSession generation)
  | published (n : Nat) : Reshapes o next (.publish n) (o.publish n)
  | stopped : Reshapes o next .stopWriting (o.withTransport o.transport.stopWriting)
  | unlinked (m : Move)
      : Reshapes o next m
          (o.withTransport ({ o.transport with link := none }.setState .disconnected))
  | opening (m : Move) : Reshapes o next m (o.withTransport o.transport.startOpening.2)
  | failed (m : Move) : Reshapes o next m (o.withTransport (o.transport.setState .disconnected))
  | opened (m : Move) (hnext : next = [.startSession o.transport.generation])
      : Reshapes o next m
          (o.withTransport
            ({ o.transport with link := some { generation := o.transport.generation } }.setState
              .connected))

theorem reshapes_run (m : Move) (c : Client)
    : Reshapes c.outline (m.run c).1 m (m.run c).2.outline := by
  cases m with
  | dial generation route timeout net =>
    by_cases hgeneration : c.transport.generation = generation
    . subst hgeneration
      by_cases hresult : net.dial route timeout = .opened
      . obtain ⟨hnext, houtline⟩ := outline_dial_of_opened hresult c
        rw [houtline]
        exact .opened _ hnext
      . rw [(outline_dial_of_failed hresult c).2]
        exact .failed _
    . rw [outline_dial_of_ne hgeneration]
      exact .kept _
  | «open» deadline net files =>
    rcases outline_open c deadline net files with ⟨_, houtline⟩ | ⟨_, _, _, houtline⟩
    . rw [houtline]
      exact .kept _
    . rw [houtline]
      exact .opening _
  | endGeneration n =>
    rw [outline_endGeneration]
    rcases c.outline.endGeneration_cases n with ⟨heq, _⟩ | ⟨_, heq⟩
    . rw [heq]
      exact .kept _
    . rw [heq]
      exact .unlinked _
  | closeLink =>
    rw [outline_closeLink]
    exact .unlinked _
  | close n =>
    rw [outline_close]
    exact .closed n
  | startSession generation =>
    have houtline := Client.outline_addSession c generation
    unfold run
    dsimp
    rw [houtline]
    exact .started generation
  | drop =>
    unfold run
    dsimp
    split
    . exact .vacated _
    . rw [Client.outline_vacate, Client.outline_stopListening]
      exact .vacated _
  | disconnect | replace =>
    unfold run
    dsimp
    split <;> exact .vacated _
  | publish n => exact .published n
  | stopWriting => exact .stopped
  | abort => exact .unlinked _
  | _ =>
    rw [outline_run_of_isPlain rfl]
    exact .kept _

end Move

def Transport.Linked (t : Transport) : Prop :=
  ∀ link, t.link = some link → link.generation = t.generation

theorem Transport.linked_setState {t : Transport} {state : ConnectionState}
    : (t.setState state).Linked ↔ t.Linked := by
  unfold Linked
  rw [link_setState, generation_setState]

namespace Move.Reshapes

variable {o o' : Outline} {n generation : Nat} {m : Move} {next : List Move}

theorem runsOver (h : Reshapes o next m o') (hruns : o.RunsOver n generation)
    : o'.RunsOver n generation := by
  cases h with
  | closed => exact Outline.runsOver_close_iff.mpr hruns
  | started =>
    obtain ⟨closed, hn⟩ := hruns
    have hlt := (List.getElem?_eq_some_iff.mp hn).1
    refine ⟨closed, ?_⟩
    rw [Outline.sessions_addSession, if_neg (Nat.ne_of_lt hlt)]
    exact hn
  | _ => exact hruns

theorem linked (h : Reshapes o next m o') (hlinked : o.transport.Linked) : o'.transport.Linked := by
  cases h with
  | stopped =>
    intro link hlink
    obtain ⟨old, hold, rfl⟩ := Option.map_eq_some_iff.mp hlink
    exact hlinked old hold
  | unlinked | opening => exact Transport.linked_setState.mpr nofun
  | failed => exact Transport.linked_setState.mpr hlinked
  | opened =>
    apply Transport.linked_setState.mpr
    rintro _ ⟨⟩
    rfl
  | _ => exact hlinked

end Move.Reshapes
end CallWire
