import CallWire.Proofs.Moves

/-!
This module contains what moves do to the books of a client: the tables and the id counters of its
sessions, and the ledger.
-/

namespace CallWire

/-- What decides where the records of a client's calls are. -/
structure Books where
  tables : List PendingTable
  counters : List CallIds
  ledger : Ledger

namespace Client

def books (c : Client) : Books where
  tables := c.sessions.map Session.table
  counters := c.sessions.map Session.ids
  ledger := c.ledger

variable {c : Client} {n : Nat} {s : Session}

@[simp]
theorem books_core (c : Client) : c.core.books = c.books := rfl

@[simp]
theorem books_tell (c : Client) (e : Notice) : (c.tell e).books = c.books := rfl

@[simp]
theorem books_warn (c : Client) (w : Warning) : (c.warn w).books = c.books := rfl

@[simp]
theorem books_vacate (c : Client) : c.vacate.books = c.books := rfl

theorem map_modify_same {α β : Type} {f : α → α} {g : α → β} (h : ∀ x, g (f x) = g x)
    (l : List α) (n : Nat)
    : (l.modify n f).map g = l.map g := by
  apply List.ext_getElem?
  intro k
  rw [List.getElem?_map, List.getElem?_modify, List.getElem?_map]
  cases l[k]? with
  | none => rfl
  | some x =>
    split
    . exact congrArg some (h x)
    . rfl

theorem map_modify_set {α β : Type} {f : α → α} {g : α → β} {b : β} (h : ∀ x, g (f x) = b)
    (l : List α) (n : Nat)
    : (l.modify n f).map g = (l.map g).set n b := by
  rw [List.set_eq_modify]
  apply List.ext_getElem?
  intro k
  rw [List.getElem?_map, List.getElem?_modify, List.getElem?_modify, List.getElem?_map]
  cases l[k]? with
  | none => rfl
  | some x =>
    split
    . exact congrArg some (h x)
    . rfl

theorem length_counters (c : Client) : c.books.counters.length = c.books.tables.length := by
  unfold books
  rw [List.length_map, List.length_map]

theorem books_modifySession {f : Session → Session} (htable : ∀ s, (f s).table = s.table)
    (hids : ∀ s, (f s).ids = s.ids) (c : Client) (n : Nat)
    : (c.modifySession n f).books = c.books := by
  unfold books modifySession
  dsimp
  rw [map_modify_same htable, map_modify_same hids]

theorem books_setTable (c : Client) (n : Nat) (t : PendingTable)
    : (c.setTable n t).books = { c.books with tables := c.books.tables.set n t } := by
  unfold books setTable modifySession
  dsimp
  rw [map_modify_set (g := Session.table) (b := t), map_modify_same (g := Session.ids)]
  . exact fun _ => rfl
  . exact fun _ => rfl

@[simp]
theorem books_setTransport (c : Client) (t : Transport) : (c.setTransport t).books = c.books := by
  unfold setTransport
  dsimp
  split <;> rfl

theorem tables_getElem? (hs : c.session? n = some s) : c.books.tables[n]? = some s.table := by
  unfold books
  dsimp
  rw [List.getElem?_map]
  exact congrArg (Option.map Session.table) hs

theorem table_of_tables {t : PendingTable} (ht : c.books.tables[n]? = some t) : c.table n = t := by
  unfold books at ht
  dsimp at ht
  rw [List.getElem?_map] at ht
  unfold table session?
  rw [ht]
  rfl

theorem counters_getElem? (hs : c.session? n = some s) : c.books.counters[n]? = some s.ids := by
  unfold books
  dsimp
  rw [List.getElem?_map]
  exact congrArg (Option.map Session.ids) hs

theorem books_drawId (hs : c.session? n = some s)
    : (c.drawId n).1 = s.ids.draw.1
        ∧ (c.drawId n).2.books
            = { c.books with counters := c.books.counters.set n s.ids.draw.2 } := by
  unfold drawId
  rw [hs]
  refine ⟨rfl, ?_⟩
  unfold books modifySession
  dsimp
  rw [map_modify_same (g := Session.table), map_modify_set (g := Session.ids) (b := s.ids.draw.2)]
  . exact fun _ => rfl
  . exact fun _ => rfl

@[simp]
theorem books_putFrame (c : Client) (request : Request)
    : (c.putFrame request).2.books = c.books := by
  unfold putFrame
  dsimp
  split <;> rfl

@[simp]
theorem books_warnAll (c : Client) (messages : List String)
    : (messages.foldl (fun c message => c.warn (.insecure message)) c).books = c.books := by
  induction messages generalizing c with
  | nil => rfl
  | cons message messages ih =>
    rw [List.foldl_cons, ih]
    simp

@[simp]
theorem books_dialServer (c : Client) (generation : Nat) (route : Route) (timeout : Duration)
    (net : Network)
    : (c.dialServer generation route timeout net).2.books = c.books := by
  unfold dialServer
  generalize hseen : (if net.isAbsent route then c.tell (.absent c.settings.url) else c) = seen
  have hbooks : seen.books = c.books := by
    rw [← hseen]
    split <;> simp
  dsimp
  rw [← hbooks]
  split <;> exact books_setTransport seen _

@[simp]
theorem books_closeLink (c : Client) : c.closeLink.books = c.books := by
  unfold closeLink
  dsimp
  split <;> simp

theorem length_tables (c : Client) : c.books.tables.length = c.sessions.length := by
  exact List.length_map _

theorem books_addSession (c : Client) (generation : Nat)
    : (c.addSession generation).2.books
        =
      { c.books with
        tables := c.books.tables ++ [{}]
        counters := c.books.counters ++ [{}] } := by
  unfold addSession books
  dsimp
  rw [List.map_append, List.map_append]
  rfl

theorem books_of_core_eq {c' : Client} (h : c.core = c'.core) : c.books = c'.books := by
  rw [← books_core, h, books_core]

@[simp]
theorem books_stopListening (c : Client) (n : Nat) : (c.stopListening n).books = c.books := by
  apply books_modifySession
  . exact fun _ => rfl
  . exact fun _ => rfl

end Client

namespace Move

def session? : Move → Option Nat
  | .prepare n _ _ _ | .register n _ _ | .send n _ _ | .retract n _ | .dispose n _ _ => some n
  | .close n | .endGeneration n | .farewell n => some n
  | _ => none

def held : Move → List CallRecord
  | .register _ r _ | .dispose _ _ r => [r]
  | _ => []

def draws (m : Move) (n : Nat) : Bool :=
  match m with
  | .prepare k _ _ _ => k = n
  | _ => false

def closes (m : Move) (n : Nat) : Bool :=
  match m with
  | .close k => k = n
  | _ => false

def takes (m : Move) (n : Nat) : Bool :=
  match m with
  | .event k (.frame _) | .sweep k => k = n
  | _ => false

/-- What a move can do to the books, and the moves that follow. -/
inductive Effect (c : Client) : Move → List Move → Books → Prop where
  | quiet {m : Move} {next : List Move} (hheld : m.held = []) (hdraws : ∀ n, m.draws n = false)
      (hnext : ∀ x ∈ next, x.held = [])
      : Effect c m next c.books
  | refused (method : String) (params : List Json) (decoder : ResultDecoder)
      : Effect c (.lookup method params decoder) []
          { c.books with ledger := c.refuseCall.2.ledger }
  | forgotten (call : Nat)
      : Effect c (.forget call) [] { c.books with ledger := c.ledger.forget call }
  | started (generation : Nat)
      : Effect c (.startSession generation) [.publish c.books.tables.length]
          { c.books with
            tables := c.books.tables ++ [{}]
            counters := c.books.counters ++ [{}] }
  | prepared {n : Nat} {ids : CallIds} (method : String) (params : List Json)
      (decoder : ResultDecoder) (hids : c.books.counters[n]? = some ids)
      : Effect c (.prepare n method params decoder)
          [.register n (c.newRecord ids.draw.1 method decoder) params]
          { c.books with
            counters := c.books.counters.set n ids.draw.2
            ledger := (c.ledger.issue (some ids.draw.1)).2 }
  | entered {n : Nat} {r : CallRecord} {t t' : PendingTable} (params : List Json)
      (htable : c.books.tables[n]? = some t) (hreg : t.register r = .ok t')
      : Effect c (.register n r params) [.send n r params]
          { c.books with tables := c.books.tables.set n t' }
  | turnedAway {n : Nat} {r : CallRecord} {t : PendingTable} {why : Refusal} (params : List Json)
      (htable : c.books.tables[n]? = some t) (hreg : t.register r = .error why)
      : Effect c (.register n r params) [.dispose n (.fail (why.error r)) r] c.books
  | retracted {n : Nat} {id : String} {r : CallRecord} {t t' : PendingTable}
      (htable : c.books.tables[n]? = some t) (hres : t.resolve id = some (r, t'))
      : Effect c (.retract n id) [.dispose n (.fail .notConnected) r]
          { c.books with tables := c.books.tables.set n t' }
  | disposed (n : Nat) (d : Disposal) (r : CallRecord)
      : Effect c (.dispose n d r) [] { c.books with ledger := r.dispose d c.ledger }
  | answered {n : Nat} {f : String} {a : Response} {r : CallRecord} {t t' : PendingTable}
      (hdec : c.frameDecoder.decodeResponse f = .ok a)
      (htable : c.books.tables[n]? = some t) (hres : t.resolve a.id = some (r, t'))
      : Effect c (.event n (.frame f)) [.dispose n a.disposal r]
          { c.books with tables := c.books.tables.set n t' }
  | expired {n : Nat} {timeout : Duration} {t : PendingTable}
      (htimeout : c.settings.requestTimeout = some timeout)
      (htable : c.books.tables[n]? = some t)
      : Effect c (.sweep n)
          (disposals n (fun r => .fail (.requestTimeout r.method timeout))
            (t.takeExpired c.now timeout).1)
          { c.books with tables := c.books.tables.set n (t.takeExpired c.now timeout).2 }
  | closed {n : Nat} {t : PendingTable} (htable : c.books.tables[n]? = some t)
      : Effect c (.close n) (disposals n (fun _ => .fail .notConnected) t.records)
          { c.books with tables := c.books.tables.set n { records := [], closed := true } }

variable {c : Client} {m : Move} {n : Nat} {s : Session}

theorem Effect.of_run {b : Books} {l : List Move} {d : Client} (hrun : m.run c = (l, d))
    (hbooks : d.books = b) (h : Effect c m l b)
    : Effect c m (m.run c).1 (m.run c).2.books := by
  rw [hrun, hbooks]
  exact h

theorem effect_of_quiet (hheld : m.held = []) (hdraws : ∀ n, m.draws n = false)
    (hnext : ∀ x ∈ (m.run c).1, x.held = [])
    (hbooks : (m.run c).2.books = c.books)
    : Effect c m (m.run c).1 (m.run c).2.books := by
  rw [hbooks]
  exact .quiet hheld hdraws hnext

theorem effect_lookup (method : String) (params : List Json) (decoder : ResultDecoder)
    : Effect c (.lookup method params decoder) ((lookup method params decoder).run c).1
        ((lookup method params decoder).run c).2.books := by
  cases hfound : c.currentSession? with
  | none =>
    apply Effect.of_run (l := []) (d := c.refuseCall.2)
    . simp only [run, hfound]
    . rfl
    . exact .refused method params decoder
  | some n =>
    apply Effect.of_run (l := [.prepare n method params decoder]) (d := c)
    . simp only [run, hfound]
    . rfl
    . apply Effect.quiet rfl (fun _ => rfl)
      intro m hm
      rw [List.mem_singleton] at hm
      rw [hm]
      rfl

theorem effect_prepare (hs : c.session? n = some s) (method : String) (params : List Json)
    (decoder : ResultDecoder)
    : Effect c (.prepare n method params decoder) ((prepare n method params decoder).run c).1
        ((prepare n method params decoder).run c).2.books := by
  obtain ⟨hid, hbooks⟩ := Client.books_drawId hs
  have hledger : (c.drawId n).2.ledger = c.ledger := congrArg Books.ledger hbooks
  have hrecord : (c.drawId n).2.newRecord (c.drawId n).1 method decoder
      = c.newRecord s.ids.draw.1 method decoder := by
    unfold Client.drawId
    rw [hs]
    rfl
  apply Effect.of_run (l := [.register n (c.newRecord s.ids.draw.1 method decoder) params])
    (b := { c.books with
      counters := c.books.counters.set n s.ids.draw.2
      ledger := (c.ledger.issue (some s.ids.draw.1)).2 })
  . unfold run
    dsimp
    rw [hrecord]
  . change { (c.drawId n).2.books with
      ledger := ((c.drawId n).2.ledger.issue (some (c.drawId n).1)).2 } = _
    rw [hid, hledger, hbooks]
  . exact .prepared method params decoder (Client.counters_getElem? hs)

theorem effect_register (hs : c.session? n = some s) (r : CallRecord) (params : List Json)
    : Effect c (.register n r params) ((register n r params).run c).1
        ((register n r params).run c).2.books := by
  have htable := Client.tables_getElem? hs
  have hcurrent := Client.table_of_session? hs
  cases hreg : s.table.register r with
  | ok t =>
    rw [← hcurrent] at hreg
    apply Effect.of_run (run_register_of_ok hreg) (Client.books_setTable c n t)
    rw [hcurrent] at hreg
    exact .entered params htable hreg
  | error why =>
    rw [← hcurrent] at hreg
    apply Effect.of_run (run_register_of_error hreg) rfl
    rw [hcurrent] at hreg
    exact .turnedAway params htable hreg

theorem effect_send (r : CallRecord) (params : List Json)
    : Effect c (.send n r params) ((send n r params).run c).1
        ((send n r params).run c).2.books := by
  have hbooks := Client.books_putFrame c (request r params)
  cases htaken : (c.putFrame (request r params)).1 with
  | true =>
    apply Effect.of_run (run_send_of_taken htaken) hbooks
    exact .quiet rfl (fun _ => rfl) (by simp)
  | false =>
    apply Effect.of_run (run_send_of_left htaken) hbooks
    apply Effect.quiet rfl (fun _ => rfl)
    intro m hm
    rw [List.mem_singleton] at hm
    rw [hm]
    rfl

theorem effect_retract (hs : c.session? n = some s) (id : String)
    : Effect c (.retract n id) ((retract n id).run c).1 ((retract n id).run c).2.books := by
  have hcurrent := Client.table_of_session? hs
  cases hres : s.table.resolve id with
  | none =>
    rw [← hcurrent] at hres
    apply Effect.of_run (run_retract_of_none hres) rfl
    exact .quiet rfl (fun _ => rfl) (by simp)
  | some taken =>
    obtain ⟨r, t⟩ := taken
    rw [← hcurrent] at hres
    apply Effect.of_run (run_retract_of_some hres) (Client.books_setTable c n t)
    rw [hcurrent] at hres
    exact .retracted (Client.tables_getElem? hs) hres

theorem mem_ending_held : ∀ x ∈ ending n, x.held = [] := by
  intro x hx
  unfold ending at hx
  rcases List.mem_cons.mp hx with rfl | hx
  . rfl
  . rw [List.mem_singleton] at hx
    rw [hx]
    rfl

theorem effect_frame (hs : c.session? n = some s) (hlisten : c.isListening n = true) (f : String)
    : Effect c (.event n (.frame f)) ((event n (.frame f)).run c).1
        ((event n (.frame f)).run c).2.books := by
  have hcurrent := Client.table_of_session? hs
  cases hdec : c.frameDecoder.decodeResponse f with
  | error e =>
    apply Effect.of_run (run_frame_of_none hlisten (Client.takeAnswered_of_error hdec)) rfl
    exact .quiet rfl (fun _ => rfl) (by simp)
  | ok a =>
    cases hres : s.table.resolve a.id with
    | none =>
      rw [← hcurrent] at hres
      apply Effect.of_run (run_frame_of_none hlisten (Client.takeAnswered_of_none hdec hres)) rfl
      exact .quiet rfl (fun _ => rfl) (by simp)
    | some taken =>
      obtain ⟨r, t⟩ := taken
      rw [← hcurrent] at hres
      apply Effect.of_run (run_frame_of_some hlisten (Client.takeAnswered_of_some hdec hres))
        (Client.books_setTable _ n t)
      rw [hcurrent] at hres
      exact .answered hdec (Client.tables_getElem? hs) hres

theorem effect_event (e : Event)
    : Effect c (.event n e) ((event n e).run c).1 ((event n e).run c).2.books := by
  cases hlisten : c.isListening n with
  | false =>
    apply Effect.of_run (run_event_of_deaf hlisten e) rfl
    exact .quiet rfl (fun _ => rfl) (by simp)
  | true =>
    obtain ⟨s, hs, _⟩ := Client.session?_of_isListening hlisten
    cases e with
    | frame f => exact effect_frame hs hlisten f
    | closed code reason =>
      apply Effect.of_run (l := ending n) _
        (Client.books_stopListening (c.tell (.closedByPeer n code reason)) n)
      . exact .quiet rfl (fun _ => rfl) mem_ending_held
      . simp only [run, hlisten, if_true]
    | failed =>
      apply Effect.of_run (l := ending n) _
        (Client.books_stopListening (c.warn (.failed n)) n)
      . exact .quiet rfl (fun _ => rfl) mem_ending_held
      . simp only [run, hlisten, if_true]

theorem effect_hangUp : Effect c (.hangUp n) ((hangUp n).run c).1 ((hangUp n).run c).2.books := by
  cases hlisten : c.isListening n with
  | false =>
    apply Effect.of_run (l := []) (d := c) _ rfl
    . exact .quiet rfl (fun _ => rfl) (by simp)
    . simp only [run, hlisten]
      rfl
  | true =>
    apply Effect.of_run (l := ending n) _ (Client.books_stopListening c n)
    . exact .quiet rfl (fun _ => rfl) mem_ending_held
    . simp only [run, hlisten, if_true]

theorem core_tellAll (tell : CallRecord → Notice) (rs : List CallRecord) (c : Client)
    : (rs.foldl (fun c r => c.tell (tell r)) c).core = c.core := by
  induction rs generalizing c with
  | nil => rfl
  | cons r rs ih => exact ih (c.tell (tell r))

theorem takeExpired_of_open (timeout : Duration) (hopen : (c.table n).closed = false)
    : (c.takeExpired n timeout).1 = ((c.table n).takeExpired c.now timeout).1
        ∧ (c.takeExpired n timeout).2.core
          = (c.setTable n ((c.table n).takeExpired c.now timeout).2).core := by
  unfold Client.takeExpired
  rw [hopen, if_neg Bool.false_ne_true]
  refine ⟨rfl, ?_⟩
  have hcore := core_tellAll (fun r => .callTimedOut n r.id r.method)
    ((c.table n).takeExpired c.now timeout).1 c
  exact congrArg (fun c' : Client => c'.setTable n ((c.table n).takeExpired c.now timeout).2) hcore

theorem takeExpired_of_shut {timeout : Duration} (hclosed : (c.table n).closed = true)
    : c.takeExpired n timeout = ([], c) := by
  unfold Client.takeExpired
  rw [if_pos hclosed]

theorem effect_sweep : Effect c (.sweep n) ((sweep n).run c).1 ((sweep n).run c).2.books := by
  cases htimeout : c.settings.requestTimeout with
  | none =>
    apply Effect.of_run (run_sweep_of_none htimeout) rfl
    exact .quiet rfl (fun _ => rfl) (by simp)
  | some timeout =>
    have hrun := run_sweep_of_some (n := n) htimeout
    cases hclosed : (c.table n).closed with
    | true =>
      rw [takeExpired_of_shut hclosed] at hrun
      apply Effect.of_run hrun rfl
      exact .quiet rfl (fun _ => rfl) (by simp [disposals])
    | false =>
      cases hs : c.session? n with
      | none =>
        unfold Client.table at hclosed
        rw [hs] at hclosed
        simp at hclosed
      | some s =>
        obtain ⟨htaken, hcore⟩ := takeExpired_of_open timeout hclosed
        rw [Client.table_of_session? hs] at htaken hcore
        rw [htaken] at hrun
        apply Effect.of_run hrun ((Client.books_of_core_eq hcore).trans (Client.books_setTable _ _ _))
        exact .expired htimeout (Client.tables_getElem? hs)

theorem effect_close (hs : c.session? n = some s)
    : Effect c (.close n) ((close n).run c).1 ((close n).run c).2.books := by
  have hcurrent := Client.table_of_session? hs
  apply Effect.of_run (l := disposals n (fun _ => .fail .notConnected) s.table.records) _
    (Client.books_setTable c n { records := [], closed := true })
  . exact .closed (Client.tables_getElem? hs)
  . simp only [run, PendingTable.close, hcurrent]

theorem effect_open (deadline : Duration) (net : Network) (files : FileTree)
    : Effect c (.open deadline net files) ((.open deadline net files : Move).run c).1
        ((.open deadline net files : Move).run c).2.books := by
  apply effect_of_quiet rfl (fun _ => rfl)
  . unfold run
    dsimp
    split <;> simp [held]
  . unfold run
    dsimp
    split <;> simp

theorem effect_dial (generation : Nat) (route : Route) (timeout : Duration) (net : Network)
    : Effect c (.dial generation route timeout net) ((dial generation route timeout net).run c).1
        ((dial generation route timeout net).run c).2.books := by
  have hbooks := Client.books_dialServer c generation route timeout net
  apply effect_of_quiet rfl (fun _ => rfl)
  . unfold run
    dsimp
    split <;> simp [held]
  . unfold run
    dsimp
    split
    . next hdial => simpa [hdial] using hbooks
    . next hdial => simpa [hdial] using hbooks

theorem effect_run (m : Move) (hm : ∀ n, m.session? = some n → ∃ s, c.session? n = some s)
    : Effect c m (m.run c).1 (m.run c).2.books := by
  cases m with
  | lookup method params decoder => exact effect_lookup method params decoder
  | prepare n method params decoder =>
    obtain ⟨s, hs⟩ := hm n rfl
    exact effect_prepare hs method params decoder
  | register n r params =>
    obtain ⟨s, hs⟩ := hm n rfl
    exact effect_register hs r params
  | send n r params => exact effect_send r params
  | retract n id =>
    obtain ⟨s, hs⟩ := hm n rfl
    exact effect_retract hs id
  | dispose n d r => exact .disposed n d r
  | event n e => exact effect_event e
  | hangUp n => exact effect_hangUp
  | sweep n => exact effect_sweep
  | close n =>
    obtain ⟨s, hs⟩ := hm n rfl
    exact effect_close hs
  | «open» deadline net files => exact effect_open deadline net files
  | dial generation route timeout net => exact effect_dial generation route timeout net
  | startSession generation =>
    apply Effect.of_run (l := [.publish c.books.tables.length]) _
      (Client.books_addSession c generation)
    . exact .started generation
    . rw [Client.length_tables]
      rfl
  | forget call => exact .forgotten call
  -- What is left changes the slot, the connection, the clock or the journal only.
  | closeLink | farewell =>
    apply effect_of_quiet rfl (fun _ => rfl)
    . simp [run]
    . simp [run]
  | publish | abort | elapse | stopWriting =>
    apply effect_of_quiet rfl (fun _ => rfl)
    . simp [run]
    . rfl
  | endGeneration | disconnect | connect | replace | drop =>
    apply effect_of_quiet rfl (fun _ => rfl)
    . unfold run
      dsimp
      split <;> simp [held]
    . unfold run
      dsimp
      split <;> simp

end Move
end CallWire
