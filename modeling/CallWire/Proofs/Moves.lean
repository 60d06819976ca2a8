import CallWire.Client.Call
import CallWire.Client.Lifecycle
import CallWire.Proofs.Client

/-!
This module contains the operations of a client as the moves that they consist of. Nothing comes
between the parts of one move, but anything can come between two moves. An operation that is left
alone does what the function of a client does that it is made of.
-/

namespace CallWire

/--
A move of an operation. Most of them belong to a session, which is given by its number, and some of
them have a record in their hands. What is done under one lock is one move; a record that was taken
out of a table is disposed of by a move of its own.
-/
inductive Move where
  | lookup (method : String) (params : List Json) (decoder : ResultDecoder)
  | prepare (n : Nat) (method : String) (params : List Json) (decoder : ResultDecoder)
  | register (n : Nat) (r : CallRecord) (params : List Json)
  | send (n : Nat) (r : CallRecord) (params : List Json)
  | retract (n : Nat) (id : String)
  | dispose (n : Nat) (d : Disposal) (r : CallRecord)
  | event (n : Nat) (e : Event)
  | hangUp (n : Nat)
  | sweep (n : Nat)
  | close (n : Nat)
  | endGeneration (n : Nat)
  | disconnect
  | closeLink
  | farewell (n : Nat)
  | connect (deadline : Duration) (net : Network) (files : FileTree)
  | replace (deadline : Duration) (net : Network) (files : FileTree)
  | open (deadline : Duration) (net : Network) (files : FileTree)
  | dial (generation : Nat) (route : Route) (timeout : Duration) (net : Network)
  | startSession (generation : Nat)
  | publish (n : Nat)
  /-- The writer of the socket of the connection stops, and the connection does not know it yet. -/
  | stopWriting
  | drop
  | abort
  | elapse (d : Duration)
  | forget (call : Nat)

namespace Client

def stopListening (n : Nat) (c : Client) : Client :=
  c.modifySession n (fun s => { s with listening := false })

def vacate (c : Client) : Client := { c with slot := none }

def closeLink (c : Client) : Client :=
  let (link, transport) := c.transport.close
  let closed := c.setTransport transport
  if link.isSome then closed.tell .closing else closed

variable {c : Client} {n : Nat}

theorem session?_closeTable (c : Client) (n : Nat)
    : (c.closeTable n).session? n
        =
      (c.session? n).map (fun s => { s with table := { records := [], closed := true } }) := by
  rw [closeTable_eq]
  unfold setTable modifySession session?
  dsimp
  rw [List.getElem?_modify_eq]
  rfl

theorem session?_of_isListening (h : c.isListening n = true)
    : ∃ s, c.session? n = some s ∧ s.listening = true := by
  unfold isListening at h
  cases hs : c.session? n with
  | none =>
    rw [hs] at h
    simp at h
  | some s =>
    rw [hs] at h
    exact ⟨s, rfl, h⟩

@[simp]
theorem slot_core (c : Client) : c.core.slot = c.slot := rfl

@[simp]
theorem slot_tell (c : Client) (e : Notice) : (c.tell e).slot = c.slot := rfl

@[simp]
theorem slot_warn (c : Client) (w : Warning) : (c.warn w).slot = c.slot := rfl

@[simp]
theorem slot_vacate (c : Client) : c.vacate.slot = none := rfl

@[simp]
theorem slot_setTransport (c : Client) (t : Transport) : (c.setTransport t).slot = c.slot := by
  unfold setTransport
  dsimp
  split <;> rfl

@[simp]
theorem slot_closeLink (c : Client) : c.closeLink.slot = c.slot := by
  unfold closeLink
  dsimp
  split <;> simp

theorem vacate_of_slot (h : c.slot = none) : c.vacate = c := by
  unfold vacate
  rw [← h]

theorem vacate_closeTable (c : Client) (n : Nat)
    : (c.closeTable n).vacate = c.vacate.closeTable n := by
  rw [closeTable_eq, closeTable_eq]
  rfl

theorem vacate_setTransport (c : Client) (t : Transport)
    : (c.setTransport t).vacate = c.vacate.setTransport t := by
  unfold setTransport vacate
  dsimp
  split <;> rfl

theorem vacate_closeLink (c : Client) : c.closeLink.vacate = c.vacate.closeLink := by
  have hclosed := vacate_setTransport c c.transport.close.2
  have htransport : c.vacate.transport = c.transport := rfl
  unfold closeLink
  dsimp
  rw [htransport]
  split
  . exact congrArg (tell · .closing) hclosed
  . exact hclosed

theorem endSession_of_slot (h : c.slot = some n) : c.endSession = c.vacate.closeTable n := by
  unfold endSession
  rw [h]
  apply vacate_closeTable

theorem endSession_of_none (h : c.slot = none) : c.endSession = c.vacate := by
  unfold endSession
  rw [h, vacate_of_slot h]

end Client

namespace Move

def disposals (n : Nat) (d : CallRecord → Disposal) (rs : List CallRecord) : List Move :=
  rs.map (fun r => .dispose n (d r) r)

def ending (n : Nat) : List Move := [.close n, .endGeneration n]

/-- A move: what it leaves of the client, and the moves that its operation goes on with. -/
def run : Move → Client → List Move × Client
  | .lookup method params decoder, c =>
    match c.currentSession? with
    | none => ([], c.refuseCall.2)
    | some n => ([.prepare n method params decoder], c)
  | .prepare n method params decoder, c =>
    let (id, c) := c.drawId n
    let r := c.newRecord id method decoder
    ([.register n r params], { c with ledger := (c.ledger.issue (some id)).2 })
  | .register n r params, c =>
    match (c.table n).register r with
    | .ok t => ([.send n r params], c.setTable n t)
    | .error why => ([.dispose n (.fail (why.error r)) r], c)
  | .send n r params, c =>
    let (taken, c) := c.putFrame { id := r.id, method := r.method, params }
    if taken then ([], c.tell (.callSent n r.id r.method)) else ([.retract n r.id], c)
  | .retract n id, c =>
    match (c.table n).resolve id with
    | none => ([], c)
    | some (r, t) => ([.dispose n (.fail .notConnected) r], c.setTable n t)
  | .dispose _ d r, c => ([], c.dispose d r)
  | .event n e, c =>
    if c.isListening n then
      match e with
      | .frame f =>
        match c.takeAnswered n f with
        | (none, c) => ([], c)
        | (some (d, r), c) => ([.dispose n d r], c)
      | .closed code reason => (ending n, (c.tell (.closedByPeer n code reason)).stopListening n)
      | .failed => (ending n, (c.warn (.failed n)).stopListening n)
    else ([], c)
  | .hangUp n, c => if c.isListening n then (ending n, c.stopListening n) else ([], c)
  | .sweep n, c =>
    match c.settings.requestTimeout with
    | none => ([], c)
    | some timeout =>
      let (expired, c) := c.takeExpired n timeout
      (disposals n (fun r => .fail (.requestTimeout r.method timeout)) expired, c)
  | .close n, c =>
    let (drained, t) := (c.table n).close
    (disposals n (fun _ => .fail .notConnected) drained, c.setTable n t)
  | .endGeneration n, c =>
    match c.session? n with
    | none => ([], c)
    | some s => ([], c.setTransport (c.transport.endGeneration s.generation))
  | .disconnect, c =>
    match c.slot with
    | none => ([.closeLink], c.vacate)
    | some n => ([.closeLink, .close n, .farewell n], c.vacate)
  | .closeLink, c => ([], c.closeLink)
  | .farewell n, c => ([], c.tell (.disconnected n))
  | .connect deadline net files, c =>
    if c.isConnected then ([], c) else ([.replace deadline net files], c)
  | .replace deadline net files, c =>
    match c.slot with
    | none => ([.open deadline net files], c.vacate)
    | some n => ([.close n, .open deadline net files], c.vacate)
  | .open deadline net files, c =>
    let timeout : Duration := ⟨deadline.nanos - c.now.nanos⟩
    let c := c.settings.routeWarnings.foldl (fun c message => c.warn (.insecure message)) c
    match c.settings.route files with
    | .error _ => ([], c)
    | .ok route =>
      let (generation, transport) := c.transport.startOpening
      ([.dial generation route timeout net],
        (c.setTransport transport).tell (.opening generation c.settings.url))
  | .dial generation route timeout net, c =>
    match c.dialServer generation route timeout net with
    | (.error _, c) => ([], c)
    | (.ok generation, c) => ([.startSession generation], c)
  | .startSession generation, c =>
    let (n, c) := c.addSession generation
    ([.publish n], c)
  | .publish n, c => ([], c.publishSession n)
  | .stopWriting, c => ([], { c with transport := c.transport.stopWriting })
  | .drop, c =>
    match c.slot with
    | none => ([.abort], c.vacate)
    | some n => ([.close n, .abort], (c.stopListening n).vacate)
  | .abort, c => ([], { c with transport := c.transport.abort })
  | .elapse d, c => ([], { c with now := ⟨c.now.nanos + d.nanos⟩ })
  | .forget call, c => ([], c.forget call)

attribute [local simp] run

inductive Yields : Move → Move → Prop where
  | found (n : Nat) (method : String) (params : List Json) (decoder : ResultDecoder)
      : Yields (.lookup method params decoder) (.prepare n method params decoder)
  | prepared (n : Nat) (method : String) (params : List Json) (decoder : ResultDecoder)
      (r : CallRecord)
      : Yields (.prepare n method params decoder) (.register n r params)
  | entered (n : Nat) (r : CallRecord) (params : List Json)
      : Yields (.register n r params) (.send n r params)
  | turnedAway (n : Nat) (d : Disposal) (r : CallRecord) (params : List Json)
      : Yields (.register n r params) (.dispose n d r)
  | unsent (n : Nat) (r : CallRecord) (params : List Json)
      : Yields (.send n r params) (.retract n r.id)
  | retracted (n : Nat) (id : String) (d : Disposal) (r : CallRecord)
      : Yields (.retract n id) (.dispose n d r)
  | answered (n : Nat) (f : String) (d : Disposal) (r : CallRecord)
      : Yields (.event n (.frame f)) (.dispose n d r)
  | expired (n : Nat) (d : Disposal) (r : CallRecord) : Yields (.sweep n) (.dispose n d r)
  | drained (n : Nat) (d : Disposal) (r : CallRecord) : Yields (.close n) (.dispose n d r)
  | ended (n : Nat) (e : Event) : Yields (.event n e) (.close n)
  | failed (n : Nat) (e : Event) : Yields (.event n e) (.endGeneration n)
  | hungUp (n : Nat) : Yields (.hangUp n) (.close n)
  | cutOff (n : Nat) : Yields (.hangUp n) (.endGeneration n)
  | unlinked : Yields .disconnect .closeLink
  | left (n : Nat) : Yields .disconnect (.close n)
  | bidFarewell (n : Nat) : Yields .disconnect (.farewell n)
  | needed (deadline : Duration) (net : Network) (files : FileTree)
      : Yields (.connect deadline net files) (.replace deadline net files)
  | replaced (n : Nat) (deadline : Duration) (net : Network) (files : FileTree)
      : Yields (.replace deadline net files) (.close n)
  | vacated (deadline : Duration) (net : Network) (files : FileTree)
      : Yields (.replace deadline net files) (.open deadline net files)
  | routed (deadline timeout : Duration) (net : Network) (files : FileTree) (generation : Nat)
      (route : Route)
      : Yields (.open deadline net files) (.dial generation route timeout net)
  | opened (generation k : Nat) (route : Route) (timeout : Duration) (net : Network)
      : Yields (.dial generation route timeout net) (.startSession k)
  | started (generation n : Nat) : Yields (.startSession generation) (.publish n)
  | dropped (n : Nat) : Yields .drop (.close n)
  | aborted : Yields .drop .abort

theorem yields_of_mem_run {m x : Move} {c : Client} (hx : x ∈ (m.run c).1) : m.Yields x := by
  cases m with
  | prepare =>
    rw [run, List.mem_singleton] at hx
    subst hx
    exact .prepared _ _ _ _ _
  | startSession =>
    rw [run, List.mem_singleton] at hx
    subst hx
    exact .started _ _
  | close n =>
    obtain ⟨r, _, rfl⟩ := List.mem_map.mp hx
    exact .drained n _ r
  | sweep n =>
    unfold run at hx
    dsimp at hx
    split at hx
    . cases hx
    . obtain ⟨r, _, rfl⟩ := List.mem_map.mp hx
      exact .expired n _ r
  | event n e =>
    unfold run ending at hx
    dsimp at hx
    split at hx
    . cases e with
      | frame f =>
        dsimp at hx
        split at hx
        . cases hx
        . rw [List.mem_singleton.mp hx]
          exact .answered n f _ _
      | closed | failed => rcases List.mem_pair.mp hx with rfl | rfl <;> constructor
    . cases hx
  | hangUp n =>
    unfold run ending at hx
    dsimp at hx
    split at hx
    . rcases List.mem_pair.mp hx with rfl | rfl <;> constructor
    . cases hx
  | lookup | register | send | retract | connect | «open» | dial =>
    unfold run at hx
    dsimp at hx
    split at hx <;> simp at hx <;> (subst hx; constructor)
  | disconnect | replace | drop =>
    unfold run at hx
    dsimp at hx
    split at hx <;> simp at hx
    . subst hx
      constructor
    . rcases hx with rfl | rfl | rfl <;> constructor
  | endGeneration n =>
    unfold run at hx
    dsimp at hx
    split at hx <;> cases hx
  | dispose | closeLink | farewell | publish | stopWriting | abort | elapse | forget =>
    simp [run] at hx

/-- Some moves are made, and all that they lead to, and nothing comes between them. -/
inductive Alone : List Move → Client → Client → Prop where
  | done (c : Client) : Alone [] c c
  | step {m : Move} {ms : List Move} {c c' : Client}
      (h : Alone ((m.run c).1 ++ ms) (m.run c).2 c')
      : Alone (m :: ms) c c'

variable {c c' : Client} {m : Move} {n : Nat} {ms : List Move}
variable {r : CallRecord} {t : PendingTable} {params : List Json}

theorem run_register_of_ok (h : (c.table n).register r = .ok t)
    : (register n r params).run c = ([.send n r params], c.setTable n t) := by
  simp [h]

theorem run_register_of_error {why : Refusal} (h : (c.table n).register r = .error why)
    : (register n r params).run c = ([.dispose n (.fail (why.error r)) r], c) := by
  simp [h]

def request (r : CallRecord) (params : List Json) : Request :=
  { id := r.id, method := r.method, params }

theorem run_send_of_taken (h : (c.putFrame (request r params)).1 = true)
    : (send n r params).run c
        =
      ([], (c.putFrame (request r params)).2.tell (.callSent n r.id r.method)) := by
  unfold request at h ⊢
  simp [h]

theorem run_send_of_left (h : (c.putFrame (request r params)).1 = false)
    : (send n r params).run c = ([.retract n r.id], (c.putFrame (request r params)).2) := by
  unfold request at h ⊢
  simp [h]

theorem run_event_of_deaf (h : c.isListening n = false) (e : Event)
    : (event n e).run c = ([], c) := by
  simp [h]

theorem run_frame_of_none {f : String} {d : Client} (hlisten : c.isListening n = true)
    (h : c.takeAnswered n f = (none, d))
    : (event n (.frame f)).run c = ([], d) := by
  simp [hlisten, h]

theorem run_frame_of_some {f : String} {d : Client} {x : Disposal}
    (hlisten : c.isListening n = true) (h : c.takeAnswered n f = (some (x, r), d))
    : (event n (.frame f)).run c = ([.dispose n x r], d) := by
  simp [hlisten, h]

theorem run_sweep_of_none (h : c.settings.requestTimeout = none) : (sweep n).run c = ([], c) := by
  simp [h]

theorem run_sweep_of_some {timeout : Duration} (h : c.settings.requestTimeout = some timeout)
    : (sweep n).run c
        =
      (disposals n (fun r => .fail (.requestTimeout r.method timeout)) (c.takeExpired n timeout).1,
        (c.takeExpired n timeout).2) := by
  simp [h]

theorem run_retract_of_none {id : String} (h : (c.table n).resolve id = none)
    : (retract n id).run c = ([], c) := by
  simp [h]

theorem run_retract_of_some {id : String} (h : (c.table n).resolve id = some (r, t))
    : (retract n id).run c = ([.dispose n (.fail .notConnected) r], c.setTable n t) := by
  simp [h]

theorem alone_of_run {l : List Move} {d : Client} (hrun : m.run c = (l, d))
    (h : Alone (l ++ ms) d c')
    : Alone (m :: ms) c c' := by
  apply Alone.step
  rw [hrun]
  exact h

theorem alone_disposals {error : CallRecord → ClientError} (rs : List CallRecord)
    (h : Alone ms (c.failAll error rs) c')
    : Alone (disposals n (fun r => .fail (error r)) rs ++ ms) c c' := by
  induction rs generalizing c with
  | nil => exact h
  | cons r rs ih =>
    apply alone_of_run rfl
    apply ih
    exact h

theorem alone_close (h : Alone ms (c.closeTable n) c') : Alone (.close n :: ms) c c' := by
  apply alone_of_run rfl
  exact alone_disposals _ h

theorem alone_retract (c : Client) (n : Nat) (id : String)
    : Alone [.retract n id] c (c.retractCall n id .notConnected) := by
  unfold Client.retractCall
  cases hres : (c.table n).resolve id with
  | none =>
    apply alone_of_run (run_retract_of_none hres)
    exact .done _
  | some taken =>
    obtain ⟨r, t⟩ := taken
    apply alone_of_run (run_retract_of_some hres)
    apply alone_of_run rfl
    exact .done _

theorem alone_send (c : Client) (n : Nat) (r : CallRecord) (params : List Json)
    : Alone [.send n r params] c
        (c.sendRequest n (request r params)) := by
  unfold Client.sendRequest
  dsimp
  split
  . next htaken =>
    apply alone_of_run (run_send_of_taken htaken)
    exact .done _
  . next hleft =>
    rw [Bool.not_eq_true] at hleft
    apply alone_of_run (run_send_of_left hleft)
    exact alone_retract _ _ _

theorem alone_register (c : Client) (n : Nat) (id method : String) (params : List Json)
    (decoder : ResultDecoder)
    : Alone [.register n (c.newRecord id method decoder) params]
        { c with ledger := (c.ledger.issue (some id)).2 }
        (if (c.registerCall n id method decoder).1.2 then
          (c.registerCall n id method decoder).2.sendRequest n { id, method, params }
        else (c.registerCall n id method decoder).2) := by
  let c₁ : Client := { c with ledger := (c.ledger.issue (some id)).2 }
  cases hreg : (c.table n).register (c.newRecord id method decoder) with
  | ok t =>
    rw [Client.registerCall_of_ok hreg]
    have htaken : (c₁.table n).register (c.newRecord id method decoder) = .ok t := hreg
    apply alone_of_run (run_register_of_ok htaken)
    exact alone_send _ _ _ _
  | error why =>
    rw [Client.registerCall_of_error hreg]
    have hrefused : (c₁.table n).register (c.newRecord id method decoder) = .error why := hreg
    apply alone_of_run (run_register_of_error hrefused)
    apply alone_of_run rfl
    exact .done _

theorem alone_issueCall (c : Client) (method : String) (params : List Json)
    (decoder : ResultDecoder)
    : Alone [.lookup method params decoder] c (c.issueCall method params decoder).2 := by
  unfold Client.issueCall
  cases hfound : c.currentSession? with
  | none =>
    apply alone_of_run (l := []) (d := c.refuseCall.2)
    . simp only [run, hfound]
    . exact .done _
  | some n =>
    apply alone_of_run (l := [.prepare n method params decoder]) (d := c)
    . simp only [run, hfound]
    . apply alone_of_run rfl
      have halone := alone_register (c.drawId n).2 n (c.drawId n).1 method params decoder
      dsimp
      split
      . next htaken =>
        rw [if_pos htaken] at halone
        exact halone
      . next hrefused =>
        rw [if_neg hrefused] at halone
        exact halone

theorem alone_ending {s : Session} (hs : c.session? n = some s)
    : Alone (ending n) (c.stopListening n) (c.onEnd n) := by
  apply alone_close
  have hsession : ((c.stopListening n).closeTable n).session? n = some s.over := by
    rw [Client.session?_closeTable]
    unfold Client.stopListening
    rw [Client.session?_modifySession_self _ hs]
    rfl
  unfold Client.onEnd
  rw [hs]
  refine alone_of_run (l := []) ?_ (.done _)
  simp only [run, hsession]
  rfl

theorem alone_onFrame (hlisten : c.isListening n = true) (f : String)
    : Alone [.event n (.frame f)] c (c.onFrame n f) := by
  unfold Client.onFrame
  cases htaken : c.takeAnswered n f with
  | mk taken d =>
    cases taken with
    | none =>
      apply alone_of_run (run_frame_of_none hlisten htaken)
      exact .done _
    | some taken =>
      apply alone_of_run (run_frame_of_some hlisten htaken)
      apply alone_of_run rfl
      exact .done _

theorem alone_sweep (c : Client) (n : Nat) : Alone [.sweep n] c (c.sweep n) := by
  unfold Client.sweep
  cases htimeout : c.settings.requestTimeout with
  | none =>
    apply alone_of_run (run_sweep_of_none htimeout)
    exact .done _
  | some timeout =>
    apply alone_of_run (run_sweep_of_some htimeout)
    exact alone_disposals _ (.done _)

theorem alone_onEvent (c : Client) (n : Nat) (e : Event)
    : Alone [.event n e] c (c.onEvent n e) := by
  unfold Client.onEvent
  cases hlisten : c.isListening n with
  | false =>
    apply alone_of_run (run_event_of_deaf hlisten e)
    exact .done _
  | true =>
    obtain ⟨s, hs, _⟩ := Client.session?_of_isListening hlisten
    cases e with
    | frame f => exact alone_onFrame hlisten f
    | closed code reason =>
      apply alone_of_run (l := ending n)
      . simp only [run, hlisten, if_true]
        rfl
      . exact alone_ending (c := c.tell _) hs
    | failed =>
      apply alone_of_run (l := ending n)
      . simp only [run, hlisten, if_true]
        rfl
      . exact alone_ending (c := c.warn _) hs

theorem alone_onHangUp (c : Client) (n : Nat) : Alone [.hangUp n] c (c.onHangUp n) := by
  unfold Client.onHangUp
  cases hlisten : c.isListening n with
  | false =>
    apply alone_of_run (l := []) (d := c)
    . simp only [run, hlisten]
      rfl
    . exact .done _
  | true =>
    obtain ⟨s, hs, _⟩ := Client.session?_of_isListening hlisten
    apply alone_of_run (l := ending n) (d := c.stopListening n)
    . simp only [run, hlisten, if_true]
    . exact alone_ending hs

theorem alone_disconnect (c : Client) : Alone [.disconnect] c c.disconnect := by
  have hdisconnect : c.disconnect = match c.slot with
      | none => c.closeLink.endSession
      | some n => c.closeLink.endSession.tell (.disconnected n) := rfl
  rw [hdisconnect]
  have hslot := Client.slot_closeLink c
  cases h : c.slot with
  | none =>
    rw [h] at hslot
    dsimp
    rw [Client.endSession_of_none hslot, Client.vacate_closeLink]
    apply alone_of_run (l := [.closeLink]) (d := c.vacate)
    . simp only [run, h]
    . apply alone_of_run rfl
      exact .done _
  | some n =>
    rw [h] at hslot
    dsimp
    rw [Client.endSession_of_slot hslot, Client.vacate_closeLink]
    apply alone_of_run (l := [.closeLink, .close n, .farewell n]) (d := c.vacate)
    . simp only [run, h]
    . apply alone_of_run rfl
      apply alone_close
      apply alone_of_run rfl
      exact .done _

theorem alone_drop (c : Client) : Alone [.drop] c c.drop := by
  unfold Client.drop
  cases h : c.slot with
  | none =>
    apply alone_of_run (l := [.abort]) (d := c.vacate)
    . simp only [run, h]
    . rw [Client.vacate_of_slot h]
      apply alone_of_run rfl
      exact .done _
  | some n =>
    have hslot : (c.stopListening n).slot = some n := h
    have hend := Client.endSession_of_slot hslot
    unfold Client.stopListening at hend
    dsimp
    rw [hend]
    apply alone_of_run (l := [.close n, .abort]) (d := (c.stopListening n).vacate)
    . simp only [run, h]
    . apply alone_close
      apply alone_of_run rfl
      exact .done _

theorem alone_open (c : Client) (deadline : Duration) (net : Network) (files : FileTree)
    : Alone [.open deadline net files] c
        (c.openSession ⟨deadline.nanos - c.now.nanos⟩ net files).2 := by
  unfold Client.openSession Client.openSocket
  dsimp
  generalize hwarned : c.settings.routeWarnings.foldl
    (fun c message => c.warn (.insecure message)) c = warned
  cases hroute : warned.settings.route files with
  | error e =>
    apply alone_of_run (l := []) (d := warned)
    . simp only [run, hwarned, hroute]
    . exact .done _
  | ok route =>
    dsimp
    apply alone_of_run (l := [.dial warned.transport.startOpening.1 route
        ⟨deadline.nanos - c.now.nanos⟩ net])
    . simp only [run, hwarned, hroute]
      rfl
    . cases hdial : Client.dialServer warned.transport.startOpening.1 route
          ⟨deadline.nanos - c.now.nanos⟩ net _ with
      | mk opened c₁ =>
        cases opened with
        | error e =>
          apply alone_of_run (l := []) (d := c₁)
          . simp only [run, hdial]
          . exact .done _
        | ok generation =>
          apply alone_of_run (l := [.startSession generation]) (d := c₁)
          . simp only [run, hdial]
          . apply alone_of_run rfl
            apply alone_of_run rfl
            exact .done _

theorem alone_connectBy (c : Client) (deadline : Duration) (net : Network) (files : FileTree)
    : Alone [.connect deadline net files] c (c.connectBy deadline net files).2 := by
  unfold Client.connectBy
  split
  . next hconnected =>
    apply alone_of_run (l := []) (d := c)
    . simp only [run, hconnected, if_true]
    . exact .done _
  . next hconnected =>
    apply alone_of_run (l := [.replace deadline net files]) (d := c)
    . simp only [run, hconnected]
      rfl
    . have hnow : c.now = c.endSession.now := by
        unfold Client.endSession
        split
        . rfl
        . rw [Client.closeTable_eq]
          rfl
      rw [hnow]
      cases h : c.slot with
      | none =>
        rw [Client.endSession_of_none h]
        apply alone_of_run (l := [.open deadline net files]) (d := c.vacate)
        . simp only [run, h]
        . exact alone_open _ _ _ _
      | some n =>
        rw [Client.endSession_of_slot h]
        apply alone_of_run (l := [.close n, .open deadline net files]) (d := c.vacate)
        . simp only [run, h]
        . apply alone_close
          exact alone_open _ _ _ _

end Move
end CallWire
