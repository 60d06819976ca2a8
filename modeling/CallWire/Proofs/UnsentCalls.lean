import CallWire.Proofs.Client

/-!
This module contains that a call that cannot be sent leaves no trace: its record is out of the table
again, which is as it was before, nothing is on the socket, and the only handle that has come to an
outcome is its own.
-/

namespace CallWire

theorem Transport.outlet?_eq_none_iff {t : Transport}
    : t.outlet? = none
        ↔
      t.state ≠ .connected ∨ ∀ link, t.link = some link → link.writing = false := by
  unfold outlet? isConnected
  by_cases hstate : t.state = .connected
  . cases t.link <;> simp [hstate]
  . simp [hstate]

namespace Client

variable {c : Client} {n : Nat} {id method : String} {decoder : ResultDecoder} {t : PendingTable}

theorem exists_session_of_register {r : CallRecord} (h : (c.table n).register r = .ok t)
    : ∃ s, c.session? n = some s := by
  cases hs : c.session? n with
  | none =>
    have hopen := (PendingTable.register_eq_ok_iff.mp h).1
    unfold table at hopen
    rw [hs] at hopen
    cases hopen
  | some s => exact ⟨s, rfl⟩

theorem sendRequest_of_none (h : c.transport.outlet? = none) (n : Nat) (request : Request)
    : c.sendRequest n request
        =
      (c.note (.outgoing request.encode)).retractCall n request.id .notConnected := by
  unfold sendRequest putFrame
  dsimp only
  have h : (c.note (.outgoing request.encode)).transport.outlet? = none := h
  rw [h]
  rfl

theorem sendRequest_of_some {link : Link} (h : c.transport.outlet? = some link) (n : Nat)
    (request : Request)
    : (c.sendRequest n request).sent = (link.generation, request.encode) :: c.sent := by
  unfold sendRequest putFrame
  dsimp only
  have h : (c.note (.outgoing request.encode)).transport.outlet? = some link := h
  rw [h]
  rfl

theorem retractCall_of_some {r : CallRecord} (h : (c.table n).resolve id = some (r, t))
    (e : ClientError)
    : c.retractCall n id e = (c.setTable n t).dispose (.fail e) r := by
  unfold retractCall
  rw [h]

def withFailed (c : Client) (id : Option String) (e : ClientError) : Client :=
  { c with ledger := ⟨c.ledger.handles ++ [{ id := id, outcome := some (.error e) }]⟩ }

theorem refuseCall_eq (c : Client)
    : c.refuseCall = (c.ledger.handles.length, c.withFailed none .notConnected) := by
  unfold refuseCall withFailed
  rw [← Ledger.settle_issue]
  rfl

theorem registerCall_refused {why : Refusal}
    (h : (c.table n).register (c.newRecord id method decoder) = .error why)
    : c.registerCall n id method decoder
        =
      ((c.ledger.handles.length, false),
        c.withFailed (some id) (why.error (c.newRecord id method decoder))) := by
  rw [registerCall_of_error h]
  unfold withFailed
  rw [← Ledger.settle_issue]
  rfl

theorem core_sendRequest_refused
    (hreg : (c.table n).register (c.newRecord id method decoder) = .ok t)
    (hout : c.transport.outlet? = none) (params : List Json)
    : ((c.registerCall n id method decoder).2.sendRequest n { id, method, params }).core
        =
      (c.withFailed (some id) .notConnected).core := by
  obtain ⟨s, hs⟩ := exists_session_of_register hreg
  let request : Request := { id, method, params }
  let entered : Client := { c.setTable n t with ledger := (c.ledger.issue (some id)).2 }
  have hout : entered.transport.outlet? = none := hout
  have htable : (entered.note (.outgoing request.encode)).table n = t := table_setTable_self t hs
  have hres : t.resolve id = some (c.newRecord id method decoder, c.table n) :=
    PendingTable.resolve_of_register hreg
  rw [← htable] at hres
  rw [registerCall_of_ok hreg]
  change (entered.sendRequest n request).core = _
  rw [sendRequest_of_none hout, retractCall_of_some hres]
  -- The table that the session has now is the one that it had before the call.
  have hback : (c.setTable n t).setTable n (c.table n) = c := by
    rw [setTable_setTable, setTable_table]
  unfold withFailed
  rw [← Ledger.settle_issue]
  exact congrArg (fun c' : Client => { c'.core with
    ledger := (c.ledger.issue (some id)).2.settle c.ledger.handles.length (.error .notConnected) })
    hback

theorem drawId_eq (c : Client) (n : Nat)
    : (c.drawId n).2 = { c with sessions := (c.drawId n).2.sessions } := by
  unfold drawId
  dsimp only
  split <;> rfl

theorem table_drawId (c : Client) (n k : Nat) : (c.drawId n).2.table k = c.table k := by
  unfold drawId
  cases hs : c.session? n with
  | none => rfl
  | some s =>
    unfold table session? modifySession
    dsimp only
    rw [List.getElem?_modify]
    cases c.sessions[k]? with
    | none => rfl
    | some other =>
      change (if n = k then { other with ids := s.ids.draw.2 } else other).table = other.table
      split <;> rfl

theorem ledger_drawId (c : Client) (n : Nat) : (c.drawId n).2.ledger = c.ledger := by
  rw [drawId_eq]

theorem transport_drawId (c : Client) (n : Nat) : (c.drawId n).2.transport = c.transport := by
  rw [drawId_eq]

theorem newRecord_drawId (c : Client) (n : Nat) (id method : String) (decoder : ResultDecoder)
    : (c.drawId n).2.newRecord id method decoder = c.newRecord id method decoder := by
  rw [drawId_eq]
  rfl

theorem issueCall_of_error (hn : c.currentSession? = some n) {why : Refusal}
    (h : (c.table n).register (c.newRecord (c.drawId n).1 method decoder) = .error why)
    (params : List Json)
    : c.issueCall method params decoder
        =
      (c.ledger.handles.length, (c.drawId n).2.withFailed (some (c.drawId n).1)
        (why.error (c.newRecord (c.drawId n).1 method decoder))) := by
  have hreg := h
  rw [← table_drawId c n n, ← newRecord_drawId c n] at hreg
  unfold issueCall
  rw [hn]
  dsimp only
  rw [registerCall_refused hreg, newRecord_drawId, ledger_drawId]
  rfl

theorem issueCall_of_ok (hn : c.currentSession? = some n)
    (h : (c.table n).register (c.newRecord (c.drawId n).1 method decoder) = .ok t)
    (params : List Json)
    : c.issueCall method params decoder
        =
      (c.ledger.handles.length,
        ((c.drawId n).2.registerCall n (c.drawId n).1 method decoder).2.sendRequest n
          { id := (c.drawId n).1, method, params }) := by
  rw [← table_drawId c n n, ← newRecord_drawId c n] at h
  unfold issueCall
  rw [hn]
  dsimp only
  rw [registerCall_of_ok h, ledger_drawId]
  rfl

theorem sent_issueCall_of_ok (hn : c.currentSession? = some n)
    (hreg : (c.table n).register (c.newRecord (c.drawId n).1 method decoder) = .ok t)
    {link : Link} (hout : c.transport.outlet? = some link) (params : List Json)
    : (c.issueCall method params decoder).2.sent
        =
      (link.generation, Request.encode { id := (c.drawId n).1, method, params }) :: c.sent := by
  rw [issueCall_of_ok hn hreg]
  rw [← table_drawId c n n, ← newRecord_drawId c n] at hreg
  rw [← transport_drawId c n] at hout
  rw [registerCall_of_ok hreg]
  let entered : Client :=
    { (c.drawId n).2.setTable n t with
      ledger := ((c.drawId n).2.ledger.issue (some (c.drawId n).1)).2 }
  have hout : entered.transport.outlet? = some link := hout
  have hsent : (c.drawId n).2.sent = c.sent := by rw [drawId_eq]
  rw [← hsent]
  exact sendRequest_of_some hout n _

/--
Why a call cannot be sent, with the id on its handle and the error that it fails with: there is no
connected session, the table of the session takes no more calls or has one with the id, or there is
no link whose writer is still there.
-/
inductive Unsent (c : Client) : Option String → ClientError → Prop where
  | unconnected (h : c.transport.state ≠ .connected ∨ c.slot = none)
      : Unsent c none .notConnected
  | closed {n : Nat} (hstate : c.transport.state = .connected) (hslot : c.slot = some n)
      (hclosed : (c.table n).closed = true)
      : Unsent c (some (c.drawId n).1) .notConnected
  | duplicate {n : Nat} (hstate : c.transport.state = .connected) (hslot : c.slot = some n)
      (hopen : (c.table n).closed = false)
      (htaken : ∃ r ∈ (c.table n).records, r.id = (c.drawId n).1)
      : Unsent c (some (c.drawId n).1) (.duplicateCallId (c.drawId n).1)
  | unwritten {n : Nat} (hstate : c.transport.state = .connected) (hslot : c.slot = some n)
      (hopen : (c.table n).closed = false)
      (hfresh : ∀ r ∈ (c.table n).records, r.id ≠ (c.drawId n).1)
      (hlink : ∀ link, c.transport.link = some link → link.writing = false)
      : Unsent c (some (c.drawId n).1) .notConnected

def drawn (c : Client) : Client :=
  match c.currentSession? with
  | none => c
  | some n => (c.drawId n).2

theorem drawn_of_none (hn : c.currentSession? = none) : c.drawn = c := by
  unfold drawn
  rw [hn]

theorem drawn_of_some (hn : c.currentSession? = some n) : c.drawn = (c.drawId n).2 := by
  unfold drawn
  rw [hn]

theorem Unsent.core_issueCall {e : ClientError} {id : Option String} (h : c.Unsent id e)
    (method : String) (params : List Json) (decoder : ResultDecoder)
    : (c.issueCall method params decoder).1 = c.ledger.handles.length
        ∧ (c.issueCall method params decoder).2.core = (c.drawn.withFailed id e).core := by
  cases h with
  | unconnected h =>
    have hn := currentSession?_eq_none_iff.mpr h
    unfold issueCall
    rw [hn, drawn_of_none hn]
    exact ⟨congrArg Prod.fst c.refuseCall_eq, congrArg (core ∘ Prod.snd) c.refuseCall_eq⟩
  | @closed n hstate hslot hclosed =>
    have hn := currentSession?_eq_some_iff.mpr ⟨hstate, hslot⟩
    rw [issueCall_of_error hn (PendingTable.register_eq_closed_iff.mpr hclosed), drawn_of_some hn]
    exact ⟨rfl, rfl⟩
  | @duplicate n hstate hslot hopen htaken =>
    have hn := currentSession?_eq_some_iff.mpr ⟨hstate, hslot⟩
    have hreg : (c.table n).register (c.newRecord (c.drawId n).1 method decoder)
        = .error .duplicate :=
      PendingTable.register_eq_duplicate_iff.mpr ⟨hopen, htaken⟩
    rw [issueCall_of_error hn hreg, drawn_of_some hn]
    exact ⟨rfl, rfl⟩
  | @unwritten n hstate hslot hopen hfresh hlink =>
    have hn := currentSession?_eq_some_iff.mpr ⟨hstate, hslot⟩
    obtain ⟨t, hreg⟩ := PendingTable.exists_register
      (r := c.newRecord (c.drawId n).1 method decoder) hopen hfresh
    have hout : c.transport.outlet? = none := Transport.outlet?_eq_none_iff.mpr (.inr hlink)
    rw [issueCall_of_ok hn hreg, drawn_of_some hn]
    refine ⟨rfl, ?_⟩
    rw [← table_drawId c n n, ← newRecord_drawId c n] at hreg
    rw [← transport_drawId c n] at hout
    exact core_sendRequest_refused hreg hout params

theorem Unsent.id_eq {e : ClientError} {id : Option String} (h : c.Unsent id e)
    : id = c.currentSession?.map (fun n => (c.drawId n).1) := by
  cases h with
  | unconnected h => rw [currentSession?_eq_none_iff.mpr h, Option.map_none]
  | closed hstate hslot | duplicate hstate hslot | unwritten hstate hslot =>
    rw [currentSession?_eq_some_iff.mpr ⟨hstate, hslot⟩, Option.map_some]

theorem unsent_or_ready (c : Client)
    : (∃ id e, c.Unsent id e)
        ∨ ∃ n link, c.currentSession? = some n ∧ c.transport.outlet? = some link
            ∧ (c.table n).closed = false ∧ ∀ r ∈ (c.table n).records, r.id ≠ (c.drawId n).1 := by
  cases hn : c.currentSession? with
  | none => exact .inl ⟨_, _, .unconnected (currentSession?_eq_none_iff.mp hn)⟩
  | some n =>
    obtain ⟨hstate, hslot⟩ := currentSession?_eq_some_iff.mp hn
    cases hclosed : (c.table n).closed with
    | true => exact .inl ⟨_, _, .closed hstate hslot hclosed⟩
    | false =>
      by_cases htaken : ∃ r ∈ (c.table n).records, r.id = (c.drawId n).1
      . exact .inl ⟨_, _, .duplicate hstate hslot hclosed htaken⟩
      . push Not at htaken
        cases hout : c.transport.outlet? with
        | none =>
          rcases Transport.outlet?_eq_none_iff.mp hout with hne | hlink
          . exact absurd hstate hne
          . exact .inl ⟨_, _, .unwritten hstate hslot hclosed htaken hlink⟩
        | some link => exact .inr ⟨n, link, rfl, rfl, hclosed, htaken⟩

theorem drawn_eq (c : Client) : c.drawn = { c with sessions := c.drawn.sessions } := by
  unfold drawn
  split
  . rfl
  . exact c.drawId_eq _

theorem table_drawn (c : Client) (k : Nat) : c.drawn.table k = c.table k := by
  unfold drawn
  split
  . rfl
  . exact c.table_drawId _ k

theorem exists_unsent_iff (c : Client) (method : String) (params : List Json)
    (decoder : ResultDecoder)
    : (∃ id e, c.Unsent id e) ↔ (c.issueCall method params decoder).2.sent = c.sent := by
  constructor
  . rintro ⟨id, e, h⟩
    have hsent := congrArg Client.sent (h.core_issueCall method params decoder).2
    rw [drawn_eq] at hsent
    exact hsent
  . intro hsame
    rcases c.unsent_or_ready with hunsent | ⟨n, link, hn, hout, hopen, hfresh⟩
    . exact hunsent
    . obtain ⟨t, hreg⟩ := PendingTable.exists_register
        (r := c.newRecord (c.drawId n).1 method decoder) hopen hfresh
      rw [sent_issueCall_of_ok hn hreg hout] at hsame
      exact absurd hsame (List.cons_ne_self _ _)

/--
A call that cannot be sent leaves no trace but its own handle, which has failed: every table holds
the records that it held before, nothing was put on the socket and no other handle has changed.
Without a connected session no id was drawn either. Every other call is put on the socket.
-/
theorem unsent_leaves_no_trace (c : Client) (method : String) (params : List Json)
    (decoder : ResultDecoder)
    : ((∃ id e, c.Unsent id e) ↔ (c.issueCall method params decoder).2.sent = c.sent)
      ∧ ∀ id e, c.Unsent id e →
        ∃ c', c.issueCall method params decoder = (c.ledger.handles.length, c')
          ∧ c'.ledger.handles = c.ledger.handles ++ [{ id := id, outcome := some (.error e) }]
          ∧ (∀ k, c'.table k = c.table k)
          ∧ c'.sent = c.sent
          ∧ c'.transport = c.transport ∧ c'.slot = c.slot
          ∧ (c.currentSession? = none → id = none ∧ c'.sessions = c.sessions)
          ∧ (∀ n, c.currentSession? = some n →
              id = some (c.drawId n).1 ∧ c'.sessions = (c.drawId n).2.sessions) := by
  refine ⟨c.exists_unsent_iff method params decoder, ?_⟩
  intro id e h
  obtain ⟨hnumber, hcore⟩ := h.core_issueCall method params decoder
  obtain ⟨journal, hclient⟩ := exists_journal_of_core_eq hcore
  have hid := h.id_eq
  have hledger : c.drawn.ledger = c.ledger := by rw [drawn_eq]
  have hsent : c.drawn.sent = c.sent := by rw [drawn_eq]
  have htransport : c.drawn.transport = c.transport := by rw [drawn_eq]
  have hslot : c.drawn.slot = c.slot := by rw [drawn_eq]
  refine ⟨{ c.drawn.withFailed id e with journal }, Prod.ext hnumber hclient, ?_, c.table_drawn,
    hsent, htransport, hslot, ?_, ?_⟩
  . exact congrArg (fun l : Ledger => l.handles ++ _) hledger
  . intro hn
    rw [hn] at hid
    have hsessions : c.drawn.sessions = c.sessions := by rw [drawn_of_none hn]
    exact ⟨hid, hsessions⟩
  . intro n hn
    rw [hn] at hid
    have hsessions : c.drawn.sessions = (c.drawId n).2.sessions := by rw [drawn_of_some hn]
    exact ⟨hid, hsessions⟩

/-- The writer of the socket is gone while another call waits. -/
theorem unsent_leaves_no_trace_writer_gone
    : let r : CallRecord :=
        { call := 0, id := "1", method := "version", issuedAt := .ofSecs 1
          decoder := Decoding.nothing.decoder }
      let c : Client :=
        { settings := {}
          transport :=
            { generation := 1, link := some { generation := 1, writing := false }
              state := .connected }
          sessions := [{ generation := 1, ids := ⟨2⟩, table := { records := [r] } }]
          slot := some 0
          ledger := ⟨[{ id := some "1" }]⟩ }
      c.Unsent (some "2") .notConnected
        ∧ ∃ c', c.issueCall "ping" [] Decoding.nothing.decoder = (1, c')
            ∧ c'.ledger.handles
                = [{ id := some "1" }, { id := some "2", outcome := some (.error .notConnected) }]
            ∧ (c'.table 0).records = [r] ∧ c'.sent = [] := by
  intro r c
  have hunsent : c.Unsent (some "2") .notConnected := by
    have hid : (c.drawId 0).1 = "2" := by decide +kernel
    rw [← hid]
    apply Unsent.unwritten rfl rfl rfl
    . intro s hs
      rw [List.mem_singleton.mp hs, hid]
      decide
    . intro link hlink
      cases hlink
      rfl
  have h := (unsent_leaves_no_trace c "ping" [] Decoding.nothing.decoder).2 _ _ hunsent
  obtain ⟨c', hissue, hhandles, htables, hsent, _⟩ := h
  refine ⟨hunsent, c', hissue, hhandles, ?_, hsent⟩
  rw [htables 0]
  rfl

end Client
end CallWire
