import CallWire.Client.Call
import CallWire.Client.Dispatch
import CallWire.Proofs.Ledger
import CallWire.Proofs.Table

/-!
This module contains lemmas on what the operations of a client do to its sessions, its ledger and
its connection. They speak of clients up to their journals, which nothing but the reader of a log
sees.
-/

namespace CallWire

def Response.outcome (a : Response) (method : String) (decoder : ResultDecoder) : Outcome :=
  match a.fault with
  | some fault => .error (.ofServer fault.code fault.message)
  | none =>
    match decoder.decode (a.result.getD .null) with
    | .ok value => .ok value
    | .error fault => .error (.decode method fault)

theorem CallRecord.outcome_disposal (r : CallRecord) (a : Response)
    : r.outcome a.disposal = a.outcome r.method r.decoder := by
  unfold Response.disposal Response.payload Response.outcome
  cases a.fault with
  | none => exact r.outcome_fulfill _
  | some fault => rfl

def Session.over (s : Session) : Session :=
  { s with table := { records := [], closed := true }, listening := false }

namespace Client

def core (c : Client) : Client := { c with journal := [] }

variable {c c' : Client} {n m : Nat} {s : Session} {t : PendingTable} {r : CallRecord}

@[simp]
theorem core_note (c : Client) (e : JournalEntry) : (c.note e).core = c.core := rfl

@[simp]
theorem core_warn (c : Client) (w : Warning) : (c.warn w).core = c.core := rfl

@[simp]
theorem core_tell (c : Client) (e : Notice) : (c.tell e).core = c.core := rfl

@[simp]
theorem session?_core (c : Client) (n : Nat) : c.core.session? n = c.session? n := rfl

@[simp]
theorem table_core (c : Client) (n : Nat) : c.core.table n = c.table n := rfl

@[simp]
theorem ledger_core (c : Client) : c.core.ledger = c.ledger := rfl

@[simp]
theorem transport_core (c : Client) : c.core.transport = c.transport := rfl

@[simp]
theorem frameDecoder_core (c : Client) : c.core.frameDecoder = c.frameDecoder := rfl

theorem core_setTransport (c : Client) (t : Transport)
    : (c.setTransport t).core = { c.core with transport := t } := by
  unfold setTransport
  dsimp
  split <;> rfl

theorem session?_of_core_eq (h : c.core = c'.core) (n : Nat) : c.session? n = c'.session? n := by
  rw [← session?_core, h, session?_core]

theorem table_of_core_eq (h : c.core = c'.core) (n : Nat) : c.table n = c'.table n := by
  rw [← table_core, h, table_core]

theorem ledger_of_core_eq (h : c.core = c'.core) : c.ledger = c'.ledger := by
  rw [← ledger_core, h, ledger_core]

theorem transport_of_core_eq (h : c.core = c'.core) : c.transport = c'.transport := by
  rw [← transport_core, h, transport_core]

theorem frameDecoder_of_core_eq (h : c.core = c'.core) : c.frameDecoder = c'.frameDecoder := by
  rw [← frameDecoder_core, h, frameDecoder_core]

theorem exists_journal_of_core_eq (h : c.core = c'.core)
    : ∃ journal, c = { c' with journal } := by
  exact ⟨c.journal, congrArg (fun d : Client => { d with journal := c.journal }) h⟩

theorem currentSession?_eq_none_iff
    : c.currentSession? = none ↔ c.transport.state ≠ .connected ∨ c.slot = none := by
  unfold currentSession? Transport.isConnected
  by_cases hstate : c.transport.state = .connected <;> simp [hstate]

theorem currentSession?_eq_some_iff
    : c.currentSession? = some n ↔ c.transport.state = .connected ∧ c.slot = some n := by
  unfold currentSession? Transport.isConnected
  by_cases hstate : c.transport.state = .connected <;> simp [hstate]

theorem table_of_session? (h : c.session? n = some s) : c.table n = s.table := by
  unfold table
  rw [h]
  rfl

theorem isListening_of_session? (h : c.session? n = some s) : c.isListening n = s.listening := by
  unfold isListening
  rw [h]
  rfl

theorem session?_modifySession_self (f : Session → Session) (h : c.session? n = some s)
    : (c.modifySession n f).session? n = some (f s) := by
  unfold session? at h ⊢
  unfold modifySession
  dsimp
  rw [List.getElem?_modify_eq]
  rw [h]
  rfl

theorem table_setTable_self (t : PendingTable) (h : c.session? n = some s)
    : (c.setTable n t).table n = t := by
  exact table_of_session? (session?_modifySession_self _ h)

theorem setTable_setTable (c : Client) (n : Nat) (t t' : PendingTable)
    : (c.setTable n t).setTable n t' = c.setTable n t' := by
  unfold setTable modifySession
  dsimp
  rw [List.modify_modify_eq]
  rfl

theorem setTable_table (c : Client) (n : Nat) : c.setTable n (c.table n) = c := by
  have hsame : c.sessions.modify n (fun s => { s with table := c.table n }) = c.sessions := by
    apply List.ext_getElem?
    intro k
    rw [List.getElem?_modify]
    cases hs : c.sessions[k]? with
    | none => rfl
    | some s =>
      apply congrArg some
      dsimp only
      split
      . next hk =>
        subst hk
        rw [table_of_session? hs]
      . rfl
  unfold setTable modifySession
  rw [hsame]

theorem failAll_eq (c : Client) (error : CallRecord → ClientError) (rs : List CallRecord)
    : c.failAll error rs
        =
      { c with ledger := c.ledger.disposeAll (fun r => .fail (error r)) rs } := by
  unfold failAll Ledger.disposeAll
  induction rs generalizing c with
  | nil => rfl
  | cons r rs ih =>
    rw [List.foldl_cons]
    rw [ih]
    rfl

theorem closeTable_eq (c : Client) (n : Nat)
    : c.closeTable n
        =
      { c.setTable n { records := [], closed := true } with
        ledger := c.ledger.disposeAll (fun _ => .fail .notConnected) (c.table n).records } := by
  unfold closeTable PendingTable.close
  dsimp
  rw [failAll_eq]
  rfl

theorem core_onEnd (h : c.session? n = some s)
    : (c.onEnd n).core
        =
      { c.core.modifySession n Session.over with
        ledger := c.ledger.disposeAll (fun _ => .fail .notConnected) s.table.records
        transport := c.transport.endGeneration s.generation } := by
  unfold onEnd
  rw [h]
  dsimp
  rw [core_setTransport]
  rw [closeTable_eq]
  have hsession : (c.modifySession n (fun s => { s with listening := false })).session? n
      = some { s with listening := false } :=
    session?_modifySession_self _ h
  rw [table_of_session? hsession]
  unfold setTable modifySession core
  dsimp
  rw [List.modify_modify_eq]
  rfl

/-- What a response does to a client: it completes the call with its id, if one waits. -/
def complete (n : Nat) (a : Response) (c : Client) : Client :=
  match (c.table n).resolve a.id with
  | none => c.warn (.unknownCall n a.id)
  | some (r, t) => (c.setTable n t).dispose a.disposal r

section Frames

variable {f : String} {a : Response}

theorem takeAnswered_of_error {e : FrameError} (h : c.frameDecoder.decodeResponse f = .error e)
    : c.takeAnswered n f = (none, (c.note (.incoming f)).warn (.malformed n e)) := by
  have h : (c.note (.incoming f)).frameDecoder.decodeResponse f = .error e := h
  simp only [takeAnswered, h]

theorem takeAnswered_of_none (h : c.frameDecoder.decodeResponse f = .ok a)
    (hres : (c.table n).resolve a.id = none)
    : c.takeAnswered n f = (none, (c.note (.incoming f)).warn (.unknownCall n a.id)) := by
  have h : (c.note (.incoming f)).frameDecoder.decodeResponse f = .ok a := h
  have hres : ((c.note (.incoming f)).table n).resolve a.id = none := hres
  simp only [takeAnswered, h, hres]

theorem takeAnswered_of_some (h : c.frameDecoder.decodeResponse f = .ok a)
    (hres : (c.table n).resolve a.id = some (r, t))
    : c.takeAnswered n f = (some (a.disposal, r), (c.note (.incoming f)).setTable n t) := by
  have h : (c.note (.incoming f)).frameDecoder.decodeResponse f = .ok a := h
  have hres : ((c.note (.incoming f)).table n).resolve a.id = some (r, t) := hres
  simp only [takeAnswered, h, hres]

theorem onFrame_of_ok (h : c.frameDecoder.decodeResponse f = .ok a)
    : c.onFrame n f = (c.note (.incoming f)).complete n a := by
  unfold onFrame complete
  cases hres : (c.table n).resolve a.id with
  | none =>
    have hnoted : ((c.note (.incoming f)).table n).resolve a.id = none := hres
    rw [takeAnswered_of_none h hres, hnoted]
  | some taken =>
    have hnoted : ((c.note (.incoming f)).table n).resolve a.id = some taken := hres
    rw [takeAnswered_of_some h hres, hnoted]

end Frames

theorem core_onFrame_of_error {f : String} {e : FrameError}
    (h : c.frameDecoder.decodeResponse f = .error e)
    : (c.onFrame n f).core = c.core := by
  unfold onFrame
  rw [takeAnswered_of_error h]
  rfl

theorem core_complete_of_none {a : Response} (h : (c.table n).resolve a.id = none)
    : (c.complete n a).core = c.core := by
  unfold complete
  rw [h]
  rfl

theorem core_complete_of_some {a : Response} (h : (c.table n).resolve a.id = some (r, t))
    : (c.complete n a).core
        =
      { c.core.setTable n t with ledger := r.dispose a.disposal c.ledger } := by
  unfold complete
  rw [h]
  rfl

theorem core_complete_congr (h : c.core = c'.core) (n : Nat) (a : Response)
    : (c.complete n a).core = (c'.complete n a).core := by
  cases hres : (c.table n).resolve a.id with
  | none =>
    rw [core_complete_of_none hres]
    rw [table_of_core_eq h] at hres
    rw [core_complete_of_none hres]
    exact h
  | some taken =>
    obtain ⟨r, t⟩ := taken
    rw [core_complete_of_some hres]
    rw [table_of_core_eq h] at hres
    rw [core_complete_of_some hres]
    rw [h, ledger_of_core_eq h]

theorem core_onFrame_of_ok {f : String} {a : Response}
    (h : c.frameDecoder.decodeResponse f = .ok a)
    : (c.onFrame n f).core = (c.complete n a).core := by
  rw [onFrame_of_ok h]
  exact core_complete_congr (core_note c _) n a

theorem core_onFrame_congr (h : c.core = c'.core) (n : Nat) (f : String)
    : (c.onFrame n f).core = (c'.onFrame n f).core := by
  cases hdec : c.frameDecoder.decodeResponse f with
  | error e =>
    rw [core_onFrame_of_error hdec]
    rw [frameDecoder_of_core_eq h] at hdec
    rw [core_onFrame_of_error hdec]
    exact h
  | ok a =>
    rw [core_onFrame_of_ok hdec]
    rw [frameDecoder_of_core_eq h] at hdec
    rw [core_onFrame_of_ok hdec]
    exact core_complete_congr h n a

theorem core_onEnd_congr (h : c.core = c'.core) (n : Nat)
    : (c.onEnd n).core = (c'.onEnd n).core := by
  cases hs : c.session? n with
  | none =>
    have hs' := hs
    rw [session?_of_core_eq h] at hs'
    unfold onEnd
    rw [hs, hs']
    exact h
  | some s =>
    rw [core_onEnd hs]
    rw [session?_of_core_eq h] at hs
    rw [core_onEnd hs]
    rw [h, ledger_of_core_eq h, transport_of_core_eq h]

theorem isListening_of_core_eq (h : c.core = c'.core) (n : Nat)
    : c.isListening n = c'.isListening n := by
  unfold isListening
  rw [session?_of_core_eq h]

theorem core_onEvent_congr (h : c.core = c'.core) (n : Nat) (e : Event)
    : (c.onEvent n e).core = (c'.onEvent n e).core := by
  unfold onEvent
  rw [isListening_of_core_eq h]
  split
  . cases e with
    | frame f => exact core_onFrame_congr h n f
    | closed code reason =>
      have htold : (c.tell (.closedByPeer n code reason)).core
          = (c'.tell (.closedByPeer n code reason)).core := h
      exact core_onEnd_congr htold n
    | failed =>
      have hwarned : (c.warn (.failed n)).core = (c'.warn (.failed n)).core := h
      exact core_onEnd_congr hwarned n
  . exact h

theorem core_onHangUp_congr (h : c.core = c'.core) (n : Nat)
    : (c.onHangUp n).core = (c'.onHangUp n).core := by
  unfold onHangUp
  rw [isListening_of_core_eq h]
  split
  . exact core_onEnd_congr h n
  . exact h

def newRecord (c : Client) (id method : String) (decoder : ResultDecoder) : CallRecord :=
  { call := c.ledger.handles.length, id, method, issuedAt := c.now, decoder }

theorem registerCall_of_ok {id method : String} {decoder : ResultDecoder}
    (h : (c.table n).register (c.newRecord id method decoder) = .ok t)
    : c.registerCall n id method decoder
        =
      ((c.ledger.handles.length, true),
        { c.setTable n t with ledger := (c.ledger.issue (some id)).2 }) := by
  unfold registerCall
  dsimp
  split
  . next htaken =>
    cases htaken.symm.trans h
    rfl
  . next hrefused => cases hrefused.symm.trans h

theorem registerCall_of_error {id method : String} {decoder : ResultDecoder} {why : Refusal}
    (h : (c.table n).register (c.newRecord id method decoder) = .error why)
    : c.registerCall n id method decoder
        =
      ((c.ledger.handles.length, false),
        { c with
          ledger := (c.newRecord id method decoder).dispose
            (.fail (why.error (c.newRecord id method decoder)))
            (c.ledger.issue (some id)).2 }) := by
  unfold registerCall
  dsimp
  split
  . next htaken => cases htaken.symm.trans h
  . next hrefused =>
    cases hrefused.symm.trans h
    rfl

theorem newRecord_of_core_eq (h : c.core = c'.core) (id method : String) (decoder : ResultDecoder)
    : c.newRecord id method decoder = c'.newRecord id method decoder := by
  change c.core.newRecord id method decoder = c'.core.newRecord id method decoder
  rw [h]

theorem core_registerCall_congr (h : c.core = c'.core) (n : Nat) (id method : String)
    (decoder : ResultDecoder)
    : (c.registerCall n id method decoder).2.core
        =
      (c'.registerCall n id method decoder).2.core := by
  cases hreg : (c.table n).register (c.newRecord id method decoder) with
  | ok t =>
    rw [registerCall_of_ok hreg]
    rw [table_of_core_eq h, newRecord_of_core_eq h] at hreg
    rw [registerCall_of_ok hreg]
    exact congrArg (fun c : Client =>
      { c.setTable n t with ledger := (c.ledger.issue (some id)).2 }) h
  | error why =>
    rw [registerCall_of_error hreg]
    rw [table_of_core_eq h, newRecord_of_core_eq h] at hreg
    rw [registerCall_of_error hreg]
    rw [newRecord_of_core_eq h]
    generalize c'.newRecord id method decoder = r
    exact congrArg (fun c : Client =>
      { c with ledger := r.dispose (.fail (why.error r)) (c.ledger.issue (some id)).2 }) h

end Client
end CallWire
