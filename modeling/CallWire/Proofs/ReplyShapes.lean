import CallWire.Proofs.Client
import CallWire.Proofs.ResponseGrammar

/-!
This module contains what becomes of a call when a frame with its id arrives, by the shape of the
frame's other members. Where the error of a frame is read as a fault, or is absent, the call is
completed whatever the result is. Where it is not, the whole frame is dropped and the call waits on.
-/

namespace CallWire

open Json Response

variable {ms : List (String × Tree)} {members : List (String × Json)}

theorem Response.exists_isResult (h : (Tree.object ms).value? = some (.object members))
    : ∃ result, IsResult (last? "result" ms) result :=
  ⟨_, (FrameDecoder.presentResult_eq_iff_isResult (Tree.last?_map_value? h "result")).mp rfl⟩

namespace Client

variable {c : Client} {n : Nat} {frame : String} {r : CallRecord}

/-- A frame within the limit that is an object, and whose id is that of a call that waits. -/
structure Reaches (c : Client) (n : Nat) (frame : String) (ms : List (String × Tree))
    (r : CallRecord) : Prop where
  size : frame.utf8ByteSize ≤ c.frameDecoder.maxFrameSize
  text : (Tree.object ms).IsText frame
  readable : (Tree.object ms).Readable
  named : ∃ t ∈ last? "id" ms, Names t r.id
  waits : (c.table n).get? r.id = some r
  issued : r.call < c.ledger.handles.length

theorem Reaches.last?_ne_none (h : c.Reaches n frame ms r) : last? "id" ms ≠ none := by
  obtain ⟨t, ht, -⟩ := h.named
  rw [Option.mem_def.mp ht]
  exact Option.some_ne_none t

theorem Reaches.judged (h : c.Reaches n frame ms r)
    : ∃ members, (Tree.object ms).value? = some (.object members)
        ∧ FrameDecoder.Judges (.object ms) (c.frameDecoder.decodeResponse frame) := by
  obtain ⟨v, hv, hparse⟩ := FrameDecoder.parse_of_readable h.text h.readable
  obtain ⟨members, -, rfl⟩ := Option.map_eq_some_iff.mp ((Tree.value?_object ms).symm.trans hv)
  exact ⟨_, hv, FrameDecoder.judges_of_parse h.size hv hparse⟩

def completed (c : Client) (n : Nat) (r : CallRecord) (outcome : Outcome) : Client :=
  { c.setTable n { c.table n with records := (c.table n).records.filter (·.id ≠ r.id) } with
    ledger := c.ledger.settle r.call outcome }

/-- Whether a frame completed a call of a session with an outcome and did nothing else. -/
structure Completes (c c' : Client) (n : Nat) (r : CallRecord) (outcome : Outcome) : Prop where
  core : c'.core = c.core.completed n r outcome
  outcome : c'.ledger.outcome? r.call = some outcome

theorem completes_of_describes (h : c.Reaches n frame ms r) {x : Response} (hid : x.id = r.id)
    (hdecode : c.frameDecoder.decodeResponse frame = .ok x)
    : c.Completes (c.onFrame n frame) n r (x.outcome r.method r.decoder) := by
  have hresolve := PendingTable.resolve_eq_some_iff.mpr ⟨hid ▸ h.waits, rfl⟩
  have hcore : (c.onFrame n frame).core
      = c.core.completed n r (x.outcome r.method r.decoder) := by
    rw [core_onFrame_of_ok hdecode, core_complete_of_some hresolve]
    unfold CallRecord.dispose completed
    rw [CallRecord.outcome_disposal, hid]
    rfl
  refine ⟨hcore, ?_⟩
  rw [← ledger_core, hcore]
  exact Ledger.outcome?_settle_self _ _ _ h.issued

/--
A frame that names a waiting call completes this call and nothing else if its error is absent, null
or a fault, whatever its result is. With any other error it is dropped, and the call waits on.
-/
theorem reply_completes_by_shape (c : Client) (n : Nat) (frame : String)
    (ms : List (String × Tree)) (r : CallRecord) (h : c.Reaches n frame ms r)
    : (∀ fault, IsFault (last? "error" ms) fault →
          ∃ result, IsResult (last? "result" ms) result
            ∧ c.Completes (c.onFrame n frame) n r
                (Response.outcome { id := r.id, result, fault } r.method r.decoder))
        ∧
      ((∀ fault, ¬IsFault (last? "error" ms) fault) → (c.onFrame n frame).core = c.core) := by
  obtain ⟨members, hvalue, hjudged⟩ := h.judged
  have hid := h.last?_ne_none
  constructor
  . intro fault hfault
    obtain ⟨result, hresult⟩ := Response.exists_isResult hvalue
    have hdescribes : Describes ms { id := r.id, result, fault } := ⟨h.named, hfault, hresult⟩
    have hdecode := (hjudged.described ms rfl hid _).mpr hdescribes
    exact ⟨result, hresult, completes_of_describes h rfl hdecode⟩
  . intro hnone
    obtain ⟨fault, hdecode⟩ := hjudged.misshapen ms rfl hid fun x hx => hnone x.fault hx.fault
    exact core_onFrame_of_error hdecode

def waitingCall : CallRecord :=
  { call := 0, id := "1", method := "query", issuedAt := .zero, decoder := Decoding.raw.decoder }

def waitingClient : Client :=
  { settings := {}, sessions := [{ generation := 1, table := { records := [waitingCall] } }]
    slot := some 0, ledger := ⟨[{ id := some "1" }]⟩ }

/-- A call fails whose reply has an empty list as its error. -/
theorem reply_completes_by_shape_list
    : (waitingClient.onFrame 0 "\x7b\"id\":\"1\",\"error\":[]\x7d").ledger.outcome? 0
        =
      some (.error (.ofServer 0 "")) := by
  let ms : List (String × Tree) := [("id", .string "1"), ("error", .array [])]
  have htext : (Tree.object ms).IsText "\x7b\"id\":\"1\",\"error\":[]\x7d" := by
    refine ⟨_, [], .done _, ?_, .done []⟩
    have hid := spells_of_plain ['i', 'd'] (by simp)
    have herror := spells_of_plain ['e', 'r', 'r', 'o', 'r'] (by simp)
    have hone := spells_of_plain ['1'] (by simp)
    exact .members (.done _) (.mk (hid _) (.done _) (.done _) (.string (hone _)))
      (.comma (.done _) (.done _) (.mk (herror _) (.done _) (.done _) (.noItems (.done _)))
        (.close (.done _)))
  have hreaches : waitingClient.Reaches 0 "\x7b\"id\":\"1\",\"error\":[]\x7d" ms waitingCall :=
    { size := by decide
      text := htext
      readable := ⟨by decide, nofun⟩
      named := ⟨.string "1", rfl, .string "1"⟩
      waits := rfl
      issued := by decide }
  have hshape := reply_completes_by_shape waitingClient 0 _ ms waitingCall hreaches
  obtain ⟨result, -, hcompletes⟩ :=
    hshape.1 (some ⟨0, ""⟩) (.array (Nat.zero_le 2) .absent .absent)
  exact hcompletes.outcome

/-- An error that is a text is no fault. The frame is dropped, and the call that it names waits. -/
theorem reply_dropped_text
    : let frame := "\x7b\"id\":\"1\",\"error\":\"boom\"\x7d"
      let members := [("error", .string "boom"), ("id", .string "1")]
      frame.utf8ByteSize ≤ waitingClient.frameDecoder.maxFrameSize
        ∧ Json.parse frame = .ok (.object members)
        ∧ Json.member? "id" members = some (.string waitingCall.id)
        ∧ (waitingClient.table 0).get? "1" = some waitingCall
        ∧ (waitingClient.onFrame 0 frame).ledger.outcome? waitingCall.call = none
        ∧ ((waitingClient.onFrame 0 frame).table 0).get? "1" = some waitingCall := by
  have hdec : waitingClient.frameDecoder.decodeResponse "\x7b\"id\":\"1\",\"error\":\"boom\"\x7d"
      = .error (.misshapen (.invalidType (.string "boom") "struct ResponseError")) := by
    decide +kernel
  have hsame := core_onFrame_of_error (n := 0) hdec
  refine ⟨by decide, by decide +kernel, rfl, rfl, ?_, ?_⟩
  . rw [ledger_of_core_eq hsame]
    rfl
  . rw [table_of_core_eq hsame]
    rfl

end Client
end CallWire
