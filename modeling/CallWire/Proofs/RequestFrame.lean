import CallWire.Envelope.Codec
import CallWire.Proofs.JsonText

/-!
This module contains that a request is read from the frame it is written to, whatever stands in its
id, its method and its parameters.
-/

namespace CallWire

namespace Request

variable {d : FrameDecoder} {r : Request}

def json (r : Request) : Json :=
  .object [("id", .string r.id), ("method", .string r.method), ("params", .array r.params)]

theorem encode_eq (r : Request) : r.encode = r.json.render := by
  have hid : "\x7b\"id\":".toList = '\x7b' :: (Json.writeString "id" ++ [':']) := by decide
  have hmethod : ",\"method\":".toList = ',' :: (Json.writeString "method" ++ [':']) := by decide
  have hparams : ",\"params\":".toList = ',' :: (Json.writeString "params" ++ [':']) := by decide
  unfold encode Json.render
  rw [hid, hmethod, hparams]
  simp only [json, Json.write, Json.writeMembers, List.append_assoc, List.cons_append,
    List.nil_append]

/-- A request that fits a frame: its parameters are such that a frame can carry them. -/
structure Fits (d : FrameDecoder) (r : Request) : Prop where
  integral : ∀ v ∈ r.params, v.isIntegral = true
  sorted : ∀ v ∈ r.params, v.isSorted = true
  depth : r.json.depth ≤ Json.maxDepth
  size : r.encode.utf8ByteSize ≤ d.maxFrameSize

theorem Fits.parse_encode (h : r.Fits d) : Json.parse r.encode = .ok r.json := by
  rw [encode_eq]
  apply Json.parse_render h.depth
  . apply Json.all_object_iff.mpr
    refine ⟨rfl, ?_⟩
    intro m hm
    simp only [List.mem_cons, List.not_mem_nil, or_false] at hm
    rcases hm with rfl | rfl | rfl
    . rfl
    . rfl
    . exact Json.all_array_iff.mpr ⟨rfl, h.integral⟩
  . have hkeys : decide (["id", "method", "params"].Pairwise (· < ·)) = true := by decide
    apply Json.all_object_iff.mpr
    refine ⟨hkeys, ?_⟩
    intro m hm
    simp only [List.mem_cons, List.not_mem_nil, or_false] at hm
    rcases hm with rfl | rfl | rfl
    . rfl
    . rfl
    . exact Json.all_array_iff.mpr ⟨rfl, h.sorted⟩

end Request

namespace FrameDecoder

variable {d : FrameDecoder} {r : Request}

theorem readParams_array (params : List Json) : readParams (some (.array params)) = .ok params := by
  unfold readParams Json.readList
  induction params with
  | nil => rfl
  | cons v params ih =>
    dsimp only at ih ⊢
    rw [List.mapM_cons, ih]
    rfl

theorem readRequest_json (r : Request)
    : readRequest [("id", .string r.id), ("method", .string r.method), ("params", .array r.params)]
        =
      .ok r := by
  have hparams : Json.member? "params"
      [("id", .string r.id), ("method", .string r.method), ("params", .array r.params)]
      = some (.array r.params) := rfl
  unfold readRequest
  rw [hparams, readParams_array]
  rfl

theorem decodeRequest_encode (h : r.Fits d) : d.decodeRequest r.encode = .ok r := by
  have hmembers : d.members r.encode
      = .ok [("id", .string r.id), ("method", .string r.method), ("params", .array r.params)] := by
    unfold members
    rw [if_neg (Nat.not_lt.mpr h.size), h.parse_encode]
    rfl
  unfold decodeRequest
  rw [hmembers]
  change (readRequest _).mapError FrameError.misshapen = _
  rw [readRequest_json]
  rfl

/--
A request is read from its frame as it was, and no two requests have the same frame: what stands in
an id, a method or a parameter cannot pass for another id, method or parameter.
-/
theorem request_round_trip (d : FrameDecoder)
    : (∀ r : Request, r.Fits d → d.decodeRequest r.encode = .ok r)
        ∧
      ∀ r s : Request, r.Fits d → s.Fits d → r.encode = s.encode → r = s := by
  constructor
  . exact fun r hr => decodeRequest_encode hr
  . intro r s hr hs heq
    have hread : d.decodeRequest r.encode = .ok s := by
      rw [heq]
      exact decodeRequest_encode hs
    rw [decodeRequest_encode hr] at hread
    exact Except.ok.inj hread

/-- A method that is written like the end of another request does not pass for that request. -/
theorem request_round_trip_forged
    : let d : FrameDecoder := {}
      let r : Request :=
        { id := "7", method := "a\",\"params\":[0],\"id\":\"8"
          params := [.object [("\\\"", .array [.number (.int (-3)), .null])], .string "\n\x01é"] }
      let s : Request := { id := "8", method := "a", params := [.ofNat 0] }
      d.decodeRequest r.encode = .ok r ∧ r.encode ≠ s.encode := by
  intro d r s
  have hr : r.Fits d := ⟨by decide, by decide, by decide, by decide⟩
  have hs : s.Fits d := ⟨by decide, by decide, by decide, by decide⟩
  obtain ⟨hread, hforge⟩ := request_round_trip d
  refine ⟨hread r hr, ?_⟩
  intro heq
  have hid : "7" = "8" := congrArg Request.id (hforge r s hr hs heq)
  simp at hid

end FrameDecoder
end CallWire
