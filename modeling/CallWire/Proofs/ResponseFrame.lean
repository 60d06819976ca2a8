import CallWire.Envelope.Codec
import CallWire.Proofs.JsonText
import CallWire.Proofs.Results

/-!
This module contains that a response is read from the frame it is written to, up to a null result,
which is read as an absent one.
-/

namespace CallWire

namespace Json

theorem member?_foldl (key : String) (members sorted : List (String × Json))
    (h : (members.map Prod.fst).Nodup)
    : member? key (members.foldl (fun sorted (k, v) => insertMember k v sorted) sorted)
        =
      (member? key members).or (member? key sorted) := by
  induction members generalizing sorted with
  | nil => rfl
  | cons m members ih =>
    obtain ⟨k, v⟩ := m
    obtain ⟨hfront, hmore⟩ := List.nodup_cons.mp h
    rw [List.foldl_cons]
    dsimp only
    rw [ih _ hmore, member?_insertMember, member?_cons]
    split
    . next heq =>
      subst heq
      have hnone : member? key members = none := by
        unfold member?
        rw [List.lookup_eq_none_iff]
        intro m hm
        have hmem : m.1 ∈ members.map Prod.fst := List.mem_map_of_mem hm
        rw [bne_iff_ne]
        intro heq
        exact hfront (heq ▸ hmem)
      rw [hnone]
      rfl
    . rfl

theorem mem_of_member? {key : String} {v : Json} {members : List (String × Json)}
    (h : member? key members = some v)
    : (key, v) ∈ members := by
  induction members with
  | nil => simp [member?_nil] at h
  | cons m members ih =>
    rw [member?_cons] at h
    split at h
    . next heq =>
      cases h
      rw [heq]
      exact List.mem_cons_self
    . exact List.mem_cons_of_mem _ (ih h)

end Json

namespace ServerFault

def json (f : ServerFault) : Json :=
  .object [("code", .number (.int f.code)), ("message", .string f.message)]

theorem write_json (f : ServerFault) : f.json.write = f.write := by
  have hcode : "\x7b\"code\":".toList = '\x7b' :: (Json.writeString "code" ++ [':']) := by decide
  have hmessage : ",\"message\":".toList = ',' :: (Json.writeString "message" ++ [':']) := by
    decide
  unfold json write Json.write Json.writeMembers Json.writeMembers Json.write Json.writeNumber
  rw [hcode, hmessage]
  simp only [List.append_assoc, List.cons_append, List.nil_append]

theorem isIntegral_json {f : ServerFault} (h : -2 ^ 63 ≤ f.code ∧ f.code < 2 ^ 63)
    : f.json.isIntegral = true := by
  apply Json.all_object_iff.mpr
  refine ⟨rfl, ?_⟩
  intro m hm
  simp only [List.mem_cons, List.not_mem_nil, or_false] at hm
  rcases hm with rfl | rfl
  . apply decide_eq_true
    constructor <;> omega
  . rfl

theorem isSorted_json (f : ServerFault) : f.json.isSorted = true := by
  apply Json.all_object_iff.mpr
  refine ⟨decide_eq_true ?_, ?_⟩
  . simp only [List.map, List.pairwise_pair]
    decide
  . intro m hm
    simp only [List.mem_cons, List.not_mem_nil, or_false] at hm
    rcases hm with rfl | rfl <;> rfl

end ServerFault

namespace Response

variable {r : Response}

def resultMember : Option Json → List (String × Json)
  | none => []
  | some v => [("result", v)]

def faultMember : Option ServerFault → List (String × Json)
  | none => []
  | some f => [("error", f.json)]

def members (r : Response) : List (String × Json) :=
  ("id", .string r.id) :: (resultMember r.result ++ faultMember r.fault)

def json (r : Response) : Json := .object r.members

theorem writeResult_eq (result : Option Json)
    : writeResult result = (resultMember result).flatMap (fun m => ',' :: Json.writeMember m) := by
  have hkey : ",\"result\":".toList = ',' :: (Json.writeString "result" ++ [':']) := by decide
  cases result with
  | none => rfl
  | some v =>
    unfold writeResult resultMember Json.writeMember
    rw [hkey, List.flatMap_singleton]
    simp only [List.append_assoc, List.cons_append, List.nil_append]

theorem writeFault_eq (fault : Option ServerFault)
    : writeFault fault = (faultMember fault).flatMap (fun m => ',' :: Json.writeMember m) := by
  have hkey : ",\"error\":".toList = ',' :: (Json.writeString "error" ++ [':']) := by decide
  cases fault with
  | none => rfl
  | some f =>
    unfold writeFault faultMember Json.writeMember
    rw [hkey, List.flatMap_singleton]
    dsimp only
    rw [ServerFault.write_json]
    simp only [List.append_assoc, List.cons_append, List.nil_append]

theorem toList_encode (r : Response) : r.encode.toList = r.json.write := by
  have hkey : "\x7b\"id\":".toList = '\x7b' :: (Json.writeString "id" ++ [':']) := by decide
  unfold encode
  rw [String.toList_ofList, hkey, writeResult_eq, writeFault_eq]
  unfold json members Json.write
  rw [Json.writeMembers_cons, List.flatMap_append]
  unfold Json.writeMember Json.write
  simp only [List.append_assoc, List.cons_append, List.nil_append]

theorem mem_members_iff {m : String × Json}
    : m ∈ r.members
        ↔
      m = ("id", .string r.id) ∨ (∃ v ∈ r.result, m = ("result", v))
        ∨ ∃ f ∈ r.fault, m = ("error", f.json) := by
  obtain ⟨id, result, fault⟩ := r
  cases result <;> cases fault <;> simp [members, resultMember, faultMember]

theorem nodup_members (r : Response) : (r.members.map Prod.fst).Nodup := by
  obtain ⟨id, result, fault⟩ := r
  cases result <;> cases fault <;> simp [members, resultMember, faultMember]

theorem member?_members (r : Response)
    : Json.member? "id" r.members = some (.string r.id)
        ∧
      Json.member? "result" r.members = r.result
        ∧
      Json.member? "error" r.members = r.fault.map ServerFault.json := by
  obtain ⟨id, result, fault⟩ := r
  cases result <;> cases fault <;> exact ⟨rfl, rfl, rfl⟩

/-- A response that fits a frame: its values are those that a frame can carry. -/
structure Fits (d : FrameDecoder) (r : Response) : Prop where
  integral : ∀ v ∈ r.result, v.isIntegral = true
  sorted : ∀ v ∈ r.result, v.isSorted = true
  code : ∀ f ∈ r.fault, -2 ^ 63 ≤ f.code ∧ f.code < 2 ^ 63
  depth : r.json.depth ≤ Json.maxDepth
  size : r.encode.utf8ByteSize ≤ d.maxFrameSize

def sortedMembers (r : Response) : List (String × Json) :=
  r.members.foldl (fun sorted (k, v) => Json.insertMember k v sorted) []

theorem member?_sortedMembers (key : String) (r : Response)
    : Json.member? key r.sortedMembers = Json.member? key r.members := by
  unfold sortedMembers
  rw [Json.member?_foldl key r.members [] (nodup_members r)]
  exact Option.or_none

theorem parse_encode {d : FrameDecoder} (h : r.Fits d)
    : Json.parse r.encode = .ok (.object r.sortedMembers) := by
  have hread : Json.readValue Json.maxDepth (r.json.write ++ [])
      = .ok (.object r.sortedMembers, []) := by
    apply Json.readValue_object
    intro m hm
    have hdepth := Json.depthMembers_le_iff.mp (Nat.le_of_succ_le_succ h.depth) m hm
    apply Json.readValue_write hdepth
    . rcases mem_members_iff.mp hm with rfl | ⟨v, hv, rfl⟩ | ⟨f, hf, rfl⟩
      . rfl
      . exact h.integral v hv
      . exact ServerFault.isIntegral_json (h.code f hf)
    . rcases mem_members_iff.mp hm with rfl | ⟨v, hv, rfl⟩ | ⟨f, hf, rfl⟩
      . rfl
      . exact h.sorted v hv
      . exact ServerFault.isSorted_json f
  rw [List.append_nil] at hread
  unfold Json.parse Json.readText
  rw [toList_encode, hread]
  rfl

end Response

namespace FrameDecoder

variable {d : FrameDecoder} {r : Response} {frame : String} {members : List (String × Json)}

theorem readFault_json (f : ServerFault) (hcode : -2 ^ 63 ≤ f.code ∧ f.code < 2 ^ 63)
    : Json.readOption readFault f.json = .ok (some f) := by
  have hread : readCode (some (.number (.int f.code))) = .ok f.code := if_pos hcode
  unfold ServerFault.json Json.readOption readFault
  dsimp only
  rw [Json.member?_cons, if_pos rfl, hread]
  rfl

theorem code_of_readCode {v : Option Json} {code : Int} (h : readCode v = .ok code)
    : -2 ^ 63 ≤ code ∧ code < 2 ^ 63 := by
  unfold readCode at h
  split at h
  . cases h
    decide
  . unfold Json.readInt at h
    split at h
    . split at h
      . next hrange =>
        cases h
        exact hrange
      . simp at h
    . simp at h

theorem code_of_readFault {v : Json} {f : ServerFault} (h : readFault v = .ok f)
    : -2 ^ 63 ≤ f.code ∧ f.code < 2 ^ 63 := by
  unfold readFault at h
  split at h
  . obtain ⟨code, hcode, h⟩ := ok_of_bind h
    obtain ⟨message, hmessage, h⟩ := ok_of_bind h
    cases h
    exact code_of_readCode hcode
  . obtain ⟨code, hcode, h⟩ := ok_of_bind h
    obtain ⟨message, hmessage, h⟩ := ok_of_bind h
    split at h
    . cases h
      exact code_of_readCode hcode
    . cases h
  . cases h

theorem code_of_readOption {v : Json} {fault : Option ServerFault}
    (h : Json.readOption readFault v = .ok fault)
    : ∀ f ∈ fault, -2 ^ 63 ≤ f.code ∧ f.code < 2 ^ 63 := by
  intro f hf
  cases hf
  unfold Json.readOption at h
  split at h
  . simp at h
  . next v =>
    unfold Except.map at h
    split at h
    . simp at h
    . next hread =>
      cases h
      exact code_of_readFault hread

theorem decodeResponse_encode (h : r.Fits d)
    : d.decodeResponse r.encode = .ok { r with result := presentResult r.result } := by
  obtain ⟨hid, hresult, herror⟩ := Response.member?_members r
  have hmembers : d.members r.encode = .ok r.sortedMembers := by
    unfold members
    rw [if_neg (Nat.not_lt.mpr h.size), Response.parse_encode h]
    dsimp only
    rw [Response.member?_sortedMembers, hid]
  have hfault : Json.readOption readFault ((r.fault.map ServerFault.json).getD .null)
      = .ok r.fault := by
    cases hr : r.fault with
    | none => rfl
    | some f => exact readFault_json f (h.code f hr)
  have hread : readResponse r.sortedMembers
      = .ok { r with result := presentResult r.result } := by
    unfold readResponse
    simp only [Response.member?_sortedMembers, hid, hresult, herror, hfault]
    rfl
  unfold decodeResponse
  rw [hmembers]
  dsimp only
  rw [hread]
  rfl

theorem readValue_of_members (h : d.members frame = .ok members)
    : ∃ rest, Json.readValue Json.maxDepth frame.toList = .ok (.object members, rest) := by
  unfold FrameDecoder.members at h
  split at h
  . simp at h
  . split at h
    . simp at h
    . next hparse =>
      split at h
      . simp at h
      . cases h
        unfold Json.parse Json.readText at hparse
        split at hparse
        . simp at hparse
        . next htext =>
          cases hparse
          split at htext
          . simp at htext
          . next rest hread =>
            split at htext
            . cases htext
              exact ⟨rest, hread⟩
            . simp [Stop.past] at htext
    . simp at h

theorem presentResult_ne_null (result : Option Json) : presentResult result ≠ some .null := by
  unfold presentResult
  split
  . simp
  . next hne => exact fun h => hne h

theorem of_presentResult {result : Option Json} {v : Json} (h : presentResult result = some v)
    : result = some v := by
  unfold presentResult at h
  split at h
  . cases h
  . exact h

theorem presentResult_eq_iff {result : Option Json}
    : presentResult result = result ↔ result ≠ some .null := by
  constructor
  . intro h
    rw [← h]
    exact presentResult_ne_null result
  . intro h
    unfold presentResult
    split
    . exact absurd rfl h
    . rfl

theorem of_readResponse (h : readResponse members = .ok r)
    : r.result = presentResult (Json.member? "result" members)
        ∧
      ∀ f ∈ r.fault, -2 ^ 63 ≤ f.code ∧ f.code < 2 ^ 63 := by
  obtain ⟨fault, hfault, h⟩ := ok_of_bind h
  obtain ⟨id, hid, h⟩ := ok_of_bind h
  cases h
  exact ⟨rfl, code_of_readOption hfault⟩

theorem fits_of_decodeResponse (h : d.decodeResponse frame = .ok r)
    (hintegral : ∀ v ∈ r.result, v.isIntegral = true)
    (hsize : r.encode.utf8ByteSize ≤ d.maxFrameSize)
    : r.Fits d ∧ r.result ≠ some .null := by
  unfold decodeResponse at h
  split at h
  . cases h
  . next members hmembers =>
    have hresponse : readResponse members = .ok r := by
      cases hr : readResponse members with
      | error fault =>
        rw [hr] at h
        cases h
      | ok read =>
        rw [hr] at h
        cases h
        rfl
    obtain ⟨hresult, hcode⟩ := of_readResponse hresponse
    obtain ⟨rest, hread⟩ := readValue_of_members hmembers
    obtain ⟨hdepth, hsorted⟩ := Json.readValue_fits hread
    have hdepths := Json.depthMembers_le_iff.mp (Nat.le_of_succ_le_succ hdepth)
    have hmember : ∀ v ∈ r.result, ("result", v) ∈ members := by
      intro v hv
      apply Json.mem_of_member?
      rw [hresult] at hv
      exact of_presentResult hv
    refine ⟨⟨hintegral, ?_, hcode, ?_, hsize⟩, hresult ▸ presentResult_ne_null _⟩
    . intro v hv
      exact (Json.all_object_iff.mp hsorted).2 _ (hmember v hv)
    . apply Nat.succ_le_succ
      apply Json.depthMembers_le_iff.mpr
      intro m hm
      rcases Response.mem_members_iff.mp hm with rfl | ⟨v, hv, rfl⟩ | ⟨f, hf, rfl⟩
      . exact Nat.zero_le _
      . exact hdepths _ (hmember v hv)
      . exact Nat.succ_le_succ (Nat.zero_le _)

theorem payload_presentResult (r : Response)
    : Response.payload { r with result := presentResult r.result } = r.payload := by
  obtain ⟨id, result, fault⟩ := r
  unfold Response.payload presentResult
  cases fault with
  | some f => rfl
  | none =>
    dsimp only
    split <;> rfl

/--
A response is read from its frame with the same id and the same payload, and as the same response
unless its result is null. A response that was read from a frame is the same after it is written
and read again.
-/
theorem response_round_trip (d : FrameDecoder)
    : (∀ r : Response, r.Fits d →
          ∃ read, d.decodeResponse r.encode = .ok read
            ∧ read.id = r.id ∧ read.payload = r.payload ∧ (read = r ↔ r.result ≠ some .null))
        ∧
      ∀ (frame : String) (r : Response), d.decodeResponse frame = .ok r →
          (∀ v ∈ r.result, v.isIntegral = true) → r.encode.utf8ByteSize ≤ d.maxFrameSize →
            d.decodeResponse r.encode = .ok r := by
  constructor
  . intro r hr
    refine ⟨_, decodeResponse_encode hr, rfl, payload_presentResult r, ?_⟩
    rw [← presentResult_eq_iff]
    constructor
    . exact fun h => congrArg Response.result h
    . intro h
      rw [h]
  . intro frame r hread hintegral hsize
    obtain ⟨hfits, hnull⟩ := fits_of_decodeResponse hread hintegral hsize
    rw [decodeResponse_encode hfits, presentResult_eq_iff.mpr hnull]

/-- A null result is read as an absent one, and a numeric id as its digits. -/
theorem response_round_trip_null
    : let d : FrameDecoder := {}
      let r : Response := { id := "7", result := some .null, fault := some ⟨-3, "a\nb"⟩ }
      let frame := "\x7b\"result\":[12,true],\"id\":7\x7d"
      let read : Response := { id := "7", result := some (.array [.ofNat 12, .bool true]) }
      (∃ read, d.decodeResponse r.encode = .ok read ∧ read.payload = r.payload ∧ read ≠ r)
        ∧ d.decodeResponse frame = .ok read
        ∧ d.decodeResponse read.encode = .ok read := by
  intro d r frame read
  have hfits : r.Fits d := by
    refine ⟨?_, ?_, ?_, by decide, by decide⟩
    . rintro v ⟨⟩
      rfl
    . rintro v ⟨⟩
      rfl
    . rintro f ⟨⟩
      decide
  have hframe : decodeResponse {} "\x7b\"result\":[12,true],\"id\":7\x7d"
      = .ok { id := "7", result := some (.array [.ofNat 12, .bool true]) } := by
    decide +kernel
  obtain ⟨hwrite, hread⟩ := response_round_trip d
  refine ⟨?_, hframe, hread frame read hframe ?_ (by decide)⟩
  . obtain ⟨read, hdecode, -, hpayload, hsame⟩ := hwrite r hfits
    exact ⟨read, hdecode, hpayload, fun heq => hsame.mp heq rfl⟩
  . rintro v ⟨⟩
    rfl

end FrameDecoder
end CallWire
