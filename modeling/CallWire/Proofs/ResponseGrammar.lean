import CallWire.Proofs.JsonReading
import CallWire.Proofs.NumberRange
import CallWire.Proofs.ResponseFrame

/-!
This module contains which frames are read as responses, and as which: the grammar of responses is
a condition on the tree that a frame writes.
-/

namespace CallWire

namespace Json

variable {key : String} {ms : List (String × Tree)} {members : List (String × Json)}

def last? {α : Type} (key : String) (members : List (String × α)) : Option α :=
  members.reverse.lookup key

theorem last?_cons {α : Type} (key : String) (m : String × α) (members : List (String × α))
    : last? key (m :: members) = (last? key members).or ([m].lookup key) := by
  unfold last?
  rw [List.reverse_cons, List.lookup_append]

theorem member?_foldl_eq (key : String) (members sorted : List (String × Json))
    : member? key (members.foldl (fun sorted (k, v) => insertMember k v sorted) sorted)
        =
      (last? key members).or (member? key sorted) := by
  induction members generalizing sorted with
  | nil => rfl
  | cons m members ih =>
    rw [List.foldl_cons, ih, member?_insertMember, last?_cons]
    have hm : [m].lookup key = if key = m.1 then some m.2 else none := member?_cons key m []
    rw [hm]
    cases last? key members with
    | some v => rfl
    | none => split <;> rfl

namespace Tree

structure Readable (t : Tree) : Prop where
  depth : t.depth ≤ 127
  range : ∀ l ∈ t.literals, l.number? ≠ none

/-- A tree that is nested too deep, or has a number that is above the finite ones. -/
def Excessive (t : Tree) : Prop :=
  127 < t.depth ∨ ∃ l ∈ t.literals, l.text.length < 2 ^ 30 ∧ l.Beyond

/-- A tree that is not nested too deep, and whose numbers are among the finite ones. -/
def Moderate (t : Tree) : Prop :=
  t.depth ≤ 127 ∧ ∀ l ∈ t.literals, l.text.length < 2 ^ 30 ∧ l.Within

theorem Moderate.readable {t : Tree} (h : t.Moderate) : t.Readable := by
  constructor
  . exact h.1
  . intro l hl
    obtain ⟨hlength, hwithin⟩ := h.2 l hl
    exact Numeral.Literal.number?_ne_none hlength hwithin

theorem Excessive.not_readable {t : Tree} (h : t.Excessive) : ¬t.Readable := by
  intro hread
  rcases h with hdepth | ⟨l, hl, hlength, hbeyond⟩
  . exact absurd hread.depth (Nat.not_le.mpr hdepth)
  . exact hread.range l hl (Numeral.Literal.number?_eq_none hlength hbeyond)

mutual

theorem value?_ne_none_iff : (t : Tree) → (t.value? ≠ none ↔ ∀ l ∈ t.literals, l.number? ≠ none)
  | .null => by simp [value?, literals]
  | .bool b => by simp [value?, literals]
  | .number l => by simp [value?, literals]
  | .string s => by simp [value?, literals]
  | .array ts => by simp [value?, literals, valueItems?_ne_none_iff ts]
  | .object ms => by
    rw [value?, literals, ← valueMembers?_ne_none_iff ms, Ne, Option.map_eq_none_iff]

theorem valueItems?_ne_none_iff
    : (ts : List Tree) → (valueItems? ts ≠ none ↔ ∀ l ∈ literalsItems ts, l.number? ≠ none)
  | [] => by simp [valueItems?, literalsItems]
  | t :: ts => by
    rw [valueItems?, literalsItems, List.forall_mem_append, ← value?_ne_none_iff t,
      ← valueItems?_ne_none_iff ts]
    cases t.value? <;> simp

theorem valueMembers?_ne_none_iff
    : (ms : List (String × Tree)) →
        (valueMembers? ms ≠ none ↔ ∀ l ∈ literalsMembers ms, l.number? ≠ none)
  | [] => by simp [valueMembers?, literalsMembers]
  | (key, t) :: ms => by
    rw [valueMembers?, literalsMembers, List.forall_mem_append, ← value?_ne_none_iff t,
      ← valueMembers?_ne_none_iff ms]
    cases t.value? <;> simp

end

theorem readAs?_ne_none_iff {t : Tree} : t.readAs? maxDepth ≠ none ↔ t.Readable := by
  unfold readAs?
  constructor
  . intro h
    split at h
    . next hdepth => exact ⟨hdepth, (value?_ne_none_iff t).mp h⟩
    . exact absurd rfl h
  . intro h
    have hdepth : t.depth ≤ maxDepth := h.depth
    rw [if_pos hdepth]
    exact (value?_ne_none_iff t).mpr h.range

theorem value?_array (ts : List Tree) : (Tree.array ts).value? = (valueItems? ts).map .array := by
  rw [value?]

theorem value?_object (ms : List (String × Tree))
    : (Tree.object ms).value? = (valueMembers? ms).map ofMembers := by
  rw [value?]

theorem value?_eq_null_iff {t : Tree} : t.value? = some .null ↔ t = .null := by
  cases t <;> simp [value?, ofMembers]

theorem value?_eq_string_iff {t : Tree} {s : String}
    : t.value? = some (.string s) ↔ t = .string s := by
  cases t <;> simp [value?, ofMembers]

theorem value?_eq_int_iff {t : Tree} {i : Int}
    : t.value? = some (.number (.int i))
        ↔
      ∃ l, t = .number l ∧ l.integer? = some i ∧ Number.IntRange i := by
  cases t <;> simp [value?, ofMembers, Numeral.Literal.number?_eq_int_iff]

theorem value?_eq_array_iff {t : Tree} {vs : List Json}
    : t.value? = some (.array vs) ↔ ∃ ts, t = .array ts ∧ valueItems? ts = some vs := by
  cases t <;> simp [value?, ofMembers]

theorem value?_eq_object_iff {t : Tree} {sorted : List (String × Json)}
    : t.value? = some (.object sorted)
        ↔
      ∃ ms members, t = .object ms ∧ valueMembers? ms = some members
        ∧ ofMembers members = .object sorted := by
  cases t <;> simp [value?]

theorem last?_valueMembers? (key : String) (h : valueMembers? ms = some members)
    : (last? key ms).map value? = (last? key members).map some := by
  induction ms generalizing members with
  | nil =>
    cases h
    rfl
  | cons m ms ih =>
    obtain ⟨k, t⟩ := m
    obtain ⟨v, hv, h⟩ := Option.bind_eq_some_iff.mp h
    obtain ⟨members, hmembers, rfl⟩ := Option.map_eq_some_iff.mp h
    have hlast := ih hmembers
    rw [last?_cons, last?_cons]
    cases hm : last? key ms with
    | some t =>
      rw [hm] at hlast
      obtain ⟨w, hw, heq⟩ := Option.map_eq_some_iff.mp hlast.symm
      rw [hw]
      exact congrArg some heq.symm
    | none =>
      rw [hm] at hlast
      rw [Option.map_eq_none_iff.mp hlast.symm]
      simp only [Option.none_or, List.lookup_cons, List.lookup_nil]
      cases key == k with
      | true => exact congrArg some hv
      | false => rfl

theorem last?_map_value? (h : (Tree.object ms).value? = some (.object members)) (key : String)
    : (last? key ms).map value? = (member? key members).map some := by
  obtain ⟨written, hwritten, heq⟩ := Option.map_eq_some_iff.mp ((value?_object ms).symm.trans h)
  cases heq
  rw [last?_valueMembers? key hwritten, member?_foldl_eq]
  exact congrArg (Option.map some) (Option.or_none).symm

theorem getElem?_valueItems? {ts : List Tree} {vs : List Json} (h : valueItems? ts = some vs)
    (i : Nat)
    : ts[i]?.map value? = vs[i]?.map some := by
  induction ts generalizing vs i with
  | nil =>
    cases h
    rfl
  | cons t ts ih =>
    obtain ⟨v, hv, h⟩ := Option.bind_eq_some_iff.mp h
    obtain ⟨vs, hvs, rfl⟩ := Option.map_eq_some_iff.mp h
    cases i with
    | zero => exact congrArg some hv
    | succ i => exact ih hvs i

theorem length_valueItems? {ts : List Tree} {vs : List Json} (h : valueItems? ts = some vs)
    : vs.length = ts.length := by
  induction ts generalizing vs with
  | nil =>
    cases h
    rfl
  | cons t ts ih =>
    obtain ⟨v, -, h⟩ := Option.bind_eq_some_iff.mp h
    obtain ⟨vs, hvs, rfl⟩ := Option.map_eq_some_iff.mp h
    exact congrArg Nat.succ (ih hvs)

end Tree

end Json

namespace Response

open Json

inductive Names : Tree → String → Prop where
  | string (s : String) : Names (.string s) s
  | integer {l : Numeral.Literal} {i : Int} :
    l.integer? = some i → -2 ^ 63 ≤ i → i < 2 ^ 64 → Names (.number l) (toString i)

inductive IsCode : Option Tree → Int → Prop where
  | absent : IsCode none 0
  | integer {l : Numeral.Literal} {i : Int} :
    l.integer? = some i → -2 ^ 63 ≤ i → i < 2 ^ 63 → IsCode (some (.number l)) i

inductive IsMessage : Option Tree → String → Prop where
  | absent : IsMessage none ""
  | string (s : String) : IsMessage (some (.string s)) s

inductive IsFault : Option Tree → Option ServerFault → Prop where
  | absent : IsFault none none
  | null : IsFault (some .null) none
  | object {ms : List (String × Tree)} {code : Int} {message : String} :
    IsCode (last? "code" ms) code → IsMessage (last? "message" ms) message →
    IsFault (some (.object ms)) (some ⟨code, message⟩)
  | array {ts : List Tree} {code : Int} {message : String} :
    ts.length ≤ 2 → IsCode ts[0]? code → IsMessage ts[1]? message →
    IsFault (some (.array ts)) (some ⟨code, message⟩)

inductive IsResult : Option Tree → Option Json → Prop where
  | absent : IsResult none none
  | null : IsResult (some .null) none
  | value {t : Tree} {v : Json} : t ≠ .null → t.value? = some v → IsResult (some t) (some v)

/-- The response that the members of a frame describe. Only the last member of a key counts. -/
structure Describes (ms : List (String × Tree)) (r : Response) : Prop where
  id : ∃ t ∈ last? "id" ms, Names t r.id
  fault : IsFault (last? "error" ms) r.fault
  result : IsResult (last? "result" ms) r.result

end Response

namespace FrameDecoder

open Json Response

variable {t : Tree} {v : Json} {o : Option Tree} {o' : Option Json}

theorem ofList_writeInt (i : Int) : String.ofList (writeInt i) = toString i := by
  cases i with
  | ofNat n => exact String.ofList_toList
  | negSucc n =>
    unfold writeInt
    rw [String.ofList_cons, String.ofList_toList]
    rfl

theorem readResponseId_eq_ok_iff (h : t.value? = some v) {id : String}
    : readResponseId v = .ok id ↔ Names t id := by
  constructor
  . intro hread
    unfold readResponseId at hread
    split at hread
    . cases hread
      rw [Tree.value?_eq_string_iff.mp h]
      exact .string id
    . next i =>
      cases hread
      obtain ⟨l, rfl, hint, hlow, hhigh⟩ := Tree.value?_eq_int_iff.mp h
      rw [ofList_writeInt]
      exact .integer hint hlow hhigh
    . cases hread
  . intro hnames
    cases hnames with
    | string s =>
      cases h
      rfl
    | @integer l i hint hlow hhigh =>
      rw [Tree.value?_eq_int_iff.mpr ⟨l, rfl, hint, hlow, hhigh⟩] at h
      cases h
      exact congrArg Except.ok (ofList_writeInt i)

theorem eq_or_exists_of_map_eq (h : o.map Tree.value? = o'.map some)
    : o = none ∧ o' = none ∨ ∃ t v, o = some t ∧ o' = some v ∧ t.value? = some v := by
  cases o with
  | none => exact .inl ⟨rfl, Option.map_eq_none_iff.mp h.symm⟩
  | some t =>
    obtain ⟨v, hv, heq⟩ := Option.map_eq_some_iff.mp h.symm
    exact .inr ⟨t, v, rfl, hv, heq.symm⟩

theorem readCode_eq_ok_iff (h : o.map Tree.value? = o'.map some) {code : Int}
    : readCode o' = .ok code ↔ IsCode o code := by
  rcases eq_or_exists_of_map_eq h with ⟨rfl, rfl⟩ | ⟨t, v, rfl, rfl, hv⟩
  . constructor
    . intro hread
      cases hread
      exact .absent
    . intro hcode
      cases hcode
      rfl
  . constructor
    . intro hread
      change Json.readInt "i64" (-2 ^ 63) (2 ^ 63) v = .ok code at hread
      unfold Json.readInt at hread
      split at hread
      . split at hread
        . next i hrange =>
          cases hread
          obtain ⟨l, rfl, hint, -⟩ := Tree.value?_eq_int_iff.mp hv
          exact .integer hint hrange.1 hrange.2
        . cases hread
      . cases hread
    . intro hcode
      cases hcode with
      | @integer l i hint hlow hhigh =>
        have hrange : Number.IntRange code := ⟨hlow, by omega⟩
        rw [Tree.value?_eq_int_iff.mpr ⟨l, rfl, hint, hrange⟩] at hv
        cases hv
        exact if_pos ⟨hlow, hhigh⟩

theorem readMessage_eq_ok_iff (h : o.map Tree.value? = o'.map some) {message : String}
    : readMessage o' = .ok message ↔ IsMessage o message := by
  rcases eq_or_exists_of_map_eq h with ⟨rfl, rfl⟩ | ⟨t, v, rfl, rfl, hv⟩
  . constructor
    . intro hread
      cases hread
      exact .absent
    . intro hmessage
      cases hmessage
      rfl
  . constructor
    . intro hread
      change Json.readText? v = .ok message at hread
      unfold Json.readText? at hread
      split at hread
      . cases hread
        rw [Tree.value?_eq_string_iff.mp hv]
        exact .string message
      . cases hread
    . intro hmessage
      cases hmessage with
      | string s =>
        cases hv
        rfl

theorem readFault_object_eq_ok_iff {ms : List (String × Tree)} {members : List (String × Json)}
    (h : (Tree.object ms).value? = some (.object members)) {f : ServerFault}
    : readFault (.object members) = .ok f ↔ IsFault (some (.object ms)) (some f) := by
  have hcode := Tree.last?_map_value? h "code"
  have hmessage := Tree.last?_map_value? h "message"
  constructor
  . intro hread
    obtain ⟨code, hreadCode, hread⟩ := ok_of_bind hread
    obtain ⟨message, hreadMessage, hread⟩ := ok_of_bind hread
    cases hread
    exact .object ((readCode_eq_ok_iff hcode).mp hreadCode)
      ((readMessage_eq_ok_iff hmessage).mp hreadMessage)
  . intro hfault
    cases hfault with
    | object hisCode hisMessage =>
      unfold readFault
      dsimp only
      rw [(readCode_eq_ok_iff hcode).mpr hisCode, (readMessage_eq_ok_iff hmessage).mpr hisMessage]
      rfl

theorem readFault_array_eq_ok_iff {ts : List Tree} {vs : List Json}
    (h : Tree.valueItems? ts = some vs) {f : ServerFault}
    : readFault (.array vs) = .ok f ↔ IsFault (some (.array ts)) (some f) := by
  have hcode := Tree.getElem?_valueItems? h 0
  have hmessage := Tree.getElem?_valueItems? h 1
  have hlength := Tree.length_valueItems? h
  constructor
  . intro hread
    obtain ⟨code, hreadCode, hread⟩ := ok_of_bind hread
    obtain ⟨message, hreadMessage, hread⟩ := ok_of_bind hread
    split at hread
    . next hle =>
      cases hread
      exact .array (hlength ▸ hle) ((readCode_eq_ok_iff hcode).mp hreadCode)
        ((readMessage_eq_ok_iff hmessage).mp hreadMessage)
    . cases hread
  . intro hfault
    cases hfault with
    | array hle hisCode hisMessage =>
      rw [← hlength] at hle
      unfold readFault
      dsimp only
      rw [(readCode_eq_ok_iff hcode).mpr hisCode, (readMessage_eq_ok_iff hmessage).mpr hisMessage]
      dsimp only [bind, Except.bind]
      rw [if_pos hle]
      rfl

theorem readFault_eq_ok_iff (h : t.value? = some v) {f : ServerFault}
    : readFault v = .ok f ↔ IsFault (some t) (some f) := by
  cases v with
  | array vs =>
    obtain ⟨ts, rfl, hvs⟩ := Tree.value?_eq_array_iff.mp h
    exact readFault_array_eq_ok_iff hvs
  | object members =>
    obtain ⟨ms, -, rfl, -⟩ := Tree.value?_eq_object_iff.mp h
    exact readFault_object_eq_ok_iff h
  | _ =>
    refine ⟨nofun, ?_⟩
    intro hfault
    cases hfault with
    | object _ _ =>
      obtain ⟨members, -, heq⟩ := Option.map_eq_some_iff.mp ((Tree.value?_object _).symm.trans h)
      cases heq
    | array _ _ _ =>
      obtain ⟨vs, -, heq⟩ := Option.map_eq_some_iff.mp ((Tree.value?_array _).symm.trans h)
      cases heq

theorem readOption_eq_ok_iff (h : o.map Tree.value? = o'.map some) {fault : Option ServerFault}
    : Json.readOption readFault (o'.getD .null) = .ok fault ↔ IsFault o fault := by
  rcases eq_or_exists_of_map_eq h with ⟨rfl, rfl⟩ | ⟨t, v, rfl, rfl, hv⟩
  . constructor
    . intro hread
      cases hread
      exact .absent
    . intro hfault
      cases hfault
      rfl
  . change Json.readOption readFault v = .ok fault ↔ IsFault (some t) fault
    unfold Json.readOption
    split
    . rw [Tree.value?_eq_null_iff.mp hv]
      constructor
      . intro hread
        cases hread
        exact .null
      . intro hfault
        cases hfault
        rfl
    . next hne =>
      constructor
      . intro hread
        cases hf : readFault v with
        | error e =>
          rw [hf] at hread
          cases hread
        | ok f =>
          rw [hf] at hread
          cases hread
          exact (readFault_eq_ok_iff hv).mp hf
      . intro hfault
        cases fault with
        | none =>
          cases hfault
          cases hv
          exact absurd rfl hne
        | some f =>
          rw [(readFault_eq_ok_iff hv).mpr hfault]
          rfl

theorem readId_eq_ok_iff (h : o.map Tree.value? = o'.map some) {id : String}
    : readResponseId (o'.getD .null) = .ok id ↔ ∃ t ∈ o, Names t id := by
  rcases eq_or_exists_of_map_eq h with ⟨rfl, rfl⟩ | ⟨t, v, rfl, rfl, hv⟩
  . exact ⟨nofun, nofun⟩
  . change readResponseId v = .ok id ↔ _
    rw [readResponseId_eq_ok_iff hv]
    constructor
    . exact fun hnames => ⟨t, rfl, hnames⟩
    . rintro ⟨u, ⟨⟩, hnames⟩
      exact hnames

theorem presentResult_eq_iff_isResult (h : o.map Tree.value? = o'.map some) {result : Option Json}
    : presentResult o' = result ↔ IsResult o result := by
  rcases eq_or_exists_of_map_eq h with ⟨rfl, rfl⟩ | ⟨t, v, rfl, rfl, hv⟩
  . constructor
    . rintro rfl
      exact .absent
    . intro hresult
      cases hresult
      rfl
  . by_cases ht : t = .null
    . subst ht
      cases hv
      constructor
      . rintro rfl
        exact .null
      . intro hresult
        cases hresult with
        | null => rfl
        | value hne _ => exact absurd rfl hne
    . have hpresent : presentResult (some v) = some v := by
        rw [presentResult_eq_iff]
        rintro ⟨⟩
        exact ht (Tree.value?_eq_null_iff.mp hv)
      rw [hpresent]
      constructor
      . rintro rfl
        exact .value ht hv
      . intro hresult
        cases hresult with
        | null => exact absurd rfl ht
        | value _ hw => exact hv.symm.trans hw

theorem readResponse_eq_ok_iff {ms : List (String × Tree)} {members : List (String × Json)}
    (h : (Tree.object ms).value? = some (.object members)) {r : Response}
    : readResponse members = .ok r ↔ Describes ms r := by
  have hid := Tree.last?_map_value? h "id"
  have herror := Tree.last?_map_value? h "error"
  have hresult := Tree.last?_map_value? h "result"
  constructor
  . intro hread
    obtain ⟨fault, hfault, hread⟩ := ok_of_bind hread
    obtain ⟨id, hreadId, hread⟩ := ok_of_bind hread
    cases hread
    constructor
    . exact (readId_eq_ok_iff hid).mp hreadId
    . exact (readOption_eq_ok_iff herror).mp hfault
    . exact (presentResult_eq_iff_isResult hresult).mp rfl
  . intro hr
    unfold readResponse
    rw [(readOption_eq_ok_iff herror).mpr hr.fault, (readId_eq_ok_iff hid).mpr hr.id,
      (presentResult_eq_iff_isResult hresult).mpr hr.result]
    rfl

/-- What becomes of a frame with the text of a tree that is read as JSON. -/
structure Judges (t : Tree) (answer : Except FrameError Response) : Prop where
  notAnObject : (∀ ms, t ≠ .object ms) → answer = .error .notAnObject
  missingId : ∀ ms, t = .object ms → last? "id" ms = none → answer = .error (.missingField "id")
  described : ∀ ms, t = .object ms → last? "id" ms ≠ none →
    ∀ r, answer = .ok r ↔ Describes ms r
  misshapen : ∀ ms, t = .object ms → last? "id" ms ≠ none → (∀ r, ¬Describes ms r) →
    ∃ fault, answer = .error (.misshapen fault)

variable {d : FrameDecoder} {frame : String}

theorem decodeResponse_object {members : List (String × Json)}
    (hsize : frame.utf8ByteSize ≤ d.maxFrameSize)
    (hparse : Json.parse frame = .ok (.object members))
    : d.decodeResponse frame
        =
      match Json.member? "id" members with
      | none => .error (.missingField "id")
      | some _ => (readResponse members).mapError .misshapen := by
  unfold decodeResponse FrameDecoder.members
  rw [if_neg (Nat.not_lt.mpr hsize), hparse]
  dsimp only
  cases Json.member? "id" members <;> rfl

theorem decodeResponse_of_not_object (hsize : frame.utf8ByteSize ≤ d.maxFrameSize)
    (hparse : Json.parse frame = .ok v) (hne : ∀ members, v ≠ .object members)
    : d.decodeResponse frame = .error .notAnObject := by
  unfold decodeResponse FrameDecoder.members
  rw [if_neg (Nat.not_lt.mpr hsize), hparse]
  cases v with
  | object members => exact absurd rfl (hne members)
  | _ => rfl

theorem judges_object {ms : List (String × Tree)} {members : List (String × Json)}
    (hsize : frame.utf8ByteSize ≤ d.maxFrameSize)
    (ht : (Tree.object ms).value? = some (.object members))
    (hparse : Json.parse frame = .ok (.object members))
    : Judges (.object ms) (d.decodeResponse frame) := by
  have hid := eq_or_exists_of_map_eq (Tree.last?_map_value? ht "id")
  have hresponse (hlast : last? "id" ms ≠ none)
      : d.decodeResponse frame = (readResponse members).mapError .misshapen := by
    obtain ⟨hnone, -⟩ | ⟨u, w, -, hmember, -⟩ := hid
    . exact absurd hnone hlast
    . rw [decodeResponse_object hsize hparse, hmember]
  constructor
  . intro hne
    exact absurd rfl (hne ms)
  . rintro _ ⟨⟩ hlast
    obtain ⟨-, hnone⟩ | ⟨u, w, hsome, -, -⟩ := hid
    . rw [decodeResponse_object hsize hparse, hnone]
    . rw [hlast] at hsome
      cases hsome
  . rintro _ ⟨⟩ hlast r
    rw [hresponse hlast, mapError_eq_ok_iff, readResponse_eq_ok_iff ht]
  . rintro _ ⟨⟩ hlast hnone
    rw [hresponse hlast]
    cases hread : readResponse members with
    | error fault => exact ⟨fault, rfl⟩
    | ok r => exact absurd ((readResponse_eq_ok_iff ht).mp hread) (hnone r)

theorem judges_of_parse (hsize : frame.utf8ByteSize ≤ d.maxFrameSize) (ht : t.value? = some v)
    (hparse : Json.parse frame = .ok v)
    : Judges t (d.decodeResponse frame) := by
  by_cases hobject : ∃ members, v = .object members
  . obtain ⟨members, rfl⟩ := hobject
    obtain ⟨ms, -, rfl, -⟩ := Tree.value?_eq_object_iff.mp ht
    exact judges_object hsize ht hparse
  . have hne : ∀ ms, t ≠ .object ms := by
      rintro ms rfl
      obtain ⟨members, -, heq⟩ := Option.map_eq_some_iff.mp ((Tree.value?_object ms).symm.trans ht)
      exact hobject ⟨_, heq.symm⟩
    refine ⟨fun _ => ?_, fun ms hms => absurd hms (hne ms), fun ms hms => absurd hms (hne ms),
      fun ms hms => absurd hms (hne ms)⟩
    exact decodeResponse_of_not_object hsize hparse fun members h => hobject ⟨members, h⟩

theorem parse_of_readable (h : t.IsText frame) (ht : t.Readable)
    : ∃ v, t.value? = some v ∧ Json.parse frame = .ok v := by
  have hread := toOption_parse h
  obtain ⟨v, hv⟩ := Option.ne_none_iff_exists'.mp (Tree.readAs?_ne_none_iff.mpr ht)
  rw [hv] at hread
  refine ⟨v, ?_, ?_⟩
  . unfold Tree.readAs? at hv
    split at hv
    . exact hv
    . cases hv
  . cases hparse : Json.parse frame with
    | error e =>
      rw [hparse] at hread
      cases hread
    | ok w =>
      rw [hparse] at hread
      cases hread
      rfl

theorem readable_of_parse (h : t.IsText frame) (hparse : Json.parse frame = .ok v)
    : t.Readable := by
  have hread := toOption_parse h
  rw [hparse] at hread
  apply Tree.readAs?_ne_none_iff.mp
  rw [← hread]
  exact Option.some_ne_none v

theorem malformed_of_not_parse (hsize : frame.utf8ByteSize ≤ d.maxFrameSize)
    (hparse : ∀ v, Json.parse frame ≠ .ok v)
    : ∃ e, d.decodeResponse frame = .error (.malformed e) := by
  cases hread : Json.parse frame with
  | error e =>
    refine ⟨e, ?_⟩
    unfold decodeResponse members
    rw [if_neg (Nat.not_lt.mpr hsize), hread]
  | ok v => exact absurd hread (hparse v)

/--
A frame within the limit is read as a response exactly if it is the text of a tree that describes
one. Everything else about it is judged in order: its size, whether it is the text of a tree that is
read as JSON, whether the tree is an object, and whether that has an id.
-/
theorem response_grammar (d : FrameDecoder) (frame : String)
    : (d.maxFrameSize < frame.utf8ByteSize →
          d.decodeResponse frame = .error (.tooLarge frame.utf8ByteSize d.maxFrameSize))
        ∧
      (frame.utf8ByteSize ≤ d.maxFrameSize →
          ((∀ t : Tree, ¬t.IsText frame) → ∃ e, d.decodeResponse frame = .error (.malformed e))
            ∧
          ∀ t : Tree, t.IsText frame →
            (¬t.Readable → ∃ e, d.decodeResponse frame = .error (.malformed e))
              ∧
            (t.Readable → Judges t (d.decodeResponse frame)))
        ∧
      ∀ t : Tree, (t.Excessive → ¬t.Readable) ∧ (t.Moderate → t.Readable) := by
  refine ⟨?_, ?_, fun t => ⟨Tree.Excessive.not_readable, Tree.Moderate.readable⟩⟩
  . intro hsize
    unfold decodeResponse members
    rw [if_pos hsize]
  . intro hsize
    refine ⟨?_, fun t htext => ⟨?_, ?_⟩⟩
    . intro hnone
      apply malformed_of_not_parse hsize
      intro v hparse
      obtain ⟨t, ht⟩ := exists_tree_of_parse hparse
      exact hnone t ht
    . intro hread
      apply malformed_of_not_parse hsize
      intro v hparse
      exact hread (readable_of_parse htext hparse)
    . intro hread
      obtain ⟨v, hv, hparse⟩ := parse_of_readable htext hread
      exact judges_of_parse hsize hv hparse

/-- Of two ids the last one counts, and an array may say what the fault is. -/
theorem response_grammar_twice
    : let d : FrameDecoder := { maxFrameSize := 29 }
      let r : Response := { id := "7", fault := some ⟨0, ""⟩ }
      d.decodeResponse "\x7b\"id\":\"a\",\"error\":[],\"id\":7\x7d" = .ok r := by
  intro d r
  let seven : Numeral.Literal :=
    { negative := false, whole := ⟨['7'], by simp, by simp⟩, zero_alone := by decide }
  let ms : List (String × Tree) :=
    [("id", .string "a"), ("error", .array []), ("id", .number seven)]
  have htext : (Tree.object ms).IsText "\x7b\"id\":\"a\",\"error\":[],\"id\":7\x7d" := by
    refine ⟨_, [], .done _, ?_, .done []⟩
    have hid := spells_of_plain ['i', 'd'] (by simp)
    have herror := spells_of_plain ['e', 'r', 'r', 'o', 'r'] (by simp)
    have ha := spells_of_plain ['a'] (by simp)
    exact .members (.done _) (.mk (hid _) (.done _) (.done _) (.string (ha _)))
      (.comma (.done _) (.done _) (.mk (herror _) (.done _) (.done _) (.noItems (.done _)))
        (.comma (.done _) (.done _) (.mk (hid _) (.done _) (.done _) (.number seven _))
          (.close (.done _))))
  have hread : (Tree.object ms).Readable := by
    constructor
    . decide
    . intro l hl
      have hseven : seven.number? = some (.int 7) := by decide +kernel
      rw [List.mem_singleton.mp hl, hseven]
      exact Option.some_ne_none _
  have hr : Describes ms r := by
    constructor
    . exact ⟨.number seven, rfl, .integer (i := 7) rfl (by decide) (by decide)⟩
    . exact .array (Nat.zero_le 2) .absent .absent
    . exact .absent
  have hgrammar := ((response_grammar d _).2.1 (by decide)).2 (.object ms) htext
  exact ((hgrammar.2 hread).described ms rfl (by decide) r).mpr hr

end FrameDecoder
end CallWire
