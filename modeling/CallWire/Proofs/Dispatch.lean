import CallWire.Proofs.Attempts
import CallWire.Proofs.Client

/-!
This module contains what a session makes of the events of its socket, whatever else is on the
socket and whenever the calls are registered: the first response with its id decides a call, and the
end of the socket fails the calls that are left.
-/

namespace CallWire

inductive SessionStep where
  | event (e : Event)
  | hangUp
  | register (id method : String) (decoder : ResultDecoder)

namespace SessionStep

def isTerminal : SessionStep → Bool
  | .event e => e.isTerminal
  | .hangUp => true
  | .register _ _ _ => false

def callId? : SessionStep → Option String
  | .register id _ _ => some id
  | _ => none

def response? (d : FrameDecoder) : SessionStep → Option Response
  | .event (.frame f) => (d.decodeResponse f).toOption
  | _ => none

/-- The first response with an id, if it comes before the end of the socket. -/
def deciding? (d : FrameDecoder) (id : String) (steps : List SessionStep) : Option Response :=
  ((steps.takeWhile (fun x => !x.isTerminal)).filterMap (response? d)).find? (·.id = id)

end SessionStep

namespace SessionStep

/--
A frame that answers none of the calls of some steps before it: it is no response, no call has its
id, or another frame with its id came after the last such call.
-/
inductive Stray (d : FrameDecoder) (pre : List SessionStep) (f : String) : Prop where
  | oversized (hsize : d.maxFrameSize < f.utf8ByteSize)
  | malformed {e : FrameError} (hdec : d.decodeResponse f = .error e)
  | unknown {a : Response} (hdec : d.decodeResponse f = .ok a)
      (hid : a.id ∉ pre.filterMap callId?)
  | repeated {a b : Response} {g : String} {p q : List SessionStep}
      (hdec : d.decodeResponse f = .ok a) (hfirst : d.decodeResponse g = .ok b)
      (hid : b.id = a.id) (hpre : pre = p ++ .event (.frame g) :: q)
      (hlast : a.id ∉ q.filterMap callId?)

end SessionStep

def SessionStep.fate? (d : FrameDecoder) (id method : String) (decoder : ResultDecoder)
    (steps : List SessionStep) : Option Outcome :=
  match deciding? d id steps with
  | some a => some (a.outcome method decoder)
  | none => if steps.any isTerminal then some (.error .notConnected) else none

namespace SessionStep

variable {d : FrameDecoder} {id method : String} {decoder : ResultDecoder}
variable {x : SessionStep} {steps : List SessionStep} {a : Response}

theorem response?_eq_none_of_isTerminal (hx : x.isTerminal = true) : x.response? d = none := by
  cases x with
  | event e => cases e <;> simp_all [isTerminal, Event.isTerminal, response?]
  | hangUp => rfl
  | register id method decoder => rfl

theorem isTerminal_of_response? (ha : x.response? d = some a) : x.isTerminal = false := by
  cases hx : x.isTerminal with
  | false => rfl
  | true =>
    rw [response?_eq_none_of_isTerminal hx] at ha
    simp at ha

theorem fate?_cons_of_isTerminal (hx : x.isTerminal = true)
    : fate? d id method decoder (x :: steps) = some (.error .notConnected) := by
  unfold fate? deciding?
  rw [List.takeWhile_cons_of_neg (by simp [hx])]
  simp [hx]

theorem fate?_cons_of_answer (ha : x.response? d = some a)
    : fate? d a.id method decoder (x :: steps) = some (a.outcome method decoder) := by
  have hx := isTerminal_of_response? ha
  unfold fate? deciding?
  rw [List.takeWhile_cons_of_pos (by simp [hx])]
  rw [List.filterMap_cons_some ha]
  simp

theorem fate?_cons_of_other (hx : x.isTerminal = false)
    (ha : ∀ a, x.response? d = some a → a.id ≠ id)
    : fate? d id method decoder (x :: steps) = fate? d id method decoder steps := by
  unfold fate? deciding?
  rw [List.takeWhile_cons_of_pos (by simp [hx])]
  rw [List.any_cons, hx, Bool.false_or]
  cases hresp : x.response? d with
  | none => rw [List.filterMap_cons_none hresp]
  | some a =>
    rw [List.filterMap_cons_some hresp]
    rw [List.find?_cons_of_neg (by simpa using ha a hresp)]

end SessionStep

namespace Client

def sessionStep (n : Nat) (c : Client) : SessionStep → Client
  | .event e => c.onEvent n e
  | .hangUp => c.onHangUp n
  | .register id method decoder => (c.registerCall n id method decoder).2

def runSession (n : Nat) (steps : List SessionStep) (c : Client) : Client :=
  steps.foldl (sessionStep n) c

inductive Effect (c : Client) (n : Nat) (s : Session) : SessionStep → Client → Prop where
  | ignored {x : SessionStep} {c' : Client} (hnew : x.callId? = none)
      (hquiet : s.listening = true → x.isTerminal = false
        ∧ ∀ a, x.response? c.frameDecoder = some a → s.table.resolve a.id = none)
      (hcore : c'.core = c.core)
      : Effect c n s x c'
  | answered {x : SessionStep} {c' : Client} {a : Response} {r : CallRecord} {t : PendingTable}
      (hresp : x.response? c.frameDecoder = some a)
      (hlisten : s.listening = true)
      (hres : s.table.resolve a.id = some (r, t))
      (hcore : c'.core = { c.core.setTable n t with ledger := r.dispose a.disposal c.ledger })
      : Effect c n s x c'
  | ended {x : SessionStep} {c' : Client} (hterm : x.isTerminal = true)
      (hlisten : s.listening = true)
      (hcore : c'.core = { c.core.modifySession n Session.over with
        ledger := c.ledger.disposeAll (fun _ => .fail .notConnected) s.table.records
        transport := c.transport.endGeneration s.generation })
      : Effect c n s x c'
  | entered {id method : String} {decoder : ResultDecoder} {c' : Client} {t : PendingTable}
      (hreg : s.table.register (c.newRecord id method decoder) = .ok t)
      (hcore : c'.core = { c.core.setTable n t with ledger := (c.ledger.issue (some id)).2 })
      : Effect c n s (.register id method decoder) c'
  | refused {id method : String} {decoder : ResultDecoder} {c' : Client} {why : Refusal}
      (hreg : s.table.register (c.newRecord id method decoder) = .error why)
      (hcore : c'.core = { c.core with
        ledger := (c.newRecord id method decoder).dispose
          (.fail (why.error (c.newRecord id method decoder))) (c.ledger.issue (some id)).2 })
      : Effect c n s (.register id method decoder) c'

variable {c c' : Client} {n : Nat} {s : Session} {x : SessionStep} {r : CallRecord}

theorem effect_onFrame (hs : c.session? n = some s) (hlisten : s.listening = true) (f : String)
    : c.Effect n s (.event (.frame f)) (c.onFrame n f) := by
  cases hdec : c.frameDecoder.decodeResponse f with
  | error e =>
    apply Effect.ignored rfl _ (core_onFrame_of_error hdec)
    intro _
    refine ⟨rfl, ?_⟩
    intro a ha
    simp [SessionStep.response?, hdec, Except.toOption] at ha
  | ok a =>
    have hresp : (SessionStep.event (.frame f)).response? c.frameDecoder = some a := by
      simp [SessionStep.response?, hdec, Except.toOption]
    have hframe := core_onFrame_of_ok (n := n) hdec
    cases hres : s.table.resolve a.id with
    | none =>
      rw [← table_of_session? hs] at hres
      apply Effect.ignored rfl _ (hframe.trans (core_complete_of_none hres))
      intro _
      refine ⟨rfl, ?_⟩
      intro b hb
      rw [hresp] at hb
      cases hb
      rw [← table_of_session? hs]
      exact hres
    | some taken =>
      obtain ⟨r, t⟩ := taken
      apply Effect.answered hresp hlisten hres
      rw [← table_of_session? hs] at hres
      exact hframe.trans (core_complete_of_some hres)

theorem effect_onEnd (hs : c.session? n = some s) (hlisten : s.listening = true)
    (hterm : x.isTerminal = true) (hcore : c'.core = c.core)
    : c.Effect n s x (c'.onEnd n) := by
  apply Effect.ended hterm hlisten
  rw [← session?_of_core_eq hcore] at hs
  rw [core_onEnd hs]
  rw [hcore, ledger_of_core_eq hcore, transport_of_core_eq hcore]

theorem effect_sessionStep (hs : c.session? n = some s) (x : SessionStep)
    : c.Effect n s x (c.sessionStep n x) := by
  unfold sessionStep
  cases x with
  | event e =>
    dsimp
    unfold onEvent
    rw [isListening_of_session? hs]
    split
    . next hlisten =>
      cases e with
      | frame f => exact effect_onFrame hs hlisten f
      | closed code reason => exact effect_onEnd hs hlisten rfl (core_tell c _)
      | failed => exact effect_onEnd hs hlisten rfl (core_warn c _)
    . next hdeaf => exact .ignored rfl (fun h => absurd h hdeaf) rfl
  | hangUp =>
    dsimp
    unfold onHangUp
    rw [isListening_of_session? hs]
    split
    . next hlisten => exact effect_onEnd hs hlisten rfl rfl
    . next hdeaf => exact .ignored rfl (fun h => absurd h hdeaf) rfl
  | register id method decoder =>
    dsimp
    cases hreg : s.table.register (c.newRecord id method decoder) with
    | ok t =>
      apply Effect.entered hreg
      rw [← table_of_session? hs] at hreg
      rw [registerCall_of_ok hreg]
      rfl
    | error why =>
      apply Effect.refused hreg
      rw [← table_of_session? hs] at hreg
      rw [registerCall_of_error hreg]
      rfl

/-- A session whose ledger owes outcomes to the records in its table. -/
structure Attends (c : Client) (n : Nat) (s : Session) : Prop where
  session : c.session? n = some s
  table : s.table.WellFormed
  accounts : c.ledger.Accounts s.table.records []
  deaf : s.table.closed = !s.listening

theorem Attends.table_eq (h : c.Attends n s) : c.table n = s.table := table_of_session? h.session

theorem session?_setTable_of_core (hs : c.session? n = some s) {t : PendingTable} {l : Ledger}
    (hcore : c'.core = { c.core.setTable n t with ledger := l })
    : c'.session? n = some { s with table := t } := by
  rw [← session?_core c', hcore]
  exact session?_modifySession_self (c := c.core) _ hs

/-- What every step leaves of a session. -/
structure Continues (c c' : Client) (n : Nat) (s s' : Session) (x : SessionStep) : Prop where
  attends : c'.Attends n s'
  keeps : c.ledger.Keeps c'.ledger
  listening : s'.listening = (s.listening && !x.isTerminal)
  generation : s'.generation = s.generation
  decoder : c'.frameDecoder = c.frameDecoder
  records : ∀ r ∈ s'.table.records, r ∈ s.table.records ∨ x.callId? = some r.id
  transport : c'.transport =
    if s.listening && x.isTerminal then c.transport.endGeneration s.generation else c.transport

theorem continues_of_core_eq (h : c.Attends n s) (hlive : (s.listening && x.isTerminal) = false)
    (hcore : c'.core = c.core)
    : Continues c c' n s s x := by
  have hledger := ledger_of_core_eq hcore
  constructor
  . constructor
    . rw [session?_of_core_eq hcore]
      exact h.session
    . exact h.table
    . rw [hledger]
      exact h.accounts
    . exact h.deaf
  . rw [hledger]
    exact .refl _
  . revert hlive
    cases s.listening <;> cases x.isTerminal <;> simp
  . rfl
  . exact frameDecoder_of_core_eq hcore
  . intro r hr
    exact .inl hr
  . rw [hlive]
    exact transport_of_core_eq hcore

theorem continues_of_resolve (h : c.Attends n s) {t : PendingTable} {d : Disposal}
    (hterm : x.isTerminal = false) {id : String} (hres : s.table.resolve id = some (r, t))
    (hcore : c'.core = { c.core.setTable n t with ledger := r.dispose d c.ledger })
    : Continues c c' n s { s with table := t } x := by
  have hledger : c'.ledger = r.dispose d c.ledger := by
    rw [← ledger_core c', hcore]
  have hperm := PendingTable.resolve_perm h.table hres
  have hacc : c.ledger.Accounts (r :: t.records) [] := h.accounts.perm hperm
  constructor
  . constructor
    . exact session?_setTable_of_core h.session hcore
    . exact h.table.resolve hres
    . rw [hledger]
      exact (hacc.dispose d).forgetUsed
    . rw [← h.deaf]
      exact PendingTable.closed_of_resolve hres
  . rw [hledger]
    exact hacc.keeps_dispose _
  . simp [hterm]
  . rfl
  . rw [← frameDecoder_core c', hcore]
    rfl
  . intro r' hr'
    apply Or.inl
    exact hperm.mem_iff.mpr (List.mem_cons_of_mem _ hr')
  . rw [hterm, Bool.and_false]
    rw [← transport_core c', hcore]
    rfl

theorem accounts_ended (h : c.Attends n s)
    : (c.ledger.disposeAll (fun _ => .fail .notConnected) s.table.records).Accounts []
          ((s.table.records.map (fun r => (r, .fail .notConnected))).reverse ++ [])
        ∧ c.ledger.Keeps (c.ledger.disposeAll (fun _ => .fail .notConnected) s.table.records) := by
  apply Ledger.Accounts.disposeAll
  rw [List.append_nil]
  exact h.accounts

theorem continues_of_end (h : c.Attends n s) (hterm : x.isTerminal = true)
    (hlisten : s.listening = true)
    (hcore : c'.core = { c.core.modifySession n Session.over with
      ledger := c.ledger.disposeAll (fun _ => .fail .notConnected) s.table.records
      transport := c.transport.endGeneration s.generation })
    : Continues c c' n s s.over x := by
  have hledger : c'.ledger
      = c.ledger.disposeAll (fun _ => .fail .notConnected) s.table.records := by
    rw [← ledger_core c', hcore]
  obtain ⟨hacc, hkeeps⟩ := accounts_ended h
  constructor
  . constructor
    . rw [← session?_core c', hcore]
      exact session?_modifySession_self (c := c.core) _ h.session
    . exact .close s.table
    . rw [hledger]
      exact hacc.forgetUsed
    . rfl
  . rw [hledger]
    exact hkeeps
  . simp [hterm, Session.over]
  . rfl
  . rw [← frameDecoder_core c', hcore]
    rfl
  . intro r hr
    simp [Session.over] at hr
  . rw [hterm, hlisten]
    rw [← transport_core c', hcore]
    rfl

theorem continues_of_register (h : c.Attends n s) {id method : String} {decoder : ResultDecoder}
    {t : PendingTable} (hreg : s.table.register (c.newRecord id method decoder) = .ok t)
    (hcore : c'.core = { c.core.setTable n t with ledger := (c.ledger.issue (some id)).2 })
    : Continues c c' n s { s with table := t } (.register id method decoder) := by
  have hledger : c'.ledger = (c.ledger.issue (some id)).2 := by
    rw [← ledger_core c', hcore]
  have hperm := PendingTable.register_perm hreg
  constructor
  . constructor
    . exact session?_setTable_of_core h.session hcore
    . exact h.table.register hreg
    . rw [hledger]
      exact (h.accounts.issue (some id) rfl).perm hperm.symm
    . rw [← h.deaf]
      exact PendingTable.closed_of_register hreg
  . rw [hledger]
    apply Ledger.keeps_issue
  . simp [SessionStep.isTerminal]
  . rfl
  . rw [← frameDecoder_core c', hcore]
    rfl
  . intro r hr
    rcases List.mem_cons.mp (hperm.mem_iff.mp hr) with rfl | hr
    . exact .inr rfl
    . exact .inl hr
  . rw [SessionStep.isTerminal, Bool.and_false]
    rw [← transport_core c', hcore]
    rfl

theorem continues_of_refusal (h : c.Attends n s) {id method : String} {decoder : ResultDecoder}
    {d : Disposal}
    (hcore : c'.core = { c.core with
      ledger := (c.newRecord id method decoder).dispose d (c.ledger.issue (some id)).2 })
    : Continues c c' n s s (.register id method decoder) := by
  have hledger : c'.ledger
      = (c.newRecord id method decoder).dispose d (c.ledger.issue (some id)).2 := by
    rw [← ledger_core c', hcore]
  have hacc := h.accounts.issue (r := c.newRecord id method decoder) (some id) rfl
  constructor
  . constructor
    . rw [← session?_core c', hcore]
      exact h.session
    . exact h.table
    . rw [hledger]
      exact (hacc.dispose d).forgetUsed
    . exact h.deaf
  . rw [hledger]
    exact (Ledger.keeps_issue _ _).trans (hacc.keeps_dispose d)
  . simp [SessionStep.isTerminal]
  . rfl
  . rw [← frameDecoder_core c', hcore]
    rfl
  . intro r hr
    exact .inl hr
  . rw [SessionStep.isTerminal, Bool.and_false]
    rw [← transport_core c', hcore]
    rfl

theorem Effect.continues (h : c.Attends n s) (he : c.Effect n s x c')
    : ∃ s', Continues c c' n s s' x := by
  cases he with
  | ignored hnew hquiet hcore =>
    have hlive : (s.listening && x.isTerminal) = false := by
      cases hl : s.listening with
      | false => rfl
      | true => exact (hquiet hl).1
    exact ⟨s, continues_of_core_eq h hlive hcore⟩
  | answered hresp hlisten hres hcore =>
    have hterm := SessionStep.isTerminal_of_response? hresp
    exact ⟨_, continues_of_resolve h hterm hres hcore⟩
  | ended hterm hlisten hcore => exact ⟨_, continues_of_end h hterm hlisten hcore⟩
  | entered hreg hcore => exact ⟨_, continues_of_register h hreg hcore⟩
  | refused hreg hcore => exact ⟨s, continues_of_refusal h hcore⟩

theorem attends_sessionStep (h : c.Attends n s) (x : SessionStep)
    : ∃ s', Continues c (c.sessionStep n x) n s s' x := by
  exact (effect_sessionStep h.session x).continues h

theorem runSession_cons (n : Nat) (x : SessionStep) (steps : List SessionStep) (c : Client)
    : c.runSession n (x :: steps) = (c.sessionStep n x).runSession n steps := rfl

theorem runSession_append (n : Nat) (steps more : List SessionStep) (c : Client)
    : c.runSession n (steps ++ more) = (c.runSession n steps).runSession n more := by
  exact List.foldl_append

structure Survives (c c' : Client) (n : Nat) (s s' : Session) (steps : List SessionStep)
    : Prop where
  attends : c'.Attends n s'
  keeps : c.ledger.Keeps c'.ledger
  listening : s'.listening = (s.listening && !steps.any (·.isTerminal))
  generation : s'.generation = s.generation
  decoder : c'.frameDecoder = c.frameDecoder
  records : ∀ r ∈ s'.table.records,
    r ∈ s.table.records ∨ r.id ∈ steps.filterMap SessionStep.callId?
  transport : c'.transport =
    if s.listening && steps.any (·.isTerminal) then c.transport.endGeneration s.generation
    else c.transport

theorem survives_runSession (h : c.Attends n s) (steps : List SessionStep)
    : ∃ s', Survives c (c.runSession n steps) n s s' steps := by
  -- What one step leaves of a session attends to the steps that follow.
  induction steps generalizing c s with
  | nil =>
    refine ⟨s, h, .refl _, ?_, rfl, rfl, ?_, ?_⟩
    . simp
    . intro r hr
      exact .inl hr
    . simp [runSession]
  | cons x steps ih =>
    obtain ⟨s₁, h₁⟩ := attends_sessionStep h x
    obtain ⟨s', h'⟩ := ih h₁.attends
    refine ⟨s', ?_⟩
    rw [runSession_cons]
    constructor
    . exact h'.attends
    . exact h₁.keeps.trans h'.keeps
    . rw [h'.listening, h₁.listening, List.any_cons, Bool.not_or, Bool.and_assoc]
    . rw [h'.generation, h₁.generation]
    . rw [h'.decoder, h₁.decoder]
    . intro r hr
      rcases h'.records r hr with hr | hid
      . rcases h₁.records r hr with hr | hid
        . exact .inl hr
        . rw [List.filterMap_cons_some hid]
          exact .inr List.mem_cons_self
      . apply Or.inr
        rw [List.mem_filterMap] at hid ⊢
        obtain ⟨y, hy, hid⟩ := hid
        exact ⟨y, List.mem_cons_of_mem _ hy, hid⟩
    . rw [h'.transport, h₁.transport, h₁.listening, h₁.generation, List.any_cons]
      cases s.listening <;> cases x.isTerminal <;> simp

theorem outcome?_ended (h : c.Attends n s) (hr : r ∈ s.table.records)
    : (c.ledger.disposeAll (fun _ => .fail .notConnected) s.table.records).outcome? r.call
        =
      some (.error .notConnected) := by
  apply (accounts_ended h).1.settled (r, .fail .notConnected)
  rw [List.append_nil, List.mem_reverse, List.mem_map]
  exact ⟨r, hr, rfl⟩

theorem Effect.waits (h : c.Attends n s) (he : c.Effect n s x c') (hr : r ∈ s.table.records)
    : (∃ a, x.response? c.frameDecoder = some a ∧ a.id = r.id
          ∧ c'.ledger.outcome? r.call = some (a.outcome r.method r.decoder))
      ∨ (x.isTerminal = true ∧ c'.ledger.outcome? r.call = some (.error .notConnected))
      ∨ (x.isTerminal = false ∧ (∀ a, x.response? c.frameDecoder = some a → a.id ≠ r.id)
          ∧ r ∈ (c'.table n).records) := by
  have hlisten : s.listening = true := by
    cases hl : s.listening with
    | true => rfl
    | false =>
      have hclosed := h.deaf
      rw [hl] at hclosed
      rw [h.table.empty_of_closed hclosed] at hr
      simp at hr
  have hget := (PendingTable.get?_eq_some_iff h.table).mpr ⟨hr, rfl⟩
  cases he with
  | ignored hnew hquiet hcore =>
    obtain ⟨hterm, hother⟩ := hquiet hlisten
    refine .inr (.inr ⟨hterm, ?_, ?_⟩)
    . intro a ha hid
      have hnone := hother a ha
      rw [PendingTable.resolve_eq_none_iff] at hnone
      exact hnone r hr hid.symm
    . rw [table_of_core_eq hcore, h.table_eq]
      exact hr
  | @answered _ _ a r' t hresp _ hres hcore =>
    have hperm := PendingTable.resolve_perm h.table hres
    by_cases hid : a.id = r.id
    . have hsame : r = r' := by
        have hget' := (PendingTable.resolve_eq_some_iff.mp hres).1
        rw [hid, hget] at hget'
        exact Option.some.inj hget'
      subst hsame
      refine .inl ⟨a, hresp, hid, ?_⟩
      rw [← CallRecord.outcome_disposal]
      rw [← ledger_core c', hcore]
      exact ((h.accounts.perm hperm).dispose a.disposal).settled (r, a.disposal) List.mem_cons_self
    . refine .inr (.inr ⟨SessionStep.isTerminal_of_response? hresp, ?_, ?_⟩)
      . intro b hb
        rw [hresp] at hb
        cases hb
        exact hid
      . rw [table_of_session? (session?_setTable_of_core h.session hcore)]
        rcases List.mem_cons.mp (hperm.mem_iff.mp hr) with rfl | hr
        . exact absurd (PendingTable.resolve_id hres).symm hid
        . exact hr
  | ended hterm _ hcore =>
    refine .inr (.inl ⟨hterm, ?_⟩)
    rw [← ledger_core c', hcore]
    exact outcome?_ended h hr
  | entered hreg hcore =>
    refine .inr (.inr ⟨rfl, nofun, ?_⟩)
    rw [table_of_session? (session?_setTable_of_core h.session hcore)]
    exact (PendingTable.register_perm hreg).mem_iff.mpr (List.mem_cons_of_mem _ hr)
  | refused hreg hcore =>
    refine .inr (.inr ⟨rfl, nofun, ?_⟩)
    rw [← table_core c', hcore]
    change r ∈ (c.table n).records
    rw [h.table_eq]
    exact hr

theorem outcome?_runSession_of_outcome? (h : c.Attends n s) (steps : List SessionStep) {call : Nat}
    {o : Outcome} (ho : c.ledger.outcome? call = some o)
    : (c.runSession n steps).ledger.outcome? call = some o := by
  obtain ⟨s', h'⟩ := survives_runSession h steps
  exact h'.keeps call o ho

theorem outcome?_runSession_of_mem (h : c.Attends n s) (hr : r ∈ s.table.records)
    (steps : List SessionStep)
    : (c.runSession n steps).ledger.outcome? r.call
        =
      SessionStep.fate? c.frameDecoder r.id r.method r.decoder steps := by
  induction steps generalizing c s with
  | nil => exact h.accounts.pending r hr
  | cons x steps ih =>
    obtain ⟨s₁, h₁⟩ := attends_sessionStep h x
    rw [runSession_cons]
    -- An answer and the end decide the call for good; anything else leaves it to the other steps.
    rcases (effect_sessionStep h.session x).waits h hr with hanswer | hend | hwait
    . obtain ⟨a, ha, hid, ho⟩ := hanswer
      rw [outcome?_runSession_of_outcome? h₁.attends steps ho]
      rw [← hid]
      exact (SessionStep.fate?_cons_of_answer ha).symm
    . obtain ⟨hterm, ho⟩ := hend
      rw [outcome?_runSession_of_outcome? h₁.attends steps ho]
      exact (SessionStep.fate?_cons_of_isTerminal hterm).symm
    . obtain ⟨hterm, hother, hr⟩ := hwait
      rw [h₁.attends.table_eq] at hr
      rw [ih h₁.attends hr]
      rw [h₁.decoder]
      exact (SessionStep.fate?_cons_of_other hterm hother).symm

theorem outcome?_registerCall_of_closed (h : c.Attends n s) (hclosed : s.listening = false)
    (id method : String) (decoder : ResultDecoder)
    : (c.registerCall n id method decoder).2.ledger.outcome? c.ledger.handles.length
        =
      some (.error .notConnected) := by
  have hreg : (c.table n).register (c.newRecord id method decoder) = .error .closed := by
    rw [PendingTable.register_eq_closed_iff, h.table_eq, h.deaf, hclosed]
    rfl
  rw [registerCall_of_error hreg]
  apply Ledger.outcome?_settle_self
  rw [Ledger.length_issue]
  exact Nat.lt_succ_self _

theorem mem_table_registerCall_of_open (h : c.Attends n s) (hopen : s.listening = true)
    {id : String} (hid : ∀ r ∈ s.table.records, r.id ≠ id) (method : String)
    (decoder : ResultDecoder)
    : c.newRecord id method decoder
        ∈ ((c.registerCall n id method decoder).2.table n).records := by
  have htaking : s.table.closed = false := by
    rw [h.deaf, hopen]
    rfl
  obtain ⟨t, hreg⟩ := PendingTable.exists_register (r := c.newRecord id method decoder) htaking hid
  have htable : (c.setTable n t).table n = t := table_setTable_self t h.session
  have hmem := (PendingTable.register_perm hreg).mem_iff.mpr List.mem_cons_self
  rw [← h.table_eq] at hreg
  rw [registerCall_of_ok hreg]
  change _ ∈ ((c.setTable n t).table n).records
  rw [htable]
  exact hmem

theorem outcome?_runSession_register (h : c.Attends n s) (hopen : s.listening = true)
    (hempty : s.table.records = []) (pre post : List SessionStep) (id method : String)
    (decoder : ResultDecoder) (hid : id ∉ pre.filterMap SessionStep.callId?)
    : (c.runSession n (pre ++ .register id method decoder :: post)).ledger.outcome?
          (c.runSession n pre).ledger.handles.length
        =
      if pre.any (·.isTerminal) then some (.error .notConnected)
      else SessionStep.fate? c.frameDecoder id method decoder post := by
  obtain ⟨s₁, h₁⟩ := survives_runSession h pre
  have hlisten := h₁.listening
  rw [hopen, Bool.true_and] at hlisten
  rw [runSession_append, runSession_cons]
  obtain ⟨s₂, h₂⟩ := attends_sessionStep h₁.attends (.register id method decoder)
  split
  . next hterm =>
    rw [hterm] at hlisten
    apply outcome?_runSession_of_outcome? h₂.attends post
    exact outcome?_registerCall_of_closed h₁.attends hlisten id method decoder
  . next hterm =>
    rw [Bool.not_eq_true] at hterm
    rw [hterm] at hlisten
    have hfresh : ∀ r ∈ s₁.table.records, r.id ≠ id := by
      rintro r hr rfl
      rcases h₁.records r hr with hr | hr
      . rw [hempty] at hr
        simp at hr
      . exact hid hr
    have hmem := mem_table_registerCall_of_open h₁.attends hlisten hfresh method decoder
    change _ ∈ (((c.runSession n pre).sessionStep n (.register id method decoder)).table n).records
      at hmem
    rw [h₂.attends.table_eq] at hmem
    have hfate := outcome?_runSession_of_mem h₂.attends hmem post
    rw [h₂.decoder, h₁.decoder] at hfate
    exact hfate

theorem core_sessionStep_congr {c c' : Client} (h : c.core = c'.core) (n : Nat) (x : SessionStep)
    : (c.sessionStep n x).core = (c'.sessionStep n x).core := by
  cases x with
  | event e => exact core_onEvent_congr h n e
  | hangUp => exact core_onHangUp_congr h n
  | register id method decoder => exact core_registerCall_congr h n id method decoder

theorem core_runSession_congr {c c' : Client} (h : c.core = c'.core) (n : Nat)
    (steps : List SessionStep)
    : (c.runSession n steps).core = (c'.runSession n steps).core := by
  induction steps generalizing c c' with
  | nil => exact h
  | cons x steps ih => exact ih (core_sessionStep_congr h n x)

theorem core_frame_eq (h : c.Attends n s) {f : String}
    (hf : ∀ a, c.frameDecoder.decodeResponse f = .ok a → ∀ r ∈ s.table.records, r.id ≠ a.id)
    : (c.sessionStep n (.event (.frame f))).core = c.core := by
  unfold sessionStep onEvent
  dsimp
  split
  . cases hdec : c.frameDecoder.decodeResponse f with
    | error e => exact core_onFrame_of_error hdec
    | ok a =>
      rw [core_onFrame_of_ok hdec]
      apply core_complete_of_none
      rw [PendingTable.resolve_eq_none_iff, h.table_eq]
      exact hf a hdec
  . rfl

theorem complete_table_of_some (h : c.Attends n s) {a : Response} {t : PendingTable}
    (hres : s.table.resolve a.id = some (r, t))
    : (c.complete n a).table n = t := by
  rw [← h.table_eq] at hres
  exact table_of_session? (session?_setTable_of_core h.session (core_complete_of_some hres))

theorem core_complete_complete_of_some (h : c.Attends n s) {a b : Response} (hid : a.id ≠ b.id)
    {r₁ r₂ : CallRecord} {t₁ : PendingTable} (h₁ : s.table.resolve a.id = some (r₁, t₁))
    (h₂ : s.table.get? b.id = some r₂)
    : ((c.complete n a).complete n b).core
        =
      { c.core.setTable n
          { s.table with records := s.table.records.filter (fun r => r.id ≠ a.id ∧ r.id ≠ b.id) }
        with ledger := r₂.dispose b.disposal (r₁.dispose a.disposal c.ledger) } := by
  have hres : ((c.complete n a).table n).resolve b.id = some (r₂, { s.table with
      records := s.table.records.filter (fun r => r.id ≠ a.id ∧ r.id ≠ b.id) }) := by
    rw [complete_table_of_some h h₁]
    rw [PendingTable.resolve_of_resolve_ne h₁ hid, h₂]
    rfl
  rw [core_complete_of_some hres]
  rw [← h.table_eq] at h₁
  have hledger : (c.complete n a).ledger = r₁.dispose a.disposal c.ledger := by
    rw [← ledger_core, core_complete_of_some h₁]
  rw [hledger]
  rw [core_complete_of_some h₁]
  rw [← h.table_eq]
  exact congrArg (fun c' : Client => { c' with
    ledger := r₂.dispose b.disposal (r₁.dispose a.disposal c.ledger) })
    (setTable_setTable c.core n _ _)

theorem core_complete_complete_of_none (h : c.Attends n s) {a b : Response}
    (hnone : s.table.resolve b.id = none)
    : ((c.complete n a).complete n b).core = ((c.complete n b).complete n a).core := by
  have hb : (c.complete n b).core = c.core := by
    apply core_complete_of_none
    rw [h.table_eq]
    exact hnone
  rw [core_complete_congr hb]
  apply core_complete_of_none
  cases hres : s.table.resolve a.id with
  | none =>
    rw [← h.table_eq] at hres
    rw [table_of_core_eq (core_complete_of_none hres), h.table_eq]
    exact hnone
  | some taken =>
    obtain ⟨r, t⟩ := taken
    rw [complete_table_of_some h hres]
    rw [PendingTable.resolve_eq_none_iff] at hnone ⊢
    intro r' hr'
    apply hnone r'
    exact (PendingTable.resolve_perm h.table hres).mem_iff.mpr (List.mem_cons_of_mem _ hr')

theorem core_complete_comm (h : c.Attends n s) {a b : Response} (hid : a.id ≠ b.id)
    : ((c.complete n a).complete n b).core = ((c.complete n b).complete n a).core := by
  cases h₁ : s.table.resolve a.id with
  | none => exact (core_complete_complete_of_none h h₁).symm
  | some taken₁ =>
    cases h₂ : s.table.resolve b.id with
    | none => exact core_complete_complete_of_none h h₂
    | some taken₂ =>
      obtain ⟨r₁, t₁⟩ := taken₁
      obtain ⟨r₂, t₂⟩ := taken₂
      have hget₁ := (PendingTable.resolve_eq_some_iff.mp h₁).1
      have hget₂ := (PendingTable.resolve_eq_some_iff.mp h₂).1
      -- The outcomes of different calls can be set in either order.
      have hcall : r₁.call ≠ r₂.call := by
        intro hcall
        have hr₁ := ((PendingTable.get?_eq_some_iff h.table).mp hget₁).1
        have hr₂ := ((PendingTable.get?_eq_some_iff h.table).mp hget₂).1
        have hsame := h.accounts.eq_of_call_eq hr₁ hr₂ hcall
        rw [hsame] at h₁
        exact hid ((PendingTable.resolve_id h₁).symm.trans (PendingTable.resolve_id h₂))
      rw [core_complete_complete_of_some h hid h₁ hget₂]
      rw [core_complete_complete_of_some h hid.symm h₂ hget₁]
      have hledger : r₂.dispose b.disposal (r₁.dispose a.disposal c.ledger)
          = r₁.dispose a.disposal (r₂.dispose b.disposal c.ledger) :=
        c.ledger.settle_comm hcall _ _
      rw [hledger]
      simp only [and_comm]

theorem core_sessionStep_frame (hlisten : c.isListening n = true) {f : String} {a : Response}
    (hdec : c.frameDecoder.decodeResponse f = .ok a)
    : (c.sessionStep n (.event (.frame f))).core = (c.complete n a).core := by
  unfold sessionStep onEvent
  dsimp
  rw [if_pos hlisten]
  exact core_onFrame_of_ok hdec

theorem decodeResponse_of_oversized {d : FrameDecoder} {f : String}
    (hsize : d.maxFrameSize < f.utf8ByteSize)
    : d.decodeResponse f = .error (.tooLarge f.utf8ByteSize d.maxFrameSize) := by
  unfold FrameDecoder.decodeResponse FrameDecoder.members
  rw [if_pos hsize]

theorem core_sessionStep_of_error {f : String} {e : FrameError}
    (hdec : c.frameDecoder.decodeResponse f = .error e)
    : (c.sessionStep n (.event (.frame f))).core = c.core := by
  unfold sessionStep onEvent
  dsimp
  split
  . exact core_onFrame_of_error hdec
  . rfl

theorem sessionStep_event_of_deaf (hdeaf : c.isListening n = false) (e : Event)
    : c.sessionStep n (.event e) = c := by
  unfold sessionStep onEvent
  dsimp
  rw [hdeaf]
  rfl

theorem Continues.isListening_of_frame {f : String} {s' : Session}
    (h : Continues c c' n s s' (.event (.frame f)))
    : c'.isListening n = s.listening := by
  rw [isListening_of_session? h.attends.session, h.listening]
  exact Bool.and_true _

theorem core_frames_comm (h : c.Attends n s) {f g : String}
    (hid : ∀ a b, c.frameDecoder.decodeResponse f = .ok a →
      c.frameDecoder.decodeResponse g = .ok b → a.id ≠ b.id)
    : ((c.sessionStep n (.event (.frame f))).sessionStep n (.event (.frame g))).core
        =
      ((c.sessionStep n (.event (.frame g))).sessionStep n (.event (.frame f))).core := by
  obtain ⟨sf, hf⟩ := attends_sessionStep h (.event (.frame f))
  obtain ⟨sg, hg⟩ := attends_sessionStep h (.event (.frame g))
  cases hlisten : c.isListening n with
  | false => simp only [sessionStep_event_of_deaf hlisten]
  | true =>
    have hlistenf := hf.isListening_of_frame
    have hlisteng := hg.isListening_of_frame
    rw [← isListening_of_session? h.session, hlisten] at hlistenf hlisteng
    cases hdecf : c.frameDecoder.decodeResponse f with
    | error e =>
      have hdecf' := hdecf
      rw [← hg.decoder] at hdecf'
      rw [core_sessionStep_of_error hdecf']
      exact core_sessionStep_congr (core_sessionStep_of_error hdecf) n _
    | ok a =>
      cases hdecg : c.frameDecoder.decodeResponse g with
      | error e =>
        have hdecg' := hdecg
        rw [← hf.decoder] at hdecg'
        rw [core_sessionStep_of_error hdecg']
        exact (core_sessionStep_congr (core_sessionStep_of_error hdecg) n _).symm
      | ok b =>
        have hne := hid a b hdecf hdecg
        have hframef := core_sessionStep_frame hlisten hdecf
        have hframeg := core_sessionStep_frame hlisten hdecg
        rw [← hg.decoder] at hdecf
        rw [← hf.decoder] at hdecg
        rw [core_sessionStep_frame hlistenf hdecg, core_complete_congr hframef]
        rw [core_sessionStep_frame hlisteng hdecf, core_complete_congr hframeg]
        exact core_complete_comm h hne

theorem no_waiting_after_frame (h : c.Attends n s) {g : String} {b : Response}
    (hdec : c.frameDecoder.decodeResponse g = .ok b)
    : ∀ r ∈ ((c.sessionStep n (.event (.frame g))).table n).records, r.id ≠ b.id := by
  have hresp : (SessionStep.event (.frame g)).response? c.frameDecoder = some b := by
    unfold SessionStep.response?
    dsimp
    rw [hdec]
    rfl
  intro r hr
  cases effect_sessionStep h.session (.event (.frame g)) with
  | ignored hnew hquiet hcore =>
    rw [table_of_core_eq hcore, h.table_eq] at hr
    cases hlisten : s.listening with
    | true =>
      have hnone := (hquiet hlisten).2 b hresp
      rw [PendingTable.resolve_eq_none_iff] at hnone
      exact hnone r hr
    | false =>
      have hclosed := h.deaf
      rw [hlisten] at hclosed
      rw [h.table.empty_of_closed hclosed] at hr
      simp at hr
  | @answered _ _ a r' t hresp' hlisten hres hcore =>
    rw [hresp] at hresp'
    cases hresp'
    rw [table_of_session? (session?_setTable_of_core h.session hcore)] at hr
    rw [(PendingTable.resolve_eq_some_iff.mp hres).2] at hr
    simpa using (List.mem_filter.mp hr).2
  | ended hterm hlisten hcore => simp [SessionStep.isTerminal, Event.isTerminal] at hterm

theorem core_stray_eq (h : c.Attends n s) (hempty : s.table.records = [])
    {pre : List SessionStep} {f : String} (hstray : SessionStep.Stray c.frameDecoder pre f)
    : ((c.runSession n pre).sessionStep n (.event (.frame f))).core
        =
      (c.runSession n pre).core := by
  obtain ⟨s', h'⟩ := survives_runSession h pre
  cases hstray with
  | oversized hsize =>
    rw [← h'.decoder] at hsize
    exact core_sessionStep_of_error (decodeResponse_of_oversized hsize)
  | malformed hdec =>
    rw [← h'.decoder] at hdec
    exact core_sessionStep_of_error hdec
  | @unknown a hdec hid =>
    apply core_frame_eq h'.attends
    intro b hb r hr hrb
    rw [h'.decoder, hdec] at hb
    cases hb
    rcases h'.records r hr with hr | hr
    . rw [hempty] at hr
      simp at hr
    . rw [hrb] at hr
      exact hid hr
  -- The earlier response took the records with its id, and none has entered since.
  | @repeated a b g p q hdec hfirst hid hpre hlast =>
    subst hpre
    obtain ⟨s₁, h₁⟩ := survives_runSession h p
    obtain ⟨s₂, h₂⟩ := attends_sessionStep h₁.attends (.event (.frame g))
    obtain ⟨s₃, h₃⟩ := survives_runSession h₂.attends q
    rw [← runSession_cons, ← runSession_append] at h₃
    apply core_frame_eq h₃.attends
    intro a' ha' r hr hra
    rw [h'.decoder, hdec] at ha'
    cases ha'
    rcases h₃.records r hr with hr | hr
    . rw [← h₁.decoder] at hfirst
      rw [← h₂.attends.table_eq] at hr
      exact no_waiting_after_frame h₁.attends hfirst r hr (hra.trans hid.symm)
    . rw [hra] at hr
      exact hlast hr

theorem attends_fresh (hs : c.session? n = some s) (htable : s.table = {})
    (hlisten : s.listening = true)
    : c.Attends n s := by
  constructor
  . exact hs
  . rw [htable]
    exact .empty
  . rw [htable]
    exact .empty _
  . rw [htable, hlisten]
    rfl

theorem isListening_after_terminal (h : c.Attends n s) {pre : List SessionStep}
    (hterm : pre.any (·.isTerminal) = true)
    : (c.runSession n pre).isListening n = false := by
  obtain ⟨s', h'⟩ := survives_runSession h pre
  rw [isListening_of_session? h'.attends.session, h'.listening, hterm]
  exact Bool.and_false _

theorem table_after_terminal (h : c.Attends n s) {pre : List SessionStep}
    (hterm : pre.any (·.isTerminal) = true)
    : (c.runSession n pre).table n = { records := [], closed := true } := by
  obtain ⟨s', h'⟩ := survives_runSession h pre
  have hclosed := h'.attends.deaf
  rw [h'.listening, hterm, Bool.not_true, Bool.and_false] at hclosed
  rw [h'.attends.table_eq]
  have hrecords := h'.attends.table.empty_of_closed hclosed
  cases htable : s'.table with
  | mk records closed =>
    rw [htable] at hclosed hrecords
    cases hclosed
    cases hrecords
    rfl

theorem sessionStep_of_deaf (hdeaf : c.isListening n = false) (hnew : x.callId? = none)
    : c.sessionStep n x = c := by
  cases x with
  | event e => exact sessionStep_event_of_deaf hdeaf e
  | hangUp =>
    unfold sessionStep onHangUp
    dsimp
    rw [hdeaf]
    rfl
  | register id method decoder => simp [SessionStep.callId?] at hnew

theorem transport_runSession (h : c.Attends n s) (hopen : s.listening = true)
    (steps : List SessionStep)
    : (c.runSession n steps).transport
        =
      if steps.any (·.isTerminal) then c.transport.endGeneration s.generation
      else c.transport := by
  obtain ⟨s', h'⟩ := survives_runSession h steps
  rw [h'.transport, hopen, Bool.true_and]

theorem transport_after_terminal (h : c.Attends n s) (hopen : s.listening = true)
    {steps : List SessionStep} (hterm : steps.any (·.isTerminal) = true)
    (hcurrent : c.transport.generation = s.generation)
    : (c.runSession n steps).transport
        =
      { c.transport with link := none }.setState .disconnected := by
  rw [transport_runSession h hopen, if_pos hterm, ← hcurrent, Transport.endGeneration_self]

theorem transport_of_not_ended (h : c.Attends n s) (hopen : s.listening = true)
    {steps : List SessionStep}
    (hother : steps.any (·.isTerminal) = false ∨ c.transport.generation ≠ s.generation)
    : (c.runSession n steps).transport = c.transport := by
  rw [transport_runSession h hopen]
  split
  . next hterm =>
    apply Transport.endGeneration_of_ne
    apply hother.resolve_left
    rw [hterm]
    exact nofun
  . rfl

/--
A session runs over its socket, and calls with ids of their own are registered meanwhile. The first
response with the id of a call that comes after it decides the call, unless the socket is over
before that. Other frames change nothing but the journal, and nothing depends on the order of
responses to two calls. After the end of the socket no event changes anything, the table is empty
and closed, and the client is disconnected and has no link. The connection stays as it is until
then, and for good if another socket was begun since the session's.
-/
theorem responses_decide_calls (c : Client) (n : Nat) (s : Session) (steps : List SessionStep)
    (hs : c.session? n = some s) (hopen : s.listening = true) (htable : s.table = {})
    (hids : (steps.filterMap SessionStep.callId?).Nodup)
    : (∀ (pre : List SessionStep) (id method : String) (decoder : ResultDecoder)
          (post : List SessionStep), steps = pre ++ .register id method decoder :: post →
        (c.runSession n steps).ledger.outcome? (c.runSession n pre).ledger.handles.length
          = if pre.any (·.isTerminal) then some (.error .notConnected)
            else SessionStep.fate? c.frameDecoder id method decoder post)
      ∧ (∀ (pre : List SessionStep) (f : String) (post : List SessionStep),
          steps = pre ++ .event (.frame f) :: post →
          SessionStep.Stray c.frameDecoder pre f →
          (c.runSession n (pre ++ [.event (.frame f)])).core = (c.runSession n pre).core)
      ∧ (∀ (pre : List SessionStep) (f g : String) (post : List SessionStep),
          steps = pre ++ .event (.frame f) :: .event (.frame g) :: post →
          (∀ a b, c.frameDecoder.decodeResponse f = .ok a →
            c.frameDecoder.decodeResponse g = .ok b → a.id ≠ b.id) →
          (c.runSession n (pre ++ .event (.frame g) :: .event (.frame f) :: post)).core
            = (c.runSession n steps).core)
      ∧ (∀ (pre : List SessionStep) (x : SessionStep) (post : List SessionStep),
          steps = pre ++ x :: post → pre.any (·.isTerminal) = true →
          x.callId? = none → c.runSession n (pre ++ [x]) = c.runSession n pre)
      ∧ (steps.any (·.isTerminal) = true →
          (c.runSession n steps).table n = { records := [], closed := true })
      ∧ (steps.any (·.isTerminal) = true → c.transport.generation = s.generation →
          let t := (c.runSession n steps).transport
          t.state = .disconnected ∧ t.link = none ∧ t.generation = c.transport.generation
            ∧ t.published = if c.transport.state = .disconnected then c.transport.published
              else .disconnected :: c.transport.published)
      ∧ (steps.any (·.isTerminal) = false ∨ c.transport.generation ≠ s.generation →
          (c.runSession n steps).transport = c.transport) := by
  have h := attends_fresh hs htable hopen
  have hempty : s.table.records = [] := by rw [htable]
  refine ⟨?_, ?_, ?_, ?_, fun hterm => table_after_terminal h hterm, ?_, ?_⟩
  . intro pre id method decoder post hsteps
    subst hsteps
    apply outcome?_runSession_register h hopen hempty
    have hcons : (SessionStep.register id method decoder :: post).filterMap SessionStep.callId?
        = id :: post.filterMap SessionStep.callId? := rfl
    rw [List.filterMap_append, hcons] at hids
    intro hid
    exact List.disjoint_of_nodup_append hids hid List.mem_cons_self
  . intro pre f post _ hstray
    rw [runSession_append]
    exact core_stray_eq h hempty hstray
  . intro pre f g post hsteps hne
    subst hsteps
    obtain ⟨s', h'⟩ := survives_runSession h pre
    rw [runSession_append, runSession_append]
    rw [runSession_cons, runSession_cons, runSession_cons, runSession_cons]
    rw [← h'.decoder] at hne
    exact core_runSession_congr (core_frames_comm h'.attends hne).symm n post
  . intro pre x post _ hterm hnew
    rw [runSession_append]
    exact sessionStep_of_deaf (isListening_after_terminal h hterm) hnew
  . intro hterm hcurrent
    dsimp only
    rw [transport_after_terminal h hopen hterm hcurrent, Transport.published_setState]
    refine ⟨Transport.state_setState _ _, Transport.link_setState _ _, ?_, rfl⟩
    exact Transport.generation_setState _ _
  . exact fun hother => transport_of_not_ended h hopen hother

/--
One call is answered twice, with a value and then with a fault, and one is not answered. The end of
the socket is that of the connection, unless the client is connected over another socket by then.
-/
theorem responses_decide_calls_two
    : let c : Client :=
        { settings := {}, sessions := [{ generation := 1 }], slot := some 0
          transport := { generation := 1, link := some { generation := 1 }, state := .connected } }
      let reconnected : Client :=
        { c with
          transport := { generation := 2, link := some { generation := 2 }, state := .connected } }
      let steps : List SessionStep := [
        .register "1" "version" Decoding.raw.decoder,
        .event (.frame "not JSON"),
        .register "2" "select" Decoding.raw.decoder,
        .event (.frame "\x7b\"id\":1,\"result\":7\x7d"),
        .event (.frame "\x7b\"id\":\"1\",\"error\":\x7b\"code\":5,\"message\":\"\"\x7d\x7d"),
        .event (.closed none ""),
        .event (.frame "\x7b\"id\":2\x7d")]
      ((c.runSession 0 steps).ledger.outcome? 0 matches some (.ok (.number (.int 7))))
        ∧ ((c.runSession 0 steps).ledger.outcome? 1 matches some (.error .notConnected))
        ∧ (c.runSession 0 steps).table 0 = { records := [], closed := true }
        ∧ (c.runSession 0 steps).transport.state = .disconnected
        ∧ (c.runSession 0 steps).transport.link = none
        ∧ (reconnected.runSession 0 steps).transport = reconnected.transport := by
  intro c reconnected steps
  have h := responses_decide_calls c 0 { generation := 1 } steps rfl rfl rfl (by decide)
  have hother := responses_decide_calls reconnected 0 { generation := 1 } steps rfl rfl rfl
    (by decide)
  obtain ⟨hcalls, _, _, _, hclosed, hend, _⟩ := h
  obtain ⟨_, _, _, _, _, _, hkept⟩ := hother
  have hfirst := hcalls [] "1" "version" Decoding.raw.decoder (steps.drop 1) rfl
  have hsecond := hcalls (steps.take 2) "2" "select" Decoding.raw.decoder (steps.drop 3) rfl
  have hnumber : (c.runSession 0 (steps.take 2)).ledger.handles.length = 1 := by decide +kernel
  rw [if_neg (by decide)] at hfirst hsecond
  rw [hnumber] at hsecond
  obtain ⟨hstate, hlink, _, _⟩ := hend rfl rfl
  refine ⟨?_, ?_, hclosed rfl, hstate, hlink, hkept (.inr nofun)⟩
  . change (c.runSession 0 steps).ledger.outcome? 0 = _ at hfirst
    rw [hfirst]
    decide +kernel
  . rw [hsecond]
    decide +kernel

end Client
end CallWire
