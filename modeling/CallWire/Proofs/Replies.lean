import CallWire.Proofs.Course
import CallWire.Proofs.Grounds
import Mathlib.Data.List.Induction
import Mathlib.Tactic.Push

/-!
This module contains that a reply is never lost, however fast it is: the first one to a call that was
sent finds the record of the call and completes it, unless the call has failed before.
-/

namespace CallWire

namespace Move

variable {c : Client} {m x : Move} {next : List Move} {b : Books} {n : Nat} {r : CallRecord}

theorem Effect.taken_of_carries (he : m.Effect c next b)
    (hissued : r.call < c.ledger.handles.length) (hx : x ∈ next) (hcarries : x.Carries n r)
    : ∃ d, x = .dispose n d r := by
  obtain ⟨hsession, hheld⟩ := hcarries
  cases x with
  | dispose k d s =>
    rw [held, List.mem_singleton] at hheld
    cases hsession
    subst hheld
    exact ⟨d, rfl⟩
  -- The record that is to be registered is a new one.
  | register k s params =>
    rw [held, List.mem_singleton] at hheld
    subst hheld
    rw [(he.makes_of_register hx).call_eq] at hissued
    exact absurd hissued (Nat.lt_irrefl _)
  | _ => simp [held] at hheld

theorem Effect.holds_of_send {params : List Json} (he : m.Effect c next b)
    (hm : m = .register n r params) (hx : .send n r params ∈ next)
    : b.Holds n r := by
  subst hm
  cases he with
  | quiet hheld _ _ => simp [held] at hheld
  | @entered _ _ t t' _ htable hreg =>
    refine ⟨t', List.getElem?_set_self (List.getElem?_eq_some_iff.mp htable).1, ?_⟩
    exact (PendingTable.register_perm hreg).mem_iff.mpr List.mem_cons_self
  | turnedAway => simp at hx

end Move

namespace Client

variable {c : Client}

theorem putFrame_of_outlet (h : c.transport.outlet?.isSome = true) (request : Request)
    : (c.putFrame request).1 = true := by
  unfold putFrame
  dsimp
  split
  . rfl
  . next hnone =>
    have hnone : c.transport.outlet? = none := hnone
    rw [hnone] at h
    cases h

end Client

namespace World

variable {w : World} {i j n k : Nat} {done rest : List Move} {m : Move} {r s : CallRecord}
variable {T : Task} {a : Act} {f : String} {x : Response} {params : List Json}

/-- A frame arrives at a session that is listened to, and is taken as a response. -/
structure Replies (w : World) (a : Act) (n : Nat) (f : String) (x : Response) : Prop where
  move : w.move? a = some (.event n (.frame f))
  heeded : w.client.isListening n = true
  accepted : w.client.frameDecoder.decodeResponse f = .ok x

def Fails (w : World) (n : Nat) (r : CallRecord) (e : ClientError) : Prop :=
  w.client.ledger.outcome? r.call = some (.error e)
    ∨ ∃ T ∈ w.tasks, .dispose n (.fail e) r ∈ T.todo

/-- A call that waited in a session fails, since a sweep took it or since the session has ended. -/
inductive Lost (w : World) (n : Nat) (r : CallRecord) : Prop where
  | timedOut {timeout : Duration} (hfails : w.Fails n r (.requestTimeout r.method timeout))
  | ended (hclosed : ∃ t, w.client.books.tables[n]? = some t ∧ t.closed = true)
      (hfails : w.Fails n r .notConnected)

/-- What may have become of a call before its first reply. -/
def Kept (w : World) (n : Nat) (r : CallRecord) : Prop :=
  w.client.books.Holds n r ∨ w.Lost n r ∨ 2 ^ 64 < w.drawn n

theorem Sound.fails_advanced (h : w.Sound) (hT : w.tasks[i]? = some ⟨done, m :: rest⟩)
    {e : ClientError} (hr : w.Fails n r e)
    : (w.advanced i done m rest).Fails n r e := by
  rcases hr with ho | ⟨T, hT', hx⟩
  . exact .inl ((h.accounts_advanced hT).2 _ _ ho)
  . obtain ⟨j, hj⟩ := List.mem_iff_getElem?.mp hT'
    by_cases hij : i = j
    . subst hij
      rw [hT] at hj
      cases hj
      rcases List.mem_cons.mp hx with rfl | hx
      . exact .inl (h.outcome_of_dispose hT)
      . refine .inr ⟨_, List.mem_of_getElem? (getElem?_advanced_self hT), ?_⟩
        exact List.mem_append_right _ hx
    . rw [← getElem?_advanced_ne hij] at hj
      exact .inr ⟨T, List.mem_of_getElem? hj, hx⟩

theorem Sound.lost_advanced (h : w.Sound) (hT : w.tasks[i]? = some ⟨done, m :: rest⟩)
    (hr : w.Lost n r)
    : (w.advanced i done m rest).Lost n r := by
  cases hr with
  | timedOut hfails => exact .timedOut (h.fails_advanced hT hfails)
  | ended hclosed hfails =>
    obtain ⟨t, ht, hclosed⟩ := hclosed
    have hshut := (h.effect hT).closed_of_closed h.tables ht hclosed
    exact .ended hshut (h.fails_advanced hT hfails)

theorem Orderly.drawn_of_retract (h : w.Orderly) (hr : w.Issues i n r)
    (hi : w.tasks[i]? = some T) (hkept : ∀ k id, .retract k id ∉ T.moves)
    (hj : w.tasks[j]? = some ⟨done, .retract n r.id :: rest⟩)
    : 2 ^ 64 < w.drawn n := by
  have hordered := h.ordered _ (List.mem_of_getElem? hj)
  have hmem : .retract n r.id ∈ (Task.mk done (.retract n r.id :: rest)).moves :=
    List.mem_append_right _ List.mem_cons_self
  obtain ⟨s, params, hsend, hid⟩ := hordered.send_of_retract hmem
  have hreg := hordered.register_of_send (List.mem_append_left _ hsend)
  have hs : w.Issues j n s := ⟨_, hj, params, List.mem_append_left _ hreg⟩
  apply h.apart i j n r s hr hs _ hid.symm
  intro hcall
  obtain ⟨rfl, -, -⟩ := h.owned i j n n r s hr hs hcall
  rw [hj] at hi
  cases hi
  exact hkept n r.id hmem

theorem isListening_of_next {c : Client} {x : Move} (hx : x ∈ ((Move.event n (.frame f)).run c).1)
    : c.isListening n = true := by
  cases hlisten : c.isListening n with
  | true => rfl
  | false =>
    rw [Move.run_event_of_deaf hlisten] at hx
    cases hx

theorem Orderly.kept_of_holds (h : w.Orderly) (hs : w.Sound)
    (hT : w.tasks[i]? = some ⟨done, m :: rest⟩) (hmove : w.move? a = some m)
    (hr : w.client.books.Holds n r) (hissues : w.Issues j n r) (hj : w.tasks[j]? = some T)
    (hkept : ∀ k id, .retract k id ∉ T.moves)
    (hfirst : ∀ f x, w.Replies a n f x → x.id ≠ r.id)
    : (w.advanced i done m rest).Kept n r := by
  have hissued := h.issued j n r hissues
  have hfresh : ¬m.Carries n r := fun hcarries =>
    hs.call_ne (mem_tasks_of_getElem? hT) List.mem_cons_self hcarries hr rfl
  rcases (hs.effect hT).fate_of_holds hs.tables hr with ⟨x, hx, hcarries⟩ | hholds
  . obtain ⟨d, rfl⟩ := (hs.effect hT).taken_of_carries hissued hx hcarries
    have htodo : ∃ T ∈ (w.advanced i done m rest).tasks, .dispose n d r ∈ T.todo :=
      ⟨_, List.mem_of_getElem? (getElem?_advanced_self hT), List.mem_append_left _ hx⟩
    cases (hs.effect hT).warrants hx with
    | answered hdec hid =>
      exact absurd hid (hfirst _ _ ⟨hmove, isListening_of_next hx, hdec⟩)
    | expired => exact .inr (.inl (.timedOut (.inr htodo)))
    | ended => exact .inr (.inl (.ended (hs.closed_advanced hT List.mem_cons_self) (.inr htodo)))
    | unsent =>
      have hdrawn := h.drawn_of_retract hissues hj hkept hT
      exact .inr (.inr (Nat.lt_of_lt_of_le hdrawn (drawn_le_advanced hT n)))
    | refused | duplicate => exact absurd ⟨rfl, List.mem_singleton_self r⟩ hfresh
  . exact .inl hholds

theorem Orderly.kept_act (h : w.Orderly) (hs : w.Sound) (hr : w.Kept n r)
    (hissues : w.Issues j n r) (hj : w.tasks[j]? = some T)
    (hkept : ∀ k id, .retract k id ∉ T.moves)
    (hfirst : ∀ f x, w.Replies a n f x → x.id ≠ r.id)
    : (w.act a).Kept n r := by
  rcases act_cases w a with ⟨m, hm, hact⟩ | ⟨i, done, m, rest, hT, rfl, hact⟩ | hact
  . rw [hact]
    rcases hr with hholds | hlost | hdrawn
    . exact .inl hholds
    . refine .inr (.inl ?_)
      have hfails : ∀ e, w.Fails n r e → (w.begun m).Fails n r e := by
        rintro e (ho | ⟨T, hT, hx⟩)
        . exact .inl ho
        . exact .inr ⟨T, List.mem_append_left _ hT, hx⟩
      cases hlost with
      | timedOut h => exact .timedOut (hfails _ h)
      | ended hclosed h => exact .ended hclosed (hfails _ h)
    . refine .inr (.inr ?_)
      rw [drawn_begun]
      exact hdrawn
  . rw [hact]
    rcases hr with hholds | hlost | hdrawn
    . exact h.kept_of_holds hs hT (move?_of_getElem? hT) hholds hissues hj hkept hfirst
    . exact .inr (.inl (hs.lost_advanced hT hlost))
    . exact .inr (.inr (Nat.lt_of_lt_of_le hdrawn (drawn_le_advanced hT n)))
  . rw [hact]
    exact hr

theorem moves_act {y : Move} (hi : (w.act a).tasks[i]? = some T) (hy : y ∈ T.moves)
    : (∃ S, w.tasks[i]? = some S ∧ y ∈ S.moves ∧ ∀ z ∈ S.moves, z ∈ T.moves)
      ∨ y.isFirst = true
      ∨ (a = .advance i ∧ ∃ done m rest, w.tasks[i]? = some ⟨done, m :: rest⟩ ∧ y ∈ w.next m
          ∧ w.act a = w.advanced i done m rest) := by
  rcases act_cases w a with ⟨m, hm, hact⟩ | ⟨j, done, m, rest, hT, ha, hact⟩ | hact
  . rw [hact] at hi
    rcases getElem?_begun hi with hi | ⟨_, rfl⟩
    . exact .inl ⟨T, hi, hy, fun _ hz => hz⟩
    . rw [Task.moves, List.nil_append, List.mem_singleton] at hy
      subst hy
      exact .inr (.inl hm)
  . rw [hact] at hi
    by_cases hij : j = i
    . subst hij
      rw [getElem?_advanced_self hT] at hi
      cases hi
      rcases mem_moves_advanced.mp hy with hy | hy
      . exact .inl ⟨_, hT, hy, fun _ hz => mem_moves_advanced.mpr (.inl hz)⟩
      . exact .inr (.inr ⟨ha, done, m, rest, hT, hy, hact⟩)
    . rw [getElem?_advanced_ne hij] at hi
      exact .inl ⟨T, hi, hy, fun _ hz => hz⟩
  . rw [hact] at hi
    exact .inl ⟨T, hi, hy, fun _ hz => hz⟩

def Unanswered (settings : Settings) (acts : List Act) (n : Nat) (r : CallRecord) : Prop :=
  ∀ pre a post, acts = pre ++ a :: post → ((World.start settings).run pre).Issued n r →
    ∀ f x, ((World.start settings).run pre).Replies a n f x → x.id ≠ r.id

theorem Unanswered.of_append {settings : Settings} {acts more : List Act}
    (h : Unanswered settings (acts ++ more) n r)
    : Unanswered settings acts n r := by
  intro pre a post hacts
  apply h pre a (post ++ more)
  rw [hacts, List.append_assoc]
  rfl

theorem kept_run {settings : Settings} (acts : List Act)
    (hi : ((World.start settings).run acts).tasks[i]? = some T)
    (hsend : .send n r params ∈ T.moves) (hkept : ∀ k id, .retract k id ∉ T.moves)
    (hfirst : Unanswered settings acts n r)
    : ((World.start settings).run acts).Kept n r := by
  induction acts using List.reverseRecOn generalizing T with
  | nil => simp [run, World.start] at hi
  | append_singleton acts a ih =>
    have hs := (Sound.start settings).run acts
    have h := (Orderly.start settings).run (.start settings) acts
    rw [run_concat] at hi ⊢
    rcases moves_act hi hsend with ⟨S, hS, hsendS, hsub⟩ | hfirst
      | ⟨_, done, m, rest, hT, hnext, hact⟩
    . have hkeptS : ∀ k id, .retract k id ∉ S.moves := by
        intro k id hmem
        exact hkept k id (hsub _ hmem)
      have hreg := (h.ordered S (List.mem_of_getElem? hS)).register_of_send hsendS
      have hissues : ((World.start settings).run acts).Issues i n r :=
        ⟨S, hS, params, List.mem_append_left _ hreg⟩
      apply h.kept_act hs (ih hS hsendS hkeptS hfirst.of_append) hissues hS hkeptS
      apply hfirst acts a [] rfl
      exact ⟨S, List.mem_of_getElem? hS, params, List.mem_append_left _ hreg⟩
    . simp [Move.isFirst] at hfirst
    . have hfollows := (Move.follows_of_mem_run hnext (k := 3) rfl).2
      rw [hact]
      exact .inl ((hs.effect hT).holds_of_send hfollows.register_of_send hnext)

theorem getElem?_act_of_returned (hi : w.tasks[i]? = some T) (htodo : T.todo = []) (a : Act)
    : (w.act a).tasks[i]? = some T := by
  rcases act_cases w a with ⟨m, _, hact⟩ | ⟨j, done, m, rest, hT, _, hact⟩ | hact
  . rw [hact]
    exact getElem?_begun_of_old hi m
  . rw [hact, getElem?_advanced_ne]
    . exact hi
    . rintro rfl
      rw [hT] at hi
      cases hi
      simp at htodo
  . rw [hact]
    exact hi

theorem getElem?_run_of_returned (hi : w.tasks[i]? = some T) (htodo : T.todo = [])
    (acts : List Act)
    : (w.run acts).tasks[i]? = some T := by
  induction acts generalizing w with
  | nil => exact hi
  | cons a acts ih => exact ih (getElem?_act_of_returned hi htodo a)

theorem returned_of_queued (h : w.Orderly)
    (hsend : w.move? a = some (.send n r params))
    (hqueued : w.client.transport.outlet?.isSome = true)
    : ∃ (i : Nat) (T : Task), (w.act a).tasks[i]? = some T ∧ T.todo = [] ∧ .send n r params ∈ T.moves
        ∧ ∀ k id, .retract k id ∉ T.moves := by
  obtain ⟨i, done, rest, hT, hact⟩ := act_of_move hsend
  obtain ⟨halone, hearlier⟩ := (h.ordered _ (mem_tasks_of_getElem? hT)).alone _ List.mem_cons_self
    3 rfl
  have hrest : rest = [] := (List.cons.inj halone).2
  have hnext : w.next (.send n r params) = [] := by
    unfold next
    rw [Move.run_send_of_taken (Client.putFrame_of_outlet hqueued _)]
  refine ⟨i, ⟨.send n r params :: done, []⟩, ?_, rfl, ?_, ?_⟩
  . rw [hact, getElem?_advanced_self hT, hnext, hrest]
    rfl
  . exact List.mem_append_left _ List.mem_cons_self
  . intro k id hmem
    rw [Task.moves, List.append_nil] at hmem
    rcases List.mem_cons.mp hmem with hmem | hmem
    . cases hmem
    . have := hearlier _ hmem 4 rfl
      omega

theorem move?_act_of_ne (hmove : w.move? a = some m) {e : Act} (hne : e ≠ a)
    : (w.act e).move? a = some m := by
  cases a with
  | begin => cases hmove
  | advance i =>
    obtain ⟨done, rest, hT, _⟩ := advance_of_move hmove
    have hkept : (w.act e).tasks[i]? = some ⟨done, m :: rest⟩ := by
      cases e with
      | begin m' =>
        unfold act
        dsimp
        split
        . exact getElem?_begun_of_old hT m'
        . exact hT
      | advance j =>
        rcases act_advance w j with ⟨_, _, _, _, hact⟩ | hact
        . rw [hact, getElem?_advanced_ne]
          . exact hT
          . rintro rfl
            exact hne rfl
        . rw [hact]
          exact hT
    exact move?_of_getElem? hkept

theorem Sound.disposed_later (h : w.Sound) {d : Disposal}
    (hmove : w.move? a = some (.dispose n d r)) (later : List Act)
    : let v := w.run later
      (v.move? a = some (.dispose n d r) ∧ v.client.ledger.outcome? r.call = none
          ∧ (v.act a).client.ledger = v.client.ledger.settle r.call (r.outcome d))
        ∨ v.client.ledger.outcome? r.call = some (r.outcome d) := by
  induction later generalizing w with
  | nil =>
    obtain ⟨i, done, rest, hT, hact⟩ := act_of_move hmove
    refine .inl ⟨hmove, h.pending (n := n) ?_, ?_⟩
    . exact .inr ⟨_, mem_tasks_of_getElem? hT, _, List.mem_cons_self, rfl, List.mem_singleton_self r⟩
    . change (w.act a).client.ledger = _
      rw [hact]
      rfl
  | cons e later ih =>
    by_cases hea : e = a
    . subst hea
      obtain ⟨i, done, rest, hT, hact⟩ := act_of_move hmove
      apply Or.inr
      apply (h.act e).keeps_run later
      rw [hact]
      exact h.outcome_of_dispose hT
    . exact ih (h.act e) (move?_act_of_ne hmove hea)

theorem Sound.taken_of_holds (h : w.Sound) (hreply : w.Replies a n f x) (hid : x.id = r.id)
    (hr : w.client.books.Holds n r)
    : (w.act a).client.ledger = w.client.ledger
      ∧ (w.act a).client.journal = .incoming f :: w.client.journal
      ∧ (w.act a).move? a = some (.dispose n x.disposal r) := by
  obtain ⟨t, ht, hmem⟩ := hr
  have hget := (PendingTable.get?_eq_some_iff (h.tables.table ht)).mpr ⟨hmem, hid.symm⟩
  have hres := PendingTable.resolve_eq_some_iff.mpr ⟨hget, rfl⟩
  rw [← Client.table_of_tables ht] at hres
  have hrun := Move.run_frame_of_some hreply.heeded
    (Client.takeAnswered_of_some hreply.accepted hres)
  cases a with
  | begin => cases hreply.move
  | advance i =>
    obtain ⟨done, rest, hT, hact⟩ := advance_of_move hreply.move
    have hnew := getElem?_advanced_self hT
    unfold next at hnew
    rw [hrun] at hnew
    refine ⟨?_, ?_, ?_⟩
    . rw [hact, World.advanced, hrun]
      rfl
    . rw [hact, World.advanced, hrun]
      rfl
    . rw [hact]
      exact move?_of_getElem? hnew

theorem dropped_of_unknown (hmove : w.move? a = some (.event n (.frame f)))
    (hdec : w.client.frameDecoder.decodeResponse f = .ok x)
    (hgone : ∀ r ∈ (w.client.table n).records, r.id ≠ x.id)
    : (w.act a).client.core = w.client.core ∧ w.next (.event n (.frame f)) = [] := by
  obtain ⟨i, done, rest, _, hact⟩ := act_of_move hmove
  have hres := PendingTable.resolve_eq_none_iff.mpr hgone
  rw [hact, advanced, next]
  cases hlisten : w.client.isListening n with
  | false =>
    rw [Move.run_event_of_deaf hlisten]
    exact ⟨rfl, rfl⟩
  | true =>
    rw [Move.run_frame_of_none hlisten (Client.takeAnswered_of_none hdec hres)]
    exact ⟨rfl, rfl⟩

theorem holds_of_mem_table (hr : r ∈ (w.client.table n).records) : w.client.books.Holds n r := by
  cases hs : w.client.session? n with
  | none =>
    unfold Client.table at hr
    rw [hs] at hr
    simp at hr
  | some s =>
    rw [Client.table_of_session? hs] at hr
    exact ⟨s.table, Client.tables_getElem? hs, hr⟩

theorem Orderly.unknown_of_issued (h : w.Orderly) (hissues : w.Issues i n r) {id : String}
    (hid : id = r.id) (hgone : ∀ s ∈ (w.client.table n).records, r.call ≠ s.call)
    : (∀ s ∈ (w.client.table n).records, s.id ≠ id)
      ∨ (∃ s ∈ (w.client.table n).records, s.id = id) ∧ 2 ^ 64 < w.drawn n := by
  by_cases hunknown : ∀ s ∈ (w.client.table n).records, s.id ≠ id
  . exact .inl hunknown
  . push Not at hunknown
    obtain ⟨s, hs, hsid⟩ := hunknown
    refine .inr ⟨⟨s, hs, hsid⟩, ?_⟩
    obtain ⟨j, hj⟩ := h.waiting n s (.inl (holds_of_mem_table hs))
    apply h.apart i j n r s hissues hj (hgone s hs)
    rw [hsid, hid]

theorem Fails.call_ne (h : w.Sound) {e : ClientError} (hr : w.Fails n r e)
    (hs : s ∈ (w.client.table n).records)
    : r.call ≠ s.call := by
  intro hcall
  rcases hr with ho | ⟨T, hT, hx⟩
  . rw [hcall, h.pending (.inl (holds_of_mem_table hs))] at ho
    cases ho
  . exact h.call_ne hT hx ⟨rfl, List.mem_singleton_self r⟩ (holds_of_mem_table hs) hcall

theorem Orderly.dropped_of_lost (h : w.Orderly) (hs : w.Sound) (hreply : w.Replies a n f x)
    (hid : x.id = r.id) (hissues : w.Issues i n r) (hr : w.Lost n r)
    : ((w.act a).client.core = w.client.core ∧ w.next (.event n (.frame f)) = [])
      ∨ 2 ^ 64 < w.drawn n := by
  have hgone : ∀ s ∈ (w.client.table n).records, r.call ≠ s.call := by
    intro s hmem
    cases hr with
    | timedOut hfails => exact hfails.call_ne hs hmem
    | ended _ hfails => exact hfails.call_ne hs hmem
  apply (h.unknown_of_issued hissues hid hgone).imp _ And.right
  exact dropped_of_unknown hreply.move hreply.accepted

def isSilent (w : World) : List Act → Bool
  | [] => true
  | a :: acts =>
    (match w.move? a with
    | some (.event _ (.frame _)) => false
    | _ => true) && (w.act a).isSilent acts

theorem move?_of_isSilent {acts pre post : List Act} (h : w.isSilent acts = true)
    (hacts : acts = pre ++ a :: post) (n : Nat) (f : String)
    : (w.run pre).move? a ≠ some (.event n (.frame f)) := by
  induction pre generalizing w acts with
  | nil =>
    subst hacts
    intro hmove
    change w.move? a = _ at hmove
    rw [List.nil_append, isSilent, hmove] at h
    cases h
  | cons b pre ih =>
    subst hacts
    rw [List.cons_append, isSilent, Bool.and_eq_true] at h
    exact ih h.2 rfl

/--
Any number of operations go on move by move, in any order. The frame of a call is put on a socket,
and at any later time a response with the id of the call comes in, the first one since the call was
issued. It finds the record of the call in the table and takes it out, and the same operation goes on
to complete the call with what it says: whenever it does so this call is settled, for good, and no
other one. The reply does nothing, and nothing follows from it, if the call has timed out or its
session has ended before. Only if the ids of the session have come round since can the record have
been taken back by another call.
-/
theorem first_reply_completes (settings : Settings) (pre mid : List Act) (a b : Act)
    (hsend : ((World.start settings).run pre).move? a = some (.send n r params))
    (hqueued : ((World.start settings).run pre).client.transport.outlet?.isSome = true)
    (hreply : ((World.start settings).run (pre ++ a :: mid)).Replies b n f x) (hid : x.id = r.id)
    (hfirst : Unanswered settings (pre ++ a :: mid) n r)
    : let w := (World.start settings).run (pre ++ a :: mid)
      (w.client.books.Holds n r
          ∧ (w.act b).client.ledger = w.client.ledger
          ∧ (w.act b).client.journal = .incoming f :: w.client.journal
          ∧ (w.act b).move? b = some (.dispose n x.disposal r)
          ∧ ∀ later,
            let v := (w.act b).run later
            (v.move? b = some (.dispose n x.disposal r) ∧ v.client.ledger.outcome? r.call = none
                ∧ (v.act b).client.ledger
                  = v.client.ledger.settle r.call (x.outcome r.method r.decoder))
              ∨ v.client.ledger.outcome? r.call = some (x.outcome r.method r.decoder))
        ∨ (w.Lost n r ∧ (w.act b).client.core = w.client.core ∧ w.next (.event n (.frame f)) = [])
        ∨ 2 ^ 64 < w.drawn n := by
  intro w
  have hs : w.Sound := (Sound.start settings).run _
  have h : w.Orderly := (Orderly.start settings).run (.start settings) _
  obtain ⟨i, T, hi, htodo, hmem, hkept⟩ := returned_of_queued
    ((Orderly.start settings).run (.start settings) pre) hsend hqueued
  have hi : w.tasks[i]? = some T := by
    have := getElem?_run_of_returned hi htodo mid
    rw [← run_cons, ← run_append] at this
    exact this
  have hreg := (h.ordered T (List.mem_of_getElem? hi)).register_of_send hmem
  have hissues : w.Issues i n r := ⟨T, hi, params, List.mem_append_left _ hreg⟩
  rcases kept_run _ hi hmem hkept hfirst with hholds | hlost | hdrawn
  . obtain ⟨hledger, hjournal, hmove⟩ := hs.taken_of_holds hreply hid hholds
    refine .inl ⟨hholds, hledger, hjournal, hmove, ?_⟩
    rw [← CallRecord.outcome_disposal]
    exact (hs.act b).disposed_later hmove
  . rcases h.dropped_of_lost hs hreply hid hissues hlost with hdropped | hdrawn
    . exact .inr (.inl ⟨hlost, hdropped⟩)
    . exact .inr (.inr hdrawn)
  . exact .inr (.inr hdrawn)

def sendsCall (call : Nat) (id : String) : Move → Bool
  | .send 0 r [] => r.call = call && r.id = id
  | _ => false

def takesFrame (f : String) : Move → Bool
  | .event 0 (.frame g) => g = f
  | _ => false

theorem move?_of_takesFrame (h : (w.move? a).any (takesFrame f) = true)
    : w.move? a = some (.event 0 (.frame f)) := by
  revert h
  cases w.move? a with
  | none => simp
  | some m =>
    rw [Option.any_some]
    unfold takesFrame
    split
    . intro hf
      rw [of_decide_eq_true hf]
    . simp

/--
Two calls are issued at once. The one that draws its id second is sent first, and its reply comes in
before the other one is in the table. The other one enters the table before the call is completed.
-/
theorem first_reply_completes_fast
    : let settings : Settings := { url := "ws://a" }
      let net : Network :=
        { reachable := true, hosts := ["a"], port := 80, reception := .plain }
      let f := "\x7b\"id\":\"2\",\"result\":null\x7d"
      let pre : List Act := [
        .begin (.connect (.ofSecs 15) net {}),
        .advance 0, .advance 0, .advance 0, .advance 0, .advance 0, .advance 0,
        .begin (.lookup "version" [] Decoding.raw.decoder),
        .begin (.lookup "ping" [] Decoding.nothing.decoder),
        .advance 1, .advance 2, .advance 2, .advance 1, .advance 1]
      let w := (World.start settings).run (pre ++ .advance 1 :: [.begin (.event 0 (.frame f))])
      let v := (w.act (.advance 3)).run [.advance 2]
      ∃ r, ((World.start settings).run pre).move? (.advance 1) = some (.send 0 r [])
        ∧ w.client.books.Holds 0 r
        ∧ v.client.ledger.outcome? 1 = none
        ∧ (v.act (.advance 3)).client.ledger
          = v.client.ledger.settle 1 (({ id := "2" } : Response).outcome r.method r.decoder) := by
  intro settings net f pre w v
  have hcall : (((World.start settings).run pre).move? (.advance 1)).any (sendsCall 1 "2")
      = true := by
    decide +kernel
  have hmove : (w.move? (.advance 3)).any (takesFrame f) = true := by decide +kernel
  have hread : FrameDecoder.decodeResponse {} "\x7b\"id\":\"2\",\"result\":null\x7d"
      = .ok { id := "2" } := by
    decide +kernel
  have hdecoder : w.client.frameDecoder = {} := by decide +kernel
  have hsilent : (World.start settings).isSilent (pre ++ .advance 1 :: [.begin (.event 0 (.frame f))])
      = true := by
    decide +kernel
  have hpending : v.client.ledger.outcome? 1 = none := by decide +kernel
  have hnext : (w.next (.event 0 (.frame f))).isEmpty = false := by decide +kernel
  have hdrawn : w.drawn 0 = 2 := by decide +kernel
  have hqueued : ((World.start settings).run pre).client.transport.outlet?.isSome = true := by
    decide +kernel
  have hheeded : w.client.isListening 0 = true := by decide +kernel
  cases hsend : ((World.start settings).run pre).move? (.advance 1) with
  | none =>
    rw [hsend] at hcall
    cases hcall
  | some m =>
    rw [hsend, Option.any_some] at hcall
    unfold sendsCall at hcall
    split at hcall
    . next r =>
      rw [Bool.and_eq_true] at hcall
      have hone : r.call = 1 := of_decide_eq_true hcall.1
      have hid : r.id = "2" := of_decide_eq_true hcall.2
      have hreply : w.Replies (.advance 3) 0 f { id := "2" } :=
        ⟨move?_of_takesFrame hmove, hheeded, hdecoder ▸ hread⟩
      have h := first_reply_completes settings pre [.begin (.event 0 (.frame f))] (.advance 1)
        (.advance 3) hsend hqueued hreply hid.symm (by
          intro earlier e later hacts _ g y hearlier
          exact absurd hearlier.move (move?_of_isSilent hsilent hacts 0 g))
      dsimp only at h
      have hw : (World.start settings).run (pre ++ .advance 1 :: [.begin (.event 0 (.frame f))])
          = w := rfl
      rw [hw] at h
      clear_value w
      rcases h with ⟨hholds, _, _, _, hlater⟩ | ⟨_, _, hnone⟩ | hround
      . rcases hlater [.advance 2] with ⟨_, _, hsettled⟩ | ho
        . rw [hone] at hsettled
          exact ⟨r, rfl, hholds, hpending, hsettled⟩
        . rw [hone] at ho
          rw [ho] at hpending
          cases hpending
      . rw [hnone] at hnext
        cases hnext
      . rw [hdrawn] at hround
        omega
    . cases hcall

end World
end CallWire
