import CallWire.Proofs.Expiry
import CallWire.Proofs.Lifecycle

/-!
This module contains on which sockets the frames of calls go. A frame goes on the socket that the
connection has at the time, and a session belongs to the socket that it was started over. Between
the registration of a call and the sending of its frame the client can get another socket.
-/

namespace CallWire

/-- A frame on the socket of a generation, with the call that it is of and the call's session. -/
structure Posting where
  generation : Nat
  session : Nat
  record : CallRecord
  frame : String

namespace Transport

variable {t : Transport} {link : Link}

theorem link_of_outlet? (h : t.outlet? = some link) : t.link = some link := by
  unfold outlet? at h
  split at h
  . exact (Option.filter_eq_some_iff.mp h).1
  . cases h

end Transport

namespace Outline

variable {o : Outline} {ends : Nat → Prop} {n : Nat} {l : List Move}

theorem Settled.runsOver_of_slot (h : o.Settled ends) (hstate : o.transport.state = .connected)
    (hslot : o.slot = some n)
    : o.RunsOver n o.transport.generation := by
  obtain ⟨k, hk, hruns, _⟩ := h.served hstate
  rw [hslot] at hk
  cases hk
  exact hruns

end Outline

namespace Move

variable {c : Client} {o : Outline} {ends : Nat → Prop} {n : Nat} {l : List Move} {f : String}
variable {x : Response} {d : Disposal} {r : CallRecord}

theorem Phase.runsOver_of_slot (h : Phase o ends l) (hstate : o.transport.state = .connected)
    (hslot : o.slot = some n)
    : o.RunsOver n o.transport.generation := by
  have hempty : o.slot ≠ none := Option.ne_none_iff_exists'.mpr ⟨n, hslot⟩
  have hresting : ∀ m : Move, ¬m.RestsIn o := by
    intro m hm
    cases m with
    | replace | farewell => exact absurd (hstate.symm.trans hm) nofun
    | «open» => exact absurd (hstate.symm.trans hm.1) nofun
    | closeLink | abort => exact hempty hm.2
    | _ => exact hm
  induction h with
  | returned h => exact h.runsOver_of_slot hstate hslot
  | begun h _ => exact h.runsOver_of_slot hstate hslot
  | disposing _ ih => exact ih
  | resting _ hm => exact absurd hm (hresting _)
  | leaving _ hm => exact absurd hm (hresting _)
  | closing _ hm => exact absurd hm (hresting _)
  | dialling _ _ hnone => exact absurd hnone hempty
  | starting _ _ hnone => exact absurd hnone hempty
  | publishing _ hnone => exact absurd hnone hempty

theorem mem_of_next (hdec : c.frameDecoder.decodeResponse f = .ok x)
    (hnext : ((event n (.frame f)).run c).1 = [.dispose n d r])
    : r ∈ (c.table n).records ∧ r.id = x.id := by
  cases hlisten : c.isListening n with
  | false =>
    rw [run_event_of_deaf hlisten] at hnext
    cases hnext
  | true =>
    cases hres : (c.table n).resolve x.id with
    | none =>
      rw [run_frame_of_none hlisten (Client.takeAnswered_of_none hdec hres)] at hnext
      cases hnext
    | some taken =>
      rw [run_frame_of_some hlisten (Client.takeAnswered_of_some hdec hres)] at hnext
      cases hnext
      have hget := (PendingTable.resolve_eq_some_iff.mp hres).1
      exact ⟨List.mem_of_find?_eq_some hget, PendingTable.resolve_id hres⟩

end Move

namespace World

variable {w : World} {a : Act} {m : Move} {n generation : Nat} {p : Posting} {lock : Option Nat}

def posting? (w : World) (a : Act) : Option Posting :=
  match w.move? a with
  | some (.send n r params) =>
    w.client.transport.outlet?.map (fun link =>
      { generation := link.generation, session := n, record := r
        frame := (Move.request r params).encode })
  | _ => none

def postings (w : World) : List Act → List Posting
  | [] => []
  | a :: acts => (w.posting? a).toList ++ (w.turn a).postings acts

/-- A frame is on the socket that the session of its call runs, or ran, over. -/
def OwnSocket (w : World) (p : Posting) : Prop :=
  ∃ s, w.client.session? p.session = some s ∧ s.generation = p.generation

theorem postings_concat (w : World) (acts : List Act) (a : Act)
    : w.postings (acts ++ [a]) = w.postings acts ++ ((w.turns acts).posting? a).toList := by
  induction acts generalizing w with
  | nil => exact List.append_nil _
  | cons b acts ih =>
    rw [List.cons_append, postings, ih, postings, List.append_assoc]
    rfl

theorem turns_concat (w : World) (acts : List Act) (a : Act)
    : w.turns (acts ++ [a]) = (w.turns acts).turn a := by
  exact List.foldl_concat turn w a acts

theorem exists_of_posting? (h : w.posting? a = some p)
    : ∃ params link, w.move? a = some (.send p.session p.record params)
        ∧ w.client.transport.outlet? = some link ∧ p.generation = link.generation := by
  unfold posting? at h
  split at h
  . next n r params hmove =>
    obtain ⟨link, hlink, rfl⟩ := Option.map_eq_some_iff.mp h
    exact ⟨params, link, hmove, hlink, rfl⟩
  . cases h

theorem posting?_of_move (h : w.move? a = some m)
    : (w.posting? a).map (fun p => (p.generation, p.frame)) = m.puts w.client := by
  unfold posting?
  rw [h]
  cases m with
  | send n r params => exact Option.map_map _ _ _
  | _ => rfl

theorem sent_turn (w : World) (a : Act)
    : (w.turn a).client.sent
        =
      ((w.posting? a).map (fun p => (p.generation, p.frame))).toList ++ w.client.sent := by
  cases hmove : w.move? a with
  | none =>
    have hnone : w.posting? a = none := by
      unfold posting?
      rw [hmove]
    have hclient : (w.turn a).client = w.client := by
      rcases turn_eq_act w a with hact | hsame
      . rw [hact]
        rcases act_of_no_move hmove with ⟨_, _, hbegun⟩ | hsame
        . rw [hbegun]
          rfl
        . rw [hsame]
      . rw [hsame]
    rw [hnone, hclient]
    rfl
  | some m =>
    obtain ⟨_, _, _, _, hturn⟩ := turn_of_move hmove
    rw [posting?_of_move hmove, hturn]
    exact (m.later_run w.client).sent

theorem linked_run (settings : Settings) (acts : List Act)
    : ((start settings).run acts).client.transport.Linked := by
  apply (Sound.start settings).run_induction (P := fun w => w.client.transport.Linked)
  . exact nofun
  . exact fun _ _ _ h => h
  . exact fun w _ _ m _ _ _ h => (m.reshapes_run w.client).linked h

theorem runsOver_run (hs : w.Sound) (h : w.client.outline.RunsOver n generation) (acts : List Act)
    : (w.run acts).client.outline.RunsOver n generation := by
  apply hs.run_induction (P := fun w => w.client.outline.RunsOver n generation) h
  . exact fun _ _ _ h => h
  . exact fun w _ _ m _ _ _ h => (m.reshapes_run w.client).runsOver h

theorem Guarded.runsOver_of_current (h : w.Guarded lock) (hn : w.client.currentSession? = some n)
    : w.client.outline.RunsOver n w.client.transport.generation := by
  obtain ⟨hstate, hslot⟩ := Client.currentSession?_eq_some_iff.mp hn
  cases lock with
  | none => exact (h.free rfl).runsOver_of_slot hstate hslot
  | some i =>
    obtain ⟨_, _, _, hphase⟩ := h.taken i rfl
    exact hphase.runsOver_of_slot hstate hslot

theorem generation_of_posting? {settings : Settings} {acts : List Act}
    (h : ((start settings).run acts).posting? a = some p)
    : p.generation = ((start settings).run acts).client.transport.generation := by
  obtain ⟨_, link, _, hlink, hgeneration⟩ := exists_of_posting? h
  rw [hgeneration]
  exact linked_run settings acts link (Transport.link_of_outlet? hlink)

theorem ownSocket_iff (hruns : w.client.outline.RunsOver p.session generation)
    : w.OwnSocket p ↔ p.generation = generation := by
  obtain ⟨_, hn⟩ := hruns
  obtain ⟨s, hs, rfl, _⟩ := Client.session?_of_outline hn
  constructor
  . rintro ⟨s', hs', hgeneration⟩
    rw [hs] at hs'
    cases hs'
    exact hgeneration.symm
  . exact fun hgeneration => ⟨s, hs, hgeneration.symm⟩

theorem issues_of_posting (settings : Settings) (acts : List Act)
    : ∀ p ∈ (start settings).postings acts,
        ∃ i, ((start settings).turns acts).Issues i p.session p.record := by
  induction acts using List.reverseRecOn with
  | nil => exact nofun
  | append_singleton acts a ih =>
    intro p hp
    obtain ⟨acts', hrun⟩ := turns_eq_run (start settings) acts
    have hs := (Sound.start settings).run acts'
    have ho := (Orderly.start settings).run (.start settings) acts'
    rw [← hrun] at hs ho
    rw [postings_concat, List.mem_append] at hp
    rw [turns_concat]
    generalize (start settings).turns acts = w at hs ho hp ih
    have hissues : ∃ i, w.Issues i p.session p.record := by
      rcases hp with hp | hp
      . exact ih p hp
      . obtain ⟨params, _, hmove, _⟩ := exists_of_posting? (Option.mem_toList.mp hp)
        obtain ⟨i, done, rest, hT, _⟩ := act_of_move hmove
        have hreg := (ho.ordered _ (mem_tasks_of_getElem? hT)).register_of_send
          (List.mem_append_right _ List.mem_cons_self)
        exact ⟨i, _, hT, params, List.mem_append_left _ hreg⟩
    obtain ⟨i, hissues⟩ := hissues
    rcases turn_eq_act w a with hact | hsame
    . rw [hact]
      exact ⟨i, issues_run hs hissues [a]⟩
    . rw [hsame]
      exact ⟨i, hissues⟩

theorem misplaced_of_any {posted : List Posting}
    (h : posted.any (fun p => !(w.client.session? p.session).any (fun s =>
      s.generation == p.generation)) = true)
    : ∃ p ∈ posted, ¬w.OwnSocket p := by
  obtain ⟨p, hp, h⟩ := List.any_eq_true.mp h
  refine ⟨p, hp, ?_⟩
  rintro ⟨s, hs, hgeneration⟩
  rw [hs, Option.any_some, hgeneration, beq_self_eq_true] at h
  cases h

/--
A frame goes on the socket of the connection, whichever session its call was registered in. That is
the socket of the session just if no attempt to open another one has begun since the call found the
session. As long as all frames keep to the sockets of their sessions, a reply completes the call
whose request it answers.
-/
theorem frames_keep_to_sockets (settings : Settings) (acts : List Act)
    : let w := (start settings).turns acts
      let posted := (start settings).postings acts
      (∀ a, (w.turn a).client.sent
          = ((w.posting? a).map (fun p => (p.generation, p.frame))).toList ++ w.client.sent)
        ∧ (∀ n, w.client.currentSession? = some n → ∀ more a p,
          let w' := w.turns more
          w'.posting? a = some p → p.session = n →
            (w'.OwnSocket p ↔ w'.client.transport.generation = w.client.transport.generation))
        ∧ ((∀ p ∈ posted, w.OwnSocket p) → (∀ n, w.drawn n < 2 ^ 64 - 1) →
          ∀ n s f x d r, w.client.session? n = some s →
            w.client.frameDecoder.decodeResponse f = .ok x →
            w.next (.event n (.frame f)) = [.dispose n d r] →
            ∀ p ∈ posted, p.generation = s.generation → p.record.id = x.id →
              p.record.call = r.call) := by
  intro w posted
  obtain ⟨lock, h⟩ := (Guarded.start settings).turns (.start settings) acts
  obtain ⟨acts', hrun⟩ := turns_eq_run (start settings) acts
  have hs : w.Sound := (Sound.start settings).turns acts
  refine ⟨sent_turn w, ?_, ?_⟩
  . rintro n hn more a p w' hp rfl
    obtain ⟨more', hmore⟩ := turns_eq_run w more
    have hruns := runsOver_run hs (h.runsOver_of_current hn) more'
    have hw' : w' = (start settings).run (acts' ++ more') := by
      rw [run_append, ← hrun]
      exact hmore
    rw [← hmore] at hruns
    rw [ownSocket_iff hruns]
    rw [hw'] at hp ⊢
    rw [generation_of_posting? hp]
  . intro hown hfew n s f x d r hsession hdec hnext p hp hgeneration hid
    have ho : w.Orderly := by
      have := (Orderly.start settings).run (.start settings) acts'
      rwa [← hrun] at this
    have hcredited : w.Credited n ((start settings).handedOut n acts') := by
      have := credited_run settings acts' n
      rwa [← hrun] at this
    obtain ⟨s', hs', hgeneration'⟩ := hown p hp
    -- The frame is on the socket of the session, so that its call was issued through the session.
    have hsame : p.session = n := by
      apply h.outline.single p.session n s.generation
      . exact ⟨_, hgeneration ▸ hgeneration' ▸ Client.sessions_outline hs'⟩
      . exact ⟨_, Client.sessions_outline hsession⟩
    obtain ⟨i, hissues⟩ := issues_of_posting settings acts p hp
    rw [hsame] at hissues
    obtain ⟨hr, hrid⟩ := Move.mem_of_next hdec hnext
    have hlength : ((start settings).handedOut n acts').length < 2 ^ 64 - 1 := by
      rw [hcredited.length]
      exact hfew n
    exact congrArg Prod.fst (hcredited.eq_of_id_eq hlength (hcredited.credited i _ hissues)
      (hcredited.mem_of_table ho hr) (hid.trans hrid.symm))

/--
One call has found the session when the client gets another socket, and its frame goes there. The
reply to it completes a call of the new session.
-/
theorem frames_keep_to_sockets_reconnect
    : let net : Network :=
        { reachable := true, hosts := ["a"], port := 80, reception := .plain }
      let acts : List Act := [
        .begin (.connect (.ofSecs 15) net {}),
        .advance 0, .advance 0, .advance 0, .advance 0, .advance 0, .advance 0,
        .begin (.lookup "version" [] Decoding.raw.decoder), .advance 1, .advance 1, .advance 1,
        .begin .disconnect, .advance 2, .advance 2, .advance 2, .advance 2, .advance 2,
        .begin (.connect (.ofSecs 15) net {}),
        .advance 3, .advance 3, .advance 3, .advance 3, .advance 3, .advance 3,
        .begin (.lookup "ping" [] Decoding.raw.decoder),
        .advance 4, .advance 4, .advance 4, .advance 4,
        .advance 1]
      let reply : List Act := [
        .begin (.event 1 (.frame "\x7b\"id\":\"1\",\"result\":\"2.0\"\x7d")),
        .advance 5, .advance 5]
      let w := (start { url := "ws://a" }).turns acts
      (∃ p ∈ (start { url := "ws://a" }).postings acts, ¬w.OwnSocket p)
        ∧ (w.client.ledger.outcome? 1).isSome = false
        ∧ ((w.turns reply).client.ledger.outcome? 1).isSome = true := by
  intro net acts reply w
  exact ⟨misplaced_of_any (by decide +kernel), by decide +kernel, by decide +kernel⟩

end World
end CallWire
