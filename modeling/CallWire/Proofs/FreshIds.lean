import CallWire.Proofs.Replies
import CallWire.Proofs.SessionEnd

/-!
This module contains that the ids of a session do not collide while fewer of them are drawn than
there are words of 64 bits: whatever calls are made and settled meanwhile, and in whatever order, an
id belongs for good to the call that drew it.
-/

namespace CallWire

theorem Response.outcome_ne_error {method : String} {e : ClientError}
    (hserver : ∀ code message, e ≠ .ofServer code message)
    (hdecode : ∀ source, e ≠ .decode method source) (a : Response) (decoder : ResultDecoder)
    : a.outcome method decoder ≠ .error e := by
  unfold Response.outcome
  cases a.fault with
  | some fault =>
    intro heq
    exact hserver fault.code fault.message (Except.error.inj heq).symm
  | none =>
    dsimp only
    split
    . exact nofun
    . next source _ =>
      intro heq
      exact hdecode source (Except.error.inj heq).symm

namespace CallIds

theorem name_after {k : Nat} (h : k + 1 < 2 ^ 64) : (after k).draw.1 = (k + 1).repr := by
  unfold after draw name
  dsimp only
  rw [UInt64.toNat_ofNat', Nat.mod_eq_of_lt (by omega), Nat.add_comm]

theorem issued_after {count : Nat} (h : count + 1 < 2 ^ 64)
    : (after count).issued.toNat = count := by
  unfold issued after base
  dsimp only
  rw [UInt64.ofNat_add, UInt64.add_comm]
  rw [show UInt64.ofNat 1 = 1 from rfl, UInt64.add_sub_cancel]
  rw [UInt64.toNat_ofNat', Nat.mod_eq_of_lt (by omega)]

end CallIds

namespace Ledger

def labels (l : Ledger) : List (Option String) := l.handles.map Handle.id

variable (l : Ledger)

@[simp]
theorem labels_issue (id : Option String) : (l.issue id).2.labels = l.labels ++ [id] := by
  simp [labels, issue]

@[simp]
theorem labels_settle (call : Nat) (o : Outcome) : (l.settle call o).labels = l.labels := by
  apply Client.map_modify_same
  exact fun _ => rfl

@[simp]
theorem labels_forget (call : Nat) : (l.forget call).labels = l.labels := by
  apply Client.map_modify_same
  exact fun _ => rfl

@[simp]
theorem labels_dispose (r : CallRecord) (x : Disposal) : (r.dispose x l).labels = l.labels := by
  exact l.labels_settle _ _

end Ledger

namespace Move

variable {c : Client} {m : Move} {next : List Move} {b : Books} {n : Nat} {r : CallRecord}

theorem Effect.labels_grow (he : m.Effect c next b) : c.ledger.labels <+: b.ledger.labels := by
  cases he with
  | refused => simp [Client.refuseCall]
  | prepared => simp
  | forgotten => simp
  | disposed => simp
  | quiet | started | entered | turnedAway | retracted | answered | expired | closed =>
    exact List.prefix_refl _

theorem Effect.label_of_makes (he : m.Effect c next b) (hr : m.Makes c n r)
    : b.ledger.labels[r.call]? = some (some r.id) := by
  obtain ⟨method, params, decoder, ids, rfl, hids, rfl⟩ := hr
  cases he with
  | quiet _ hdraws _ => simp [draws] at hdraws
  | prepared _ _ _ hids' =>
    rw [hids] at hids'
    cases hids'
    have hlength : c.ledger.handles.length = c.ledger.labels.length := (List.length_map _).symm
    change (c.ledger.issue (some ids.draw.1)).2.labels[c.ledger.handles.length]? = _
    rw [Ledger.labels_issue, hlength]
    exact List.getElem?_concat_length

end Move

namespace World

variable {w : World} {i n : Nat} {done rest : List Move} {m : Move} {r : CallRecord} {a : Act}

/-- The handle and the id of the call that an act draws in a session, if it draws one. -/
def handOut? (w : World) (n : Nat) (a : Act) : Option (Nat × String) :=
  match w.move? a with
  | some (.prepare k _ _ _) =>
    if k = n then some (w.client.ledger.handles.length, (w.client.drawId n).1) else none
  | _ => none

def handedOut (w : World) (n : Nat) : List Act → List (Nat × String)
  | [] => []
  | a :: acts => (w.handOut? n a).toList ++ (w.act a).handedOut n acts

theorem handedOut_concat (w : World) (n : Nat) (acts : List Act) (a : Act)
    : w.handedOut n (acts ++ [a]) = w.handedOut n acts ++ ((w.run acts).handOut? n a).toList := by
  induction acts generalizing w with
  | nil => exact List.append_nil _
  | cons b acts ih =>
    rw [List.cons_append, handedOut, ih, handedOut, run_cons, List.append_assoc]

theorem act_of_no_move (h : w.move? a = none)
    : (∃ m, m.isFirst = true ∧ w.act a = w.begun m) ∨ w.act a = w := by
  rcases act_cases w a with hbegun | ⟨i, done, m, rest, hT, rfl, hact⟩ | hsame
  . exact .inl hbegun
  . rw [move?_of_getElem? hT] at h
    cases h
  . exact .inr hsame

theorem Sound.handOut?_of_move (h : w.Sound) (hT : w.tasks[i]? = some ⟨done, m :: rest⟩)
    (hmove : w.move? a = some m) (n : Nat)
    : (∃ r, m.Makes w.client n r ∧ w.handOut? n a = some (r.call, r.id))
      ∨ (m.draws n = false ∧ w.handOut? n a = none) := by
  unfold handOut?
  rw [hmove]
  cases m with
  | prepare k method params decoder =>
    by_cases hk : k = n
    . subst hk
      obtain ⟨s, hs⟩ := h.known_session (mem_tasks_of_getElem? hT)
        (List.mem_append_right _ List.mem_cons_self) k rfl
      have hids := Client.counters_getElem? hs
      refine .inl ⟨_, ⟨method, params, decoder, s.ids, rfl, hids, rfl⟩, ?_⟩
      rw [(Client.books_drawId hs).1]
      exact if_pos rfl
    . exact .inr ⟨decide_eq_false hk, if_neg hk⟩
  | _ => exact .inr ⟨rfl, rfl⟩

/-- What is true of the calls that drew an id in a session, and of all that were issued through it. -/
structure Credited (w : World) (n : Nat) (given : List (Nat × String)) : Prop where
  ids : given.map Prod.snd = (List.range (w.drawn n)).map (fun k => (CallIds.after k).draw.1)
  issued : ∀ d ∈ given, ∃ i r, w.Issues i n r ∧ (r.call, r.id) = d
  credited : ∀ i r, w.Issues i n r → (r.call, r.id) ∈ given
  labelled : ∀ d ∈ given, w.client.ledger.labels[d.1]? = some (some d.2)

variable {given : List (Nat × String)}

theorem Credited.begun (h : w.Credited n given) (hm : m.isFirst = true)
    : (w.begun m).Credited n given := by
  constructor
  . rw [drawn_begun]
    exact h.ids
  . intro d hd
    obtain ⟨i, r, hr, heq⟩ := h.issued d hd
    exact ⟨i, r, issues_begun m hr, heq⟩
  . intro i r hr
    exact h.credited i r (issues_of_begun hm hr)
  . exact h.labelled

theorem Credited.label_advanced (h : w.Credited n given) (hs : w.Sound)
    (hT : w.tasks[i]? = some ⟨done, m :: rest⟩) {d : Nat × String} (hd : d ∈ given)
    : (w.advanced i done m rest).client.ledger.labels[d.1]? = some (some d.2) := by
  obtain ⟨more, hmore⟩ := (hs.effect hT).labels_grow
  have hold := h.labelled d hd
  have hlt := (List.getElem?_eq_some_iff.mp hold).1
  change (w.advanced i done m rest).client.books.ledger.labels[d.1]? = _
  rw [← hmore, List.getElem?_append_left hlt]
  exact hold

theorem Credited.advanced_made (h : w.Credited n given) (hs : w.Sound)
    (hT : w.tasks[i]? = some ⟨done, m :: rest⟩) (hmakes : m.Makes w.client n r)
    : (w.advanced i done m rest).Credited n (given ++ [(r.call, r.id)]) := by
  have heffect := hs.effect hT
  obtain ⟨hid, hdraws⟩ := hs.id_of_makes hmakes
  constructor
  . rw [drawn_advanced hT, hdraws, if_pos rfl, List.range_succ]
    rw [List.map_append, List.map_append, h.ids]
    simp [hid]
  . intro d hd
    rcases List.mem_append.mp hd with hd | hd
    . obtain ⟨j, s, hissues, heq⟩ := h.issued d hd
      exact ⟨j, s, issues_mono hT hissues, heq⟩
    . obtain ⟨params, hreg⟩ := heffect.register_of_makes hmakes
      refine ⟨i, r, ⟨_, getElem?_advanced_self hT, params, ?_⟩, (List.mem_singleton.mp hd).symm⟩
      exact mem_moves_advanced.mpr (.inr hreg)
  . intro j s hissues
    rcases issues_advanced hs hT hissues with hissues | ⟨_, hmakes'⟩
    . exact List.mem_append_left _ (h.credited j s hissues)
    . rw [(hmakes'.eq hmakes).2]
      exact List.mem_append_right _ (List.mem_singleton_self _)
  . intro d hd
    rcases List.mem_append.mp hd with hd | hd
    . exact h.label_advanced hs hT hd
    . rw [List.mem_singleton.mp hd]
      exact heffect.label_of_makes hmakes

theorem Credited.advanced_other (h : w.Credited n given) (hs : w.Sound)
    (hT : w.tasks[i]? = some ⟨done, m :: rest⟩) (hdraws : m.draws n = false)
    : (w.advanced i done m rest).Credited n given := by
  constructor
  . rw [drawn_advanced hT, hdraws, if_neg Bool.false_ne_true]
    exact h.ids
  . intro d hd
    obtain ⟨j, s, hissues, heq⟩ := h.issued d hd
    exact ⟨j, s, issues_mono hT hissues, heq⟩
  . intro j s hissues
    rcases issues_advanced hs hT hissues with hissues | ⟨_, hmakes⟩
    . exact h.credited j s hissues
    . rw [(hs.id_of_makes hmakes).2] at hdraws
      cases hdraws
  . exact fun d hd => h.label_advanced hs hT hd

theorem Credited.start (settings : Settings) (n : Nat) : (start settings).Credited n [] := by
  constructor
  . rfl
  . exact nofun
  . rintro i r ⟨T, hT, _⟩
    simp [World.start] at hT
  . exact nofun

theorem credited_run (settings : Settings) (acts : List Act) (n : Nat)
    : ((start settings).run acts).Credited n ((start settings).handedOut n acts) := by
  induction acts using List.reverseRecOn with
  | nil => exact .start settings n
  | append_singleton acts a ih =>
    have hs := (Sound.start settings).run acts
    rw [run_concat, handedOut_concat]
    generalize (start settings).run acts = w at ih hs
    cases hmove : w.move? a with
    | none =>
      have hnone : w.handOut? n a = none := by
        unfold handOut?
        rw [hmove]
      rw [hnone, Option.toList_none, List.append_nil]
      rcases act_of_no_move hmove with ⟨m, hm, hact⟩ | hact
      . rw [hact]
        exact ih.begun hm
      . rw [hact]
        exact ih
    | some m =>
      obtain ⟨i, done, rest, hT, hact⟩ := act_of_move hmove
      rw [hact]
      rcases hs.handOut?_of_move hT hmove n with ⟨r, hmakes, hgiven⟩ | ⟨hdraws, hnone⟩
      . rw [hgiven]
        exact ih.advanced_made hs hT hmakes
      . rw [hnone, Option.toList_none, List.append_nil]
        exact ih.advanced_other hs hT hdraws

theorem Credited.length (h : w.Credited n given) : given.length = w.drawn n := by
  have hlength := congrArg List.length h.ids
  rw [List.length_map, List.length_map, List.length_range] at hlength
  exact hlength

theorem Sound.issued (h : w.Sound) (hfew : w.drawn n < 2 ^ 64 - 1) {s : Session}
    (hs : w.client.session? n = some s)
    : s.ids.issued.toNat = w.drawn n := by
  rw [h.counters n s.ids (Client.counters_getElem? hs)]
  exact CallIds.issued_after (by omega)

theorem Credited.decimal (h : w.Credited n given) (hfew : given.length < 2 ^ 64 - 1)
    : given.map Prod.snd = (List.range given.length).map (fun k => (k + 1).repr) := by
  rw [h.ids, h.length]
  apply List.map_congr_left
  intro k hk
  rw [h.length] at hfew
  rw [List.mem_range] at hk
  exact CallIds.name_after (by omega)

theorem Credited.ids_nodup (h : w.Credited n given) (hfew : given.length < 2 ^ 64 - 1)
    : (given.map Prod.snd).Nodup := by
  rw [h.ids]
  rw [h.length] at hfew
  apply List.Nodup.map_on _ List.nodup_range
  intro j hj k hk heq
  rw [List.mem_range] at hj hk
  rcases Nat.lt_trichotomy j k with hlt | hjk | hlt
  . have := CallIds.le_of_draw_eq hlt heq
    omega
  . exact hjk
  . have := CallIds.le_of_draw_eq hlt heq.symm
    omega

theorem Credited.eq_of_id_eq (h : w.Credited n given) (hfew : given.length < 2 ^ 64 - 1)
    {d e : Nat × String} (hd : d ∈ given) (he : e ∈ given) (hid : d.2 = e.2)
    : d = e := by
  exact List.inj_on_of_nodup_map (h.ids_nodup hfew) hd he hid

theorem Credited.mem_of_table (h : w.Credited n given) (ho : w.Orderly)
    (hr : r ∈ (w.client.table n).records)
    : (r.call, r.id) ∈ given := by
  obtain ⟨i, hissues⟩ := ho.waiting n r (.inl (holds_of_mem_table hr))
  exact h.credited i r hissues

theorem Credited.register_ne_duplicate (h : w.Credited n given) (hs : w.Sound) (ho : w.Orderly)
    (hfew : given.length < 2 ^ 64 - 1) {params : List Json}
    (hmove : w.move? a = some (.register n r params))
    : (w.client.table n).register r ≠ .error .duplicate := by
  intro hdup
  obtain ⟨i, done, rest, hT, _⟩ := act_of_move hmove
  obtain ⟨_, s, hmem, hid⟩ := PendingTable.register_eq_duplicate_iff.mp hdup
  have hissues : w.Issues i n r := ⟨_, hT, params, List.mem_append_right _ List.mem_cons_self⟩
  have hsame := h.eq_of_id_eq hfew (h.credited i r hissues) (h.mem_of_table ho hmem) hid.symm
  have hcarries : (Move.register n r params).Carries n r := ⟨rfl, List.mem_singleton_self r⟩
  have hne := hs.call_ne (mem_tasks_of_getElem? hT) List.mem_cons_self hcarries
    (holds_of_mem_table hmem)
  exact hne (congrArg Prod.fst hsame)

/-- A reply with the id of a call that is not in the table any more does nothing. -/
theorem Credited.dropped_of_late_reply (h : w.Credited n given) (ho : w.Orderly)
    (hfew : given.length < 2 ^ 64 - 1) {call : Nat} {f : String} {x : Response}
    (hmove : w.move? a = some (.event n (.frame f)))
    (hdec : w.client.frameDecoder.decodeResponse f = .ok x) (hcall : (call, x.id) ∈ given)
    (hgone : ∀ r ∈ (w.client.table n).records, r.call ≠ call)
    : (w.act a).client.core = w.client.core ∧ w.next (.event n (.frame f)) = [] := by
  apply dropped_of_unknown hmove hdec
  intro r hr hid
  have hsame := h.eq_of_id_eq hfew (h.mem_of_table ho hr) hcall hid
  exact hgone r hr (congrArg Prod.fst hsame)

theorem drawn_le_run (w : World) (acts : List Act) (n : Nat) : w.drawn n ≤ (w.run acts).drawn n := by
  induction acts generalizing w with
  | nil => exact Nat.le_refl _
  | cons a acts ih =>
    refine Nat.le_trans ?_ (ih (w.act a))
    rcases act_cases w a with ⟨m, _, hact⟩ | ⟨i, done, m, rest, hT, _, hact⟩ | hact
    . exact Nat.le_of_eq (by rw [hact, drawn_begun])
    . rw [hact]
      exact drawn_le_advanced hT n
    . exact Nat.le_of_eq (by rw [hact])

theorem outcome_ne_duplicate {settings : Settings} (acts : List Act)
    (hfew : ((start settings).run acts).drawn n < 2 ^ 64 - 1)
    (hr : ((start settings).run acts).Issued n r) (id : String)
    : ((start settings).run acts).client.ledger.outcome? r.call
        ≠ some (.error (.duplicateCallId id)) := by
  rcases waits_of_issued acts hr with hwaits | ⟨pre, a, post, o, rfl, _, hsettles, hlater⟩
  . rw [((Sound.start settings).run acts).pending hwaits]
    exact nofun
  . rw [hlater post]
    intro heq
    obtain ⟨i, done, d, rest, rfl, _, ⟨m, _, hwarrants⟩, rfl⟩ := hsettles
    cases hwarrants with
    | answered hdec hid =>
      rw [CallRecord.outcome_disposal] at heq
      apply Response.outcome_ne_error _ _ _ _ (Option.some.inj heq)
      . simp [ClientError.ofServer]
      . simp
    | expired | ended | unsent | refused => cases heq
    | duplicate params hround =>
      have hle := drawn_le_run ((start settings).run pre) (.advance i :: post) n
      rw [← run_append] at hle
      omega

/--
Any number of operations go on move by move, in any order, and in one session fewer ids are drawn
than would come round. Then the ids are the numbers from one on, in the order of the draws, and no
two of them are the same. Each record in the table is that of the call that drew its id, whose handle
bears the id. No record is refused for its id, and a reply to a call that has left the table does
nothing, and nothing follows from it.
-/
theorem ids_never_collide (settings : Settings) (acts : List Act) (n : Nat)
    (hfew : ((start settings).handedOut n acts).length < 2 ^ 64 - 1)
    : let w := (start settings).run acts
      let given := (start settings).handedOut n acts
      (given.map Prod.snd).Nodup
        ∧ given.map Prod.snd = (List.range given.length).map (fun k => (k + 1).repr)
        ∧ (∀ s, w.client.session? n = some s → s.ids.issued.toNat = given.length)
        ∧ (∀ r ∈ (w.client.table n).records, (r.call, r.id) ∈ given)
        ∧ (∀ d ∈ given, w.client.ledger.labels[d.1]? = some (some d.2))
        ∧ (∀ a r params, w.move? a = some (.register n r params) →
          (w.client.table n).register r ≠ .error .duplicate)
        ∧ (∀ d ∈ given, ∀ id,
          w.client.ledger.outcome? d.1 ≠ some (.error (.duplicateCallId id)))
        ∧ ∀ d ∈ given, (∀ r ∈ (w.client.table n).records, r.call ≠ d.1) →
          ∀ a f x, w.move? a = some (.event n (.frame f)) →
            w.client.frameDecoder.decodeResponse f = .ok x → x.id = d.2 →
            (w.act a).client.core = w.client.core ∧ w.next (.event n (.frame f)) = [] := by
  intro w given
  have hs : w.Sound := (Sound.start settings).run acts
  have ho : w.Orderly := (Orderly.start settings).run (.start settings) acts
  have h : w.Credited n given := credited_run settings acts n
  have hdrawn : w.drawn n < 2 ^ 64 - 1 := h.length ▸ hfew
  refine ⟨h.ids_nodup hfew, h.decimal hfew, ?_, ?_, h.labelled, ?_, ?_, ?_⟩
  . intro s hsession
    rw [hs.issued hdrawn hsession, h.length]
  . intro r hr
    exact h.mem_of_table ho hr
  . intro a r params hmove
    exact h.register_ne_duplicate hs ho hfew hmove
  . intro d hd id
    obtain ⟨i, r, ⟨T, hT, params, hreg⟩, rfl⟩ := h.issued d hd
    exact outcome_ne_duplicate acts hdrawn ⟨T, mem_tasks_of_getElem? hT, params, hreg⟩ id
  . intro d hd hgone a f x hmove hdec hid
    exact h.dropped_of_late_reply ho hfew hmove hdec (hid ▸ hd) hgone

/-- Two calls draw their ids at once. The first id is answered twice, and the second reply is late. -/
theorem ids_never_collide_late_reply
    : let settings : Settings := { url := "ws://a" }
      let net : Network :=
        { reachable := true, hosts := ["a"], port := 80, reception := .plain }
      let f := "\x7b\"id\":\"1\",\"result\":null\x7d"
      let acts : List Act := [
        .begin (.connect (.ofSecs 15) net {}),
        .advance 0, .advance 0, .advance 0, .advance 0, .advance 0, .advance 0,
        .begin (.lookup "version" [] Decoding.raw.decoder),
        .begin (.lookup "ping" [] Decoding.nothing.decoder),
        .advance 1, .advance 2, .advance 2, .advance 1, .advance 1, .advance 1,
        .advance 2, .advance 2,
        .begin (.event 0 (.frame f)), .advance 3, .advance 3, .begin (.event 0 (.frame f))]
      (start settings).handedOut 0 acts = [(0, "1"), (1, "2")]
        ∧ (((start settings).run acts).client.table 0).records.map (·.id) = ["2"]
        ∧ (((start settings).run acts).act (.advance 4)).client.core
            = ((start settings).run acts).client.core
        ∧ ((start settings).run acts).next (.event 0 (.frame f)) = [] := by
  intro settings net f acts
  have hgiven : (start settings).handedOut 0 acts = [(0, "1"), (1, "2")] := by decide +kernel
  have htable : (((start settings).run acts).client.table 0).records.map (·.id) = ["2"] := by
    decide +kernel
  have hgone : (((start settings).run acts).client.table 0).records.all (·.call ≠ 0) = true := by
    decide +kernel
  have hmove : (((start settings).run acts).move? (.advance 4)).any (takesFrame f) = true := by
    decide +kernel
  have hread : FrameDecoder.decodeResponse {} "\x7b\"id\":\"1\",\"result\":null\x7d"
      = .ok { id := "1" } := by
    decide +kernel
  have hdecoder : ((start settings).run acts).client.frameDecoder = {} := by decide +kernel
  have hfew : ((start settings).handedOut 0 acts).length < 2 ^ 64 - 1 := by
    rw [hgiven]
    decide
  obtain ⟨_, _, _, _, _, _, _, hlate⟩ := ids_never_collide settings acts 0 hfew
  refine ⟨hgiven, htable, hlate (0, "1") ?_ ?_ _ f { id := "1" } (move?_of_takesFrame hmove) ?_ rfl⟩
  . rw [hgiven]
    exact List.mem_cons_self
  . intro r hr
    exact of_decide_eq_true (List.all_eq_true.mp hgone r hr)
  . rw [hdecoder]
    exact hread

end World
end CallWire
