import CallWire.Proofs.SettingsKept

/-!
This module contains the grounds on which the calls of a session end: an operation that has a record
in its hands to dispose of it has made a move that calls for this.
-/

namespace CallWire

namespace Move

/--
A move on account of which a record of a session is disposed of. It is a duplicate only if `twice`
holds, which stands for what lets an id come twice.
-/
inductive Warrants (c : Client) (twice : Prop) (n : Nat) (r : CallRecord)
    : Move → Disposal → Prop where
  | answered {f : String} {a : Response} (hdec : c.frameDecoder.decodeResponse f = .ok a)
      (hid : a.id = r.id)
      : Warrants c twice n r (.event n (.frame f)) a.disposal
  | expired {timeout : Duration} (htimeout : c.settings.requestTimeout = some timeout)
      (hold : timeout.nanos ≤ (r.elapsed c.now).nanos)
      : Warrants c twice n r (.sweep n) (.fail (.requestTimeout r.method timeout))
  | ended : Warrants c twice n r (.close n) (.fail .notConnected)
  | unsent : Warrants c twice n r (.retract n r.id) (.fail .notConnected)
  | refused (params : List Json) : Warrants c twice n r (.register n r params) (.fail .notConnected)
  | duplicate (params : List Json) (htwice : twice)
      : Warrants c twice n r (.register n r params) (.fail (.duplicateCallId r.id))

variable {c c' : Client} {m : Move} {n : Nat} {r : CallRecord} {d : Disposal} {p q : Prop}
variable {frames : List (Nat × String)}

theorem Warrants.later (h : m.Warrants c p n r d) (hlater : c.Later frames c') (hpq : p → q)
    : m.Warrants c' q n r d := by
  cases h with
  | answered hdec hid =>
    have hsame : c'.frameDecoder = c.frameDecoder := by
      unfold Client.frameDecoder
      rw [hlater.settings]
    rw [← hsame] at hdec
    exact .answered hdec hid
  | expired htimeout hold =>
    rw [← hlater.settings] at htimeout
    apply Warrants.expired htimeout
    have := hlater.now
    unfold CallRecord.elapsed at hold ⊢
    dsimp at hold ⊢
    omega
  | ended => exact .ended
  | unsent => exact .unsent
  | refused params => exact .refused params
  | duplicate params htwice => exact .duplicate params (hpq htwice)

theorem Effect.warrants {next : List Move} {b : Books} (he : Effect c m next b)
    (hx : .dispose n d r ∈ next)
    : m.Warrants c (m.Carries n r ∧ ∃ other, c.books.Holds n other ∧ other.id = r.id) n r d := by
  cases he with
  | quiet hheld _ hnext =>
    have := hnext _ hx
    simp [held] at this
  | refused | forgotten | disposed => simp at hx
  | started | prepared | entered => simp at hx
  | @turnedAway k r' t why params htable hreg =>
    rw [List.mem_singleton] at hx
    cases hx
    cases why with
    | closed => exact .refused params
    | duplicate =>
      obtain ⟨_, other, hmem, hid⟩ := PendingTable.register_eq_duplicate_iff.mp hreg
      exact .duplicate params ⟨⟨rfl, List.mem_singleton_self _⟩, other, ⟨t, htable, hmem⟩, hid⟩
  | retracted htable hres =>
    rw [List.mem_singleton] at hx
    cases hx
    rw [← PendingTable.resolve_id hres]
    exact .unsent
  | answered hdec htable hres =>
    rw [List.mem_singleton] at hx
    cases hx
    exact .answered hdec (PendingTable.resolve_id hres).symm
  | expired htimeout htable =>
    obtain ⟨r', hr', heq⟩ := List.mem_map.mp hx
    cases heq
    exact .expired htimeout (PendingTable.elapsed_of_mem_takeExpired hr')
  | closed htable =>
    obtain ⟨r', _, heq⟩ := List.mem_map.mp hx
    cases heq
    exact .ended

end Move

namespace World

variable {w : World} {i n : Nat} {done rest : List Move} {m : Move} {r : CallRecord} {T : Task}
variable {d : Disposal}

def Grounds (w : World) (done : List Move) (n : Nat) (r : CallRecord) (d : Disposal) : Prop :=
  ∃ m ∈ done, m.Warrants w.client (2 ^ 64 < w.drawn n) n r d

def Grounded (w : World) : Prop :=
  ∀ T ∈ w.tasks, ∀ n d r, .dispose n d r ∈ T.todo → w.Grounds T.done n r d

theorem Grounds.advanced (hT : w.tasks[i]? = some ⟨done, m :: rest⟩) {made made' : List Move}
    (h : w.Grounds made n r d) (hmade : made ⊆ made')
    : (w.advanced i done m rest).Grounds made' n r d := by
  obtain ⟨x, hx, hwarrants⟩ := h
  refine ⟨x, hmade hx, hwarrants.later (m.later_run w.client) ?_⟩
  exact fun htwice => Nat.lt_of_lt_of_le htwice (drawn_le_advanced hT n)

theorem Sound.round_of_carries (h : w.Sound) (hT : w.tasks[i]? = some ⟨done, m :: rest⟩)
    (hr : m.Carries n r) {other : CallRecord} (hother : w.client.books.Holds n other)
    (hid : other.id = r.id)
    : 2 ^ 64 < w.drawn n := by
  have hmem := mem_tasks_of_getElem? hT
  have hne := h.call_ne hmem List.mem_cons_self hr hother
  exact h.apart n r other (.inr ⟨_, hmem, m, List.mem_cons_self, hr⟩) (.inl hother) hne hid.symm

theorem Sound.grounds_of_next (h : w.Sound) (hT : w.tasks[i]? = some ⟨done, m :: rest⟩)
    (hx : .dispose n d r ∈ w.next m)
    : (w.advanced i done m rest).Grounds (m :: done) n r d := by
  refine ⟨m, List.mem_cons_self, ?_⟩
  apply ((h.effect hT).warrants hx).later (m.later_run w.client)
  rintro ⟨hcarries, other, hholds, hid⟩
  have hround := h.round_of_carries hT hcarries hholds hid
  exact Nat.lt_of_lt_of_le hround (drawn_le_advanced hT n)

theorem Grounded.advanced (hg : w.Grounded) (h : w.Sound)
    (hT : w.tasks[i]? = some ⟨done, m :: rest⟩)
    : (w.advanced i done m rest).Grounded := by
  intro T hT' n d r hx
  rcases mem_tasks_advanced hT' with rfl | hT'
  . rcases List.mem_append.mp hx with hx | hx
    . exact h.grounds_of_next hT hx
    . have hgrounds := hg _ (mem_tasks_of_getElem? hT) n d r (List.mem_cons_of_mem _ hx)
      exact hgrounds.advanced hT (List.subset_cons_self _ _)
  . exact (hg T hT' n d r hx).advanced hT (List.Subset.refl _)

theorem Grounded.begun (hg : w.Grounded) (hm : m.isFirst = true) : (w.begun m).Grounded := by
  intro T hT n d r hx
  rcases mem_tasks_begun hT with hT | rfl
  . obtain ⟨x, hx, hwarrants⟩ := hg T hT n d r hx
    refine ⟨x, hx, ?_⟩
    rw [drawn_begun]
    exact hwarrants
  . rw [← List.mem_singleton.mp hx] at hm
    simp [Move.isFirst] at hm

theorem grounded_run (settings : Settings) (acts : List Act)
    : ((start settings).run acts).Grounded := by
  apply (Sound.start settings).run_induction (P := Grounded)
  . intro T hT
    simp [start] at hT
  . exact fun _ _ hm hg => hg.begun hm
  . exact fun _ _ _ _ _ hs hT hg => hg.advanced hs hT

end World
end CallWire
