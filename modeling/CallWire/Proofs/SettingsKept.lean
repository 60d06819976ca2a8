import CallWire.Proofs.Interleaving

/-!
This module contains that a client keeps its settings: nothing that it does changes them. Its clock
goes on, and never back, and no frames but those of calls are put on sockets.
-/

namespace CallWire

namespace Client

/-- A client comes after another one and has put some frames on sockets since, the newest first. -/
structure Later (c : Client) (frames : List (Nat × String)) (c' : Client) : Prop where
  settings : c'.settings = c.settings
  now : c.now.nanos ≤ c'.now.nanos
  sent : c'.sent = frames ++ c.sent

variable {c c' : Client} {frames : List (Nat × String)}

theorem Later.refl (c : Client) : c.Later [] c := ⟨rfl, Nat.le_refl _, rfl⟩

theorem Later.trans {c'' : Client} (h : c.Later frames c') (h' : c'.Later [] c'')
    : c.Later frames c'' := by
  exact ⟨h'.settings.trans h.settings, Nat.le_trans h.now h'.now, h'.sent.trans h.sent⟩

theorem Later.tell (h : c.Later frames c') (e : Notice) : c.Later frames (c'.tell e) :=
  ⟨h.settings, h.now, h.sent⟩

theorem later_of_core_eq (h : c.core = c'.core) : c.Later [] c' := by
  constructor
  . change c'.core.settings = c.core.settings
    rw [h]
  . have hnow : c.core.now = c'.core.now := by rw [h]
    exact Nat.le_of_eq (congrArg Duration.nanos hnow)
  . change c'.core.sent = c.core.sent
    rw [h]

theorem later_setTransport (c : Client) (t : Transport) : c.Later [] (c.setTransport t) := by
  unfold setTransport
  dsimp
  split <;> exact ⟨rfl, Nat.le_refl _, rfl⟩

theorem later_dialServer (c : Client) (generation : Nat) (route : Route) (timeout : Duration)
    (net : Network)
    : c.Later [] (c.dialServer generation route timeout net).2 := by
  unfold dialServer
  generalize hseen : (if net.isAbsent route then c.tell (.absent c.settings.url) else c) = seen
  have hlater : c.Later [] seen := by
    rw [← hseen]
    split <;> exact ⟨rfl, Nat.le_refl _, rfl⟩
  dsimp
  have hset := hlater.trans (later_setTransport seen
    (seen.transport.settleOpening generation (net.dial route timeout)).2)
  split <;> exact ⟨hset.settings, Nat.le_trans hset.now (Nat.le_add_right _ _), hset.sent⟩

@[simp]
theorem settings_warnAll (c : Client) (messages : List String)
    : (messages.foldl (fun c message => c.warn (.insecure message)) c).settings = c.settings := by
  induction messages generalizing c with
  | nil => rfl
  | cons message messages ih => exact ih (c.warn (.insecure message))

theorem later_warnAll (c : Client) (messages : List String)
    : c.Later [] (messages.foldl (fun c message => c.warn (.insecure message)) c) := by
  induction messages generalizing c with
  | nil => exact .refl c
  | cons message messages ih =>
    have hlater := ih (c.warn (.insecure message))
    exact ⟨hlater.settings, hlater.now, hlater.sent⟩

theorem later_closeLink (c : Client) : c.Later [] c.closeLink := by
  have hlater := later_setTransport c c.transport.close.2
  unfold closeLink
  dsimp
  split
  . exact hlater.tell .closing
  . exact hlater

theorem later_takeAnswered (c : Client) (n : Nat) (f : String)
    : c.Later [] (c.takeAnswered n f).2 := by
  unfold takeAnswered
  dsimp
  split
  . exact ⟨rfl, Nat.le_refl _, rfl⟩
  . split <;> exact ⟨rfl, Nat.le_refl _, rfl⟩

theorem later_takeExpired (c : Client) (n : Nat) (timeout : Duration)
    : c.Later [] (c.takeExpired n timeout).2 := by
  cases hclosed : (c.table n).closed with
  | true =>
    rw [Move.takeExpired_of_shut hclosed]
    exact .refl c
  | false =>
    have hcore := (Move.takeExpired_of_open timeout hclosed).2
    have hlater : (c.setTable n ((c.table n).takeExpired c.now timeout).2).Later []
        (c.takeExpired n timeout).2 := later_of_core_eq hcore.symm
    exact ⟨hlater.settings, hlater.now, hlater.sent⟩

theorem later_putFrame (c : Client) (request : Request)
    : c.Later
        (c.transport.outlet?.map (fun link => (link.generation, request.encode))).toList
        (c.putFrame request).2 := by
  have houtlet : (c.note (.outgoing request.encode)).transport.outlet? = c.transport.outlet? := rfl
  unfold putFrame
  dsimp only
  rw [houtlet]
  cases c.transport.outlet? with
  | none => exact ⟨rfl, Nat.le_refl _, rfl⟩
  | some link => exact ⟨rfl, Nat.le_refl _, rfl⟩

@[simp]
theorem settings_endSession (c : Client) : c.endSession.settings = c.settings := by
  unfold endSession
  split
  . rfl
  . rw [closeTable_eq]
    rfl

end Client

namespace Move

def puts (m : Move) (c : Client) : Option (Nat × String) :=
  match m with
  | .send _ r params =>
    c.transport.outlet?.map (fun link => (link.generation, (request r params).encode))
  | _ => none

theorem later_send (n : Nat) (r : CallRecord) (params : List Json) (c : Client)
    : c.Later ((send n r params).puts c).toList ((send n r params).run c).2 := by
  have hput := Client.later_putFrame c (request r params)
  cases htaken : (c.putFrame (request r params)).1 with
  | true =>
    rw [run_send_of_taken htaken]
    exact hput.tell _
  | false =>
    rw [run_send_of_left htaken]
    exact hput

theorem later_run (m : Move) (c : Client) : c.Later (m.puts c).toList (m.run c).2 := by
  cases m with
  | dial generation route timeout net =>
    have hdialled := Client.later_dialServer c generation route timeout net
    change c.Later [] _
    unfold run
    dsimp
    split
    . next hdial => simpa [hdial] using hdialled
    . next hdial => simpa [hdial] using hdialled
  | event k e =>
    change c.Later [] _
    unfold run
    dsimp
    split
    . cases e with
      | frame f =>
        have htaken := Client.later_takeAnswered c k f
        dsimp
        split
        . next hframe => simpa [hframe] using htaken
        . next hframe => simpa [hframe] using htaken
      | closed | failed => exact ⟨rfl, Nat.le_refl _, rfl⟩
    . exact ⟨rfl, Nat.le_refl _, rfl⟩
  | prepare =>
    unfold run Client.drawId
    dsimp
    split <;> exact ⟨rfl, Nat.le_refl _, rfl⟩
  | send n r params => exact later_send n r params c
  | lookup | register | retract | hangUp | connect | disconnect | replace | drop =>
    unfold run
    dsimp
    split <;> exact ⟨rfl, Nat.le_refl _, rfl⟩
  | endGeneration n =>
    unfold run
    dsimp
    split
    . exact ⟨rfl, Nat.le_refl _, rfl⟩
    . exact Client.later_setTransport c _
  | «open» =>
    have hwarned := Client.later_warnAll c c.settings.routeWarnings
    unfold run
    dsimp
    split
    . exact hwarned
    . exact (hwarned.trans (Client.later_setTransport _ _)).tell _
  | sweep k =>
    unfold run
    dsimp
    split
    . exact ⟨rfl, Nat.le_refl _, rfl⟩
    . exact Client.later_takeExpired c k _
  | closeLink => exact Client.later_closeLink c
  | elapse d => exact ⟨rfl, Nat.le_add_right _ _, rfl⟩
  | dispose | close | farewell | startSession | publish | stopWriting | abort | forget =>
    exact ⟨rfl, Nat.le_refl _, rfl⟩

theorem settings_run (m : Move) (c : Client) : (m.run c).2.settings = c.settings := by
  exact (m.later_run c).settings

end Move

namespace World

theorem settings_run (settings : Settings) (acts : List Act)
    : ((start settings).run acts).client.settings = settings := by
  apply (Sound.start settings).run_induction (P := fun w => w.client.settings = settings)
  . rfl
  . exact fun _ _ _ h => h
  . intro w i done m rest _ _ h
    exact (m.settings_run w.client).trans h

end World
end CallWire
