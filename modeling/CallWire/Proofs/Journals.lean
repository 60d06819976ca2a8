import CallWire.Proofs.Interleaving

/-!
This module contains what the journal of a client is to it: entries are added to it, and nothing
that the client does depends on those that are there.
-/

namespace CallWire

namespace Client

def onto (older : List JournalEntry) (c : Client) : Client :=
  { c with journal := c.journal ++ older }

variable {older : List JournalEntry}

theorem onto_core (c : Client) : c.core.onto c.journal = c := rfl

section

variable (c : Client) (n : Nat)

@[simp]
theorem settings_onto : (c.onto older).settings = c.settings := rfl

@[simp]
theorem transport_onto : (c.onto older).transport = c.transport := rfl

@[simp]
theorem slot_onto : (c.onto older).slot = c.slot := rfl

@[simp]
theorem now_onto : (c.onto older).now = c.now := rfl

@[simp]
theorem session?_onto : (c.onto older).session? n = c.session? n := rfl

@[simp]
theorem table_onto : (c.onto older).table n = c.table n := rfl

@[simp]
theorem isListening_onto : (c.onto older).isListening n = c.isListening n := rfl

@[simp]
theorem currentSession?_onto : (c.onto older).currentSession? = c.currentSession? := rfl

@[simp]
theorem isConnected_onto : (c.onto older).isConnected = c.isConnected := rfl

@[simp]
theorem frameDecoder_onto : (c.onto older).frameDecoder = c.frameDecoder := rfl

@[simp]
theorem note_onto (e : JournalEntry) : (c.onto older).note e = (c.note e).onto older := rfl

@[simp]
theorem warn_onto (w : Warning) : (c.onto older).warn w = (c.warn w).onto older := rfl

@[simp]
theorem tell_onto (e : Notice) : (c.onto older).tell e = (c.tell e).onto older := rfl

@[simp]
theorem modifySession_onto (f : Session → Session)
    : (c.onto older).modifySession n f = (c.modifySession n f).onto older := by
  rfl

@[simp]
theorem setTable_onto (t : PendingTable)
    : (c.onto older).setTable n t = (c.setTable n t).onto older := by
  rfl

@[simp]
theorem stopListening_onto : (c.onto older).stopListening n = (c.stopListening n).onto older := rfl

@[simp]
theorem setTransport_onto (t : Transport)
    : (c.onto older).setTransport t = (c.setTransport t).onto older := by
  unfold setTransport onto
  dsimp only
  split <;> rfl

@[simp]
theorem closeLink_onto : (c.onto older).closeLink = c.closeLink.onto older := by
  simp only [closeLink, transport_onto, setTransport_onto]
  split <;> rfl

theorem foldl_onto {α : Type} {f : Client → α → Client}
    (h : ∀ c a, f (c.onto older) a = (f c a).onto older) (l : List α)
    : l.foldl f (c.onto older) = (l.foldl f c).onto older := by
  induction l generalizing c with
  | nil => rfl
  | cons a l ih => rw [List.foldl_cons, List.foldl_cons, h, ih]

@[simp]
theorem failAll_onto (error : CallRecord → ClientError) (rs : List CallRecord)
    : (c.onto older).failAll error rs = (c.failAll error rs).onto older := by
  exact foldl_onto c (fun _ _ => rfl) rs

@[simp]
theorem closeTable_onto : (c.onto older).closeTable n = (c.closeTable n).onto older := by
  rw [closeTable_eq, closeTable_eq]
  rfl

@[simp]
theorem onEnd_onto : (c.onto older).onEnd n = (c.onEnd n).onto older := by
  unfold onEnd
  rw [session?_onto]
  cases c.session? n with
  | none => rfl
  | some s =>
    dsimp only
    rw [modifySession_onto, closeTable_onto, transport_onto, setTransport_onto]

theorem takeAnswered_onto (frame : String)
    : (c.onto older).takeAnswered n frame
        =
      ((c.takeAnswered n frame).1, (c.takeAnswered n frame).2.onto older) := by
  simp only [takeAnswered, note_onto, frameDecoder_onto, table_onto]
  cases (c.note _).frameDecoder.decodeResponse frame with
  | error error => rfl
  | ok a =>
    dsimp only
    cases ((c.note _).table n).resolve a.id <;> rfl

@[simp]
theorem onFrame_onto (frame : String)
    : (c.onto older).onFrame n frame = (c.onFrame n frame).onto older := by
  unfold onFrame
  rw [takeAnswered_onto]
  cases c.takeAnswered n frame with
  | mk taken c' => cases taken <;> rfl

@[simp]
theorem onEvent_onto (e : Event)
    : (c.onto older).onEvent n e = (c.onEvent n e).onto older := by
  cases hlisten : c.isListening n with
  | false => simp only [onEvent, isListening_onto, hlisten, Bool.false_eq_true, if_false]
  | true =>
    simp only [onEvent, isListening_onto, hlisten, if_true]
    cases e <;> simp

theorem takeExpired_onto (timeout : Duration)
    : (c.onto older).takeExpired n timeout
        =
      ((c.takeExpired n timeout).1, (c.takeExpired n timeout).2.onto older) := by
  unfold takeExpired
  rw [table_onto]
  split
  . rfl
  . dsimp only
    rw [now_onto, foldl_onto c (fun _ _ => rfl), setTable_onto]

@[simp]
theorem drawId_onto
    : (c.onto older).drawId n = ((c.drawId n).1, (c.drawId n).2.onto older) := by
  simp only [drawId, session?_onto]
  split <;> rfl

@[simp]
theorem putFrame_onto (request : Request)
    : (c.onto older).putFrame request
        =
      ((c.putFrame request).1, (c.putFrame request).2.onto older) := by
  simp only [putFrame, note_onto, transport_onto]
  split <;> rfl

@[simp]
theorem dialServer_onto (generation : Nat) (route : Route) (timeout : Duration) (net : Network)
    : (c.onto older).dialServer generation route timeout net
        =
      ((c.dialServer generation route timeout net).1,
        (c.dialServer generation route timeout net).2.onto older) := by
  unfold dialServer
  dsimp only [settings_onto, tell_onto]
  rw [← apply_ite (onto older)]
  generalize (if net.isAbsent route then c.tell _ else c) = c'
  dsimp only [transport_onto]
  rw [setTransport_onto]
  cases (c'.transport.settleOpening generation (net.dial route timeout)).1 <;> rfl

end
end Client

namespace Move

variable {older : List JournalEntry}

theorem run_onto (m : Move) (c : Client)
    : m.run (c.onto older) = ((m.run c).1, (m.run c).2.onto older) := by
  cases m with
  | lookup method params decoder =>
    simp only [run, Client.currentSession?_onto]
    cases c.currentSession? <;> rfl
  | prepare n method params decoder =>
    simp only [run, Client.drawId_onto]
    rfl
  | register n r params =>
    simp only [run, Client.table_onto]
    cases (c.table n).register r <;> rfl
  | send n r params =>
    simp only [run, Client.putFrame_onto]
    split <;> rfl
  | retract n id =>
    simp only [run, Client.table_onto]
    split <;> rfl
  | dispose n d r => rfl
  | event n e =>
    cases hlisten : c.isListening n with
    | false => simp only [run, Client.isListening_onto, hlisten, Bool.false_eq_true, if_false]
    | true =>
      simp only [run, Client.isListening_onto, hlisten, if_true]
      cases e with
      | frame f =>
        dsimp only
        rw [Client.takeAnswered_onto]
        cases c.takeAnswered n f with
        | mk taken c' => cases taken <;> rfl
      | closed | failed => simp
  | hangUp n =>
    cases hlisten : c.isListening n with
    | false => simp only [run, Client.isListening_onto, hlisten, Bool.false_eq_true, if_false]
    | true => simp only [run, Client.isListening_onto, hlisten, if_true, Client.stopListening_onto]
  | sweep n =>
    simp only [run, Client.settings_onto]
    cases c.settings.requestTimeout with
    | none => rfl
    | some timeout =>
      dsimp only
      rw [Client.takeExpired_onto]
  | close n => rfl
  | endGeneration n =>
    simp only [run, Client.session?_onto]
    split <;> simp
  | disconnect =>
    simp only [run, Client.slot_onto]
    split <;> rfl
  | closeLink => simp [run]
  | farewell n => rfl
  | connect deadline net files =>
    cases hconnected : c.isConnected with
    | false => simp only [run, Client.isConnected_onto, hconnected, Bool.false_eq_true, if_false]
    | true => simp only [run, Client.isConnected_onto, hconnected, if_true]
  | replace deadline net files =>
    simp only [run, Client.slot_onto]
    split <;> rfl
  | «open» deadline net files =>
    dsimp only [run, Client.settings_onto, Client.now_onto]
    rw [Client.foldl_onto c (fun _ _ => rfl)]
    generalize c.settings.routeWarnings.foldl _ c = c'
    dsimp only [Client.settings_onto, Client.transport_onto]
    rw [Client.setTransport_onto]
    cases c'.settings.route files <;> rfl
  | dial generation route timeout net =>
    dsimp only [run]
    rw [Client.dialServer_onto]
    cases c.dialServer generation route timeout net with
    | mk opened c' => cases opened <;> rfl
  | startSession generation => rfl
  | publish n => rfl
  | stopWriting => rfl
  | drop =>
    simp only [run, Client.slot_onto]
    split <;> rfl
  | abort => rfl
  | elapse d => rfl
  | forget call => rfl

end Move

def JournalEntry.isUnreadable : JournalEntry → Bool
  | .warning .unreadable => true
  | _ => false

namespace Client

def heard (c : Client) : Client :=
  { c with journal := c.journal.filter (!·.isUnreadable) }

variable {c c' : Client}

theorem heard_onto (older : List JournalEntry) (c : Client)
    : (c.onto older).heard = c.heard.onto (older.filter (!·.isUnreadable)) := by
  unfold heard onto
  dsimp only
  rw [List.filter_append]

@[simp]
theorem core_heard (c : Client) : c.heard.core = c.core := rfl

theorem core_of_heard_eq (h : c.heard = c'.heard) : c.core = c'.core := by
  rw [← core_heard, h, core_heard]

/-- What two clients do that differ in such warnings only differs in such warnings only. -/
theorem heard_congr {f : Client → Client}
    (hf : ∀ older c, f (c.onto older) = (f c).onto older) (h : c.heard = c'.heard)
    : (f c).heard = (f c').heard := by
  rw [← onto_core c, ← onto_core c', core_of_heard_eq h, hf, hf, heard_onto, heard_onto]
  exact congrArg (fun j => (f c'.core).heard.onto j) (congrArg journal h)

def framesSeen (c : Client) : List String := c.journal.filterMap JournalEntry.incoming?

theorem framesSeen_heard (c : Client) : c.heard.framesSeen = c.framesSeen := by
  unfold framesSeen heard
  dsimp only
  rw [List.filterMap_filter]
  apply List.filterMap_congr
  intro e _
  cases e with
  | warning w => cases w <;> rfl
  | _ => rfl

theorem framesSeen_of_heard_eq (h : c.heard = c'.heard) : c.framesSeen = c'.framesSeen := by
  rw [← framesSeen_heard, h, framesSeen_heard]

end Client

theorem Move.run_heard_congr {c c' : Client} (h : c.heard = c'.heard) (m : Move)
    : (m.run c).1 = (m.run c').1 ∧ (m.run c).2.heard = (m.run c').2.heard := by
  constructor
  . rw [← Client.onto_core c, ← Client.onto_core c', Client.core_of_heard_eq h, run_onto, run_onto]
  . apply Client.heard_congr (f := fun c => (m.run c).2) _ h
    intro older c
    rw [run_onto]

namespace World

def heard (w : World) : World := { w with client := w.client.heard }

variable {w w' : World}

theorem heard_eq_iff
    : w.heard = w'.heard ↔ w.client.heard = w'.client.heard ∧ w.tasks = w'.tasks := by
  unfold heard
  rw [mk.injEq]

theorem act_heard_congr (h : w.heard = w'.heard) (a : Act)
    : (w.act a).heard = (w'.act a).heard := by
  obtain ⟨hclient, htasks⟩ := heard_eq_iff.mp h
  cases a with
  | begin m =>
    unfold act begun
    dsimp only
    by_cases hfirst : m.isFirst = true
    . rw [if_pos hfirst, if_pos hfirst, heard_eq_iff, htasks]
      exact ⟨hclient, rfl⟩
    . rw [if_neg hfirst, if_neg hfirst]
      exact h
  | advance i =>
    unfold act
    dsimp only
    rw [htasks]
    cases hT : w'.tasks[i]? with
    | none => exact h
    | some T =>
      obtain ⟨done, todo⟩ := T
      cases todo with
      | nil => exact h
      | cons m rest =>
        obtain ⟨hnext, hafter⟩ := Move.run_heard_congr hclient m
        unfold advanced
        dsimp only
        rw [heard_eq_iff, htasks, hnext]
        exact ⟨hafter, rfl⟩

end World
end CallWire
