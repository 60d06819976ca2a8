import CallWire.Proofs.Journals
import CallWire.Proofs.Texts

/-!
This module contains what of a stream of messages matters to a session: the texts in it, in their
order, and its end. A reader takes the messages from a socket and reports events, a session takes
the events, and all that, together with what other operations do, may happen in any order.
-/

namespace CallWire

namespace Arrival

/-- A message that is none to a session: about the connection itself, or no text. -/
inductive Idle : Arrival → Prop where
  | ping {payload : Bytes} (h : payload.length ≤ maxControlSize) : Idle (.ping payload)
  | pong {payload : Bytes} (h : payload.length ≤ maxControlSize) : Idle (.pong payload)
  | unreadable {content : Bytes} (h : content.text? = none) : Idle (.binary content)

/-- Two streams of messages that differ in how the peer framed them, or after their end. -/
inductive Reframes : List Arrival → List Arrival → Prop where
  | nil : Reframes [] []
  | same (a : Arrival) {xs ys : List Arrival} (h : Reframes xs ys) : Reframes (a :: xs) (a :: ys)
  | asBinary (s : String) {xs ys : List Arrival} (h : Reframes xs ys)
    : Reframes (.text s :: xs) (.binary (.ofText s) :: ys)
  | asText (s : String) {xs ys : List Arrival} (h : Reframes xs ys)
    : Reframes (.binary (.ofText s) :: xs) (.text s :: ys)
  | insert {a : Arrival} (ha : a.Idle) {xs ys : List Arrival} (h : Reframes xs ys)
    : Reframes xs (a :: ys)
  | delete {a : Arrival} (ha : a.Idle) {xs ys : List Arrival} (h : Reframes xs ys)
    : Reframes (a :: xs) ys
  | past {a : Arrival} (ha : a.isTerminal = true) (xs ys : List Arrival)
    : Reframes (a :: xs) (a :: ys)

def content? : Arrival → Option String
  | text s => some s
  | binary content => content.text?
  | _ => none

variable {a : Arrival} {xs ys : List Arrival}

theorem event?_eq_frame_iff {s : String} : a.event? = some (.frame s) ↔ a.content? = some s := by
  cases a with
  | text _ => simp [event?, content?]
  | binary _ => simp [event?, content?]
  | ping _ | pong _ | failure => simp [event?, content?]
  | close frame =>
    unfold event? content?
    rcases frame with _ | ⟨code, reason⟩
    . simp
    . dsimp only
      split_ifs <;> simp

theorem isTerminal_iff
    : a.isTerminal = true
        ↔
      (∃ frame, a = .close frame) ∨ a = .failure
        ∨ ∃ payload, (a = .ping payload ∨ a = .pong payload)
            ∧ maxControlSize < payload.length := by
  unfold isTerminal
  cases a with
  | text _ => simp [event?, Event.isTerminal]
  | binary content => cases h : content.text? <;> simp [event?, Event.isTerminal, h]
  | ping payload | pong payload =>
    by_cases h : maxControlSize < payload.length <;> simp [event?, Event.isTerminal, h]
  | failure => simp [event?, Event.isTerminal]
  | close frame =>
    unfold event?
    rcases frame with _ | ⟨code, reason⟩
    . simp [Event.isTerminal]
    . dsimp only
      split_ifs <;> simp [Event.isTerminal]

theorem Idle.event?_eq_none (h : a.Idle) : a.event? = none := by
  cases h with
  | ping h => exact if_neg (Nat.not_lt.mpr h)
  | pong h => exact if_neg (Nat.not_lt.mpr h)
  | unreadable h => exact congrArg (Option.map Event.frame) h

theorem event?_binary_ofText (s : String) : (binary (.ofText s)).event? = some (.frame s) := by
  exact congrArg (Option.map Event.frame) (Bytes.text?_ofText s)

theorem exists_event?_of_isTerminal (h : a.isTerminal = true)
    : ∃ e, a.event? = some e ∧ e.isTerminal = true := by
  unfold isTerminal at h
  cases he : a.event? with
  | none =>
    rw [he] at h
    cases h
  | some e =>
    rw [he] at h
    exact ⟨e, rfl, h⟩

end Arrival

namespace Event

variable {a : Arrival} {rest : List Arrival} {e : Event}

theorem read_cons_of_none (h : a.event? = none) : read (a :: rest) = read rest := by
  rw [read, h]

theorem read_cons_of_terminal (h : a.event? = some e) (he : e.isTerminal = true)
    : read (a :: rest) = [e] := by
  rw [read, h]
  exact if_pos he

theorem read_cons_of_frame (h : a.event? = some e) (he : e.isTerminal = false)
    : read (a :: rest) = e :: read rest := by
  rw [read, h]
  exact if_neg (by simp [he])

theorem read_cons_congr {b : Arrival} {more : List Arrival} (h : a.event? = b.event?)
    (hrest : read rest = read more)
    : read (a :: rest) = read (b :: more) := by
  rw [read, read, h, hrest]

def last (xs : List Arrival) : Event :=
  ((xs.find? (·.isTerminal)).bind Arrival.event?).getD (.closed none "stream ended")

theorem last_cons_of_terminal (h : a.event? = some e) (he : e.isTerminal = true)
    : last (a :: rest) = e := by
  have ha : a.isTerminal = true := by
    unfold Arrival.isTerminal
    rw [h]
    exact he
  unfold last
  rw [List.find?_cons_of_pos ha, Option.bind_some, h]
  rfl

theorem last_cons_of_not_terminal (h : a.isTerminal = false) : last (a :: rest) = last rest := by
  unfold last
  rw [List.find?_cons_of_neg (Bool.eq_false_iff.mp h)]

theorem isTerminal_last (xs : List Arrival) : (last xs).isTerminal = true := by
  induction xs with
  | nil => rfl
  | cons a rest ih =>
    cases ha : a.isTerminal with
    | false =>
      rw [last_cons_of_not_terminal ha]
      exact ih
    | true =>
      obtain ⟨e, he, hterminal⟩ := Arrival.exists_event?_of_isTerminal ha
      rw [last_cons_of_terminal he hterminal]
      exact hterminal

theorem read_eq (xs : List Arrival)
    : read xs
        =
      ((xs.takeWhile (!·.isTerminal)).filterMap Arrival.content?).map .frame ++ [last xs] := by
  induction xs with
  | nil => rfl
  | cons a rest ih =>
    cases ha : a.event? with
    | none =>
      have hgoes : a.isTerminal = false := by
        unfold Arrival.isTerminal
        rw [ha]
        rfl
      have hcontent : a.content? = none := by
        rw [Option.eq_none_iff_forall_ne_some]
        intro s hs
        rw [Arrival.event?_eq_frame_iff.mpr hs] at ha
        cases ha
      rw [read_cons_of_none ha, last_cons_of_not_terminal hgoes, ih]
      rw [List.takeWhile_cons_of_pos (by simp [hgoes]), List.filterMap_cons_none hcontent]
    | some e =>
      have hends : a.isTerminal = e.isTerminal := by
        unfold Arrival.isTerminal
        rw [ha]
        rfl
      cases e with
      | frame s =>
        have hcontent := Arrival.event?_eq_frame_iff.mp ha
        rw [read_cons_of_frame ha rfl, last_cons_of_not_terminal hends, ih]
        rw [List.takeWhile_cons_of_pos (by simp [hends, isTerminal])]
        rw [List.filterMap_cons_some hcontent]
        rfl
      | closed | failed =>
        rw [read_cons_of_terminal ha rfl, last_cons_of_terminal ha rfl]
        rw [List.takeWhile_cons_of_neg (by simp [hends, isTerminal])]
        rfl

end Event

theorem Arrival.Reframes.read_eq {xs ys : List Arrival} (h : Reframes xs ys)
    : Event.read xs = Event.read ys := by
  induction h with
  | nil => rfl
  | same a _ ih => exact Event.read_cons_congr rfl ih
  | asBinary s _ ih => exact Event.read_cons_congr (event?_binary_ofText s).symm ih
  | asText s _ ih => exact Event.read_cons_congr (event?_binary_ofText s) ih
  | insert ha _ ih => exact ih.trans (Event.read_cons_of_none ha.event?_eq_none).symm
  | delete ha _ ih => exact (Event.read_cons_of_none ha.event?_eq_none).trans ih
  | past ha xs ys =>
    obtain ⟨e, he, hterminal⟩ := exists_event?_of_isTerminal ha
    rw [Event.read_cons_of_terminal he hterminal, Event.read_cons_of_terminal he hterminal]

namespace Client

variable {c c' : Client} {n : Nat} {a : Arrival} {xs ys : List Arrival}

theorem onArrival_onto (older : List JournalEntry) (c : Client) (n : Nat) (a : Arrival)
    : (c.onto older).onArrival n a = (c.onArrival n a).onto older := by
  unfold onArrival
  dsimp only [warn_onto]
  rw [← apply_ite (onto older)]
  cases a.event? with
  | none => rfl
  | some e => exact onEvent_onto _ n e

theorem heard_onArrival_congr (h : c.heard = c'.heard) (n : Nat) (a : Arrival)
    : (c.onArrival n a).heard = (c'.onArrival n a).heard := by
  exact heard_congr (f := fun c => c.onArrival n a)
    (fun older c => onArrival_onto older c n a) h

theorem heard_warned (c : Client) (a : Arrival)
    : (if a.isUnreadable then c.warn .unreadable else c).heard = c.heard := by
  split <;> rfl

theorem heard_onArrival (c : Client) (n : Nat) (a : Arrival)
    : (c.onArrival n a).heard
        =
      match a.event? with
      | none => c.heard
      | some e => (c.onEvent n e).heard := by
  have hwarned := heard_warned c a
  unfold onArrival
  dsimp only
  generalize (if a.isUnreadable then c.warn .unreadable else c) = d at hwarned
  cases a.event? with
  | none => exact hwarned
  | some e =>
    exact heard_congr (f := fun c => c.onEvent n e) (fun older c => onEvent_onto c n e) hwarned

theorem heard_onArrival_of_none (h : a.event? = none) : (c.onArrival n a).heard = c.heard := by
  rw [heard_onArrival, h]

theorem onEvent_of_deaf (h : c.isListening n = false) (e : Event) : c.onEvent n e = c := by
  unfold onEvent
  rw [h]
  rfl

theorem isListening_onEnd (c : Client) (n : Nat) : (c.onEnd n).isListening n = false := by
  cases hs : c.session? n with
  | none =>
    unfold onEnd isListening
    rw [hs]
    dsimp only
    rw [hs]
    rfl
  | some s =>
    have hcore : c.core.session? n = some s := hs
    have hsession : (c.onEnd n).session? n = some s.over := by
      rw [← session?_core, core_onEnd hs]
      exact session?_modifySession_self Session.over hcore
    exact isListening_of_session? hsession

theorem isListening_onEvent_of_isTerminal {e : Event} (h : e.isTerminal = true) (c : Client)
    (n : Nat)
    : (c.onEvent n e).isListening n = false := by
  cases hlisten : c.isListening n with
  | false =>
    rw [onEvent_of_deaf hlisten]
    exact hlisten
  | true =>
    unfold onEvent
    rw [hlisten]
    cases e with
    | frame s => cases h
    | closed code reason => exact isListening_onEnd _ n
    | failed => exact isListening_onEnd _ n

theorem isListening_onArrival_of_isTerminal (h : a.isTerminal = true) (c : Client)
    : (c.onArrival n a).isListening n = false := by
  obtain ⟨e, he, hterminal⟩ := Arrival.exists_event?_of_isTerminal h
  have hheard := heard_onArrival c n a
  rw [he] at hheard
  rw [isListening_of_core_eq (core_of_heard_eq hheard)]
  exact isListening_onEvent_of_isTerminal hterminal c n

theorem heard_foldl_onArrival_of_deaf (h : c.isListening n = false) (xs : List Arrival)
    : (xs.foldl (fun c a => c.onArrival n a) c).heard = c.heard := by
  induction xs generalizing c with
  | nil => rfl
  | cons a xs ih =>
    have hsame : (c.onArrival n a).heard = c.heard := by
      rw [heard_onArrival]
      cases a.event? with
      | none => rfl
      | some e => exact congrArg heard (onEvent_of_deaf h e)
    have hdeaf : (c.onArrival n a).isListening n = false := by
      rw [isListening_of_core_eq (core_of_heard_eq hsame)]
      exact h
    rw [List.foldl_cons, ih hdeaf, hsame]

theorem heard_onArrival_congr_event {b : Arrival} (hc : c.heard = c'.heard)
    (h : a.event? = b.event?)
    : (c.onArrival n a).heard = (c'.onArrival n b).heard := by
  rw [heard_onArrival_congr hc n a, heard_onArrival, heard_onArrival, h]

theorem heard_foldl_onArrival (h : Arrival.Reframes xs ys) (hc : c.heard = c'.heard)
    : (xs.foldl (fun c a => c.onArrival n a) c).heard
        =
      (ys.foldl (fun c a => c.onArrival n a) c').heard := by
  induction h generalizing c c' with
  | nil => exact hc
  | same a _ ih => exact ih (heard_onArrival_congr_event hc rfl)
  | asBinary s _ ih =>
    exact ih (heard_onArrival_congr_event hc (Arrival.event?_binary_ofText s).symm)
  | asText s _ ih => exact ih (heard_onArrival_congr_event hc (Arrival.event?_binary_ofText s))
  | insert ha _ ih => exact ih (hc.trans (heard_onArrival_of_none ha.event?_eq_none).symm)
  | delete ha _ ih => exact ih ((heard_onArrival_of_none ha.event?_eq_none).trans hc)
  | past ha xs ys =>
    have hdeaf := isListening_onArrival_of_isTerminal (n := n) ha
    rw [List.foldl_cons, List.foldl_cons, heard_foldl_onArrival_of_deaf (hdeaf c)]
    rw [heard_foldl_onArrival_of_deaf (hdeaf c')]
    exact heard_onArrival_congr_event hc rfl

end Client

/--
A session with the reader of its socket. Between the two is a queue of events, which the writer of
the socket can put an event into as well.
-/
structure Inlet where
  world : World
  arriving : List Arrival
  reading : Bool := true
  receiving : Bool := true
  queue : List Event := []
  reported : List Event := []

inductive InletStep where
  | read
  | abort
  | fail
  | leave
  | take
  | other (a : Act)

def InletStep.isRead : InletStep → Bool
  | .read => true
  | _ => false

theorem InletStep.eq_read_of_isRead {x : InletStep} (h : x.isRead = true) : x = .read := by
  cases x with
  | read => rfl
  | _ => cases h

def InletStep.cutsOff : InletStep → Bool
  | .abort => true
  | .leave => true
  | _ => false

namespace Inlet

def start (w : World) (arriving : List Arrival) : Inlet := { world := w, arriving }

def report (e : Event) (s : Inlet) : Inlet :=
  if s.receiving then { s with queue := s.queue ++ [e], reported := s.reported ++ [e] } else s

def read (s : Inlet) : Inlet :=
  match s.arriving with
  | [] => { s.report (.closed none "stream ended") with reading := false }
  | a :: rest =>
    let client := if a.isUnreadable then s.world.client.warn .unreadable else s.world.client
    let s := { s with arriving := rest, world := { s.world with client } }
    match a.event? with
    | none => s
    | some e => { s.report e with reading := !e.isTerminal && s.receiving }

def take (n : Nat) (s : Inlet) : Inlet :=
  match s.queue with
  | [] => s
  | e :: queue =>
    { s with
      queue
      world := (s.world.act (.begin (.event n e))).act (.advance s.world.tasks.length) }

def step (n : Nat) (s : Inlet) : InletStep → Inlet
  | .read => if s.reading then s.read else s
  | .abort => { s with reading := false }
  | .fail => if s.receiving then { s with queue := s.queue ++ [.failed] } else s
  | .leave => { s with receiving := false, queue := [] }
  | .take => s.take n
  | .other a => { s with world := s.world.act a }

def run (n : Nat) (s : Inlet) (steps : List InletStep) : Inlet := steps.foldl (step n) s

inductive Alike : Inlet → Inlet → Prop where
  | intro (reading receiving : Bool) (queue reported : List Event) {w w' : World}
      {xs ys : List Arrival} (hworld : w.heard = w'.heard)
      (harriving : reading = true → Arrival.Reframes xs ys)
    : Alike ⟨w, xs, reading, receiving, queue, reported⟩
        ⟨w', ys, reading, receiving, queue, reported⟩

variable {s s' : Inlet} {n : Nat} {a b : Arrival} {xs ys : List Arrival} {w w' : World}
variable {reading receiving : Bool} {queue reported : List Event}

theorem alike_start (h : Arrival.Reframes xs ys) (w : World) : (start w xs).Alike (start w ys) :=
  .intro true true [] [] rfl (fun _ => h)

def warned (w : World) (a : Arrival) : World :=
  { w with client := if a.isUnreadable then w.client.warn .unreadable else w.client }

theorem heard_warned (w : World) (a : Arrival) : (warned w a).heard = w.heard := by
  unfold World.heard warned
  rw [Client.heard_warned]

theorem read_cons_of_none (ha : a.event? = none)
    : read ⟨w, a :: xs, reading, receiving, queue, reported⟩
        =
      ⟨warned w a, xs, reading, receiving, queue, reported⟩ := by
  unfold read
  dsimp only
  rw [ha]
  rfl

theorem read_cons_of_some {e : Event} (ha : a.event? = some e)
    : read ⟨w, a :: xs, reading, receiving, queue, reported⟩
        =
      if receiving then ⟨warned w a, xs, !e.isTerminal, true, queue ++ [e], reported ++ [e]⟩
      else ⟨warned w a, xs, false, false, queue, reported⟩ := by
  unfold read report
  dsimp only
  rw [ha]
  cases receiving with
  | false =>
    dsimp only
    rw [Bool.and_false]
    rfl
  | true =>
    dsimp only
    rw [Bool.and_true]
    rfl

theorem alike_read (hworld : w.heard = w'.heard) (hevent : a.event? = b.event?)
    (harriving : a.isTerminal = false → Arrival.Reframes xs ys)
    : (read ⟨w, a :: xs, reading, receiving, queue, reported⟩).Alike
        (read ⟨w', b :: ys, reading, receiving, queue, reported⟩) := by
  have hwarned : (warned w a).heard = (warned w' b).heard := by
    rw [heard_warned, heard_warned, hworld]
  unfold Arrival.isTerminal at harriving
  cases hb : b.event? with
  | none =>
    rw [hb] at hevent
    rw [read_cons_of_none hevent, read_cons_of_none hb]
    rw [hevent] at harriving
    exact .intro _ _ _ _ hwarned (fun _ => harriving rfl)
  | some e =>
    rw [hb] at hevent
    rw [read_cons_of_some hevent, read_cons_of_some hb]
    rw [hevent] at harriving
    cases receiving with
    | false => exact .intro _ _ _ _ hwarned Bool.noConfusion
    | true =>
      apply Alike.intro _ _ _ _ hwarned
      intro hgoes
      exact harriving (by simpa using hgoes)

theorem alike_step (h : s.Alike s') {x : InletStep} (hx : x.isRead = false)
    : (s.step n x).Alike (s'.step n x) := by
  cases h with
  | intro reading receiving queue reported hworld harriving =>
    cases x with
    | read => cases hx
    | abort => exact .intro _ _ _ _ hworld (by simp)
    | fail =>
      cases receiving with
      | false => exact .intro _ _ _ _ hworld harriving
      | true => exact .intro _ _ _ _ hworld harriving
    | leave => exact .intro _ _ _ _ hworld harriving
    | take =>
      cases queue with
      | nil => exact .intro _ _ _ _ hworld harriving
      | cons e queue =>
        unfold step take
        dsimp only
        rw [(World.heard_eq_iff.mp hworld).2]
        exact .intro _ _ _ _ (World.act_heard_congr (World.act_heard_congr hworld _) _) harriving
    | other a => exact .intro _ _ _ _ (World.act_heard_congr hworld a) harriving

theorem run_cons (x : InletStep) (steps : List InletStep)
    : s.run n (x :: steps) = (s.step n x).run n steps := by
  rfl

theorem run_append (steps more : List InletStep)
    : s.run n (steps ++ more) = (s.run n steps).run n more := by
  exact List.foldl_append

/-- What one reader does next, another one does that takes some more messages, or none. -/
theorem exists_reads_of_reframes (h : Arrival.Reframes xs ys) (hworld : w.heard = w'.heard)
    : ∃ k, (read ⟨w, xs, true, receiving, queue, reported⟩).Alike
        (run n ⟨w', ys, true, receiving, queue, reported⟩ (List.replicate k .read)) := by
  induction h generalizing w' with
  | nil =>
    refine ⟨1, ?_⟩
    cases receiving with
    | false => exact .intro _ _ _ _ hworld Bool.noConfusion
    | true => exact .intro _ _ _ _ hworld Bool.noConfusion
  | same a h => exact ⟨1, alike_read hworld rfl (fun _ => h)⟩
  | asBinary s h =>
    exact ⟨1, alike_read hworld (Arrival.event?_binary_ofText s).symm (fun _ => h)⟩
  | asText s h =>
    exact ⟨1, alike_read (b := .text s) hworld (Arrival.event?_binary_ofText s) (fun _ => h)⟩
  | insert ha h ih =>
    obtain ⟨k, hk⟩ := ih (hworld.trans (heard_warned w' _).symm)
    refine ⟨k + 1, ?_⟩
    rw [List.replicate_succ, run_cons]
    unfold step
    rw [if_pos rfl, read_cons_of_none ha.event?_eq_none]
    exact hk
  | delete ha h ih =>
    refine ⟨0, ?_⟩
    rw [read_cons_of_none ha.event?_eq_none]
    exact .intro _ _ _ _ ((heard_warned w _).trans hworld) (fun _ => h)
  | past ha xs ys =>
    refine ⟨1, alike_read hworld rfl ?_⟩
    intro hgoes
    rw [ha] at hgoes
    cases hgoes

theorem exists_reads (h : s.Alike s')
    : ∃ k, (s.step n .read).Alike (s'.run n (List.replicate k .read)) := by
  cases h with
  | intro reading receiving queue reported hworld harriving =>
    cases reading with
    | false => exact ⟨0, .intro _ _ _ _ hworld harriving⟩
    | true => exact exists_reads_of_reframes (harriving rfl) hworld

theorem exists_run (h : s.Alike s') (steps : List InletStep)
    : ∃ steps', steps'.filter (!·.isRead) = steps.filter (!·.isRead)
        ∧ (s.run n steps).Alike (s'.run n steps') := by
  induction steps generalizing s s' with
  | nil => exact ⟨[], rfl, h⟩
  | cons x steps ih =>
    cases hx : x.isRead with
    | true =>
      obtain rfl := InletStep.eq_read_of_isRead hx
      obtain ⟨k, hk⟩ := exists_reads (n := n) h
      obtain ⟨steps', hsame, halike⟩ := ih hk
      refine ⟨List.replicate k .read ++ steps', ?_, ?_⟩
      . rw [List.filter_append, List.filter_cons_of_neg (by simp [hx]), hsame]
        simp [InletStep.isRead]
      . rw [run_append]
        exact halike
    | false =>
      obtain ⟨steps', hsame, halike⟩ := ih (alike_step (n := n) h hx)
      refine ⟨x :: steps', ?_, halike⟩
      rw [List.filter_cons_of_pos (by simp [hx]), List.filter_cons_of_pos (by simp [hx]), hsame]

/-! A reader turns a stream into its events, one after the other. -/

/-- What a reader has reported is the front of the events of its stream, and it does the rest. -/
structure Reports (xs : List Arrival) (s : Inlet) : Prop where
  rest : s.reading = true → s.reported ++ Event.read s.arriving = Event.read xs
  front : s.reported <+: Event.read xs

structure ReportsAll (xs : List Arrival) (s : Inlet) : Prop extends Reports xs s where
  received : s.receiving = true
  all : s.reading = false → s.reported = Event.read xs

theorem Reports.read (h : s.Reports xs) (hreading : s.reading = true)
    : s.read.Reports xs ∧ (s.receiving = true → s.read.ReportsAll xs) := by
  obtain ⟨w, arriving, reading, receiving, queue, reported⟩ := s
  obtain ⟨hrest, hfront⟩ := h
  have hevents : reported ++ Event.read arriving = Event.read xs := hrest hreading
  -- A reader whose event nobody takes stops with what it has reported before.
  have hlost : ∀ w rest, Reports xs ⟨w, rest, false, false, queue, reported⟩ :=
    fun _ _ => ⟨Bool.noConfusion, hfront⟩
  -- A reader that reports the end has reported all.
  have hend : ∀ w rest e queue, reported ++ [e] = Event.read xs →
      ReportsAll xs ⟨w, rest, false, true, queue, reported ++ [e]⟩ := by
    intro w rest e queue hall
    exact ⟨⟨Bool.noConfusion, hall ▸ List.prefix_rfl⟩, rfl, fun _ => hall⟩
  cases arriving with
  | nil =>
    cases receiving with
    | false => exact ⟨hlost w [], Bool.noConfusion⟩
    | true =>
      have hall := hend w [] _ (queue ++ [.closed none "stream ended"]) hevents
      exact ⟨hall.toReports, fun _ => hall⟩
  | cons a rest =>
    cases ha : a.event? with
    | none =>
      rw [read_cons_of_none ha]
      rw [Event.read_cons_of_none ha] at hevents
      refine ⟨⟨fun _ => hevents, hfront⟩, ?_⟩
      intro hreceiving
      refine ⟨⟨fun _ => hevents, hfront⟩, hreceiving, ?_⟩
      intro hstopped
      exact absurd (hreading.symm.trans hstopped) Bool.noConfusion
    | some e =>
      rw [read_cons_of_some ha]
      cases receiving with
      | false => exact ⟨hlost (warned w a) rest, Bool.noConfusion⟩
      | true =>
        cases he : e.isTerminal with
        | true =>
          rw [Event.read_cons_of_terminal ha he] at hevents
          have hall := hend (warned w a) rest e (queue ++ [e]) hevents
          exact ⟨hall.toReports, fun _ => hall⟩
        | false =>
          rw [Event.read_cons_of_frame ha he] at hevents
          have hmore : (reported ++ [e]) ++ Event.read rest = Event.read xs := by
            rw [List.append_assoc]
            exact hevents
          exact ⟨⟨fun _ => hmore, ⟨_, hmore⟩⟩,
            fun _ => ⟨⟨fun _ => hmore, ⟨_, hmore⟩⟩, rfl, Bool.noConfusion⟩⟩

structure LeavesReader (x : InletStep) (s s' : Inlet) : Prop where
  arriving : s'.arriving = s.arriving
  reported : s'.reported = s.reported
  stopped : s.reading = false → s'.reading = false
  reading : x.cutsOff = false → s'.reading = s.reading
  receiving : x.cutsOff = false → s'.receiving = s.receiving

theorem leavesReader_step {x : InletStep} (hx : x.isRead = false)
    : LeavesReader x s (s.step n x) := by
  cases x with
  | read => cases hx
  | abort => exact ⟨rfl, rfl, fun _ => rfl, nofun, nofun⟩
  | fail =>
    unfold step
    dsimp only
    split <;> exact ⟨rfl, rfl, id, fun _ => rfl, fun _ => rfl⟩
  | leave => exact ⟨rfl, rfl, id, nofun, nofun⟩
  | take =>
    unfold step take
    dsimp only
    split <;> exact ⟨rfl, rfl, id, fun _ => rfl, fun _ => rfl⟩
  | other a => exact ⟨rfl, rfl, id, fun _ => rfl, fun _ => rfl⟩

theorem step_read (h : s.reading = true) : s.step n .read = s.read := if_pos h

theorem step_read_of_stopped (h : s.reading = false) : s.step n .read = s :=
  if_neg (Bool.eq_false_iff.mp h)

theorem Reports.step (h : s.Reports xs) (x : InletStep) : (s.step n x).Reports xs := by
  cases hx : x.isRead with
  | true =>
    obtain rfl := InletStep.eq_read_of_isRead hx
    cases hreading : s.reading with
    | true =>
      rw [step_read hreading]
      exact (h.read hreading).1
    | false =>
      rw [step_read_of_stopped hreading]
      exact h
  | false =>
    have hleaves := leavesReader_step (s := s) (n := n) hx
    constructor
    . intro hgoes
      rw [hleaves.reported, hleaves.arriving]
      apply h.rest
      rw [← Bool.not_eq_false]
      intro hstopped
      rw [hleaves.stopped hstopped] at hgoes
      cases hgoes
    . rw [hleaves.reported]
      exact h.front

theorem ReportsAll.step (h : s.ReportsAll xs) {x : InletStep} (hx : x.cutsOff = false)
    : (s.step n x).ReportsAll xs := by
  cases hread : x.isRead with
  | true =>
    obtain rfl := InletStep.eq_read_of_isRead hread
    cases hreading : s.reading with
    | true =>
      rw [step_read hreading]
      exact (h.toReports.read hreading).2 h.received
    | false =>
      rw [step_read_of_stopped hreading]
      exact h
  | false =>
    have hleaves := leavesReader_step (s := s) (n := n) hread
    refine ⟨h.toReports.step x, ?_, ?_⟩
    . rw [hleaves.receiving hx]
      exact h.received
    . rw [hleaves.reading hx, hleaves.reported]
      exact h.all

theorem Reports.run (h : s.Reports xs) (steps : List InletStep) : (s.run n steps).Reports xs := by
  induction steps generalizing s with
  | nil => exact h
  | cons x steps ih => exact ih (h.step x)

theorem ReportsAll.run (h : s.ReportsAll xs) {steps : List InletStep}
    (hsteps : ∀ x ∈ steps, x.cutsOff = false)
    : (s.run n steps).ReportsAll xs := by
  induction steps generalizing s with
  | nil => exact h
  | cons x steps ih =>
    rw [List.forall_mem_cons] at hsteps
    exact ih (h.step hsteps.1) hsteps.2

theorem reportsAll_start (w : World) (xs : List Arrival) : (start w xs).ReportsAll xs :=
  ⟨⟨fun _ => rfl, List.nil_prefix⟩, rfl, Bool.noConfusion⟩

theorem reading_step_of_stopped (h : s.reading = false) (x : InletStep)
    : (s.step n x).reading = false := by
  cases hx : x.isRead with
  | true =>
    obtain rfl := InletStep.eq_read_of_isRead hx
    rw [step_read_of_stopped h]
    exact h
  | false => exact (leavesReader_step hx).stopped h

theorem reading_run_of_stopped (h : s.reading = false) (steps : List InletStep)
    : (s.run n steps).reading = false := by
  induction steps generalizing s with
  | nil => exact h
  | cons x steps ih => exact ih (reading_step_of_stopped h x)

theorem arriving_read_cons
    : (read ⟨w, a :: xs, reading, receiving, queue, reported⟩).arriving = xs := by
  cases ha : a.event? with
  | none => rw [read_cons_of_none ha]
  | some e =>
    rw [read_cons_of_some ha]
    split <;> rfl

theorem length_arriving_step {x : InletStep} (h : (s.step n x).reading = true)
    : (s.step n x).arriving.length + (if x.isRead then 1 else 0) = s.arriving.length := by
  cases hx : x.isRead with
  | true =>
    obtain rfl := InletStep.eq_read_of_isRead hx
    cases hreading : s.reading with
    | true =>
      rw [step_read hreading] at h ⊢
      obtain ⟨w, arriving, reading, receiving, queue, reported⟩ := s
      cases arriving with
      | nil => cases h
      | cons a rest =>
        rw [arriving_read_cons]
        rfl
    | false =>
      rw [step_read_of_stopped hreading, hreading] at h
      cases h
  | false =>
    rw [(leavesReader_step hx).arriving]
    rfl

theorem countP_isRead_le (steps : List InletStep) (h : (s.run n steps).reading = true)
    : steps.countP (·.isRead) ≤ s.arriving.length := by
  induction steps generalizing s with
  | nil => exact Nat.zero_le _
  | cons x steps ih =>
    have hmore := ih (s := s.step n x) h
    have hreading : (s.step n x).reading = true := by
      rw [← Bool.not_eq_false]
      intro hstopped
      rw [run_cons, reading_run_of_stopped hstopped] at h
      cases h
    rw [List.countP_cons]
    have hstep := length_arriving_step hreading
    omega

/--
How the peer frames its messages does not matter. Whatever happens at a session, with all that goes
on at its client, can happen there as well if the stream is framed in another way, and it comes to
the same. A reader that is not cut off reports the frames of its stream and then one end.
-/
theorem framing_unseen (w : World) (n : Nat) (xs ys : List Arrival)
    (h : Arrival.Reframes xs ys)
    : (∀ steps, ∃ steps',
          steps'.filter (!·.isRead) = steps.filter (!·.isRead)
            ∧ let s := (start w xs).run n steps
              let s' := (start w ys).run n steps'
              s.world.client.ledger = s'.world.client.ledger
                ∧ (∀ m, s.world.client.table m = s'.world.client.table m)
                ∧ s.world.client.transport = s'.world.client.transport
                ∧ s.world.client.framesSeen = s'.world.client.framesSeen
                ∧ s.world.heard = s'.world.heard
                ∧ s.queue = s'.queue
                ∧ s.reported = s'.reported
                ∧ s.reading = s'.reading)
      -- So it is for a client that does everything about a message as it comes in.
      ∧ (∀ c : Client,
          (xs.foldl (fun c a => c.onArrival n a) c).heard
            =
          (ys.foldl (fun c a => c.onArrival n a) c).heard)
      -- What a reader reports is the front of the events of its stream, and all of them at its end.
      ∧ Event.read xs = Event.read ys
      -- They are the texts of all messages before the end, text or binary, and then one end.
      ∧ Event.read xs
          =
        ((xs.takeWhile (!·.isTerminal)).filterMap Arrival.content?).map .frame ++ [Event.last xs]
      ∧ (Event.last xs).isTerminal = true
      ∧ (∀ a : Arrival, a.isTerminal = true
          ↔
        (∃ frame, a = .close frame) ∨ a = .failure
          ∨ ∃ payload, (a = .ping payload ∨ a = .pong payload)
              ∧ maxControlSize < payload.length)
      ∧ (∀ steps,
          let s := (start w xs).run n steps
          s.reported <+: Event.read xs
            ∧ (xs.length < steps.countP (·.isRead) → s.reading = false)
            ∧ ((∀ x ∈ steps, x.cutsOff = false) → s.reading = false →
                s.reported = Event.read xs)) := by
  refine ⟨?_, ?_, h.read_eq, Event.read_eq xs, Event.isTerminal_last xs,
    fun _ => Arrival.isTerminal_iff, ?_⟩
  . intro steps
    obtain ⟨steps', hsame, halike⟩ := exists_run (n := n) (alike_start h w) steps
    refine ⟨steps', hsame, ?_⟩
    generalize (start w xs).run n steps = s at halike
    generalize (start w ys).run n steps' = s' at halike
    cases halike with
    | intro reading receiving queue reported hworld _ =>
      have hclient := (World.heard_eq_iff.mp hworld).1
      have hcore := Client.core_of_heard_eq hclient
      exact ⟨Client.ledger_of_core_eq hcore, Client.table_of_core_eq hcore,
        Client.transport_of_core_eq hcore, Client.framesSeen_of_heard_eq hclient, hworld,
        rfl, rfl, rfl⟩
  . intro c
    exact Client.heard_foldl_onArrival h rfl
  . intro steps
    have hreports := (reportsAll_start w xs).toReports.run (n := n) steps
    refine ⟨hreports.front, ?_, ?_⟩
    . intro hlong
      rw [← Bool.not_eq_true]
      intro hreading
      have hle := countP_isRead_le steps hreading
      exact absurd hle (Nat.not_le.mpr hlong)
    . intro hsteps
      exact ((reportsAll_start w xs).run hsteps).all

/-- A text as bytes, a ping less, bytes that are no text more, and another message at the end. -/
theorem framing_unseen_mixed
    : let xs : List Arrival := [.ping [], .text "\x7b\x7d", .close none]
      let ys : List Arrival :=
        [.binary (.ofText "\x7b\x7d"), .binary [0xFF], .close none, .text "late"]
      Arrival.Reframes xs ys
        ∧ Event.read ys = [.frame "\x7b\x7d", .closed none ""]
        ∧ ∀ c : Client,
          (xs.foldl (fun c a => c.onArrival 0 a) c).heard
            =
          (ys.foldl (fun c a => c.onArrival 0 a) c).heard := by
  intro xs ys
  have hping : (Arrival.ping []).Idle := .ping (Nat.zero_le _)
  have hbytes : (Arrival.binary [0xFF]).Idle := .unreadable (by decide +kernel)
  have h : Arrival.Reframes xs ys :=
    .delete hping (.asBinary "\x7b\x7d" (.insert hbytes (.past rfl [] [.text "late"])))
  obtain ⟨-, hclient, hread, -⟩ := framing_unseen (.start {}) 0 xs ys h
  exact ⟨h, hread.symm, hclient⟩

end Inlet
end CallWire
