import CallWire.Proofs.Outline
import CallWire.Proofs.SettingsKept

/-!
This module contains where the sessions of a client come from. Each of them runs over a socket that
an operation opened, and the operation had found a way to the server before it dialled.
-/

namespace CallWire

namespace Move

variable {c : Client} {m x : Move} {generation : Nat} {route : Route} {timeout : Duration}
variable {net : Network}

def connects : Move → Bool
  | .dial _ _ _ _ | .startSession _ => true
  | _ => false

/-- What comes before a move of the opening of a socket. -/
inductive Prepares (s : Settings) : Move → Move → Prop where
  | route {deadline : Duration} {net : Network} {files : FileTree} {route : Route}
      (generation : Nat) (timeout : Duration) (hroute : s.route files = .ok route)
      : Prepares s (.open deadline net files) (.dial generation route timeout net)
  | socket {generation : Nat} {route : Route} {timeout : Duration} {net : Network}
      (hopened : net.dial route timeout = .opened)
      : Prepares s (.dial generation route timeout net) (.startSession generation)

theorem prepares_open {deadline : Duration} {files : FileTree}
    (hx : x ∈ ((Move.open deadline net files).run c).1)
    : Prepares c.settings (.open deadline net files) x := by
  unfold run at hx
  dsimp at hx
  split at hx
  . cases hx
  . next hroute =>
    rw [Client.settings_warnAll] at hroute
    rw [List.mem_singleton] at hx
    subst hx
    exact .route _ _ hroute

theorem prepares_dial (hx : x ∈ ((Move.dial generation route timeout net).run c).1)
    : Prepares c.settings (.dial generation route timeout net) x := by
  have hdialled := (Client.outline_dialServer c generation route timeout net).2
  unfold Transport.settleOpening at hdialled
  cases hresult : net.dial route timeout with
  | opened =>
    rw [hresult] at hdialled
    dsimp at hdialled
    split at hdialled
    . rw [run_dial_of_ok hdialled, List.mem_singleton] at hx
      subst hx
      exact .socket hresult
    . rw [run_dial_of_error hdialled] at hx
      cases hx
  | refused | timedOut =>
    rw [hresult] at hdialled
    rw [run_dial_of_error hdialled] at hx
    cases hx

theorem prepares_of_mem_run (hx : x ∈ (m.run c).1) (hconnects : x.connects = true)
    : Prepares c.settings m x := by
  cases yields_of_mem_run hx with
  | routed => exact prepares_open hx
  | opened => exact prepares_dial hx
  | _ => cases hconnects

theorem sessions_run {s : Nat × Bool} (hs : s ∈ (m.run c).2.outline.sessions)
    : (∃ s' ∈ c.outline.sessions, s'.1 = s.1) ∨ m = .startSession s.1 := by
  have h := reshapes_run m c
  generalize (m.run c).2.outline = o at h hs
  cases h with
  | started generation =>
    rcases List.mem_append.mp hs with hs | hs
    . exact .inl ⟨s, hs, rfl⟩
    . rw [List.mem_singleton.mp hs]
      exact .inr rfl
  | closed n =>
    obtain ⟨k, hk⟩ := List.mem_iff_getElem?.mp hs
    rw [Outline.sessions_close, Option.map_eq_some_iff] at hk
    obtain ⟨s', hs', rfl⟩ := hk
    refine .inl ⟨s', List.mem_of_getElem? hs', ?_⟩
    split <;> rfl
  | _ => exact .inl ⟨s, hs, rfl⟩

end Move

namespace Task

def Prepared (T : Task) (s : Settings) : Prop :=
  ∀ x ∈ T.moves, x.connects = true → ∃ m ∈ T.done, m.Prepares s x

theorem prepared_of_begun {m : Move} (hm : m.isFirst = true) (s : Settings)
    : Prepared { todo := [m] } s := by
  intro x hx hconnects
  rw [List.mem_singleton.mp hx] at hconnects
  cases m <;> simp [Move.isFirst, Move.connects] at hm hconnects

end Task

namespace World

variable {w : World} {i generation : Nat} {done rest : List Move} {m : Move} {s : Settings}

/-- An operation found a way to the server in some files and dialled, and the server answered. -/
def Opens (w : World) (generation : Nat) (route : Route) (files : FileTree) : Prop :=
  ∃ T ∈ w.tasks, ∃ deadline timeout net,
    .open deadline net files ∈ T.done ∧ w.client.settings.route files = .ok route
      ∧ .dial generation route timeout net ∈ T.done ∧ net.dial route timeout = .opened

theorem Opens.route_eq {route : Route} {files : FileTree} (h : w.Opens generation route files)
    : w.client.settings.route files = .ok route := by
  obtain ⟨_, _, _, _, _, _, hroute, _⟩ := h
  exact hroute

/-- What is true of a client with some settings as to where its sessions come from. -/
structure Routed (w : World) (s : Settings) : Prop where
  settings : w.client.settings = s
  tasks : ∀ T ∈ w.tasks, T.Prepared s
  sessions : ∀ x ∈ w.client.outline.sessions, ∃ T ∈ w.tasks, .startSession x.1 ∈ T.done

theorem Routed.start (s : Settings) : (start s).Routed s where
  settings := rfl
  tasks := nofun
  sessions := nofun

theorem Routed.begun (h : w.Routed s) (hm : m.isFirst = true) : (w.begun m).Routed s := by
  constructor
  . exact h.settings
  . intro T hT
    rcases mem_tasks_begun hT with hT | rfl
    . exact h.tasks T hT
    . exact Task.prepared_of_begun hm s
  . intro x hx
    obtain ⟨T, hT, hdone⟩ := h.sessions x hx
    exact ⟨T, List.mem_append_left _ hT, hdone⟩

theorem Routed.prepared_advanced (h : w.Routed s) (hT : w.tasks[i]? = some ⟨done, m :: rest⟩)
    : Task.Prepared ⟨m :: done, w.next m ++ rest⟩ s := by
  intro x hx hconnects
  rcases mem_moves_advanced.mp hx with hx | hx
  . obtain ⟨y, hy, hprepares⟩ := h.tasks _ (mem_tasks_of_getElem? hT) x hx hconnects
    exact ⟨y, List.mem_cons_of_mem _ hy, hprepares⟩
  . have hprepares := Move.prepares_of_mem_run hx hconnects
    rw [h.settings] at hprepares
    exact ⟨m, List.mem_cons_self, hprepares⟩

theorem exists_done_advanced (hT : w.tasks[i]? = some ⟨done, m :: rest⟩) {x : Move}
    (hx : (∃ T ∈ w.tasks, x ∈ T.done) ∨ x = m)
    : ∃ T ∈ (w.advanced i done m rest).tasks, x ∈ T.done := by
  rcases hx with ⟨T, hT', hx⟩ | rfl
  . obtain ⟨j, hj⟩ := List.mem_iff_getElem?.mp hT'
    obtain ⟨T', hj', _, hdone⟩ := getElem?_advanced_of_old hT hj
    exact ⟨T', mem_tasks_of_getElem? hj', hdone hx⟩
  . exact ⟨_, mem_tasks_of_getElem? (getElem?_advanced_self hT), List.mem_cons_self⟩

theorem Routed.advanced (h : w.Routed s) (hT : w.tasks[i]? = some ⟨done, m :: rest⟩)
    : (w.advanced i done m rest).Routed s := by
  constructor
  . exact (m.settings_run w.client).trans h.settings
  . intro T hT'
    rcases mem_tasks_advanced hT' with rfl | hT'
    . exact h.prepared_advanced hT
    . exact h.tasks T hT'
  . intro x hx
    apply exists_done_advanced hT
    rcases Move.sessions_run hx with ⟨y, hy, hgeneration⟩ | hm
    . rw [← hgeneration]
      exact .inl (h.sessions y hy)
    . exact .inr hm.symm

theorem Routed.run (s : Settings) (acts : List Act) : ((World.start s).run acts).Routed s := by
  apply (Sound.start s).run_induction (P := fun w => w.Routed s)
  . exact .start s
  . exact fun _ _ hm h => h.begun hm
  . exact fun _ _ _ _ _ _ hT h => h.advanced hT

theorem Routed.opens (h : w.Routed s) {session : Session} (hs : session ∈ w.client.sessions)
    : ∃ route files, w.Opens session.generation route files := by
  have hx := List.mem_map_of_mem (f := fun s => (s.generation, s.table.closed)) hs
  obtain ⟨T, hT, hstarted⟩ := h.sessions _ hx
  obtain ⟨_, hdialled, hsocket⟩ := h.tasks T hT _ (List.mem_append_left _ hstarted) rfl
  cases hsocket with
  | socket hopened =>
    obtain ⟨_, hfound, hroute⟩ := h.tasks T hT _ (List.mem_append_left _ hdialled) rfl
    cases hroute with
    | route _ _ hroute =>
      refine ⟨_, _, T, hT, _, _, _, hfound, ?_, hdialled, hopened⟩
      rw [h.settings]
      exact hroute

end World
end CallWire
