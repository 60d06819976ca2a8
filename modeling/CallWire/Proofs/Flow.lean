import CallWire.Proofs.Books

/-!
This module contains how records flow through the books: a move never loses a record that waits,
never makes two of one, and settles a call only once.
-/

namespace CallWire

namespace Books

variable {b : Books} {n : Nat} {r : CallRecord} {t : PendingTable}

def waiting (b : Books) : List CallRecord := b.tables.flatMap (·.records)

def Holds (b : Books) (n : Nat) (r : CallRecord) : Prop :=
  ∃ t, b.tables[n]? = some t ∧ r ∈ t.records

def WellFormed (b : Books) : Prop := ∀ t ∈ b.tables, t.WellFormed

theorem flatMap_set_perm {α β : Type} {f : α → List β} {l : List α} {x : α} (h : l[n]? = some x)
    : ∃ rest, (l.flatMap f).Perm (f x ++ rest)
        ∧ ∀ y, ((l.set n y).flatMap f).Perm (f y ++ rest) := by
  induction l generalizing n with
  | nil => simp at h
  | cons z l ih =>
    cases n with
    | zero =>
      cases h
      exact ⟨l.flatMap f, .refl _, fun _ => .refl _⟩
    | succ n =>
      obtain ⟨rest, hold, hnew⟩ := ih h
      refine ⟨f z ++ rest, ?_, ?_⟩
      . rw [List.flatMap_cons]
        exact (hold.append_left _).trans (List.perm_append_comm_assoc _ _ _)
      . intro y
        rw [List.set_cons_succ, List.flatMap_cons]
        exact ((hnew y).append_left _).trans (List.perm_append_comm_assoc _ _ _)

theorem waiting_moved (h : b.tables[n]? = some t) {t' : PendingTable}
    {p q : List CallRecord} (hmoved : (p ++ t.records).Perm (q ++ t'.records))
    (others : List CallRecord) (counters : List CallIds) (ledger : Ledger)
    : (p ++ (b.waiting ++ others)).Perm
        (q ++ ((Books.mk (b.tables.set n t') counters ledger).waiting ++ others)) := by
  -- The records of the other tables, `rest`, are the same before and after.
  obtain ⟨rest, hold, hnew⟩ := flatMap_set_perm (f := PendingTable.records) h
  have hbefore : (b.waiting ++ others).Perm (t.records ++ (rest ++ others)) := by
    rw [← List.append_assoc]
    exact hold.append_right _
  have hafter : ((Books.mk (b.tables.set n t') counters ledger).waiting ++ others).Perm
      (t'.records ++ (rest ++ others)) := by
    rw [← List.append_assoc]
    exact (hnew t').append_right _
  apply (hbefore.append_left _).trans
  rw [← List.append_assoc]
  apply (hmoved.append_right _).trans
  rw [List.append_assoc]
  exact (hafter.append_left _).symm

theorem WellFormed.table (h : b.WellFormed) (ht : b.tables[n]? = some t) : t.WellFormed := by
  exact h t (List.mem_of_getElem? ht)

theorem WellFormed.set (h : b.WellFormed) (ht : t.WellFormed) (n : Nat) (counters : List CallIds)
    (ledger : Ledger)
    : (Books.mk (b.tables.set n t) counters ledger).WellFormed := by
  intro t' ht'
  rcases List.mem_or_eq_of_mem_set ht' with ht' | rfl
  . exact h t' ht'
  . exact ht

end Books

namespace Move

def Carries (m : Move) (n : Nat) (r : CallRecord) : Prop := m.session? = some n ∧ r ∈ m.held

variable {c : Client} {m : Move} {next : List Move} {b : Books} {n : Nat} {r : CallRecord}
variable {d : CallRecord → Disposal} {rs : List CallRecord}

theorem held_disposals (n : Nat) (d : CallRecord → Disposal) (rs : List CallRecord)
    : (disposals n d rs).flatMap held = rs := by
  unfold disposals
  rw [List.flatMap_map]
  exact List.flatMap_singleton' _

theorem carries_disposals (hr : r ∈ rs) : ∃ x ∈ disposals n d rs, x.Carries n r := by
  exact ⟨_, List.mem_map_of_mem hr, rfl, List.mem_singleton_self _⟩

theorem of_carries_disposals {k : Nat} {x : Move} (hx : x ∈ disposals k d rs)
    (hcarries : x.Carries n r)
    : x = .dispose n (d r) r ∧ k = n ∧ r ∈ rs := by
  obtain ⟨hsession, hheld⟩ := hcarries
  obtain ⟨r', hr', rfl⟩ := List.mem_map.mp hx
  rw [held, List.mem_singleton] at hheld
  cases hsession
  subst hheld
  exact ⟨rfl, rfl, hr'⟩

theorem Effect.wellFormed (he : Effect c m next b) (h : c.books.WellFormed) : b.WellFormed := by
  cases he with
  | quiet | refused | forgotten | prepared | turnedAway | disposed => exact h
  | started generation =>
    intro t ht
    rcases List.mem_append.mp ht with ht | ht
    . exact h t ht
    . rw [List.mem_singleton] at ht
      rw [ht]
      exact .empty
  | entered params htable hreg => exact h.set ((h.table htable).register hreg) _ _ _
  | retracted htable hres => exact h.set ((h.table htable).resolve hres) _ _ _
  | answered hdec htable hres => exact h.set ((h.table htable).resolve hres) _ _ _
  | expired htimeout htable => exact h.set ((h.table htable).takeExpired _ _) _ _ _
  | @closed _ t htable => exact h.set (.close t) _ _ _

theorem Effect.accounts (he : Effect c m next b) (hwf : c.books.WellFormed)
    {others : List CallRecord}
    (h : c.ledger.Accounts (m.held ++ (c.books.waiting ++ others)) [])
    : b.ledger.Accounts (next.flatMap held ++ (b.waiting ++ others)) []
        ∧ c.ledger.Keeps b.ledger := by
  cases he with
  | quiet hheld _ hnext =>
    rw [hheld] at h
    rw [List.flatMap_eq_nil_iff.mpr hnext]
    exact ⟨h, .refl _⟩
  | refused method params decoder =>
    have hacc := h.issue (r := c.newRecord "" method decoder) none rfl
    refine ⟨(hacc.dispose (.fail .notConnected)).forgetUsed, ?_⟩
    exact (Ledger.keeps_issue _ _).trans (hacc.keeps_dispose (.fail .notConnected))
  | forgotten call =>
    refine ⟨h.forget call, ?_⟩
    intro other o ho
    rw [Ledger.outcome?_forget]
    exact ho
  | started generation =>
    refine ⟨?_, .refl _⟩
    have hsame : Books.waiting { c.books with
        tables := c.books.tables ++ [{}]
        counters := c.books.counters ++ [{}] } = c.books.waiting := by
      unfold Books.waiting
      rw [List.flatMap_append]
      exact List.append_nil _
    rw [hsame]
    exact h
  | @prepared n ids method params decoder hids =>
    exact ⟨h.issue (some ids.draw.1) rfl, Ledger.keeps_issue _ _⟩
  | @entered n r t t' params htable hreg =>
    refine ⟨h.perm ?_, .refl _⟩
    apply Books.waiting_moved htable (p := [r]) (q := [])
    exact (PendingTable.register_perm hreg).symm
  | turnedAway params htable hreg => exact ⟨h, .refl _⟩
  | @retracted n id r t t' htable hres =>
    refine ⟨h.perm ?_, .refl _⟩
    apply Books.waiting_moved htable (p := []) (q := [r])
    exact PendingTable.resolve_perm (hwf.table htable) hres
  | disposed n d r => exact ⟨(h.dispose d).forgetUsed, h.keeps_dispose d⟩
  | @answered n f a r t t' hdec htable hres =>
    refine ⟨h.perm ?_, .refl _⟩
    apply Books.waiting_moved htable (p := []) (q := [r])
    exact PendingTable.resolve_perm (hwf.table htable) hres
  | @expired n timeout t htimeout htable =>
    refine ⟨h.perm ?_, .refl _⟩
    rw [held_disposals]
    apply Books.waiting_moved htable (p := [])
    exact (PendingTable.takeExpired_perm t _ _).symm
  | @closed n t htable =>
    refine ⟨h.perm ?_, .refl _⟩
    rw [held_disposals]
    apply Books.waiting_moved htable (p := []) (q := t.records)
    rw [List.append_nil]
    exact .refl _

/-- What a move does to the tables. What goes out of one is in the hands of the operation then. -/
inductive Transfer (c : Client) (m : Move) (next : List Move) (b : Books) : Prop where
  | kept (htables : b.tables = c.books.tables)
  | fresh (htables : b.tables = c.books.tables ++ [({} : PendingTable)])
  | moved {k : Nat} {t t' : PendingTable} {q : List CallRecord}
      (htable : c.books.tables[k]? = some t) (htables : b.tables = c.books.tables.set k t')
      (hmoved : (m.held ++ t.records).Perm (q ++ t'.records))
      (hclosed : t.closed = true → t'.closed = true) (hin : ∀ r ∈ m.held, m.Carries k r)
      (hout : ∀ r ∈ q, ∃ x ∈ next, x.Carries k r)

theorem Effect.transfer (he : Effect c m next b) (hwf : c.books.WellFormed)
    : Transfer c m next b := by
  cases he with
  | quiet | refused | forgotten | prepared | turnedAway | disposed => exact .kept rfl
  | started generation => exact .fresh rfl
  | @entered k r t t' params htable hreg =>
    apply Transfer.moved (q := []) htable rfl
    . exact (PendingTable.register_perm hreg).symm
    . rw [PendingTable.closed_of_register hreg]
      exact id
    . intro s hs
      exact ⟨rfl, hs⟩
    . exact nofun
  | @retracted k _ r t t' htable hres =>
    apply Transfer.moved (q := [r]) htable rfl
    . exact PendingTable.resolve_perm (hwf.table htable) hres
    . rw [PendingTable.closed_of_resolve hres]
      exact id
    . exact nofun
    . intro s hs
      exact ⟨_, List.mem_singleton_self _, rfl, hs⟩
  | @answered k f a r t t' hdec htable hres =>
    apply Transfer.moved (q := [r]) htable rfl
    . exact PendingTable.resolve_perm (hwf.table htable) hres
    . rw [PendingTable.closed_of_resolve hres]
      exact id
    . exact nofun
    . intro s hs
      exact ⟨_, List.mem_singleton_self _, rfl, hs⟩
  | @expired k timeout t htimeout htable =>
    apply Transfer.moved htable rfl
    . exact (PendingTable.takeExpired_perm t _ _).symm
    . exact id
    . exact nofun
    . exact fun r hr => carries_disposals hr
  | @closed k t htable =>
    apply Transfer.moved (q := t.records) htable rfl
    . rw [List.append_nil]
      exact .refl _
    . exact fun _ => rfl
    . exact nofun
    . exact fun r hr => carries_disposals hr

theorem Effect.fate_of_carries (he : Effect c m next b) {others : List CallRecord}
    (h : c.ledger.Accounts (m.held ++ (c.books.waiting ++ others)) [])
    (hr : m.Carries n r)
    : (∃ x ∈ next, x.Carries n r) ∨ b.Holds n r
        ∨ ∃ d, m = .dispose n d r ∧ b.ledger.outcome? r.call = some (r.outcome d) := by
  obtain ⟨hsession, hheld⟩ := hr
  cases he with
  | quiet hnone _ hnext =>
    rw [hnone] at hheld
    simp at hheld
  | @entered _ r' t t' params htable hreg =>
    rw [held, List.mem_singleton] at hheld
    cases hsession
    subst hheld
    refine .inr (.inl ⟨t', ?_, ?_⟩)
    . exact List.getElem?_set_self (List.getElem?_eq_some_iff.mp htable).1
    . exact (PendingTable.register_perm hreg).mem_iff.mpr List.mem_cons_self
  | turnedAway params htable hreg =>
    cases hsession
    exact .inl ⟨_, List.mem_singleton_self _, rfl, hheld⟩
  | disposed n' d r' =>
    rw [held, List.mem_singleton] at hheld
    cases hsession
    subst hheld
    refine .inr (.inr ⟨d, rfl, ?_⟩)
    exact (h.dispose d).settled (r, d) List.mem_cons_self
  | refused | forgotten | started | prepared | retracted | answered | expired | closed =>
    simp [held] at hheld

theorem Effect.fate_of_holds (he : Effect c m next b) (hwf : c.books.WellFormed)
    (hr : c.books.Holds n r)
    : (∃ x ∈ next, x.Carries n r) ∨ b.Holds n r := by
  obtain ⟨t₀, ht₀, hmem⟩ := hr
  have hlen := (List.getElem?_eq_some_iff.mp ht₀).1
  cases he.transfer hwf with
  | kept htables =>
    rw [← htables] at ht₀
    exact .inr ⟨t₀, ht₀, hmem⟩
  | fresh htables =>
    rw [← List.getElem?_append_left hlen, ← htables] at ht₀
    exact .inr ⟨t₀, ht₀, hmem⟩
  | @moved k t t' q htable htables hmoved _ _ hout =>
    by_cases hk : k = n
    . subst hk
      rw [ht₀] at htable
      cases htable
      have hplace := hmoved.mem_iff.mp (List.mem_append_right _ hmem)
      rcases List.mem_append.mp hplace with hleft | hstays
      . exact .inl (hout r hleft)
      . refine .inr ⟨t', ?_, hstays⟩
        rw [htables]
        exact List.getElem?_set_self hlen
    . refine .inr ⟨t₀, ?_, hmem⟩
      rw [htables, List.getElem?_set_ne hk]
      exact ht₀

def Makes (c : Client) (m : Move) (n : Nat) (r : CallRecord) : Prop :=
  ∃ method params decoder ids,
    m = .prepare n method params decoder ∧ c.books.counters[n]? = some ids
      ∧ r = c.newRecord ids.draw.1 method decoder

theorem Effect.origin_of_carries (he : Effect c m next b) (hwf : c.books.WellFormed)
    (hr : ∃ x ∈ next, x.Carries n r)
    : m.Carries n r ∨ c.books.Holds n r ∨ Makes c m n r := by
  obtain ⟨x, hx, hsession, hheld⟩ := hr
  cases he with
  | quiet hnone _ hnext =>
    rw [hnext x hx] at hheld
    simp at hheld
  | refused | forgotten | disposed => simp at hx
  | @prepared k ids method params decoder hids =>
    rw [List.mem_singleton] at hx
    subst hx
    rw [held, List.mem_singleton] at hheld
    cases hsession
    exact .inr (.inr ⟨method, params, decoder, ids, rfl, hids, hheld⟩)
  | entered | started =>
    rw [List.mem_singleton] at hx
    subst hx
    simp [held] at hheld
  | turnedAway =>
    rw [List.mem_singleton] at hx
    subst hx
    exact .inl ⟨hsession, hheld⟩
  | @retracted k id r' t t' htable hres =>
    rw [List.mem_singleton] at hx
    subst hx
    rw [held, List.mem_singleton] at hheld
    cases hsession
    subst hheld
    refine .inr (.inl ⟨t, htable, ?_⟩)
    exact (PendingTable.resolve_perm (hwf.table htable) hres).mem_iff.mpr List.mem_cons_self
  | @answered k f a r' t t' hdec htable hres =>
    rw [List.mem_singleton] at hx
    subst hx
    rw [held, List.mem_singleton] at hheld
    cases hsession
    subst hheld
    refine .inr (.inl ⟨t, htable, ?_⟩)
    exact (PendingTable.resolve_perm (hwf.table htable) hres).mem_iff.mpr List.mem_cons_self
  | @expired k timeout t htimeout htable =>
    obtain ⟨_, rfl, hr⟩ := of_carries_disposals hx ⟨hsession, hheld⟩
    refine .inr (.inl ⟨t, htable, ?_⟩)
    exact (PendingTable.takeExpired_perm t _ _).mem_iff.mp (List.mem_append_left _ hr)
  | @closed k t htable =>
    obtain ⟨_, rfl, hr⟩ := of_carries_disposals hx ⟨hsession, hheld⟩
    exact .inr (.inl ⟨t, htable, hr⟩)

theorem Effect.origin_of_holds (he : Effect c m next b) (hwf : c.books.WellFormed)
    (hr : b.Holds n r)
    : m.Carries n r ∨ c.books.Holds n r := by
  obtain ⟨t₁, ht₁, hmem⟩ := hr
  cases he.transfer hwf with
  | kept htables =>
    rw [htables] at ht₁
    exact .inr ⟨t₁, ht₁, hmem⟩
  | fresh htables =>
    rw [htables, List.getElem?_append] at ht₁
    split at ht₁
    . exact .inr ⟨t₁, ht₁, hmem⟩
    . have hnew := List.mem_singleton.mp (List.mem_of_getElem? ht₁)
      subst hnew
      simp at hmem
  | @moved k t t' q htable htables hmoved _ hin _ =>
    rw [htables] at ht₁
    by_cases hk : k = n
    . subst hk
      rw [List.getElem?_set_self (List.getElem?_eq_some_iff.mp htable).1] at ht₁
      cases ht₁
      have hplace := hmoved.mem_iff.mpr (List.mem_append_right _ hmem)
      rcases List.mem_append.mp hplace with hheld | hmem
      . exact .inl (hin r hheld)
      . exact .inr ⟨t, htable, hmem⟩
    . rw [List.getElem?_set_ne hk] at ht₁
      exact .inr ⟨t₁, ht₁, hmem⟩

theorem Effect.origin (he : Effect c m next b) (hwf : c.books.WellFormed)
    (hr : (∃ x ∈ next, x.Carries n r) ∨ b.Holds n r)
    : m.Carries n r ∨ c.books.Holds n r ∨ Makes c m n r := by
  rcases hr with hnext | hholds
  . exact he.origin_of_carries hwf hnext
  . rcases he.origin_of_holds hwf hholds with hcarries | hholds
    . exact .inl hcarries
    . exact .inr (.inl hholds)

theorem Effect.length_le (he : Effect c m next b)
    : c.books.tables.length ≤ b.tables.length ∧ b.counters.length = b.tables.length := by
  cases he <;> simp [Client.length_counters]

theorem Effect.closed_of_closed (he : Effect c m next b) (hwf : c.books.WellFormed)
    {t : PendingTable} (ht : c.books.tables[n]? = some t) (hclosed : t.closed = true)
    : ∃ t', b.tables[n]? = some t' ∧ t'.closed = true := by
  have hlen := (List.getElem?_eq_some_iff.mp ht).1
  cases he.transfer hwf with
  | kept htables =>
    rw [htables]
    exact ⟨t, ht, hclosed⟩
  | fresh htables =>
    rw [htables, List.getElem?_append_left hlen]
    exact ⟨t, ht, hclosed⟩
  | @moved k _ t' _ htable htables _ hsame _ _ =>
    rw [htables]
    by_cases hk : k = n
    . subst hk
      rw [ht] at htable
      cases htable
      exact ⟨t', List.getElem?_set_self hlen, hsame hclosed⟩
    . rw [List.getElem?_set_ne hk]
      exact ⟨t, ht, hclosed⟩

theorem closed_of_close (hn : n < c.books.tables.length)
    : ∃ t, ((close n).run c).2.books.tables[n]? = some t ∧ t.closed = true := by
  have hbooks := Client.books_setTable c n { records := [], closed := true }
  change ∃ t, (c.setTable n { records := [], closed := true }).books.tables[n]? = some t
    ∧ t.closed = true
  rw [hbooks]
  exact ⟨_, List.getElem?_set_self hn, rfl⟩

theorem Effect.counters (he : Effect c m next b) {ids : CallIds} (hids : b.counters[n]? = some ids)
    : (∃ old, c.books.counters[n]? = some old
          ∧ ids = if m.draws n then old.draw.2 else old)
      ∨ (n = c.books.counters.length ∧ ids = {} ∧ m.draws n = false) := by
  cases he with
  | quiet hheld hdraws hnext =>
    refine .inl ⟨ids, hids, ?_⟩
    rw [hdraws n]
    rfl
  | refused | forgotten | entered | turnedAway | retracted | disposed | answered | expired
    | closed => exact .inl ⟨ids, hids, rfl⟩
  | started generation =>
    dsimp at hids
    rw [List.getElem?_append] at hids
    split at hids
    . exact .inl ⟨ids, hids, rfl⟩
    . next hlen =>
      have hzero := (List.getElem?_eq_some_iff.mp hids).1
      rw [List.length_singleton] at hzero
      refine .inr ⟨by omega, ?_, rfl⟩
      exact List.mem_singleton.mp (List.mem_of_getElem? hids)
  | @prepared k old method params decoder hold =>
    dsimp at hids
    by_cases hk : k = n
    . subst hk
      rw [List.getElem?_set_self (List.getElem?_eq_some_iff.mp hold).1] at hids
      refine .inl ⟨old, hold, ?_⟩
      rw [draws, decide_eq_true rfl, if_pos rfl]
      exact (Option.some.inj hids).symm
    . rw [List.getElem?_set_ne hk] at hids
      refine .inl ⟨ids, hids, ?_⟩
      rw [draws, decide_eq_false hk]
      rfl

end Move
end CallWire
