import CallWire.Files
import CallWire.Proofs.Texts

/-!
This module contains that a text is read back from the file that it was written to, by the same path
and in the same place.
-/

namespace CallWire

namespace FileTree

variable {t t' : FileTree} {path : Path} {text : String} {key dir names : List Bytes}
variable {e : Option FileEntry} {content : Bytes}

theorem lookup_insert_self (t : FileTree) (key : List Bytes) (e : FileEntry)
    : (t.insert key e).entries.lookup key = some e := by
  unfold insert
  rw [List.lookup_cons, beq_self_eq_true]

theorem lookup_insert_of_ne (h : dir ≠ key) (e : FileEntry)
    : (t.insert key e).entries.lookup dir = t.entries.lookup dir := by
  unfold insert
  rw [List.lookup_cons, beq_false_of_ne h]
  dsimp only
  induction t.entries with
  | nil => rfl
  | cons x entries ih =>
    obtain ⟨k, e'⟩ := x
    rw [List.filter_cons]
    split
    . rw [List.lookup_cons, List.lookup_cons, ih]
    . next hk =>
      have hk : k = key := by simpa using hk
      rw [ih, List.lookup_cons, beq_false_of_ne (hk ▸ h)]

theorem entry?_insert_self (t : FileTree) (key : List Bytes) (e : FileEntry)
    : entry? (t.insert key e) key = some e := by
  unfold entry?
  rw [lookup_insert_self]

theorem entry?_insert_of_directory (hne : dir ≠ key) (h : t.entry? dir = some .directory)
    (e : FileEntry)
    : entry? (t.insert key e) dir = some .directory := by
  unfold entry? at h ⊢
  rw [lookup_insert_of_ne hne]
  cases hlookup : t.entries.lookup dir with
  | some e' =>
    rw [hlookup] at h
    exact h
  | none =>
    rw [hlookup] at h
    dsimp only at h ⊢
    split at h
    . next habove =>
      apply if_pos
      rw [Bool.or_eq_true, List.any_eq_true] at habove ⊢
      apply habove.imp_right
      rintro ⟨x, hx, hbelow⟩
      by_cases hkey : x.1 = key
      . rw [hkey] at hbelow
        exact ⟨(key, e), List.mem_cons_self, hbelow⟩
      . refine ⟨x, List.mem_cons_of_mem _ (List.mem_filter.mpr ⟨hx, ?_⟩), hbelow⟩
        exact decide_eq_true hkey
    . cases h

theorem entry?_of_walk (h : t.walk dir names = .ok (key, e)) (he : e ≠ some .directory)
    : t.entry? key = e := by
  induction names generalizing dir with
  | nil =>
    cases h
    exact absurd rfl he
  | cons c rest ih =>
    unfold walk at h
    split at h
    . exact ih h
    split at h
    . exact ih h
    split at h
    . cases h
    dsimp only at h
    split at h
    . next hentry =>
      split at h
      . cases h
        exact hentry
      . cases h
    . exact ih h
    . next hentry =>
      split at h
      . cases h
        exact hentry
      . cases h

theorem eq_nil_of_all_isEmpty (h : names.all List.isEmpty = true)
    (hlast : names.getLast? ≠ some [])
    : names = [] := by
  cases hgetLast : names.getLast? with
  | none => exact List.getLast?_eq_none_iff.mp hgetLast
  | some c =>
    have hempty := List.all_eq_true.mp h c (List.mem_of_getLast? hgetLast)
    rw [List.isEmpty_iff] at hempty
    rw [hempty] at hgetLast
    exact absurd hgetLast hlast

theorem walk_insert (h : t.walk dir names = .ok (key, e)) (he : e ≠ some .directory)
    (hlast : names.getLast? ≠ some [])
    : (t.insert key (.file content)).walk dir names = .ok (key, some (.file content)) := by
  have hkey := entry?_of_walk h he
  induction names generalizing dir with
  | nil =>
    cases h
    exact absurd rfl he
  | cons c rest ih =>
    have hrest : rest.getLast? ≠ some [] := by
      intro hempty
      apply hlast
      rw [List.getLast?_cons, hempty]
      rfl
    unfold walk at h ⊢
    split at h
    . next hdot =>
      rw [if_pos hdot]
      exact ih h hrest
    next hdot =>
    rw [if_neg hdot]
    split at h
    . next hdots =>
      rw [if_pos hdots]
      exact ih h hrest
    next hdots =>
    rw [if_neg hdots]
    split at h
    . cases h
    next hshort =>
    rw [if_neg hshort]
    dsimp only at h ⊢
    split at h
    . split at h
      . next hall =>
        cases h
        rw [entry?_insert_self, eq_nil_of_all_isEmpty hall hrest]
        rfl
      . cases h
    . next hdirectory =>
      -- The place is no directory, so it is none of those on the way.
      have hne : dir ++ [c] ≠ key := by
        intro hsame
        rw [hsame, hkey] at hdirectory
        exact he hdirectory
      rw [entry?_insert_of_directory hne hdirectory]
      exact ih h hrest
    . split at h
      . next hempty =>
        cases h
        rw [entry?_insert_self]
        exact if_pos hempty
      . cases h

theorem walk_of_writeText (h : t.writeText path text = .ok t')
    : pathFault? path = none ∧ path.names.getLast? ≠ some []
      ∧ ∃ key, t'.walk (t'.start path) path.names = .ok (key, some (.file (.ofText text))) := by
  unfold writeText locateTarget at h
  cases hfault : pathFault? path with
  | some f =>
    rw [hfault] at h
    cases h
  | none =>
    rw [hfault] at h
    dsimp only at h
    by_cases hlast : path.names.getLast? = some []
    . rw [if_pos hlast] at h
      cases hwalk : t.walk (t.start path)
          (path.names.reverse.dropWhile List.isEmpty).reverse with
      | error f =>
        rw [hwalk] at h
        cases h
      | ok place =>
        rw [hwalk] at h
        cases h
    . rw [if_neg hlast] at h
      cases hwalk : t.walk (t.start path) path.names with
      | error f =>
        rw [hwalk] at h
        cases h
      | ok place =>
        obtain ⟨key, e⟩ := place
        rw [hwalk] at h
        have he : e ≠ some .directory := by
          rintro rfl
          cases h
        have hwritten : t' = t.insert key (.file (.ofText text)) := by
          cases e with
          | none => exact (Except.ok.inj h).symm
          | some entry =>
            cases entry with
            | directory => exact absurd rfl he
            | file old => exact (Except.ok.inj h).symm
        rw [hwritten]
        exact ⟨rfl, hlast, key, walk_insert hwalk he hlast⟩

theorem readText_of_writeText (h : t.writeText path text = .ok t')
    : t'.readText path = .ok text := by
  obtain ⟨hfault, _, key, hwalk⟩ := walk_of_writeText h
  unfold readText read locate
  rw [hfault]
  dsimp only
  rw [hwalk]
  dsimp only
  rw [Bytes.text?_ofText]

theorem exists_writeText_other (h : t.writeText path text = .ok t') (other : String)
    : ∃ t'', t.writeText path other = .ok t'' := by
  unfold writeText at h ⊢
  split at h
  . cases h
  . cases h
  . exact ⟨_, rfl⟩

theorem exists_writeText_again (h : t.writeText path text = .ok t') (again : String)
    : ∃ t'', t'.writeText path again = .ok t'' := by
  obtain ⟨hfault, hlast, key, hwalk⟩ := walk_of_writeText h
  unfold writeText locateTarget
  rw [hfault]
  dsimp only
  rw [if_neg hlast, hwalk]
  exact ⟨_, rfl⟩

end FileTree
end CallWire
