import EngenhoPromessa.Effect.Run
import Mathlib.Data.List.Induction
import Mathlib.Data.List.Nodup

/-
  Tables of rows with a key, written by upserts: a write
  updates the row of its key, and inserts one if there is
  none.

  After any history of writes, the row of a key is what the
  writes of that key alone have made of it.

  Key definitions include:
    * `Upserts`
    * `Upserts.row`
    * `Upserts.upsert`
    * `Upserts.rowAfter`

  Key theorems include:
    * `Upserts.row_run`
    * `Upserts.head?_of_rowAfter`
    * `Upserts.getLast?_of_rowAfter`
    * `Upserts.findSome?_of_rowAfter`
    * `Upserts.exists_write_of_mem`
    * `Upserts.nodup_upsert`
-/

------------------------------------------------------------
-- Tables
------------------------------------------------------------

/- What a write makes of a row, and of no row. -/
structure Upserts (κ ρ ω : Type) where
  key : ρ → κ
  target : ω → κ
  insert : ω → ρ
  update : ω → ρ → ρ
  key_insert : ∀ w, key (insert w) = target w
  key_update : ∀ w r, key (update w r) = key r

namespace Upserts

variable {κ ρ ω : Type} [DecidableEq κ]

/- The row that is stored under a key. -/
def row
    (t : Upserts κ ρ ω)
    (rows : List ρ)
    (k : κ) : Option ρ :=
  rows.find? (fun r => t.key r = k)

/- The row under the write's key is updated, or inserted. -/
def upsert
    (t : Upserts κ ρ ω)
    (rows : List ρ)
    (w : ω) : List ρ :=
  match t.row rows (t.target w) with
  | some existing =>
      rows.map (fun r =>
        if t.key r = t.key existing then
          t.update w existing
        else
          r)
  | none => rows ++ [t.insert w]

/- The row a write leaves under its key. -/
def written
    (t : Upserts κ ρ ω)
    (r : Option ρ)
    (w : ω) : Option ρ :=
  some (r.elim (t.insert w) (t.update w))

/- The row that writes of one key make, from none. -/
def rowAfter
    (t : Upserts κ ρ ω)
    (ws : List ω) : Option ρ :=
  Run.run t.written none ws

/- A row is found under its own key. -/
theorem key_of_row
    {t : Upserts κ ρ ω}
    {rows : List ρ}
    {k : κ}
    {r : ρ}
    (hRow : t.row rows k = some r) :
    t.key r = k := by
  simpa using List.find?_some hRow

/- Rows replaced under one key are found under it. -/
theorem row_replace
    (t : Upserts κ ρ ω)
    {k : κ}
    {new : ρ}
    (hNew : t.key new = k)
    (rows : List ρ)
    (k' : κ) :
    t.row (rows.map (fun r =>
        if t.key r = k then new else r)) k' =
      (t.row rows k').map (fun r =>
        if t.key r = k then new else r) := by
  have hKey :
      ∀ r, t.key (if t.key r = k then new else r) =
        t.key r := by
    intro r
    split
    · rename_i hOld
      exact hNew.trans hOld.symm
    · rfl
  unfold row
  rw [List.find?_map]
  simp only [Function.comp_def, hKey]

/- Under its own key the write has its effect. -/
theorem row_upsert_self
    (t : Upserts κ ρ ω)
    (rows : List ρ)
    (w : ω) :
    t.row (t.upsert rows w) (t.target w) =
      t.written (t.row rows (t.target w)) w := by
  unfold upsert
  cases hRow : t.row rows (t.target w) with
  | none =>
      rw [row, List.find?_append, ← row, hRow]
      simp [t.key_insert, written]
  | some existing =>
      have hKey := key_of_row hRow
      have hNew :
          t.key (t.update w existing) = t.key existing :=
        t.key_update w existing
      simp only [row_replace t hNew, hRow, Option.map_some]
      rfl

/- The rows under other keys are left alone. -/
theorem row_upsert_of_ne
    (t : Upserts κ ρ ω)
    (rows : List ρ)
    {w : ω}
    {k : κ}
    (hOther : t.target w ≠ k) :
    t.row (t.upsert rows w) k = t.row rows k := by
  unfold upsert
  cases hRow : t.row rows (t.target w) with
  | none =>
      rw [row, List.find?_append, ← row]
      simp [t.key_insert, hOther]
  | some existing =>
      have hNew :
          t.key (t.update w existing) = t.key existing :=
        t.key_update w existing
      simp only [row_replace t hNew]
      cases hFound : t.row rows k with
      | none => rfl
      | some r =>
          have hKeys : t.key r ≠ t.key existing := by
            rw [key_of_row hFound, key_of_row hRow]
            exact fun h => hOther h.symm
          simp [hKeys]

/- A row is made by the writes of its key. -/
theorem row_run
    (t : Upserts κ ρ ω)
    (rows : List ρ)
    (ws : List ω)
    (k : κ) :
    t.row (Run.run t.upsert rows ws) k =
      Run.run t.written (t.row rows k)
        (ws.filter (fun w => t.target w = k)) := by
  induction ws generalizing rows with
  | nil => rfl
  | cons w ws ih =>
      rw [Run.run_cons, ih]
      by_cases hTarget : t.target w = k
      · subst hTarget
        rw [row_upsert_self]
        simp
      · rw [row_upsert_of_ne t rows hTarget]
        simp [hTarget]

end Upserts

------------------------------------------------------------
-- Columns
------------------------------------------------------------

namespace Upserts

variable {κ ρ ω α : Type}

theorem rowAfter_concat
    (t : Upserts κ ρ ω)
    (ws : List ω)
    (w : ω) :
    t.rowAfter (ws ++ [w]) = t.written (t.rowAfter ws) w := by
  rw [rowAfter, Run.run_append]
  rfl

theorem rowAfter_eq_none_iff
    (t : Upserts κ ρ ω)
    (ws : List ω) :
    t.rowAfter ws = none ↔ ws = [] := by
  cases ws using List.reverseRecOn with
  | nil => simp [rowAfter]
  | append_singleton ws w => simp [rowAfter_concat, written]

/- What updates leave alone is as it was inserted. -/
theorem head?_of_rowAfter
    {t : Upserts κ ρ ω}
    (column : ρ → α)
    (hKept : ∀ w r, column (t.update w r) = column r)
    {ws : List ω}
    {r : ρ}
    (hRow : t.rowAfter ws = some r) :
    ws.head?.map (fun w => column (t.insert w)) =
      some (column r) := by
  induction ws using List.reverseRecOn generalizing r with
  | nil => simp [rowAfter] at hRow
  | append_singleton ws w ih =>
      rw [rowAfter_concat] at hRow
      cases hBefore : t.rowAfter ws with
      | none =>
          have hNil := (t.rowAfter_eq_none_iff ws).mp hBefore
          rw [hBefore] at hRow
          rw [← Option.some.inj hRow, hNil]
          rfl
      | some old =>
          have hHead := ih hBefore
          rw [hBefore] at hRow
          rw [← Option.some.inj hRow, List.head?_append,
            Option.elim_some, hKept, ← hHead]
          cases hFirst : ws.head? with
          | none => simp [hFirst] at hHead
          | some first => rfl

/- What every write sets is as the last one set it. -/
theorem getLast?_of_rowAfter
    {t : Upserts κ ρ ω}
    (column : ρ → α)
    {value : ω → α}
    (hInsert : ∀ w, column (t.insert w) = value w)
    (hUpdate : ∀ w r, column (t.update w r) = value w)
    {ws : List ω}
    {r : ρ}
    (hRow : t.rowAfter ws = some r) :
    ws.getLast?.map value = some (column r) := by
  cases ws using List.reverseRecOn with
  | nil => simp [rowAfter] at hRow
  | append_singleton ws w =>
      rw [rowAfter_concat] at hRow
      rw [← Option.some.inj hRow, List.getLast?_concat]
      cases t.rowAfter ws with
      | none => simp [hInsert]
      | some old => simp [hUpdate]

/- What is set only once is as the first to set it did. -/
theorem findSome?_of_rowAfter
    {t : Upserts κ ρ ω}
    (column : ρ → Option α)
    {value : ω → Option α}
    (hInsert : ∀ w, column (t.insert w) = value w)
    (hUpdate :
      ∀ w r, column (t.update w r) =
        (column r).or (value w))
    {ws : List ω}
    {r : ρ}
    (hRow : t.rowAfter ws = some r) :
    column r = ws.findSome? value := by
  induction ws using List.reverseRecOn generalizing r with
  | nil => simp [rowAfter] at hRow
  | append_singleton ws w ih =>
      rw [rowAfter_concat] at hRow
      rw [← Option.some.inj hRow, List.findSome?_append]
      cases hBefore : t.rowAfter ws with
      | none =>
          have hNil := (t.rowAfter_eq_none_iff ws).mp hBefore
          cases hValue : value w with
          | none => simp [hNil, hInsert, hValue]
          | some a => simp [hNil, hInsert, hValue]
      | some old => simp [hUpdate, ih hBefore]

/-
  A key that was written has a row, and what every write
  sets is there as one of the writes of that key set it.
-/
theorem exists_write_of_mem
    [DecidableEq κ]
    {t : Upserts κ ρ ω}
    (column : ρ → α)
    {value : ω → α}
    (hInsert : ∀ w, column (t.insert w) = value w)
    (hUpdate : ∀ w r, column (t.update w r) = value w)
    (rows : List ρ)
    {ws : List ω}
    {w : ω}
    (hMem : w ∈ ws) :
    ∃ r,
      t.row (Run.run t.upsert rows ws) (t.target w) =
          some r ∧
        ∃ w' ∈ ws,
          t.target w' = t.target w ∧ column r = value w' := by
  rw [row_run]
  have hOwn :
      w ∈ ws.filter (fun w' => t.target w' = t.target w) :=
    List.mem_filter.mpr ⟨hMem, by simp⟩
  rcases List.eq_nil_or_concat
    (ws.filter (fun w' => t.target w' = t.target w)) with
    hNil | ⟨before, last, hLast⟩
  · rw [hNil] at hOwn
    simp at hOwn
  · have hLastMem :
        last ∈ ws.filter (fun w' =>
          t.target w' = t.target w) := by
      rw [hLast]
      simp
    rcases List.mem_filter.mp hLastMem with ⟨hIn, hKey⟩
    rw [hLast, List.concat_eq_append, Run.run_append]
    refine ⟨_, rfl, last, hIn, of_decide_eq_true hKey, ?_⟩
    cases Run.run t.written
        (t.row rows (t.target w)) before with
    | none => exact hInsert last
    | some old => exact hUpdate last old

end Upserts

------------------------------------------------------------
-- Keys
------------------------------------------------------------

namespace Upserts

variable {κ ρ ω : Type} [DecidableEq κ]

/- An upsert gives no key a second row. -/
theorem nodup_upsert
    (t : Upserts κ ρ ω)
    {rows : List ρ}
    (hRows : (rows.map t.key).Nodup)
    (w : ω) :
    ((t.upsert rows w).map t.key).Nodup := by
  unfold upsert
  cases hRow : t.row rows (t.target w) with
  | some existing =>
      have hKeys :
          (rows.map (fun r =>
              if t.key r = t.key existing then
                t.update w existing
              else
                r)).map t.key =
            rows.map t.key := by
        rw [List.map_map]
        refine List.map_congr_left (fun r _ => ?_)
        by_cases hKey : t.key r = t.key existing
        · simp [hKey, t.key_update]
        · simp [hKey]
      dsimp only
      rwa [hKeys]
  | none =>
      have hNew : t.target w ∉ rows.map t.key := by
        simpa [row] using hRow
      dsimp only
      rw [List.map_append, List.map_singleton, t.key_insert]
      exact List.nodup_append'.mpr
        ⟨hRows, List.nodup_singleton _,
          List.disjoint_singleton.mpr hNew⟩

/- A row is there exactly if it is found under its key. -/
theorem mem_iff_row
    (t : Upserts κ ρ ω)
    {rows : List ρ}
    (hRows : (rows.map t.key).Nodup)
    (r : ρ) :
    r ∈ rows ↔ t.row rows (t.key r) = some r := by
  constructor
  · intro hMem
    cases hRow : t.row rows (t.key r) with
    | none =>
        rw [row, List.find?_eq_none] at hRow
        exact absurd (decide_eq_true rfl) (hRow r hMem)
    | some r' =>
        have hFound : r' ∈ rows := List.mem_of_find?_eq_some hRow
        rw [List.inj_on_of_nodup_map hRows hFound hMem
          (key_of_row hRow)]
  · exact fun hRow => List.mem_of_find?_eq_some hRow

end Upserts
