import Mathlib.Data.List.Induction
import Mathlib.Data.String.Basic
import EngenhoPromessa.Effect.Run

/-
  A map kept by watching a collection of objects.

  A watch reports writes and deletions, and it may start over:
  it then lists the objects there are before it goes on. The
  map is keyed by what identifies an object, and the type says
  that an object is only ever found under its own key.

  Key definitions include:
    * `Watcher.Event`
    * `Watcher.LastWrite`
    * `Watched`
    * `Watched.apply`

  Key theorems include:
    * `Watched.get?_run_empty_iff`
-/

------------------------------------------------------------
-- Events
------------------------------------------------------------

namespace Watcher

/- What a watch reports. -/
inductive Event (α : Type) where
  | init
  | initApply (o : α)
  | initDone
  | apply (o : α)
  | delete (o : α)
deriving DecidableEq, Repr

variable {α κ : Type}

namespace Event

/- The object an event writes. -/
def written : Event α → Option α
| .apply o => some o
| .initApply o => some o
| _ => none

/- The object an event is about. -/
def subject : Event α → Option α
| .apply o => some o
| .initApply o => some o
| .delete o => some o
| _ => none

/- The event decides what is held under `k` from then on. -/
def Touches
    (keyOf : α → Option κ)
    (k : κ)
    (e : Event α) : Prop :=
  e = .init ∨ ∃ o, e.subject = some o ∧ keyOf o = some k

/- What an event writes is what it is about. -/
theorem subject_of_written
    {e : Event α}
    {o : α}
    (hWritten : e.written = some o) :
    e.subject = some o := by
  cases e with
  | apply o' => exact hWritten
  | initApply o' => exact hWritten
  | init => simp [written] at hWritten
  | initDone => simp [written] at hWritten
  | delete o' => simp [written] at hWritten

/- A write touches exactly the key of its object. -/
theorem touches_of_written_iff
    {keyOf : α → Option κ}
    {k : κ}
    {e : Event α}
    {o : α}
    (hWritten : e.written = some o) :
    e.Touches keyOf k ↔ keyOf o = some k := by
  have hSubject := subject_of_written hWritten
  have hNotInit : e ≠ .init := by
    rintro rfl
    simp [written] at hWritten
  simp [Touches, hNotInit, hSubject]

/- Identities that agree on an event's object touch alike. -/
theorem touches_congr
    {κ' : Type}
    {keyOf : α → Option κ}
    {keyOf' : α → Option κ'}
    {k : κ}
    {k' : κ'}
    {e : Event α}
    (hAgree : ∀ o, e.subject = some o →
      (keyOf o = some k ↔ keyOf' o = some k')) :
    e.Touches keyOf k ↔ e.Touches keyOf' k' := by
  refine or_congr Iff.rfl (exists_congr (fun o => ?_))
  exact and_congr_right (hAgree o)

end Event

end Watcher

------------------------------------------------------------
-- The Last Write
------------------------------------------------------------

namespace Watcher

variable {α κ : Type}

/-
  The object `o` was written under `k`, and since then the
  watch did not start over and nothing under `k` was written
  again or deleted.
-/
def LastWrite
    (keyOf : α → Option κ)
    (k : κ)
    (o : α)
    (history : List (Event α)) : Prop :=
  ∃ before e after, history = before ++ e :: after ∧
    e.written = some o ∧ keyOf o = some k ∧
    ∀ e' ∈ after, ¬ e'.Touches keyOf k

theorem not_lastWrite_nil
    (keyOf : α → Option κ)
    (k : κ)
    (o : α) :
    ¬ LastWrite keyOf k o [] := by
  rintro ⟨before, e, after, hHistory, _⟩
  simp at hHistory

/- Where an event of a longer history stands. -/
theorem concat_eq_append_cons
    {history before after : List (Event α)}
    {e e' : Event α}
    (hHistory : history ++ [e] = before ++ e' :: after) :
    after = [] ∧ e' = e ∨
      ∃ middle, after = middle ++ [e] ∧
        history = before ++ e' :: middle := by
  rcases List.eq_nil_or_concat after with
    rfl | ⟨middle, last, rfl⟩
  · have hEnds := List.append_inj' hHistory rfl
    exact .inl ⟨rfl, (List.cons.inj hEnds.2).1.symm⟩
  · have hSplit :
        history ++ [e] = (before ++ e' :: middle) ++ [last] := by
      simpa using hHistory
    have hEnds := List.append_inj' hSplit rfl
    have hLast : e = last := (List.cons.inj hEnds.2).1
    exact .inr ⟨middle, by simp [hLast], hEnds.1⟩

/- An event that touches the key settles what it holds. -/
theorem lastWrite_concat_iff_of_touches
    {keyOf : α → Option κ}
    {k : κ}
    {e : Event α}
    (hTouches : e.Touches keyOf k)
    (o : α)
    (history : List (Event α)) :
    LastWrite keyOf k o (history ++ [e]) ↔
      e.written = some o := by
  constructor
  · rintro ⟨before, e', after, hHistory, hWritten, _, hAfter⟩
    rcases concat_eq_append_cons hHistory with
      ⟨_, rfl⟩ | ⟨middle, rfl, _⟩
    · exact hWritten
    · exact absurd hTouches (hAfter e (by simp))
  · intro hWritten
    exact ⟨history, e, [], rfl, hWritten,
      (Event.touches_of_written_iff hWritten).mp hTouches,
      by simp⟩

/- Any other event leaves the last write what it was. -/
theorem lastWrite_concat_iff_of_not_touches
    {keyOf : α → Option κ}
    {k : κ}
    {e : Event α}
    (hNot : ¬ e.Touches keyOf k)
    (o : α)
    (history : List (Event α)) :
    LastWrite keyOf k o (history ++ [e]) ↔
      LastWrite keyOf k o history := by
  constructor
  · rintro ⟨before, e', after, hHistory, hWritten, hKey,
      hAfter⟩
    rcases concat_eq_append_cons hHistory with
      ⟨_, rfl⟩ | ⟨middle, rfl, hBefore⟩
    · have hTouches :=
        (Event.touches_of_written_iff hWritten).mpr hKey
      exact absurd hTouches hNot
    · exact ⟨before, e', middle, hBefore, hWritten, hKey,
        fun e'' hMem => hAfter e'' (by simp [hMem])⟩
  · rintro ⟨before, e', after, rfl, hWritten, hKey, hAfter⟩
    refine ⟨before, e', after ++ [e], by simp, hWritten,
      hKey, ?_⟩
    intro e'' hMem
    rcases List.mem_append.mp hMem with hOld | hNew
    · exact hAfter e'' hOld
    · rw [List.mem_singleton.mp hNew]
      exact hNot

/- A history only matters through what its events touch. -/
theorem lastWrite_congr
    {κ' : Type}
    {keyOf : α → Option κ}
    {keyOf' : α → Option κ'}
    {k : κ}
    {k' : κ'}
    {history : List (Event α)}
    (hAgree : ∀ e ∈ history, ∀ o, e.subject = some o →
      (keyOf o = some k ↔ keyOf' o = some k'))
    (o : α) :
    LastWrite keyOf k o history ↔
      LastWrite keyOf' k' o history := by
  refine exists_congr (fun before => exists_congr (fun e =>
    exists_congr (fun after => and_congr_right ?_)))
  intro hHistory
  refine and_congr_right (fun hWritten => and_congr ?_ ?_)
  · exact hAgree e (by simp [hHistory]) o
      (Event.subject_of_written hWritten)
  · refine forall_congr' (fun e' =>
      forall_congr' (fun hMem => not_congr ?_))
    exact Event.touches_congr
      (hAgree e' (by simp [hHistory, hMem]))

end Watcher

------------------------------------------------------------
-- The Watched Map
------------------------------------------------------------

/- A map in which every object is found under its own key. -/
structure Watched
    (α κ : Type)
    [Ord κ]
    [Std.TransOrd κ]
    [Std.LawfulEqOrd κ]
    (keyOf : α → Option κ) where
  toMap : Std.ExtTreeMap κ α
  keyed : ∀ k o, toMap[k]? = some o → keyOf o = some k

namespace Watched

open Watcher

variable {α κ : Type} [Ord κ] [Std.TransOrd κ]
variable [Std.LawfulEqOrd κ] {keyOf : α → Option κ}

/- Nothing has been seen yet. -/
def empty : Watched α κ keyOf where
  toMap := ∅
  keyed k o hGet := by simp at hGet

instance : EmptyCollection (Watched α κ keyOf) := ⟨empty⟩

/- The object under a key, if one is held. -/
def get? (m : Watched α κ keyOf) (k : κ) : Option α :=
  m.toMap[k]?

/- The objects, in the order of their keys. -/
def values (m : Watched α κ keyOf) : List α :=
  m.toMap.toList.map Prod.snd

/- Objects without a key are left out. -/
def insert (m : Watched α κ keyOf) (o : α) :
    Watched α κ keyOf :=
  match hKey : keyOf o with
  | none => m
  | some k =>
      { toMap := m.toMap.insert k o
        keyed := by
          intro k' o' hGet
          rw [Std.ExtTreeMap.getElem?_insert] at hGet
          split at hGet
          · rename_i hEq
            rw [← Option.some.inj hGet, hKey,
              Std.LawfulEqCmp.compare_eq_iff_eq.mp hEq]
          · exact m.keyed k' o' hGet }

/- An object without a key is not removed. -/
def remove (m : Watched α κ keyOf) (o : α) :
    Watched α κ keyOf :=
  match keyOf o with
  | none => m
  | some k =>
      { toMap := m.toMap.erase k
        keyed := by
          intro k' o' hGet
          rw [Std.ExtTreeMap.getElem?_erase] at hGet
          split at hGet
          · simp at hGet
          · exact m.keyed k' o' hGet }

/- A fresh list starts by dropping what there is. -/
def apply (m : Watched α κ keyOf) :
    Event α → Watched α κ keyOf
| .apply o => m.insert o
| .delete o => m.remove o
| .init => ∅
| .initApply o => m.insert o
| .initDone => m

@[simp] theorem get?_empty (k : κ) :
    (∅ : Watched α κ keyOf).get? k = none := by
  change (∅ : Std.ExtTreeMap κ α)[k]? = none
  simp

theorem mem_values_iff
    {m : Watched α κ keyOf}
    {o : α} :
    o ∈ m.values ↔ ∃ k, m.get? k = some o := by
  simp [values, get?,
    Std.ExtTreeMap.mem_toList_iff_getElem?_eq_some]

/- Every object is found under its own key. -/
theorem get?_of_mem_values
    {m : Watched α κ keyOf}
    {o : α}
    (hMem : o ∈ m.values) :
    ∃ k, keyOf o = some k ∧ m.get? k = some o := by
  rcases mem_values_iff.mp hMem with ⟨k, hGet⟩
  exact ⟨k, m.keyed k o hGet, hGet⟩

end Watched

------------------------------------------------------------
-- What A Watch Leaves
------------------------------------------------------------

namespace Watched

open Watcher

variable {α κ : Type} [Ord κ] [Std.TransOrd κ]
variable [Std.LawfulEqOrd κ] {keyOf : α → Option κ}

/- An inserted object is found under its key. -/
theorem get?_insert_self
    {o : α}
    {k : κ}
    (hKey : keyOf o = some k)
    (m : Watched α κ keyOf) :
    (m.insert o).get? k = some o := by
  unfold insert
  split
  · rename_i hNone
    simp [hKey] at hNone
  · rename_i k' hSome
    obtain rfl : k = k' :=
      Option.some.inj (hKey.symm.trans hSome)
    simp [get?]

/- Other keys keep what they had. -/
theorem get?_insert_of_ne
    {o : α}
    {k : κ}
    (hKey : keyOf o ≠ some k)
    (m : Watched α κ keyOf) :
    (m.insert o).get? k = m.get? k := by
  unfold insert
  split
  · rfl
  · rename_i k' hSome
    have hNe : ¬ compare k' k = .eq := by
      intro hEq
      exact hKey (hSome.trans
        (congrArg some
          (Std.LawfulEqCmp.compare_eq_iff_eq.mp hEq)))
    simp [get?, Std.ExtTreeMap.getElem?_insert, hNe]

theorem get?_remove_self
    {o : α}
    {k : κ}
    (hKey : keyOf o = some k)
    (m : Watched α κ keyOf) :
    (m.remove o).get? k = none := by
  simp [remove, hKey, get?]

/- Other keys keep theirs after a removal, too. -/
theorem get?_remove_of_ne
    {o : α}
    {k : κ}
    (hKey : keyOf o ≠ some k)
    (m : Watched α κ keyOf) :
    (m.remove o).get? k = m.get? k := by
  unfold remove
  split
  · rfl
  · rename_i k' hSome
    have hNe : ¬ compare k' k = .eq := by
      intro hEq
      exact hKey (hSome.trans
        (congrArg some
          (Std.LawfulEqCmp.compare_eq_iff_eq.mp hEq)))
    simp [get?, Std.ExtTreeMap.getElem?_erase, hNe]

/- After an event that touches a key, its write is there. -/
theorem get?_apply_of_touches
    {e : Event α}
    {k : κ}
    (hTouches : e.Touches keyOf k)
    (m : Watched α κ keyOf) :
    (m.apply e).get? k = e.written := by
  rcases hTouches with rfl | ⟨o, hSubject, hKey⟩
  · exact get?_empty k
  · cases e with
    | init => simp [Event.subject] at hSubject
    | initDone => simp [Event.subject] at hSubject
    | apply o' =>
        obtain rfl := Option.some.inj hSubject
        exact get?_insert_self hKey m
    | initApply o' =>
        obtain rfl := Option.some.inj hSubject
        exact get?_insert_self hKey m
    | delete o' =>
        obtain rfl := Option.some.inj hSubject
        exact get?_remove_self hKey m

/- An event that is not about a key leaves it as it is. -/
theorem get?_apply_of_not_touches
    {e : Event α}
    {k : κ}
    (hNot : ¬ e.Touches keyOf k)
    (m : Watched α κ keyOf) :
    (m.apply e).get? k = m.get? k := by
  have hSubject :
      ∀ o, e.subject = some o → keyOf o ≠ some k :=
    fun o hSubject hKey => hNot (.inr ⟨o, hSubject, hKey⟩)
  cases e with
  | init => exact absurd (.inl rfl) hNot
  | initDone => rfl
  | apply o => exact get?_insert_of_ne (hSubject o rfl) m
  | initApply o => exact get?_insert_of_ne (hSubject o rfl) m
  | delete o => exact get?_remove_of_ne (hSubject o rfl) m

/- The map holds the last write of every key. -/
theorem get?_run_empty_iff
    (history : List (Event α))
    (k : κ)
    (o : α) :
    (Run.run apply (∅ : Watched α κ keyOf) history).get? k =
        some o ↔
      LastWrite keyOf k o history := by
  induction history using List.reverseRecOn with
  | nil =>
      simp [not_lastWrite_nil]
  | append_singleton history e ih =>
      rw [Run.run_append, Run.run_cons, Run.run_nil]
      by_cases hTouches : e.Touches keyOf k
      · rw [get?_apply_of_touches hTouches,
          lastWrite_concat_iff_of_touches hTouches]
      · rw [get?_apply_of_not_touches hTouches,
          lastWrite_concat_iff_of_not_touches hTouches, ih]

/- What is held under a key is there to be listed. -/
theorem exists_mem_values_iff
    {m : Watched α κ keyOf}
    {k : κ}
    (P : α → Prop) :
    (∃ o ∈ m.values, keyOf o = some k ∧ P o) ↔
      ∃ o, m.get? k = some o ∧ P o := by
  constructor
  · rintro ⟨o, hMem, hKey, hP⟩
    rcases get?_of_mem_values hMem with ⟨k', hKey', hGet⟩
    obtain rfl : k = k' :=
      Option.some.inj (hKey.symm.trans hKey')
    exact ⟨o, hGet, hP⟩
  · rintro ⟨o, hGet, hP⟩
    exact ⟨o, mem_values_iff.mpr ⟨k, hGet⟩,
      m.keyed k o hGet, hP⟩

/-
  Under a key that is only ever written again, and only with
  objects that have a property, such an object stays.
-/
theorem exists_get?_run
    {P : α → Prop}
    {k : κ}
    {events : List (Event α)}
    (hWrites : ∀ e ∈ events, e.Touches keyOf k →
      ∃ o, e.written = some o ∧ P o)
    {m : Watched α κ keyOf}
    (hHeld : ∃ o, m.get? k = some o ∧ P o) :
    ∃ o, (Run.run apply m events).get? k = some o ∧ P o := by
  induction events generalizing m with
  | nil => exact hHeld
  | cons e events ih =>
      rcases List.forall_mem_cons.mp hWrites with
        ⟨hEvent, hRest⟩
      refine ih hRest ?_
      by_cases hTouches : e.Touches keyOf k
      · rw [get?_apply_of_touches hTouches]
        exact hEvent hTouches
      · rw [get?_apply_of_not_touches hTouches]
        exact hHeld

end Watched
