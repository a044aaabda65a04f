import EngenhoPromessa.ValidationApi.Compliance

/-
  What readers see while a watch starts over.

  The projection drops a resource's map when its watch starts
  over and fills it again object by object, and a reader may
  come in between. An object stays visible exactly if the
  watch never starts over once the object was written.

  Key definitions include:
    * `ExistsThroughout`
    * `NoVisibilityGap`
    * `NeverRelisted`

  Key theorems include:
    * `noVisibilityGap_iff_neverRelisted`
-/

------------------------------------------------------------
-- Visibility
------------------------------------------------------------

namespace EngenhoPromessa

open Watcher

/- The projection after a history of events. -/
def projectionAfter
    (events : List ProjectionEvent) : ValidationProjection :=
  Run.run ValidationProjection.step .new events

/- The snapshot holds the object of a key. -/
def Observed
    (k : String)
    (p : ValidationProjection) : Prop :=
  ∃ v ∈ p.snapshot.validations, keyOf v = some k

/- The object of a key is listed as blocking. -/
def ListedBlocking
    (k : String)
    (now : DateTime)
    (p : ValidationProjection) : Prop :=
  ∃ v ∈ p.snapshot.validations, keyOf v = some k ∧
    isBlocked v = true ∧
    v.spec.imageDigest ∈
      (Rest.complianceSummary now p).blocking

/-
  The object of a key is applied and never deleted, and
  every complete list contains it.
-/
structure ExistsThroughout
    (k : String)
    (events : List ProjectionEvent) : Prop where
  applied : ∃ e v, ProjectionEvent.validation e ∈ events ∧
    e.written = some v ∧ keyOf v = some k
  never_deleted : ∀ v, keyOf v = some k →
    ProjectionEvent.validation (.delete v) ∉ events
  listed : ∀ before list after,
    events.filterMap ProjectionEvent.validation? =
        before ++ .init :: list ++ .initDone :: after →
      (∀ e ∈ list, e ≠ .init ∧ e ≠ .initDone) →
        ∃ v, keyOf v = some k ∧ .initApply v ∈ list

/-
  Once observed, in every later snapshot; once listed as
  blocking, there too, as long as every later version of it
  is blocked.
-/
def NoVisibilityGap
    (k : String)
    (events : List ProjectionEvent) : Prop :=
  (∀ seen later rest, events = seen ++ later ++ rest →
    Observed k (projectionAfter seen) →
      Observed k (projectionAfter (seen ++ later))) ∧
  ∀ now seen later rest, events = seen ++ later ++ rest →
    ListedBlocking k now (projectionAfter seen) →
      (∀ e v, ProjectionEvent.validation e ∈ later →
        e.written = some v → keyOf v = some k →
          isBlocked v = true) →
        ListedBlocking k now (projectionAfter (seen ++ later))

/-
  The watch does not start over after the object of the key
  was written.
-/
def NeverRelisted
    (k : String)
    (events : List ProjectionEvent) : Prop :=
  ∀ before after,
    events = before ++ .validation .init :: after →
      ∀ e v, ProjectionEvent.validation e ∈ before →
        e.written = some v → keyOf v ≠ some k

/- A validation is observed while it is held. -/
theorem observed_iff
    (k : String)
    (p : ValidationProjection) :
    Observed k p ↔ ∃ v, p.validations.get? k = some v := by
  have hValues :=
    Watched.exists_mem_values_iff (m := p.validations)
      (k := k) (fun _ => True)
  simpa [Observed, ValidationProjection.snapshot] using hValues

/- It blocks while it is held and blocked. -/
theorem listedBlocking_iff
    (k : String)
    (now : DateTime)
    (p : ValidationProjection) :
    ListedBlocking k now p ↔
      ∃ v, p.validations.get? k = some v ∧
        isBlocked v = true := by
  rw [← Watched.exists_mem_values_iff]
  refine exists_congr (fun v => and_congr_right (fun hMem =>
    and_congr_right (fun _ => and_iff_left_of_imp ?_)))
  intro hBlocked
  have hBlocking :
      (Rest.complianceSummary now p).blocking =
        (p.snapshot.validations.filter isBlocked).map
          (fun v => v.spec.imageDigest) :=
    Rest.rollup_blocking _
  rw [hBlocking]
  exact List.mem_map_of_mem
    (List.mem_filter.mpr ⟨hMem, hBlocked⟩)

end EngenhoPromessa

------------------------------------------------------------
-- Gaps Are Relists
------------------------------------------------------------

namespace EngenhoPromessa

open Watcher

theorem projectionAfter_append
    (first second : List ProjectionEvent) :
    projectionAfter (first ++ second) =
      Run.run ValidationProjection.step
        (projectionAfter first) second :=
  Run.run_append _ _ _ _

/- Nothing is observed right after a watch started over. -/
theorem not_observed_init
    (k : String)
    (before : List ProjectionEvent) :
    ¬ Observed k
      (projectionAfter (before ++ [.validation .init])) := by
  rw [observed_iff, projectionAfter_append]
  rintro ⟨v, hGet⟩
  have hNone :
      (∅ : Watched AkeylessImageValidation String keyOf).get?
        k = none := Watched.get?_empty k
  exact Option.some_ne_none v (hGet.symm.trans hNone)

/- An object is observed right after it was written. -/
theorem observed_written
    {k : String}
    {e : Event AkeylessImageValidation}
    {v : AkeylessImageValidation}
    (hWritten : e.written = some v)
    (hKey : keyOf v = some k)
    (before : List ProjectionEvent) :
    Observed k
      (projectionAfter (before ++ [.validation e])) := by
  rw [observed_iff, projectionAfter_append]
  refine ⟨v, ?_⟩
  have hTouches : e.Touches keyOf k :=
    (Event.touches_of_written_iff hWritten).mpr hKey
  exact (Watched.get?_apply_of_touches hTouches _).trans
    hWritten

/- What is observed was written. -/
theorem exists_written_of_observed
    {k : String}
    {events : List ProjectionEvent}
    (hObserved : Observed k (projectionAfter events)) :
    ∃ e v, ProjectionEvent.validation e ∈ events ∧
      e.written = some v ∧ keyOf v = some k := by
  rcases (observed_iff k _).mp hObserved with ⟨v, hGet⟩
  unfold projectionAfter at hGet
  rw [ValidationProjection.validations_run] at hGet
  rcases (Watched.get?_run_empty_iff _ k v).mp hGet with
    ⟨before, e, after, hHistory, hWritten, hKey, _⟩
  have hMem :
      e ∈ events.filterMap ProjectionEvent.validation? := by
    simp [hHistory]
  exact ⟨e, v, ProjectionEvent.mem_validations_iff.mp hMem,
    hWritten, hKey⟩

/-
  Without a relist and without a deletion every event that
  touches the key writes it.
-/
theorem exists_written_of_touches
    {k : String}
    {seen later rest : List ProjectionEvent}
    (hExists : ExistsThroughout k (seen ++ later ++ rest))
    (hNever : NeverRelisted k (seen ++ later ++ rest))
    (hObserved : Observed k (projectionAfter seen))
    {e : Event AkeylessImageValidation}
    (hMem : ProjectionEvent.validation e ∈ later)
    (hTouches : e.Touches keyOf k) :
    ∃ v, e.written = some v ∧ keyOf v = some k := by
  rcases hTouches with rfl | ⟨v, hSubject, hKey⟩
  · -- a relist would come after the write that was observed
    rcases exists_written_of_observed hObserved with
      ⟨e', v, hWrite, hWritten, hKey⟩
    rcases List.append_of_mem hMem with
      ⟨before, after, hSplit⟩
    have hSplit' :
        seen ++ later ++ rest =
          (seen ++ before) ++
            .validation .init :: (after ++ rest) := by
      simp [hSplit]
    exact absurd hKey
      (hNever _ _ hSplit' e' v (by simp [hWrite]) hWritten)
  · cases e with
    | init => simp [Event.subject] at hSubject
    | initDone => simp [Event.subject] at hSubject
    | apply o => exact ⟨v, hSubject, hKey⟩
    | initApply o => exact ⟨v, hSubject, hKey⟩
    | delete o =>
        obtain rfl := Option.some.inj hSubject
        exact absurd (by simp [hMem])
          (hExists.never_deleted _ hKey)

/- What is held stays, with what all its versions share. -/
theorem exists_get?_projectionAfter
    {P : AkeylessImageValidation → Prop}
    {k : String}
    {seen later rest : List ProjectionEvent}
    (hExists : ExistsThroughout k (seen ++ later ++ rest))
    (hNever : NeverRelisted k (seen ++ later ++ rest))
    (hWrites : ∀ e v, ProjectionEvent.validation e ∈ later →
      e.written = some v → keyOf v = some k → P v)
    (hHeld : ∃ v,
      (projectionAfter seen).validations.get? k = some v ∧
        P v) :
    ∃ v,
      (projectionAfter (seen ++ later)).validations.get? k =
        some v ∧ P v := by
  have hObserved : Observed k (projectionAfter seen) :=
    (observed_iff k _).mpr
      (hHeld.imp (fun _ hBoth => hBoth.1))
  rw [projectionAfter_append,
    ValidationProjection.validations_run]
  refine Watched.exists_get?_run ?_ hHeld
  intro e hMem hTouches
  have hLater := ProjectionEvent.mem_validations_iff.mp hMem
  rcases exists_written_of_touches hExists hNever hObserved
    hLater hTouches with ⟨v, hWritten, hKey⟩
  exact ⟨v, hWritten, hWrites e v hLater hWritten hKey⟩

/-
  Of an object that exists throughout, no reader loses sight
  exactly if its watch never starts over after it was
  written.
-/
theorem noVisibilityGap_iff_neverRelisted
    {k : String}
    {events : List ProjectionEvent}
    (hExists : ExistsThroughout k events) :
    NoVisibilityGap k events ↔ NeverRelisted k events := by
  constructor
  · rintro ⟨hVisible, _⟩ before after hSplit e v hMem
      hWritten hKey
    rcases List.append_of_mem hMem with
      ⟨first, second, hBefore⟩
    have hEvents :
        events = (first ++ [.validation e]) ++
          (second ++ [.validation .init]) ++ after := by
      simp [hSplit, hBefore]
    have hSeen := observed_written hWritten hKey first
    have hAfter := hVisible _ _ _ hEvents hSeen
    rw [← List.append_assoc] at hAfter
    exact not_observed_init k _ hAfter
  · intro hNever
    constructor
    · rintro seen later rest rfl hSeen
      rw [observed_iff] at hSeen ⊢
      have hKept :=
        exists_get?_projectionAfter (P := fun _ => True)
          hExists hNever (fun _ _ _ _ _ => trivial)
          (hSeen.imp (fun _ hGet => ⟨hGet, trivial⟩))
      exact hKept.imp (fun _ hBoth => hBoth.1)
    · rintro now seen later rest rfl hSeen hBlocked
      rw [listedBlocking_iff] at hSeen ⊢
      exact exists_get?_projectionAfter hExists hNever
        hBlocked hSeen

namespace Reference

/- The key of the failed validation. -/
def failedKey : String := "validation/auth-00"

/- A failed validation, and then its watch starts over. -/
def relisted : List ProjectionEvent :=
  [.validation (.apply failedValidation),
    .validation .init,
    .validation (.initApply failedValidation),
    .validation .initDone]

/- It exists, before and after the new list. -/
theorem existsThroughout_relisted :
    ExistsThroughout failedKey relisted where
  applied := ⟨_, failedValidation, List.Mem.head _, rfl, rfl⟩
  never_deleted := by
    intro v hKey hMem
    simp [relisted] at hMem
  listed := by
    intro before list after hSplit hInner
    have hEvents :
        [.apply failedValidation, .init,
            .initApply failedValidation, .initDone] =
          before ++ .init :: list ++ .initDone :: after :=
      hSplit
    rcases before with _ | ⟨a, _ | ⟨b, before⟩⟩
    · simp at hEvents
    · rcases list with _ | ⟨e, list⟩
      · simp at hEvents
      · simp only [List.cons_append, List.nil_append,
          List.cons.injEq] at hEvents
        exact ⟨failedValidation, rfl,
          by simp [← hEvents.2.2.1]⟩
    · simp at hEvents
      -- the only start over is behind the list
      have hInit : Event.init ∈
          [Event.initApply failedValidation, .initDone] := by
        rw [hEvents.2.2]
        simp
      simp at hInit

end Reference

/-
  Between the start over and the list a failed validation is
  in no snapshot, and nothing blocks.
-/
theorem not_noVisibilityGap_relisted :
    ¬ (ExistsThroughout Reference.failedKey
        Reference.relisted →
      NoVisibilityGap Reference.failedKey
        Reference.relisted) := by
  intro hClaim
  have hVisible :=
    (hClaim Reference.existsThroughout_relisted).1
  have hSeen :=
    observed_written (k := Reference.failedKey)
      (e := .apply Reference.failedValidation) rfl rfl []
  have hAfter :=
    hVisible [.validation (.apply Reference.failedValidation)]
      [.validation .init] _ rfl hSeen
  exact not_observed_init _ _ hAfter

/- Between them it was not there to be seen. -/
theorem noVisibilityGap_iff_neverRelisted_relisted :
    NoVisibilityGap Reference.failedKey Reference.relisted ↔
      NeverRelisted Reference.failedKey Reference.relisted :=
  noVisibilityGap_iff_neverRelisted
    Reference.existsThroughout_relisted

end EngenhoPromessa
