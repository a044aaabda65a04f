import EngenhoPromessa.Collections.Watched
import EngenhoPromessa.Crds.EphemeralTenant
import EngenhoPromessa.Crds.ImageValidation
import EngenhoPromessa.Crds.ScanJob

/-
  The projection of the three custom resources that every
  face of the API reads.

  Three watchers, one for each resource, write to it in any
  interleaving. Each keeps its own map, keyed by namespace
  and name, so the projection is what the three histories
  last wrote.

  Key definitions include:
    * `keyOf`
    * `ValidationProjection`
    * `ValidationProjection.step`
    * `ValidationProjection.snapshot`
    * `Reflects`

  Key theorems include:
    * `identity_eq_of_keyOf_eq`
    * `ValidationProjection.isState_run`
-/

------------------------------------------------------------
-- Keys
------------------------------------------------------------

namespace EngenhoPromessa

/- What has metadata. -/
class Resource (R : Type) where
  metadata : R → ObjectMeta

instance : Resource AkeylessImageValidation :=
  ⟨AkeylessImageValidation.metadata⟩

instance : Resource AkeylessEphemeralTenant :=
  ⟨AkeylessEphemeralTenant.metadata⟩

instance : Resource ScanJob := ⟨ScanJob.metadata⟩

/- `key`: namespace and name, parted by a slash. -/
def key («namespace» name : String) : String :=
  «namespace» ++ "/" ++ name

variable {R : Type} [Resource R]

/- The namespace and the name of an object. -/
def identity (o : R) : String × String :=
  ((Resource.metadata o).namespaceOrDefault,
    (Resource.metadata o).nameAny)

/- An object without a name has no key. -/
def keyOf (o : R) : Option String :=
  let name := (Resource.metadata o).nameAny
  let «namespace» := (Resource.metadata o).namespaceOrDefault
  if name.isEmpty then none else some (key «namespace» name)

/- What Kubernetes promises of namespaces and names. -/
def IsKubeName (s : String) : Prop :=
  s ≠ "" ∧ '/' ∉ s.toList

/- Namespace and name are names as Kubernetes allows them. -/
def WellNamed (o : R) : Prop :=
  IsKubeName (identity o).1 ∧ IsKubeName (identity o).2

omit [Resource R] in
@[simp] theorem toList_key («namespace» name : String) :
    (key «namespace» name).toList =
      «namespace».toList ++ '/' :: name.toList := by
  unfold key
  rw [String.toList_append, String.toList_append,
    List.append_assoc]
  rfl

theorem keyOf_of_wellNamed
    {o : R}
    (hNamed : WellNamed o) :
    keyOf o = some (key (identity o).1 (identity o).2) := by
  have hName : (Resource.metadata o).nameAny ≠ "" :=
    hNamed.2.1
  simp [keyOf, identity, hName]

/- A key of two parts without a slash splits in one way. -/
omit [Resource R] in
theorem key_eq_key_iff
    {ns ns' name name' : String}
    (hNs : '/' ∉ ns.toList)
    (hName : '/' ∉ name.toList) :
    key ns name = key ns' name' ↔
      ns = ns' ∧ name = name' := by
  rw [← String.toList_inj, toList_key, toList_key,
    List.append_cons_inj_of_notMem hNs hName,
    String.toList_inj, String.toList_inj]
  simp

/- Distinct objects have distinct keys. -/
theorem identity_eq_of_keyOf_eq
    {o o' : R}
    (hNamed : WellNamed o)
    (hNamed' : WellNamed o')
    (hKey : keyOf o = keyOf o') :
    identity o = identity o' := by
  rw [keyOf_of_wellNamed hNamed, keyOf_of_wellNamed hNamed',
    Option.some.injEq,
    key_eq_key_iff hNamed.1.2 hNamed.2.2] at hKey
  exact Prod.ext hKey.1 hKey.2

/- And it is the key of that namespace and name only. -/
theorem keyOf_eq_some_key_iff
    {o : R}
    (hNamed : WellNamed o)
    (ns name : String) :
    keyOf o = some (key ns name) ↔
      identity o = (ns, name) := by
  rw [keyOf_of_wellNamed hNamed, Option.some.injEq,
    key_eq_key_iff hNamed.1.2 hNamed.2.2, Prod.ext_iff]

end EngenhoPromessa

------------------------------------------------------------
-- The Projection
------------------------------------------------------------

namespace EngenhoPromessa

open Watcher

/- What the lock of the projection guards. -/
structure ValidationProjection where
  validations : Watched AkeylessImageValidation String keyOf
  tenants : Watched AkeylessEphemeralTenant String keyOf
  scanJobs : Watched ScanJob String keyOf

/- An event of one of the three watchers. -/
inductive ProjectionEvent where
  | validation (e : Event AkeylessImageValidation)
  | tenant (e : Event AkeylessEphemeralTenant)
  | scanJob (e : Event ScanJob)

/- All that is held, as lists. -/
structure Snapshot where
  validations : List AkeylessImageValidation
  tenants : List AkeylessEphemeralTenant
  scanJobs : List ScanJob

namespace ValidationProjection

/- Nothing has been seen yet. -/
def new : ValidationProjection where
  validations := ∅
  tenants := ∅
  scanJobs := ∅

/- The lists of what is held. -/
def snapshot (p : ValidationProjection) : Snapshot where
  validations := p.validations.values
  tenants := p.tenants.values
  scanJobs := p.scanJobs.values

/- The validation of that name, if it is held. -/
def getValidation
    (p : ValidationProjection)
    (ns name : String) : Option AkeylessImageValidation :=
  p.validations.get? (key ns name)

/- The tenant of that name, if it is held. -/
def getTenant
    (p : ValidationProjection)
    (ns name : String) : Option AkeylessEphemeralTenant :=
  p.tenants.get? (key ns name)

/- The scan job of that name, if it is held. -/
def getScanJob
    (p : ValidationProjection)
    (ns name : String) : Option ScanJob :=
  p.scanJobs.get? (key ns name)

/- The closures that `spawn_informers` gives its watchers. -/
def applyValidation
    (inner : ValidationProjection)
    (ev : Event AkeylessImageValidation) :
    ValidationProjection :=
  { inner with validations := inner.validations.apply ev }

/- An event about a tenant. -/
def applyTenant
    (inner : ValidationProjection)
    (ev : Event AkeylessEphemeralTenant) :
    ValidationProjection :=
  { inner with tenants := inner.tenants.apply ev }

/- An event about a scan job. -/
def applyScanJob
    (inner : ValidationProjection)
    (ev : Event ScanJob) : ValidationProjection :=
  { inner with scanJobs := inner.scanJobs.apply ev }

/- One turn of `run_watcher`, whichever watcher it is. -/
def step
    (p : ValidationProjection) :
    ProjectionEvent → ValidationProjection
| .validation e => p.applyValidation e
| .tenant e => p.applyTenant e
| .scanJob e => p.applyScanJob e

end ValidationProjection

namespace ProjectionEvent

/- The event, if it is about a validation. -/
def validation? :
    ProjectionEvent → Option (Event AkeylessImageValidation)
| .validation e => some e
| _ => none

/- The event, if it is about a tenant. -/
def tenant? :
    ProjectionEvent → Option (Event AkeylessEphemeralTenant)
| .tenant e => some e
| _ => none

/- The event, if it is about a scan job. -/
def scanJob? : ProjectionEvent → Option (Event ScanJob)
| .scanJob e => some e
| _ => none

end ProjectionEvent

end EngenhoPromessa

------------------------------------------------------------
-- Three Histories
------------------------------------------------------------

namespace EngenhoPromessa

open Watcher

namespace ValidationProjection

/- Each map runs on the events of its own resource. -/
theorem validations_run
    (p : ValidationProjection)
    (events : List ProjectionEvent) :
    (Run.run step p events).validations =
      Run.run Watched.apply p.validations
        (events.filterMap ProjectionEvent.validation?) := by
  refine Run.component_run validations _ (fun s e => ?_)
    p events
  cases e <;> rfl

/- The tenants go by their own events. -/
theorem tenants_run
    (p : ValidationProjection)
    (events : List ProjectionEvent) :
    (Run.run step p events).tenants =
      Run.run Watched.apply p.tenants
        (events.filterMap ProjectionEvent.tenant?) := by
  refine Run.component_run tenants _ (fun s e => ?_) p events
  cases e <;> rfl

/- The scan jobs go by theirs. -/
theorem scanJobs_run
    (p : ValidationProjection)
    (events : List ProjectionEvent) :
    (Run.run step p events).scanJobs =
      Run.run Watched.apply p.scanJobs
        (events.filterMap ProjectionEvent.scanJob?) := by
  refine Run.component_run scanJobs _ (fun s e => ?_)
    p events
  cases e <;> rfl

end ValidationProjection

end EngenhoPromessa

------------------------------------------------------------
-- The Projection Is The State Of The Cluster
------------------------------------------------------------

namespace EngenhoPromessa

open Watcher

variable {R : Type} [Resource R]

/- The last write of an object, by namespace and name. -/
def LastWritten
    (ns name : String)
    (o : R)
    (history : List (Event R)) : Prop :=
  LastWrite (fun o => some (identity o)) (ns, name) o history

/- All objects of a history have Kubernetes names. -/
def NamesAreKube (history : List (Event R)) : Prop :=
  ∀ e ∈ history, ∀ o, e.subject = some o → WellNamed o

/-
  The map holds the last write of every namespace and name,
  and nothing else.
-/
def Reflects
    (m : Watched R String keyOf)
    (history : List (Event R)) : Prop :=
  (∀ ns name o, m.get? (key ns name) = some o ↔
    LastWritten ns name o history) ∧
  ∀ k o, m.get? k = some o →
    ∃ ns name, k = key ns name ∧
      LastWritten ns name o history

/- The last write of a key is that of its object. -/
theorem lastWrite_keyOf_iff
    {history : List (Event R)}
    (hNames : NamesAreKube history)
    (ns name : String)
    (o : R) :
    LastWrite keyOf (key ns name) o history ↔
      LastWritten ns name o history := by
  refine lastWrite_congr (fun e hMem o hSubject => ?_) o
  rw [keyOf_eq_some_key_iff (hNames e hMem o hSubject),
    Option.some.injEq]

/- A watch reflects its history. -/
theorem reflects_run
    {history : List (Event R)}
    (hNames : NamesAreKube history) :
    Reflects
      (Run.run Watched.apply
        (∅ : Watched R String keyOf) history)
      history := by
  have hGet : ∀ ns name o,
      (Run.run Watched.apply
          (∅ : Watched R String keyOf) history).get?
            (key ns name) = some o ↔
        LastWritten ns name o history := by
    intro ns name o
    rw [Watched.get?_run_empty_iff,
      lastWrite_keyOf_iff hNames]
  refine ⟨hGet, fun k o hHeld => ?_⟩
  -- what is held was written, so its key is made of names
  rcases (Watched.get?_run_empty_iff history k o).mp hHeld
    with ⟨before, e, after, hHistory, hWritten, hKey, _⟩
  have hNamed : WellNamed o :=
    hNames e (by simp [hHistory]) o
      (Event.subject_of_written hWritten)
  have hSplit : k = key (identity o).1 (identity o).2 := by
    rw [keyOf_of_wellNamed hNamed] at hKey
    exact (Option.some.inj hKey).symm
  rw [hSplit] at hHeld
  exact ⟨_, _, hSplit, (hGet _ _ o).mp hHeld⟩

namespace ProjectionEvent

/- The object an event carries has Kubernetes names. -/
def HasKubeNames : ProjectionEvent → Prop
| .validation e => ∀ o, e.subject = some o → WellNamed o
| .tenant e => ∀ o, e.subject = some o → WellNamed o
| .scanJob e => ∀ o, e.subject = some o → WellNamed o

@[simp] theorem validation?_eq_some_iff
    {event : ProjectionEvent}
    {e : Event AkeylessImageValidation} :
    event.validation? = some e ↔ event = .validation e := by
  cases event <;> simp [validation?]

@[simp] theorem tenant?_eq_some_iff
    {event : ProjectionEvent}
    {e : Event AkeylessEphemeralTenant} :
    event.tenant? = some e ↔ event = .tenant e := by
  cases event <;> simp [tenant?]

@[simp] theorem scanJob?_eq_some_iff
    {event : ProjectionEvent}
    {e : Event ScanJob} :
    event.scanJob? = some e ↔ event = .scanJob e := by
  cases event <;> simp [scanJob?]

/- The events about validations, among all. -/
theorem mem_validations_iff
    {events : List ProjectionEvent}
    {e : Event AkeylessImageValidation} :
    e ∈ events.filterMap validation? ↔
      .validation e ∈ events := by
  simp [List.mem_filterMap]

/- So have those of the history of one resource. -/
theorem namesAreKube_filterMap
    {view : ProjectionEvent → Option (Event R)}
    (hView : ∀ event e, view event = some e →
      event.HasKubeNames →
        ∀ o, e.subject = some o → WellNamed o)
    {events : List ProjectionEvent}
    (hNames : ∀ e ∈ events, e.HasKubeNames) :
    NamesAreKube (events.filterMap view) := by
  intro e hMem
  rcases List.mem_filterMap.mp hMem with
    ⟨event, hEvent, hSome⟩
  exact hView event e hSome (hNames event hEvent)

end ProjectionEvent

namespace ValidationProjection

/- Every map holds what its own history last wrote. -/
structure Projects
    (events : List ProjectionEvent)
    (p : ValidationProjection) : Prop where
  validations : Reflects p.validations
    (events.filterMap ProjectionEvent.validation?)
  tenants : Reflects p.tenants
    (events.filterMap ProjectionEvent.tenant?)
  scanJobs : Reflects p.scanJobs
    (events.filterMap ProjectionEvent.scanJob?)

/- An event leaves the maps of the other resources alone. -/
def LeavesOthers
    (p : ValidationProjection) : ProjectionEvent → Prop
| .validation e =>
    (p.step (.validation e)).tenants = p.tenants ∧
      (p.step (.validation e)).scanJobs = p.scanJobs
| .tenant e =>
    (p.step (.tenant e)).validations = p.validations ∧
      (p.step (.tenant e)).scanJobs = p.scanJobs
| .scanJob e =>
    (p.step (.scanJob e)).validations = p.validations ∧
      (p.step (.scanJob e)).tenants = p.tenants

theorem leavesOthers_step
    (p : ValidationProjection)
    (e : ProjectionEvent) : p.LeavesOthers e := by
  cases e with
  | validation e => exact ⟨rfl, rfl⟩
  | tenant e => exact ⟨rfl, rfl⟩
  | scanJob e => exact ⟨rfl, rfl⟩

/- The projection is what the three watches have seen. -/
theorem projects_run_new
    {events : List ProjectionEvent}
    (hNames : ∀ e ∈ events, e.HasKubeNames) :
    Projects events (Run.run step new events) where
  validations := by
    rw [validations_run]
    refine reflects_run
      (ProjectionEvent.namesAreKube_filterMap ?_ hNames)
    intro event e hSome hKube
    obtain rfl :=
      ProjectionEvent.validation?_eq_some_iff.mp hSome
    exact hKube
  tenants := by
    rw [tenants_run]
    refine reflects_run
      (ProjectionEvent.namesAreKube_filterMap ?_ hNames)
    intro event e hSome hKube
    obtain rfl := ProjectionEvent.tenant?_eq_some_iff.mp hSome
    exact hKube
  scanJobs := by
    rw [scanJobs_run]
    refine reflects_run
      (ProjectionEvent.namesAreKube_filterMap ?_ hNames)
    intro event e hSome hKube
    obtain rfl := ProjectionEvent.scanJob?_eq_some_iff.mp hSome
    exact hKube

/-
  After any interleaving of the three watches the projection
  is what each last wrote. No event reaches the maps of the
  other resources, and no two objects share a key.
-/
theorem isState_run
    {events : List ProjectionEvent}
    (hNames : ∀ e ∈ events, e.HasKubeNames) :
    Projects events (Run.run step new events) ∧
      (∀ p e, LeavesOthers p e) ∧
      ∀ (R : Type) [Resource R] (o o' : R),
        WellNamed o → WellNamed o' →
          identity o ≠ identity o' → keyOf o ≠ keyOf o' := by
  refine ⟨projects_run_new hNames, leavesOthers_step, ?_⟩
  intro R _ o o' hNamed hNamed' hDistinct hKey
  exact hDistinct
    (identity_eq_of_keyOf_eq hNamed hNamed' hKey)

end ValidationProjection

namespace Reference

/- A validation that a watcher lists. -/
def listedValidation : AkeylessImageValidation where
  metadata :=
    { name := some "auth-00"
      «namespace» := some "validation"
      labels := []
      ownerReferences := []
      uid := some "uid-auth-00"
      generation := some 1 }
  spec :=
    { imageDigest := "sha256:00"
      imageRepo := "ghcr.io/akeylesslabs/akeyless-auth"
      service := "auth"
      promessaRef := "akeyless-nix-images-fedramp-scr"
      pack := "fedramp-high"
      keepFor := none }
  status := none

/- Its names are such names. -/
theorem wellNamed_listedValidation :
    WellNamed listedValidation := by
  unfold WellNamed IsKubeName
  decide

end Reference

namespace ValidationProjection

/- The watch is started again, and its state is right. -/
theorem isState_run_relist :
    let events : List ProjectionEvent :=
      [.validation .init,
        .validation (.initApply Reference.listedValidation),
        .scanJob .init, .validation .initDone]
    Projects events (Run.run step new events) :=
  (isState_run (by
    intro e hMem
    simp only [List.mem_cons, List.not_mem_nil, or_false]
      at hMem
    rcases hMem with rfl | rfl | rfl | rfl
    · intro o hSubject
      simp [Event.subject] at hSubject
    · intro o hSubject
      obtain rfl := Option.some.inj hSubject
      exact Reference.wellNamed_listedValidation
    · intro o hSubject
      simp [Event.subject] at hSubject
    · intro o hSubject
      simp [Event.subject] at hSubject)).1

end ValidationProjection

end EngenhoPromessa
