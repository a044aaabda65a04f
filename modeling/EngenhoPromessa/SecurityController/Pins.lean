import EngenhoPromessa.SecurityController.Drift
import EngenhoPromessa.ReconcilerEngine.FluxCommit

/-
  The pins a critical decision commits.

  The patches of all critical CVEs name one file and the same
  three members of its document, so each overwrites the pin
  of the one before it. What is left is the pin of the last
  CVE, and pins the document already held elsewhere.

  Key definitions include:
    * `SecurityController.RecordsPin`
    * `SecurityController.PinsAccumulate`
    * `SecurityController.PinKept`

  Key theorems include:
    * `SecurityController.fluxCommits_decide`
    * `SecurityController.pinsAccumulate_iff`
-/

------------------------------------------------------------
-- The Commits Of A Critical Decision
------------------------------------------------------------

namespace EngenhoPromessa

namespace SecurityController

open FluxCommit

/- The file that the images are pinned in. -/
def pinPath : String :=
  "helmworks-akeyless/architectures/fedramp-high.yaml"

/- The members of the patch that pins a CVE's service. -/
def pinMembers (c : DigestCveAge) : List (String × Json) :=
  [("service", .str c.service),
    ("pin_to_previous_known_good", .bool true),
    ("reason", .str ("Critical CVE " ++ c.cveId))]

/- Of a critical decision only the pins are commits. -/
theorem fluxCommits_decide_critical
    (spec : SecuritySpec)
    (drift : SecurityDrift) :
    (decide spec .critical drift).fluxCommits =
      drift.criticalCves.map
        (fun c => (pinPath, .obj (pinMembers c))) := by
  simp only [decide, Decision.fluxCommits,
    TypedAction.fluxCommits,
    TypedAction.fluxCommitsSteps_eq_flatMap]
  induction drift.criticalCves with
  | nil => rfl
  | cons c cs ih =>
      rw [List.flatMap_cons, List.flatMap_append, ih,
        List.map_cons]
      rfl

/- Only a critical severity commits anything. -/
theorem fluxCommits_decide
    (spec : SecuritySpec)
    (drift : SecurityDrift) :
    (decide spec (classify drift) drift).fluxCommits =
      drift.criticalCves.map
        (fun c => (pinPath, .obj (pinMembers c))) := by
  cases hSeverity : classify drift with
  | critical => exact fluxCommits_decide_critical spec drift
  | functional =>
      have hNone : drift.criticalCves = [] := by
        by_contra hSome
        have hCritical :=
          (classify_eq_critical_iff drift).mpr
            (Or.inl hSome)
        rw [hSeverity] at hCritical
        exact absurd hCritical (by simp)
      rw [hNone, decide]
      split
      · rfl
      · simp only [Decision.fluxCommits,
          TypedAction.fluxCommits,
          TypedAction.fluxCommitsSteps_eq_flatMap,
          List.map_nil, List.flatMap_eq_nil_iff,
          List.mem_append, List.mem_flatMap, List.mem_map]
        rintro _ (⟨m, _, att, _, rfl⟩ | ⟨h, _, rfl⟩)
        · rfl
        · rfl
  | cosmetic =>
      have hNone :=
        ((classify_eq_cosmetic_iff drift).mp hSeverity).1
      rw [hNone, decide]
      split
      · rfl
      · simp only [Decision.fluxCommits,
          TypedAction.fluxCommits,
          TypedAction.fluxCommitsSteps_eq_flatMap,
          List.map_nil, List.flatMap_eq_nil_iff,
          List.mem_map]
        rintro _ ⟨d, _, rfl⟩
        rfl

/- The document after the decision's commits to the file. -/
def pinnedDocument
    (spec : SecuritySpec)
    (drift : SecurityDrift)
    (document : Json) : Json :=
  applyCommits pinPath
    (decide spec (classify drift) drift).fluxCommits document

/- The pins are merged into the document one by one. -/
theorem pinnedDocument_eq_foldl
    (spec : SecuritySpec)
    (drift : SecurityDrift)
    (document : Json) :
    pinnedDocument spec drift document =
      drift.criticalCves.foldl
        (fun document c =>
          mergeJson document (.obj (pinMembers c)))
        document := by
  have hPath :
      ∀ cs : List DigestCveAge,
        (cs.map (fun c =>
          (pinPath, Json.obj (pinMembers c)))).filter
            (fun c => c.1 = pinPath) =
          cs.map (fun c =>
            (pinPath, Json.obj (pinMembers c))) := by
    intro cs
    rw [List.filter_eq_self]
    intro commit hCommit
    rcases List.mem_map.mp hCommit with ⟨c, _, rfl⟩
    simp
  rw [pinnedDocument, fluxCommits_decide, applyCommits, hPath,
    List.foldl_map]

end SecurityController

end EngenhoPromessa

------------------------------------------------------------
-- Pins Of A Document
------------------------------------------------------------

namespace EngenhoPromessa

namespace SecurityController

open FluxCommit

/- Somewhere in the document the service is pinned. -/
def RecordsPin (document : Json) (service : String) : Prop :=
  ∃ entry, Json.Within entry document ∧
    entry.get? "service" = some (.str service) ∧
    entry.get? "pin_to_previous_known_good" =
      some (.bool true)

/- The members the patches write. -/
def pinKeys : List String :=
  ["service", "pin_to_previous_known_good", "reason"]

theorem nodup_pinMembers (c : DigestCveAge) :
    ((pinMembers c).map Prod.fst).Nodup := by
  simp [pinMembers]

/- A patch writes its three members and leaves the others. -/
theorem get?_mergeJson_pinMembers
    (c : DigestCveAge)
    (document : Json)
    (key : String) :
    (mergeJson document (.obj (pinMembers c))).get? key =
      ((pinMembers c).lookup key).or
        (document.get? key) := by
  rw [get?_mergeJson_obj (nodup_pinMembers c)]
  simp only [pinMembers, Json.lookup_cons_ite,
    List.lookup_nil]
  split_ifs
  · rfl
  · rfl
  · rfl
  · simp

/- A pin only has the members of a pin. -/
theorem lookup_pinMembers_eq_none_iff
    (c : DigestCveAge)
    (key : String) :
    (pinMembers c).lookup key = none ↔ key ∉ pinKeys := by
  simp only [pinMembers, Json.lookup_cons_ite,
    List.lookup_nil, pinKeys]
  split_ifs with hService hPin hReason
  · simp [hService]
  · simp [hPin]
  · simp [hReason]
  · simp [hService, hPin, hReason]

/-
  The last patch decides. The induction walks the CVEs in
  the order their patches are applied.
-/
theorem get?_foldl_pinMembers
    (cs : List DigestCveAge)
    (last : DigestCveAge)
    (document : Json)
    (key : String) :
    ((cs ++ [last]).foldl
        (fun document c =>
          mergeJson document (.obj (pinMembers c)))
        document).get? key =
      ((pinMembers last).lookup key).or
        (document.get? key) := by
  induction cs generalizing document with
  | nil => exact get?_mergeJson_pinMembers last document key
  | cons c cs ih =>
      rw [List.cons_append, List.foldl_cons, ih,
        get?_mergeJson_pinMembers]
      cases hLast : (pinMembers last).lookup key with
      | some v => rfl
      | none =>
          rw [lookup_pinMembers_eq_none_iff,
            ← lookup_pinMembers_eq_none_iff c] at hLast
          rw [hLast]
          rfl

/- The result of a patch is an object. -/
theorem exists_foldl_pinMembers_eq_obj
    (cs : List DigestCveAge)
    (last : DigestCveAge)
    (document : Json) :
    ∃ ms,
      (cs ++ [last]).foldl
        (fun document c =>
          mergeJson document (.obj (pinMembers c)))
        document = .obj ms := by
  rw [List.foldl_append]
  exact ⟨_, rfl⟩

/- A text or a flag holds no pin. -/
theorem not_recordsPin_of_mem_pinMembers
    {last : DigestCveAge}
    {key : String}
    {v : Json}
    (hMember : (pinMembers last).lookup key = some v)
    (service : String) :
    ¬ RecordsPin v service := by
  rintro ⟨entry, hWithin, hService, _⟩
  simp only [pinMembers, Json.lookup_cons_ite,
    List.lookup_nil] at hMember
  split_ifs at hMember
  · obtain rfl := Option.some.inj hMember
    cases hWithin
    simp [Json.get?, Json.members] at hService
  · obtain rfl := Option.some.inj hMember
    cases hWithin
    simp [Json.get?, Json.members] at hService
  · obtain rfl := Option.some.inj hMember
    cases hWithin
    simp [Json.get?, Json.members] at hService

/- A later pin takes the place of every earlier one. -/
theorem recordsPin_foldl_iff
    (cs : List DigestCveAge)
    (last : DigestCveAge)
    (document : Json)
    (service : String) :
    RecordsPin
        ((cs ++ [last]).foldl
          (fun document c =>
            mergeJson document (.obj (pinMembers c)))
          document)
        service ↔
      last.service = service ∨
        ∃ key v, key ∉ pinKeys ∧
          document.get? key = some v ∧
          RecordsPin v service := by
  have hGet := get?_foldl_pinMembers cs last document
  rcases exists_foldl_pinMembers_eq_obj cs last document with
    ⟨ms, hObj⟩
  rw [hObj] at hGet ⊢
  simp only [Json.get?_obj] at hGet
  constructor
  · rintro ⟨entry, hWithin, hService, hPin⟩
    rcases Json.within_obj_iff.mp hWithin with
      rfl | ⟨key, v, hMember, hInner⟩
    · left
      rw [Json.get?_obj, hGet] at hService
      simpa [pinMembers, Json.lookup_cons_ite] using hService
    · right
      have hRecords : RecordsPin v service :=
        ⟨entry, hInner, hService, hPin⟩
      rw [hGet] at hMember
      cases hLast : (pinMembers last).lookup key with
      | some w =>
          rw [hLast, Option.some_or] at hMember
          obtain rfl := Option.some.inj hMember
          exact absurd hRecords
            (not_recordsPin_of_mem_pinMembers hLast service)
      | none =>
          rw [hLast, Option.none_or] at hMember
          exact ⟨key, v,
            (lookup_pinMembers_eq_none_iff last key).mp hLast,
            hMember, hRecords⟩
  · rintro (hLast | ⟨key, v, hKey, hMember, entry, hInner,
      hNames⟩)
    · refine ⟨.obj ms, .refl, ?_, ?_⟩
      · rw [Json.get?_obj, hGet, ← hLast]
        simp [pinMembers]
      · rw [Json.get?_obj, hGet]
        simp [pinMembers, Json.lookup_cons_ite]
    · have hNone :=
        (lookup_pinMembers_eq_none_iff last key).mpr hKey
      have hKeep : ms.lookup key = some v := by
        rw [hGet, hNone, Option.none_or]
        exact hMember
      exact ⟨entry, .member hKeep hInner, hNames⟩

end SecurityController

end EngenhoPromessa

------------------------------------------------------------
-- Pins That Accumulate
------------------------------------------------------------

namespace EngenhoPromessa

namespace SecurityController

/- Every affected service ends up pinned. -/
def PinsAccumulate
    (spec : SecuritySpec)
    (drift : SecurityDrift)
    (document : Json) : Prop :=
  ∀ c ∈ drift.criticalCves,
    RecordsPin (pinnedDocument spec drift document) c.service

/-
  The service is that of the last critical CVE, or the
  document pins it already, below a member no patch writes.
-/
def PinKept
    (drift : SecurityDrift)
    (document : Json)
    (service : String) : Prop :=
  (∃ last, drift.criticalCves.getLast? = some last ∧
    last.service = service) ∨
  ∃ key v, key ∉ pinKeys ∧
    document.get? key = some v ∧ RecordsPin v service

/- Every pin is kept just if no later one overwrites it. -/
theorem pinsAccumulate_iff
    (spec : SecuritySpec)
    (drift : SecurityDrift)
    (document : Json) :
    PinsAccumulate spec drift document ↔
      ∀ c ∈ drift.criticalCves,
        PinKept drift document c.service := by
  unfold PinsAccumulate PinKept
  rw [pinnedDocument_eq_foldl]
  rcases List.eq_nil_or_concat drift.criticalCves with
    hNil | ⟨cs, last, hCves⟩
  · simp [hNil]
  · rw [hCves, List.concat_eq_append]
    simp only [recordsPin_foldl_iff, List.getLast?_concat,
      Option.some.injEq, exists_eq_left']

/-
  One critical CVE in each of two services, and an empty
  document: only the second service is pinned at the end.
-/
theorem not_pinsAccumulate_twoServices :
    let critical : DigestObservation → DigestObservation :=
      fun obs =>
        { obs with
          findings :=
            [{ scanner := .trivy
               cveId := some "CVE-2026-0001"
               severity := .critical
               firstSeen := ⟨0⟩
               fixedIn := none
               exceptionId := none }] }
    let auth : DigestObservation :=
      { digest := "sha256:00"
        service := "auth"
        cartorioStatus := .active
        findings := []
        attestationsPresent := ∅
        scannersReported := ∅ }
    let gateway : DigestObservation :=
      { auth with
        digest := "sha256:01"
        service := "gateway" }
    let drift :=
      diff .default ⟨[critical auth, critical gateway], ⟨0⟩⟩
    classify drift = .critical ∧
      ¬ PinsAccumulate .default drift (.obj []) := by
  intro critical auth gateway drift
  refine ⟨by decide, ?_⟩
  rw [pinsAccumulate_iff]
  intro hKept
  have hAuth : PinKept drift (.obj []) "auth" :=
    hKept
      { digest := "sha256:00"
        service := "auth"
        cveId := "CVE-2026-0001"
        scanner := .trivy
        ageDays := 0 }
      (by decide)
  rcases hAuth with ⟨last, hLast, hService⟩ |
    ⟨key, v, _, hMember, _⟩
  · have hGateway : last.service = "gateway" := by
      have hFound :
          drift.criticalCves.getLast?.map
            DigestCveAge.service = some "gateway" := by
        decide
      rw [hLast] at hFound
      exact Option.some.inj hFound
    rw [hGateway] at hService
    exact absurd hService (by decide)
  · simp at hMember

end SecurityController

end EngenhoPromessa
