import EngenhoPromessa.PrivatePush.Submit

/-
  The `push-and-submit` command: the push phase, and then a
  validation for each of its images.

  The push phase has no images to give unless no service
  failed. So one failure leaves every image copied before it
  without its validation.

  Key definitions include:
    * `PrivatePush.pushAndSubmit`
    * `PrivatePush.SubmitsPushed`

  Key theorems include:
    * `PrivatePush.submitsPushed_iff`
-/

------------------------------------------------------------
-- The Command
------------------------------------------------------------

namespace EngenhoPromessa

namespace PrivatePush

open Fallible

/- The options of `push-and-submit`. -/
structure PushAndSubmitArgs where
  tag : Option String
  crNamespace : String
  promessaRef : String
  pack : String
  attestationMode : String
  dryRun : Bool
  services : List String
deriving DecidableEq, Repr

/- The services that are pushed when none is named. -/
def akeylessDefaults : List String :=
  ["auth", "uam", "kfm", "gator", "bis", "logan", "mark",
    "sdr", "gateway"]

/- What a run of the command meets outside. -/
structure PushEnv where
  setup : Setup
  stages : Nat → ServiceStages
  runtime : Option String
  client : Option String
  apply : Nat → Option ApplyFault

/- What a run of the command leaves outside. -/
structure PushAndSubmitLog where
  push : PushLog
  submissions : Submissions

/- Pushing and submitting, with the logs of both. -/
abbrev PushAndSubmit (α : Type) :=
  Fallible PushAndSubmitLog Chain α

/- A part that pushes. -/
def onPush {α : Type} (x : Push α) : PushAndSubmit α :=
  zoom PushAndSubmitLog.push
    (fun push log => { log with push := push }) x

/- A part that submits. -/
def onSubmissions
    {α : Type}
    (x : Submit α) : PushAndSubmit α :=
  zoom PushAndSubmitLog.submissions
    (fun submissions log =>
      { log with submissions := submissions }) x

/- The runtime is there, or the command ends. -/
def buildRuntime (runtime : Option String) : Except Chain Unit :=
  match runtime with
  | none => .ok ()
  | some e => .error ["build tokio runtime: " ++ e]

namespace PushAndSubmitArgs

/- The services named, or the default ones. -/
def servicesOrDefaults
    (args : PushAndSubmitArgs) : List String :=
  if args.services.isEmpty then akeylessDefaults
  else args.services

/- The options that the submission gets. -/
def submitArgs
    (common : Common)
    (args : PushAndSubmitArgs) : SubmitArgs where
  zotEndpoint := "localhost:" ++ toString common.port
  «namespace» := args.crNamespace
  promessaRef := args.promessaRef
  pack := args.pack
  services := []
  dryRun := args.dryRun

end PushAndSubmitArgs

/- All images are pushed before one is submitted. -/
def pushAndSubmit
    (common : Common)
    (args : PushAndSubmitArgs)
    (env : PushEnv) : PushAndSubmit Unit := do
  let pushed ← onPush
    (pushAkeylessImages common env.setup args.tag env.stages
      args.servicesOrDefaults)
  ofResult (buildRuntime env.runtime)
  onSubmissions
    (applyPushed (args.submitArgs common)
      args.attestationMode env.client env.apply pushed)

end PrivatePush

end EngenhoPromessa

------------------------------------------------------------
-- What A Run Submits
------------------------------------------------------------

namespace EngenhoPromessa

namespace PrivatePush

open Fallible

variable {view : Submissions → List SubmittedCr}
variable {entries :
  Option ApplyFault → SubmittedCr → List SubmittedCr}

/- The images whose submission is tried. -/
def triedOf
    (apply : Nat → Option ApplyFault)
    (pushed : List PushedImage) : List (PushedImage × Nat) :=
  pushed.zipIdx.upToFailure (fun p => (apply p.2).isNone)

/- The pushed images are submitted up to the first failure. -/
theorem emits_applyPushed
    (hApply :
      ∀ fault cr, Emits view (applyCr fault cr)
        (if fault.isNone then some () else none)
        (entries fault cr))
    {args : SubmitArgs}
    (hDry : args.dryRun = false)
    (attestationMode : String)
    (client : Option String)
    (apply : Nat → Option ApplyFault)
    (pushed : List PushedImage) :
    ∃ result,
      Emits view
        (applyPushed args attestationMode client apply pushed)
        result
        (if client.isNone then
          (triedOf apply pushed).flatMap (fun p =>
            entries (apply p.2)
              (pushedCr args attestationMode p.1))
          else []) := by
  have hStep :
      ∀ p : PushedImage × Nat,
        Emits view
          (submitCr args (apply p.2)
            (pushedCr args attestationMode p.1))
          (if (apply p.2).isNone then some () else none)
          (entries (apply p.2)
            (pushedCr args attestationMode p.1)) := by
    intro p
    rw [submitCr, hDry]
    exact hApply (apply p.2) (pushedCr args attestationMode p.1)
  have hLoop := emits_forM hStep pushed.zipIdx
  unfold applyPushed connect triedOf
  rw [hDry]
  by_cases hEmpty : pushed.isEmpty = true
  · obtain rfl : pushed = [] := by simpa using hEmpty
    cases client with
    | none => exact ⟨_, emits_ofResult _⟩
    | some e => exact ⟨_, emits_ofResult _⟩
  · rw [if_neg hEmpty]
    cases client with
    | none =>
        exact ⟨_, emits_bind_some (emits_ofResult (.ok ()))
          hLoop⟩
    | some e =>
        exact ⟨_, emits_bind_none
          (emits_ofResult (.error _)) _⟩

/- Submitting adds nothing to the log of pushing. -/
theorem emits_onSubmissions
    {α : Type}
    {x : Submit α}
    {result : Option α}
    {crs : List SubmittedCr}
    (hx : Emits view x result crs) :
    Emits (fun log => view log.submissions)
      (onSubmissions x) result crs := by
  apply emits_zoom
  · intro submissions log
    rfl
  · exact hx

/- What a run does with the images it pushed. -/
def submitPhase
    (common : Common)
    (args : PushAndSubmitArgs)
    (env : PushEnv)
    (pushed : List PushedImage) : PushAndSubmit Unit := do
  ofResult (buildRuntime env.runtime)
  onSubmissions
    (applyPushed (args.submitArgs common)
      args.attestationMode env.client env.apply pushed)

/- The two phases, one after the other. -/
theorem pushAndSubmit_eq
    (common : Common)
    (args : PushAndSubmitArgs)
    (env : PushEnv) :
    pushAndSubmit common args env =
      onPush (pushAkeylessImages common env.setup args.tag
        env.stages args.servicesOrDefaults) >>=
        submitPhase common args env := rfl

/- The second phase submits what the first has pushed. -/
theorem emits_submitPhase
    (hApply :
      ∀ fault cr, Emits view (applyCr fault cr)
        (if fault.isNone then some () else none)
        (entries fault cr))
    (common : Common)
    {args : PushAndSubmitArgs}
    (hDry : args.dryRun = false)
    (env : PushEnv)
    (pushed : List PushedImage) :
    ∃ result,
      Emits (fun log => view log.submissions)
        (submitPhase common args env pushed) result
        (if env.runtime.isNone && env.client.isNone then
          (triedOf env.apply pushed).flatMap (fun p =>
            entries (env.apply p.2)
              (pushedCr (args.submitArgs common)
                args.attestationMode p.1))
          else []) := by
  have hDry' : (args.submitArgs common).dryRun = false := hDry
  rcases emits_applyPushed hApply hDry' args.attestationMode
    env.client env.apply pushed with ⟨result, hApplied⟩
  have hSubmitted := emits_onSubmissions hApplied
  unfold submitPhase
  cases env.runtime with
  | some e =>
      exact ⟨_, emits_bind_none (emits_ofResult (.error _)) _⟩
  | none =>
      exact ⟨result,
        emits_bind_some (emits_ofResult (.ok ())) hSubmitted⟩

/- The images a run has to submit, unless it ended before. -/
def tried
    (common : Common)
    (args : PushAndSubmitArgs)
    (env : PushEnv) : List (PushedImage × Nat) :=
  if setupOk common env.setup && env.runtime.isNone &&
      env.client.isNone then
    triedOf env.apply
      ((images common args.tag env.stages
        args.servicesOrDefaults).getD [])
  else
    []

/- An image is submitted only after all were pushed. -/
theorem mem_tried_iff
    {common : Common}
    {args : PushAndSubmitArgs}
    {env : PushEnv}
    {p : PushedImage × Nat} :
    p ∈ tried common args env ↔
      setupOk common env.setup = true ∧
        env.runtime = none ∧ env.client = none ∧
        ∃ pushed,
          images common args.tag env.stages
              args.servicesOrDefaults = some pushed ∧
            p ∈ triedOf env.apply pushed := by
  unfold tried
  cases images common args.tag env.stages
      args.servicesOrDefaults with
  | none => simp [triedOf, List.upToFailure]
  | some pushed => simp [and_assoc]

/- Both phases in one log of submissions. -/
theorem emits_pushAndSubmit
    (hApply :
      ∀ fault cr, Emits view (applyCr fault cr)
        (if fault.isNone then some () else none)
        (entries fault cr))
    (common : Common)
    {args : PushAndSubmitArgs}
    (hDry : args.dryRun = false)
    (env : PushEnv) :
    ∃ result,
      Emits (fun log => view log.submissions)
        (pushAndSubmit common args env) result
        ((tried common args env).flatMap (fun p =>
          entries (env.apply p.2)
            (pushedCr (args.submitArgs common)
              args.attestationMode p.1))) := by
  have hPush :
      Emits (fun log : PushAndSubmitLog =>
          view log.submissions)
        (onPush (pushAkeylessImages common env.setup args.tag
          env.stages args.servicesOrDefaults))
        (if setupOk common env.setup then
          images common args.tag env.stages
            args.servicesOrDefaults
          else none) [] := by
    apply emits_zoom_nil
    · intro push log
      rfl
    · exact emits_pushAkeylessImages _ _ _ _ _
  rw [pushAndSubmit_eq]
  unfold tried
  cases hUp : setupOk common env.setup with
  | false =>
      rw [hUp] at hPush
      exact ⟨_, emits_bind_none hPush _⟩
  | true =>
      rw [hUp, if_pos rfl] at hPush
      cases hImages : images common args.tag env.stages
          args.servicesOrDefaults with
      | none =>
          rw [hImages] at hPush
          have hNone := emits_bind_none hPush
            (submitPhase common args env)
          exact ⟨none,
            by simpa [triedOf, List.upToFailure] using hNone⟩
      | some pushed =>
          rw [hImages] at hPush
          rcases emits_submitPhase hApply common hDry env
            pushed with ⟨result, hSubmitted⟩
          refine ⟨result, ?_⟩
          have hRun := emits_bind_some hPush hSubmitted
          split
          · rename_i hReady
            simpa [show (env.runtime.isNone &&
              env.client.isNone) = true from hReady]
              using hRun
          · rename_i hNot
            simpa [show ¬ (env.runtime.isNone &&
              env.client.isNone) = true from hNot]
              using hRun

end PrivatePush

end EngenhoPromessa

------------------------------------------------------------
-- Every Pushed Image Is Submitted
------------------------------------------------------------

namespace EngenhoPromessa

namespace PrivatePush

open Fallible

/- What a run leaves that begins with nothing done. -/
def logOf
    (common : Common)
    (args : PushAndSubmitArgs)
    (env : PushEnv) : PushAndSubmitLog :=
  ((pushAndSubmit common args env).exec
    ⟨⟨[], []⟩, ⟨[], [], []⟩⟩).2

/-
  After a run that is not a dry one, each service whose copy
  was made and whose digest the registry has is validated
  under that digest, unless this validation failed.
-/
def SubmitsPushed
    (common : Common)
    (args : PushAndSubmitArgs)
    (env : PushEnv) : Prop :=
  args.dryRun = false →
    ∀ position ∈ (logOf common args env).push.positions,
      ∀ service digest,
        args.servicesOrDefaults[position]? = some service →
        (env.stages position).digest = some digest →
        PinnedIn (logOf common args env).submissions.applied
            ("akeyless-" ++ service) digest ∨
          PinnedIn (logOf common args env).submissions.failed
            ("akeyless-" ++ service) digest

/- Every image is one whose submission is tried. -/
def TriesEvery
    (apply : Nat → Option ApplyFault)
    (pushed : List PushedImage) : Prop :=
  ∀ img ∈ pushed, ∃ p ∈ triedOf apply pushed, p.1 = img

/- What was copied before any submission. -/
theorem positions_logOf
    (common : Common)
    (args : PushAndSubmitArgs)
    (env : PushEnv) :
    (logOf common args env).push.positions =
      if setupOk common env.setup then
        copiedPositions common args.tag env.stages
          args.servicesOrDefaults
      else [] := by
  have hRest :
      ∀ pushed,
        Keeps (fun log : PushAndSubmitLog =>
            log.push.positions)
          (submitPhase common args env pushed) := by
    intro pushed
    refine keeps_bind (fun _ => rfl) (fun _ => ?_)
    apply keeps_zoom
    intro submissions log
    rfl
  have hPush := (emits_pushAkeylessImages common env.setup
    args.tag env.stages args.servicesOrDefaults ⟨[], []⟩).2
  rw [logOf, pushAndSubmit_eq, view_exec_bind _ hRest]
  exact hPush

/- The images that are pinned in a part of the list. -/
theorem pinnedIn_flatMap_iff
    (args : SubmitArgs)
    (attestationMode : String)
    (test : PushedImage × Nat → Bool)
    (ps : List (PushedImage × Nat))
    (repo digest : String) :
    PinnedIn
        (ps.flatMap (fun p =>
          if test p then [pushedCr args attestationMode p.1]
          else [])) repo digest ↔
      ∃ p ∈ ps, test p = true ∧
        p.1.repo = repo ∧ p.1.digest = digest := by
  constructor
  · rintro ⟨cr, hcr, hRepo, hDigest⟩
    rcases List.mem_flatMap.mp hcr with ⟨p, hp, hIn⟩
    split at hIn
    · rename_i hTest
      rw [List.mem_singleton.mp hIn] at hRepo hDigest
      exact ⟨p, hp, hTest, hRepo, hDigest⟩
    · simp at hIn
  · rintro ⟨p, hp, hTest, hRepo, hDigest⟩
    refine ⟨pushedCr args attestationMode p.1,
      List.mem_flatMap.mpr ⟨p, hp, ?_⟩, hRepo, hDigest⟩
    rw [if_pos hTest]
    exact List.mem_singleton.mpr rfl

/- The validations of the images tried, and no others. -/
theorem pinnedIn_logOf_iff
    (common : Common)
    {args : PushAndSubmitArgs}
    (hDry : args.dryRun = false)
    (env : PushEnv)
    (repo digest : String) :
    PinnedIn (logOf common args env).submissions.applied repo
          digest ∨
        PinnedIn (logOf common args env).submissions.failed
          repo digest ↔
      ∃ p ∈ tried common args env,
        p.1.repo = repo ∧ p.1.digest = digest := by
  rcases emits_pushAndSubmit emits_applied_applyCr common
    hDry env with ⟨_, hApplied⟩
  rcases emits_pushAndSubmit emits_failed_applyCr common
    hDry env with ⟨_, hFailed⟩
  have hAppliedLog :
      (logOf common args env).submissions.applied = _ :=
    (hApplied _).2
  have hFailedLog :
      (logOf common args env).submissions.failed = _ :=
    (hFailed _).2
  rw [hAppliedLog, hFailedLog, List.nil_append,
    List.nil_append, pinnedIn_flatMap_iff,
    pinnedIn_flatMap_iff]
  constructor
  · rintro (⟨p, hp, _, hSame⟩ | ⟨p, hp, _, hSame⟩)
    · exact ⟨p, hp, hSame⟩
    · exact ⟨p, hp, hSame⟩
  · rintro ⟨p, hp, hSame⟩
    rcases applied_or_failed (env.apply p.2) with
      hStored | hFault
    · exact Or.inl ⟨p, hp, hStored, hSame⟩
    · exact Or.inr ⟨p, hp, hFault, hSame⟩

/- There is always a service to push. -/
theorem servicesOrDefaults_ne_nil (args : PushAndSubmitArgs) :
    args.servicesOrDefaults ≠ [] := by
  unfold PushAndSubmitArgs.servicesOrDefaults
  split
  · simp [akeylessDefaults]
  · rename_i hSome
    simpa using hSome

/- No image without a copy or without its digest. -/
theorem image_eq_none
    (common : Common)
    {tagOverride : Option String}
    {s : ServiceStages}
    (hNone :
      s.copies tagOverride = false ∨ s.digest = none)
    (service : String) :
    s.image common tagOverride service = none := by
  unfold ServiceStages.image
  rcases hNone with hCopies | hDigest
  · simp [hCopies]
  · simp [hDigest]

/- The image of a position is among those tried. -/
theorem submitsPushed_of_triesEvery
    (common : Common)
    {args : PushAndSubmitArgs}
    {env : PushEnv}
    (hRuntime : env.runtime = none)
    (hClient : env.client = none)
    {pushed : List PushedImage}
    (hImages :
      images common args.tag env.stages
        args.servicesOrDefaults = some pushed)
    (hTries : TriesEvery env.apply pushed) :
    SubmitsPushed common args env := by
  intro hDry position hPosition service digest hService hDigest
  rw [positions_logOf] at hPosition
  cases hUp : setupOk common env.setup with
  | false => simp [hUp] at hPosition
  | true =>
      rcases exists_mem_images hImages hService with
        ⟨img, hMem, hRepo, hFound⟩
      rcases hTries img hMem with ⟨p, hp, rfl⟩
      have hSame : p.1.digest = digest :=
        Option.some.inj (hFound.symm.trans hDigest)
      have hTried : p ∈ tried common args env :=
        mem_tried_iff.mpr
          ⟨hUp, hRuntime, hClient, pushed, hImages, hp⟩
      exact (pinnedIn_logOf_iff common hDry env _ _).mpr
        ⟨p, hTried, hRepo, hSame⟩

/- If the first service leaves no image, nothing is asked. -/
theorem submitsPushed_of_no_first
    (common : Common)
    {args : PushAndSubmitArgs}
    {env : PushEnv}
    (hNone :
      (env.stages 0).copies args.tag = false ∨
        (env.stages 0).digest = none) :
    SubmitsPushed common args env := by
  intro _ position hPosition service digest _ hDigest
  rw [positions_logOf] at hPosition
  split at hPosition
  · rcases copiedPositions_of_no_image
      (image_eq_none common hNone) _ position hPosition with
      ⟨rfl, hCopies⟩
    rcases hNone with hNot | hNot
    · rw [hNot] at hCopies
      simp at hCopies
    · rw [hNot] at hDigest
      simp at hDigest
  · simp at hPosition

/- The images tried are among those pushed. -/
theorem mem_of_mem_triedOf
    {apply : Nat → Option ApplyFault}
    {pushed : List PushedImage}
    {p : PushedImage × Nat}
    (hp : p ∈ triedOf apply pushed) :
    p.1 ∈ pushed := by
  have hIndexed : p ∈ pushed.zipIdx :=
    (List.upToFailure_isPrefix _ _).subset hp
  exact List.mem_of_getElem?
    (List.mem_zipIdx_iff_getElem?.mp hIndexed)

/- An image is known by its repository and its digest. -/
theorem pushedImage_ext
    {common : Common}
    {tagOverride : Option String}
    {stages : Nat → ServiceStages}
    {services : List String}
    {pushed : List PushedImage}
    (hImages :
      images common tagOverride stages services = some pushed)
    {img img' : PushedImage}
    (hMem : img ∈ pushed)
    (hMem' : img' ∈ pushed)
    (hRepo : img.repo = img'.repo)
    (hDigest : img.digest = img'.digest) :
    img = img' := by
  rcases exists_of_mem_images hImages hMem with
    ⟨_, _, hName, _⟩
  rcases exists_of_mem_images hImages hMem' with
    ⟨_, _, hName', _⟩
  have hService : img.service = img'.service := by
    rw [hName, hName'] at hRepo
    simpa using hRepo
  cases img
  cases img'
  simp_all

/- What is copied has to be tried. -/
theorem exists_mem_tried_of_submitsPushed
    {common : Common}
    {args : PushAndSubmitArgs}
    {env : PushEnv}
    (hSubmits : SubmitsPushed common args env)
    (hDry : args.dryRun = false)
    (hUp : setupOk common env.setup = true)
    {position : Nat}
    (hPosition :
      position ∈ copiedPositions common args.tag env.stages
        args.servicesOrDefaults)
    {service digest : String}
    (hService :
      args.servicesOrDefaults[position]? = some service)
    (hDigest : (env.stages position).digest = some digest) :
    ∃ p ∈ tried common args env,
      p.1.repo = "akeyless-" ++ service ∧
        p.1.digest = digest := by
  apply (pinnedIn_logOf_iff common hDry env _ _).mp
  refine hSubmits hDry position ?_ service digest hService
    hDigest
  rw [positions_logOf, if_pos hUp]
  exact hPosition

/- A copied first service has to be submitted with the rest. -/
theorem triesEvery_of_submitsPushed
    {common : Common}
    {args : PushAndSubmitArgs}
    {env : PushEnv}
    (hSubmits : SubmitsPushed common args env)
    (hDry : args.dryRun = false)
    (hUp : setupOk common env.setup = true)
    (hCopies : (env.stages 0).copies args.tag = true)
    {digest : String}
    (hDigest : (env.stages 0).digest = some digest) :
    env.runtime = none ∧ env.client = none ∧
      ∃ pushed,
        images common args.tag env.stages
            args.servicesOrDefaults = some pushed ∧
          TriesEvery env.apply pushed := by
  have hSome := servicesOrDefaults_ne_nil args
  have hFirst := zero_mem_copiedPositions common hCopies hSome
  have hService := List.getElem?_eq_getElem
    (List.length_pos_of_ne_nil hSome)
  -- The first service is tried, so the run got that far.
  rcases exists_mem_tried_of_submitsPushed hSubmits hDry hUp
    hFirst hService hDigest with ⟨first, hTried, _⟩
  rcases mem_tried_iff.mp hTried with
    ⟨_, hRuntime, hClient, pushed, hImages, _⟩
  refine ⟨hRuntime, hClient, pushed, hImages, ?_⟩
  intro img hMem
  rcases exists_of_mem_images hImages hMem with
    ⟨position, hAt, hRepo, hFound⟩
  rcases exists_mem_tried_of_submitsPushed hSubmits hDry hUp
    (mem_copiedPositions_of_images hImages hAt) hAt hFound with
    ⟨p, hTriedToo, hSameRepo, hSameDigest⟩
  rcases mem_tried_iff.mp hTriedToo with
    ⟨_, _, _, pushed', hImages', hp⟩
  obtain rfl : pushed = pushed' :=
    Option.some.inj (hImages.symm.trans hImages')
  exact ⟨p, hp, pushedImage_ext hImages
    (mem_of_mem_triedOf hp) hMem
    (hSameRepo.trans hRepo.symm) hSameDigest⟩

/-
  Pushed images are submitted exactly if the first service
  leaves none, or no service fails and every image is tried.
-/
theorem submitsPushed_iff
    (common : Common)
    (args : PushAndSubmitArgs)
    (env : PushEnv) :
    SubmitsPushed common args env ↔
      args.dryRun = true ∨
        setupOk common env.setup = false ∨
        (env.stages 0).copies args.tag = false ∨
        (env.stages 0).digest = none ∨
        env.runtime = none ∧ env.client = none ∧
          ∃ pushed,
            images common args.tag env.stages
                args.servicesOrDefaults = some pushed ∧
              TriesEvery env.apply pushed := by
  constructor
  · intro hSubmits
    cases hDry : args.dryRun with
    | true => exact Or.inl rfl
    | false =>
        refine Or.inr ?_
        cases hUp : setupOk common env.setup with
        | false => exact Or.inl rfl
        | true =>
            refine Or.inr ?_
            cases hCopies : (env.stages 0).copies args.tag with
            | false => exact Or.inl rfl
            | true =>
                refine Or.inr ?_
                cases hDigest : (env.stages 0).digest with
                | none => exact Or.inl rfl
                | some digest =>
                    exact Or.inr (triesEvery_of_submitsPushed
                      hSubmits hDry hUp hCopies hDigest)
  · rintro (hDry | hUp | hCopies | hDigest |
      ⟨hRuntime, hClient, pushed, hImages, hTries⟩)
    · intro hNotDry
      rw [hDry] at hNotDry
      simp at hNotDry
    · intro _ position hPosition
      rw [positions_logOf, hUp] at hPosition
      simp at hPosition
    · exact submitsPushed_of_no_first common (Or.inl hCopies)
    · exact submitsPushed_of_no_first common (Or.inr hDigest)
    · exact submitsPushed_of_triesEvery common hRuntime hClient
        hImages hTries

/- A port-forward and a login that succeed. -/
def readySetup : Setup where
  getService := .done (.ok "service/zot")
  portForward := none
  forwardLines :=
    [.ok "Forwarding from 127.0.0.1:5000 -> 5000"]
  sops := .done (.ok "token: abc")
  login := .done (.ok "")

/- Every stage of this service succeeds. -/
def readyStages (digest : String) : ServiceStages where
  nixBuild := .done (.ok "")
  inspectArchive := .done (.ok "akeyless-auth:1.0")
  copy := .done (.ok "")
  signInspect := .done (.ok digest)
  sign := .done (.ok "")
  inspect := .done (.ok digest)

/- Two services, to be submitted for good. -/
def twoServices : PushAndSubmitArgs where
  tag := none
  crNamespace := "default"
  promessaRef := "akeyless"
  pack := "akeyless-saas@1"
  attestationMode := "scan-only"
  dryRun := false
  services := ["auth", "uam"]

/- Of the two services the second cannot be built. -/
def secondNotBuilt : PushEnv where
  setup := readySetup
  stages := fun position =>
    if position = 0 then
      readyStages "sha256:aa"
    else
      { readyStages "sha256:bb" with
        nixBuild := .exited "exit status: 1" }
  runtime := none
  client := none
  apply := fun _ => none

/- The image of the first is copied, and never submitted. -/
theorem not_submitsPushed_secondNotBuilt :
    ¬ SubmitsPushed ⟨5000, true⟩ twoServices
      secondNotBuilt := by
  intro hSubmits
  have hPushed :
      (logOf ⟨5000, true⟩ twoServices
        secondNotBuilt).push.positions = [0] := by
    decide +kernel
  have hNothing :
      (logOf ⟨5000, true⟩ twoServices
        secondNotBuilt).submissions = ⟨[], [], []⟩ := by
    decide +kernel
  have hFirst := hSubmits rfl 0 (by rw [hPushed]; simp)
    "auth" "sha256:aa" rfl (by decide +kernel)
  rw [hNothing] at hFirst
  simp [PinnedIn] at hFirst

end PrivatePush

end EngenhoPromessa
