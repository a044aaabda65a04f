import EngenhoPromessa.Effect.Loops
import EngenhoPromessa.PrivatePush.PushAndSubmit

/-
  The images signed by the commands that push: `substrate`,
  `akeyless`, and `push-and-submit` over the latter's loop.

  Up to the place where a run ends, each image is copied and
  signed, in order. A validation is submitted for no image
  that the run has not signed.

  Key definitions include:
    * `PrivatePush.runSubstrate`
    * `PrivatePush.runAkeyless`
    * `PrivatePush.Copies`
    * `PrivatePush.Copies.SignedTo`

  Key theorems include:
    * `PrivatePush.signed_runSubstrate`
    * `PrivatePush.signed_of_submitted`
-/

------------------------------------------------------------
-- The Other Commands
------------------------------------------------------------

namespace EngenhoPromessa

namespace PrivatePush

open Fallible

/- The binaries that are pushed when none is named. -/
def substrateDefaults : List String :=
  ["engenho-promessa", "validation-api"]

/- `oci::substrate_dest`. -/
def substrateDest
    (port : UInt16)
    (binary tag : String) : String :=
  "localhost:" ++ toString port ++ "/pleme-io/" ++ binary ++
    ":" ++ tag

/- All stages of one binary, of which any may fail. -/
def pushBinary
    (common : Common)
    (tag : String)
    (stages : ServiceStages)
    (position : Nat)
    (binary : String) : Push Unit := do
  nixBuild ("image:" ++ binary) stages.nixBuild
  skopeoCopy position (substrateDest common.port binary tag)
    stages.copy
  if common.cosign then
    cosignSign common.port ("pleme-io/" ++ binary) stages
  else
    return ()

/- Pushes and signs the binaries, in the order given. -/
def runSubstrate
    (common : Common)
    (setup : Setup)
    (tag : String)
    (stages : Nat → ServiceStages)
    (binaries : List String) : Push Unit := do
  ofResult (startPortForward common setup)
  ofResult (skopeoLogin setup)
  binaries.zipIdx.forM (fun p =>
    pushBinary common tag (stages p.2) p.2 p.1)

/- Pushes and signs the services, in the order given. -/
def runAkeyless
    (common : Common)
    (setup : Setup)
    (tagOverride : Option String)
    (stages : Nat → ServiceStages)
    (services : List String) : Push Unit := do
  let _ ← pushAkeylessImages common setup tagOverride stages
    services
  return ()

end PrivatePush

end EngenhoPromessa

------------------------------------------------------------
-- Copied And Signed
------------------------------------------------------------

namespace EngenhoPromessa

namespace PrivatePush

open Fallible

/- The reference an image is signed by. -/
def digestRef
    (port : UInt16)
    (repo digest : String) : String :=
  "localhost:" ++ toString port ++ "/" ++ repo ++ "@" ++
    digest

/- What a signature of this service's image is of. -/
def ServiceStages.signature
    (port : UInt16)
    (repo : String)
    (s : ServiceStages) : Option String :=
  s.signInspect.text.map (fun text =>
    digestRef port repo (Str.trim text))

/-
  The images of a run: how each is copied, and by which
  reference it is signed.
-/
structure Copies where
  copy : String × Nat → Option (Nat × String)
  signature : String × Nat → Option String

namespace Copies

variable (c : Copies)

/- These images are copied and signed, and no others. -/
def SignedTo
    (done : List (String × Nat))
    (log : PushLog) : Prop :=
  log.copied.map some = done.map c.copy ∧
    log.signed.map some = done.map c.signature

/- One more is copied, at most, which is not signed. -/
def UnsignedAt
    (done : List (String × Nat))
    (image : String × Nat)
    (log : PushLog) : Prop :=
  (log.copied.map some = done.map c.copy ∨
    log.copied.map some = (done ++ [image]).map c.copy) ∧
    log.signed.map some = done.map c.signature

theorem signedTo_nil : c.SignedTo [] ⟨[], []⟩ :=
  ⟨rfl, rfl⟩

variable {c}
variable {done : List (String × Nat)}
variable {image : String × Nat}
variable {log : PushLog}

/- An image may have failed before it was copied. -/
theorem unsignedAt_of_signedTo
    (hSigned : c.SignedTo done log) :
    c.UnsignedAt done image log :=
  ⟨Or.inl hSigned.1, hSigned.2⟩

/- Or after it was copied and before it was signed. -/
theorem unsignedAt_copied
    {copied : Nat × String}
    (hSigned : c.SignedTo done log)
    (hCopy : c.copy image = some copied) :
    c.UnsignedAt done image
      { log with copied := log.copied ++ [copied] } := by
  refine ⟨Or.inr ?_, hSigned.2⟩
  simp [hSigned.1, hCopy]

/- A copy and its signature finish an image. -/
theorem signedTo_signed
    {copied : Nat × String}
    {ref : String}
    (hSigned : c.SignedTo done log)
    (hCopy : c.copy image = some copied)
    (hRef : c.signature image = some ref) :
    c.SignedTo (done ++ [image])
      { copied := log.copied ++ [copied]
        signed := log.signed ++ [ref] } := by
  constructor
  · simp [hSigned.1, hCopy]
  · simp [hSigned.2, hRef]

end Copies

end PrivatePush

end EngenhoPromessa

------------------------------------------------------------
-- The Stages
------------------------------------------------------------

namespace EngenhoPromessa

namespace PrivatePush

open Fallible

/- A build leaves the log alone, whatever comes of it. -/
theorem exec_nixBuild
    (attr : String)
    (ran : Ran)
    (log : PushLog) :
    (nixBuild attr ran).exec log = (.ok (), log) ∨
      ∃ chain,
        (nixBuild attr ran).exec log =
          (.error chain, log) := by
  rcases ran with e | status | stdout
  · exact Or.inr ⟨_, rfl⟩
  · exact Or.inr ⟨_, rfl⟩
  · exact Or.inl rfl

/- A copy is in the log, or an error comes back. -/
theorem exec_skopeoCopy
    (position : Nat)
    (dest : String)
    (ran : Ran)
    (log : PushLog) :
    (skopeoCopy position dest ran).exec log =
        (.ok (), { log with
          copied := log.copied ++ [(position, dest)] }) ∨
      ∃ chain,
        (skopeoCopy position dest ran).exec log =
          (.error chain, log) := by
  rcases ran with e | status | stdout
  · exact Or.inr ⟨_, rfl⟩
  · exact Or.inr ⟨_, rfl⟩
  · exact Or.inl rfl

/- What is signed is what the registry answered before. -/
theorem exec_cosignSign
    (port : UInt16)
    (repo : String)
    (s : ServiceStages)
    (log : PushLog) :
    (∃ ref, s.signature port repo = some ref ∧
        (cosignSign port repo s).exec log =
          (.ok (), { log with
            signed := log.signed ++ [ref] })) ∨
      ∃ chain,
        (cosignSign port repo s).exec log =
          (.error chain, log) := by
  have hDigest := toOption_resolvePushedDigest s.signInspect
  unfold cosignSign ServiceStages.signature
  rw [exec_bind]
  cases hResolved : resolvePushedDigest s.signInspect with
  | error chain => exact Or.inr ⟨chain, rfl⟩
  | ok digest =>
      rw [hResolved] at hDigest
      rcases s.sign with e | status | stdout
      · exact Or.inr ⟨_, rfl⟩
      · exact Or.inr ⟨_, rfl⟩
      · refine Or.inl ⟨_, ?_, rfl⟩
        rcases Option.map_eq_some_iff.mp hDigest.symm with
          ⟨text, hText, rfl⟩
        rw [hText]
        rfl

variable {c : Copies}

/-
  The copy of an image and its signature: a failure leaves
  the image unsigned, and after it comes `rest`.
-/
theorem exec_copy_sign
    {α : Type}
    {common : Common}
    {repo dest : String}
    (image : String × Nat)
    {s : ServiceStages}
    (hCopy : c.copy image = some (image.2, dest))
    (hRef : c.signature image = s.signature common.port repo)
    (rest : Push α)
    {done : List (String × Nat)}
    {log : PushLog}
    (hSigned : c.SignedTo done log) :
    (∃ log', c.SignedTo (done ++ [image]) log' ∧
        (do
          skopeoCopy image.2 dest s.copy
          cosignSign common.port repo s
          rest).exec log = rest.exec log') ∨
      ∃ chain log', c.UnsignedAt done image log' ∧
        (do
          skopeoCopy image.2 dest s.copy
          cosignSign common.port repo s
          rest).exec log = (.error chain, log') := by
  rcases exec_skopeoCopy image.2 dest s.copy log with
    hOk | ⟨chain, hFailed⟩
  · rw [exec_bind_ok hOk, exec_bind]
    rcases exec_cosignSign common.port repo s
        { log with
          copied := log.copied ++ [(image.2, dest)] } with
      ⟨ref, hFound, hSign⟩ | ⟨chain, hFailed⟩
    · rw [hSign]
      exact Or.inl ⟨_,
        Copies.signedTo_signed hSigned hCopy
          (hRef.trans hFound), rfl⟩
    · rw [hFailed]
      exact Or.inr ⟨chain, _,
        Copies.unsignedAt_copied hSigned hCopy, rfl⟩
  · rw [exec_bind, hFailed]
    exact Or.inr ⟨chain, log,
      Copies.unsignedAt_of_signedTo hSigned, rfl⟩

end PrivatePush

end EngenhoPromessa

------------------------------------------------------------
-- The Loops
------------------------------------------------------------

namespace EngenhoPromessa

namespace PrivatePush

open Fallible

/- Where the binaries are copied to, and how signed. -/
def substrateCopies
    (common : Common)
    (tag : String)
    (stages : Nat → ServiceStages) : Copies where
  copy := fun p =>
    some (p.2, substrateDest common.port p.1 tag)
  signature := fun p =>
    (stages p.2).signature common.port ("pleme-io/" ++ p.1)

/- The tag of an image, if it can be found. -/
def ServiceStages.tag
    (tagOverride : Option String)
    (s : ServiceStages) : Option String :=
  match tagOverride with
  | some t => some t
  | none => (discoverBakedTag s.inspectArchive).toOption

/- Where the services are copied to, and how signed. -/
def akeylessCopies
    (common : Common)
    (tagOverride : Option String)
    (stages : Nat → ServiceStages) : Copies where
  copy := fun p =>
    ((stages p.2).tag tagOverride).map (fun tag =>
      (p.2, akeylessDest common.port p.1 tag))
  signature := fun p =>
    (stages p.2).signature common.port ("akeyless-" ++ p.1)

/- A tag is found, or an error comes back. -/
theorem exec_imageTag
    (tagOverride : Option String)
    (s : ServiceStages)
    (log : PushLog) :
    (∃ tag, s.tag tagOverride = some tag ∧
        (imageTag tagOverride s).exec log = (.ok tag, log)) ∨
      ∃ chain,
        (imageTag tagOverride s).exec log =
          (.error chain, log) := by
  unfold ServiceStages.tag imageTag
  cases tagOverride with
  | some t => exact Or.inl ⟨t, rfl, rfl⟩
  | none =>
      cases hFound : discoverBakedTag s.inspectArchive with
      | error chain => exact Or.inr ⟨chain, rfl⟩
      | ok tag => exact Or.inl ⟨tag, rfl, rfl⟩

variable {common : Common}
variable (hCosign : common.cosign = true)
include hCosign

/-
  One binary is finished, or stopped at before its
  signature.
-/
theorem advances_pushBinary
    (tag : String)
    (stages : Nat → ServiceStages) :
    Advances (substrateCopies common tag stages).SignedTo
      (substrateCopies common tag stages).UnsignedAt
      (fun p =>
        pushBinary common tag (stages p.2) p.2 p.1) := by
  intro done p log hSigned
  have hBody :=
    exec_copy_sign (c := substrateCopies common tag stages)
      p rfl rfl (pure ()) hSigned
  rw [bind_pure_unit] at hBody
  simp only [pushBinary, hCosign, if_true]
  rcases exec_nixBuild ("image:" ++ p.1)
      (stages p.2).nixBuild log with
    hBuilt | ⟨chain, hFailed⟩
  · rw [exec_bind_ok hBuilt]
    rcases hBody with
      ⟨log', hLog, hRun⟩ | ⟨chain, log', hLog, hRun⟩
    · rw [hRun]
      exact hLog
    · rw [hRun]
      exact hLog
  · rw [exec_bind, hFailed]
    exact Copies.unsignedAt_of_signedTo hSigned

/- The digest of a signed image may not be found again. -/
theorem advances_pushService
    (tagOverride : Option String)
    (stages : Nat → ServiceStages) :
    Advances
      (akeylessCopies common tagOverride stages).SignedTo
      (fun done p log =>
        (akeylessCopies common tagOverride stages).UnsignedAt
            done p log ∨
          (akeylessCopies common tagOverride stages).SignedTo
            (done ++ [p]) log)
      (fun p =>
        pushService common tagOverride (stages p.2) p.2
          p.1) := by
  intro done p log hSigned
  simp only [pushService, signCopy, hCosign, if_true]
  rcases exec_nixBuild ("dockerImage:amd64:" ++ p.1)
      (stages p.2).nixBuild log with
    hBuilt | ⟨chain, hFailed⟩
  · rw [exec_bind_ok hBuilt]
    rcases exec_imageTag tagOverride (stages p.2) log with
      ⟨tag, hTag, hFound⟩ | ⟨chain, hFailed⟩
    · rw [exec_bind_ok hFound]
      have hCopy :
          (akeylessCopies common tagOverride stages).copy p =
            some (p.2,
              akeylessDest common.port p.1 tag) := by
        simp [akeylessCopies, hTag]
      rcases exec_copy_sign p hCopy rfl
          (do
            let digest ← ofResult
              (resolvePushedDigest (stages p.2).inspect)
            return {
              service := p.1
              repo := "akeyless-" ++ p.1
              digest := digest : PushedImage })
          hSigned with
        ⟨log', hLog, hRun⟩ | ⟨chain, log', hLog, hRun⟩
      · rw [hRun, exec_bind_pure]
        cases resolvePushedDigest (stages p.2).inspect with
        | error chain => exact Or.inr hLog
        | ok digest => exact hLog
      · rw [hRun]
        exact Or.inl hLog
    · rw [exec_bind, hFailed]
      exact Or.inl (Copies.unsignedAt_of_signedTo hSigned)
  · rw [exec_bind, hFailed]
    exact Or.inl (Copies.unsignedAt_of_signedTo hSigned)

end PrivatePush

end EngenhoPromessa

------------------------------------------------------------
-- The Commands
------------------------------------------------------------

namespace EngenhoPromessa

namespace PrivatePush

open Fallible

/-
  A run that succeeds has copied and signed every image. One
  that fails has done so up to some place, and copied the
  next image, at most.
-/
def SignsUpTo
    {α : Type}
    (c : Copies)
    (images : List (String × Nat)) :
    Except Chain α × PushLog → Prop
| (.ok _, log) => c.SignedTo images log
| (.error _, log) =>
    ∃ done rest, images = done ++ rest ∧
      (c.SignedTo done log ∨
        ∃ image, rest.head? = some image ∧
          c.UnsignedAt done image log)

variable {c : Copies}

/- A loop that stops like that has signed up to there. -/
theorem signsUpTo_of_ended
    {α : Type}
    {StoppedAt :
      List (String × Nat) → String × Nat → PushLog → Prop}
    (hStopped :
      ∀ {done image log}, StoppedAt done image log →
        c.UnsignedAt done image log ∨
          c.SignedTo (done ++ [image]) log)
    {images : List (String × Nat)}
    {r : Except Chain α × PushLog}
    (hEnded : Ended c.SignedTo StoppedAt [] images r) :
    SignsUpTo c images r := by
  rcases r with ⟨chain | a, log⟩
  · rcases hEnded with ⟨before, image, after, rfl, hAt⟩
    rcases hStopped hAt with hUnsigned | hSigned
    · exact ⟨before, image :: after, rfl,
        Or.inr ⟨image, rfl, hUnsigned⟩⟩
    · exact ⟨before ++ [image], after, by simp,
        Or.inl hSigned⟩
  · exact hEnded

/- Before the loop nothing is copied or signed. -/
theorem signsUpTo_setup
    {α : Type}
    (common : Common)
    (setup : Setup)
    {loop : Push α}
    {images : List (String × Nat)}
    (hLoop : SignsUpTo c images (loop.exec ⟨[], []⟩)) :
    SignsUpTo c images
      ((do
        ofResult (startPortForward common setup)
        ofResult (skopeoLogin setup)
        loop : Push α).exec ⟨[], []⟩) := by
  have hNothing :
      ∃ done rest, images = done ++ rest ∧
        (c.SignedTo done ⟨[], []⟩ ∨
          ∃ image, rest.head? = some image ∧
            c.UnsignedAt done image ⟨[], []⟩) :=
    ⟨[], images, rfl, Or.inl c.signedTo_nil⟩
  cases startPortForward common setup with
  | error chain => exact hNothing
  | ok _ =>
      cases skopeoLogin setup with
      | error chain => exact hNothing
      | ok _ => exact hLoop

variable {common : Common}
variable (hCosign : common.cosign = true)
variable (setup : Setup)
variable (stages : Nat → ServiceStages)
include hCosign

/- The command for the binaries. -/
theorem signsUpTo_runSubstrate
    (tag : String)
    (binaries : List String) :
    SignsUpTo (substrateCopies common tag stages)
      binaries.zipIdx
      ((runSubstrate common setup tag stages binaries).exec
        ⟨[], []⟩) := by
  have hLoop := ended_forM
    (advances_pushBinary hCosign tag stages)
    binaries.zipIdx (Copies.signedTo_nil _)
  exact signsUpTo_setup common setup
    (signsUpTo_of_ended Or.inl hLoop)

/- The command for the services. -/
theorem signsUpTo_pushAkeylessImages
    (tagOverride : Option String)
    (services : List String) :
    SignsUpTo (akeylessCopies common tagOverride stages)
      services.zipIdx
      ((pushAkeylessImages common setup tagOverride stages
        services).exec ⟨[], []⟩) := by
  have hLoop := ended_mapM
    (advances_pushService hCosign tagOverride stages)
    services.zipIdx (Copies.signedTo_nil _)
  exact signsUpTo_setup common setup
    (signsUpTo_of_ended id hLoop)

/- Both commands that push and do not submit. -/
theorem signsUpTo_commands
    (tag : String)
    (tagOverride : Option String)
    (binaries services : List String) :
    SignsUpTo (substrateCopies common tag stages)
        binaries.zipIdx
        ((runSubstrate common setup tag stages
          binaries).exec ⟨[], []⟩) ∧
      SignsUpTo (akeylessCopies common tagOverride stages)
        services.zipIdx
        ((runAkeyless common setup tagOverride stages
          services).exec ⟨[], []⟩) := by
  refine ⟨signsUpTo_runSubstrate hCosign setup stages tag
    binaries, ?_⟩
  have hPush := signsUpTo_pushAkeylessImages hCosign setup
    stages tagOverride services
  unfold runAkeyless
  rw [exec_bind_pure]
  rcases hRun : (pushAkeylessImages common setup tagOverride
      stages services).exec ⟨[], []⟩ with ⟨chain | pushed, log⟩
  · rwa [hRun] at hPush
  · rwa [hRun] at hPush

omit hCosign in
/- The second binary cannot be built, the first is signed. -/
theorem signsUpTo_commands_secondNotBuilt :
    (SignsUpTo
        (substrateCopies ⟨5000, true⟩ "1.0"
          secondNotBuilt.stages)
        substrateDefaults.zipIdx
        ((runSubstrate ⟨5000, true⟩ readySetup "1.0"
          secondNotBuilt.stages substrateDefaults).exec
            ⟨[], []⟩) ∧
      SignsUpTo
        (akeylessCopies ⟨5000, true⟩ none
          secondNotBuilt.stages)
        akeylessDefaults.zipIdx
        ((runAkeyless ⟨5000, true⟩ readySetup none
          secondNotBuilt.stages akeylessDefaults).exec
            ⟨[], []⟩)) ∧
      ((runSubstrate ⟨5000, true⟩ readySetup "1.0"
        secondNotBuilt.stages substrateDefaults).exec
          ⟨[], []⟩).2.signed =
        ["localhost:5000/pleme-io/engenho-promessa@sha256:aa"] :=
  ⟨signsUpTo_commands rfl readySetup
    secondNotBuilt.stages "1.0" none substrateDefaults
    akeylessDefaults, by decide +kernel⟩

end PrivatePush

end EngenhoPromessa

------------------------------------------------------------
-- What Is Submitted Is Signed
------------------------------------------------------------

namespace EngenhoPromessa

namespace PrivatePush

open Fallible

/-
  The registry answers both inspections of an image with the
  same digest: nobody has pushed another in between.
-/
def ServiceStages.Agrees (s : ServiceStages) : Prop :=
  ∀ text text',
    s.signInspect.text = some text →
      s.inspect.text = some text' →
        Str.trim text = Str.trim text'

/- The validations tried, stored or not, or printed. -/
def Submissions.all (log : Submissions) : List SubmittedCr :=
  log.applied ++ log.failed ++ log.printed

theorem Submissions.mem_all
    {log : Submissions}
    {cr : SubmittedCr} :
    cr ∈ log.all ↔
      cr ∈ log.applied ∨ cr ∈ log.failed ∨
        cr ∈ log.printed := by
  simp [Submissions.all]

/- Every validation is one of these images. -/
def SubmittedFrom
    (args : SubmitArgs)
    (attestationMode : String)
    (done : List (PushedImage × Nat))
    (log : Submissions) : Prop :=
  ∀ cr ∈ log.all, ∃ p ∈ done,
    cr = pushedCr args attestationMode p.1

/- A submission adds its own validation, and no other. -/
theorem mem_all_submitCr
    {args : SubmitArgs}
    {fault : Option ApplyFault}
    {cr cr' : SubmittedCr}
    {log : Submissions}
    (hMem : cr' ∈ ((submitCr args fault cr).exec log).2.all) :
    cr' ∈ log.all ∨ cr' = cr := by
  rw [Submissions.mem_all] at hMem ⊢
  unfold submitCr at hMem
  split at hMem
  · simp only [printCr, exec_ofExec, List.mem_append,
      List.mem_singleton] at hMem
    tauto
  · rcases fault with _ | ⟨e, stored⟩
    · simp only [applyCr, exec_ofExec, List.mem_append,
        List.mem_singleton] at hMem
      tauto
    · cases stored with
      | true =>
          simp only [applyCr, exec_ofExec, if_true,
            List.mem_append, List.mem_singleton] at hMem
          tauto
      | false =>
          simp only [applyCr, exec_ofExec, Bool.false_eq_true,
            if_false, List.mem_append,
            List.mem_singleton] at hMem
          tauto

/- One more submission is about one more image. -/
theorem submittedFrom_submitCr
    {args : SubmitArgs}
    {attestationMode : String}
    {done : List (PushedImage × Nat)}
    {log : Submissions}
    (hFrom : SubmittedFrom args attestationMode done log)
    (fault : Option ApplyFault)
    (p : PushedImage × Nat) :
    SubmittedFrom args attestationMode (done ++ [p])
      ((submitCr args fault
        (pushedCr args attestationMode p.1)).exec log).2 := by
  intro cr hcr
  rcases mem_all_submitCr hcr with hBefore | rfl
  · rcases hFrom cr hBefore with ⟨q, hq, hEq⟩
    exact ⟨q, List.mem_append_left _ hq, hEq⟩
  · exact ⟨p, List.mem_append_right _
      (List.mem_singleton_self p), rfl⟩

/- So the loop goes from image to image. -/
theorem advances_submitCr
    (args : SubmitArgs)
    (attestationMode : String)
    (apply : Nat → Option ApplyFault) :
    Advances (SubmittedFrom args attestationMode)
      (fun done p log =>
        SubmittedFrom args attestationMode (done ++ [p]) log)
      (fun p =>
        submitCr args (apply p.2)
          (pushedCr args attestationMode p.1)) := by
  intro done p log hFrom
  have hAfter := submittedFrom_submitCr hFrom (apply p.2) p
  rcases hRun : (submitCr args (apply p.2)
      (pushedCr args attestationMode p.1)).exec log with
    ⟨chain | u, log'⟩
  · rwa [hRun] at hAfter
  · rwa [hRun] at hAfter

/- What is submitted is about the images that were pushed. -/
theorem submittedFrom_applyPushed
    (args : SubmitArgs)
    (attestationMode : String)
    (client : Option String)
    (apply : Nat → Option ApplyFault)
    (pushed : List PushedImage) :
    SubmittedFrom args attestationMode pushed.zipIdx
      ((applyPushed args attestationMode client apply
        pushed).exec ⟨[], [], []⟩).2 := by
  have hNone :
      ∀ done,
        SubmittedFrom args attestationMode done
          ⟨[], [], []⟩ := by
    intro done cr hcr
    simp [Submissions.all] at hcr
  have hLoop := ended_forM
    (advances_submitCr args attestationMode apply)
    pushed.zipIdx (hNone [])
  unfold applyPushed
  split
  · exact hNone _
  · cases connect args client with
    | error chain => exact hNone _
    | ok _ =>
        show SubmittedFrom args attestationMode pushed.zipIdx
          ((pushed.zipIdx.forM (fun p =>
            submitCr args (apply p.2)
              (pushedCr args attestationMode p.1))).exec
                ⟨[], [], []⟩).2
        rcases hRun : (pushed.zipIdx.forM (fun p =>
            submitCr args (apply p.2)
              (pushedCr args attestationMode p.1))).exec
                ⟨[], [], []⟩ with ⟨chain | u, log⟩
        · rw [hRun] at hLoop
          rcases hLoop with ⟨before, p, after, hAll, hFrom⟩
          intro cr hcr
          rcases hFrom cr hcr with ⟨q, hq, hEq⟩
          refine ⟨q, ?_, hEq⟩
          rw [hAll, List.append_cons]
          exact List.mem_append_left _ hq
        · rw [hRun] at hLoop
          exact hLoop

/- What a run submits comes from the images it pushed. -/
theorem pushed_of_submitted
    {common : Common}
    {args : PushAndSubmitArgs}
    {env : PushEnv}
    {cr : SubmittedCr}
    (hMem :
      cr ∈ (logOf common args env).submissions.all) :
    ∃ pushed,
      (pushAkeylessImages common env.setup args.tag env.stages
          args.servicesOrDefaults).exec ⟨[], []⟩ =
        (.ok pushed, (logOf common args env).push) ∧
      ∃ img ∈ pushed,
        cr = pushedCr (args.submitArgs common)
          args.attestationMode img := by
  unfold logOf at hMem ⊢
  rw [pushAndSubmit_eq, exec_bind] at hMem ⊢
  rcases hPush : (pushAkeylessImages common env.setup args.tag
      env.stages args.servicesOrDefaults).exec ⟨[], []⟩ with
    ⟨chain | pushed, push⟩
  · simp [onPush, zoom, hPush, Submissions.all] at hMem
  · have hFirst :
        (onPush (pushAkeylessImages common env.setup args.tag
            env.stages args.servicesOrDefaults)).exec
              ⟨⟨[], []⟩, ⟨[], [], []⟩⟩ =
          (.ok pushed, ⟨push, ⟨[], [], []⟩⟩) := by
      simp [onPush, zoom, hPush]
    rw [hFirst] at hMem ⊢
    simp only [submitPhase] at hMem ⊢
    cases hBuilt : buildRuntime env.runtime with
    | error chain =>
        rw [hBuilt] at hMem
        simp [exec_bind, ofResult, Submissions.all] at hMem
    | ok _ =>
        rw [hBuilt] at hMem
        rcases submittedFrom_applyPushed
            (args.submitArgs common) args.attestationMode
            env.client env.apply pushed cr hMem with
          ⟨p, hp, hEq⟩
        exact ⟨pushed, rfl, p.1,
          List.mem_of_getElem?
            (List.mem_zipIdx_iff_getElem?.mp hp), hEq⟩

/- The images of a push that has succeeded. -/
theorem images_of_exec_eq_ok
    {common : Common}
    {setup : Setup}
    {tagOverride : Option String}
    {stages : Nat → ServiceStages}
    {services : List String}
    {pushed : List PushedImage}
    {log log' : PushLog}
    (hRun :
      (pushAkeylessImages common setup tagOverride stages
        services).exec log = (.ok pushed, log')) :
    images common tagOverride stages services =
      some pushed := by
  have hResult := (emits_pushAkeylessImages common setup
    tagOverride stages services log).1
  rw [hRun] at hResult
  split at hResult
  · exact hResult.symm
  · simp [Except.toOption] at hResult

/-
  With signing on, every validation submitted is of an image
  whose reference by digest has been signed in the run.
-/
theorem signed_of_submitted
    {common : Common}
    (hCosign : common.cosign = true)
    (args : PushAndSubmitArgs)
    {env : PushEnv}
    (hAgrees : ∀ position, (env.stages position).Agrees) :
    ∀ cr ∈ (logOf common args env).submissions.all,
      digestRef common.port cr.spec.imageRepo
          cr.spec.imageDigest ∈
        (logOf common args env).push.signed := by
  intro cr hMem
  rcases pushed_of_submitted hMem with
    ⟨pushed, hRun, img, hImg, rfl⟩
  have hSigned := signsUpTo_pushAkeylessImages hCosign
    env.setup env.stages args.tag args.servicesOrDefaults
  have hImages := images_of_exec_eq_ok hRun
  rw [hRun] at hSigned
  rcases exists_of_mem_images hImages hImg with
    ⟨position, hService, hRepo, hDigest⟩
  -- The service's image is signed as the registry named it.
  have hRef :
      (env.stages position).signature common.port
          ("akeyless-" ++ img.service) ∈
        (logOf common args env).push.signed.map some := by
    rw [hSigned.2]
    exact List.mem_map.mpr ⟨(img.service, position),
      List.mem_zipIdx_iff_getElem?.mpr hService, rfl⟩
  rcases List.mem_map.mp hRef with ⟨ref, hIn, hEq⟩
  rcases Option.map_eq_some_iff.mp hEq.symm with
    ⟨text, hText, rfl⟩
  rcases Option.map_eq_some_iff.mp hDigest with
    ⟨text', hText', hTrim⟩
  have hSame : Str.trim text = img.digest :=
    (hAgrees position text text' hText hText').trans hTrim
  rw [hSame, ← hRepo] at hIn
  exact hIn

/- No service of this run fails. -/
def everyBuilt : PushEnv :=
  { secondNotBuilt with
    stages := fun position =>
      readyStages
        (if position = 0 then "sha256:aa" else "sha256:bb") }

theorem agrees_readyStages (digest : String) :
    (readyStages digest).Agrees := by
  intro text text' hText hText'
  rw [Option.some.inj (hText.symm.trans hText')]

/- Both images are signed, and then submitted. -/
theorem signed_of_submitted_everyBuilt :
    (∀ cr ∈
        (logOf ⟨5000, true⟩ twoServices
          everyBuilt).submissions.all,
      digestRef 5000 cr.spec.imageRepo cr.spec.imageDigest ∈
        (logOf ⟨5000, true⟩ twoServices
          everyBuilt).push.signed) ∧
      ((logOf ⟨5000, true⟩ twoServices
        everyBuilt).submissions.all.map (fun cr =>
          (cr.spec.imageRepo, cr.spec.imageDigest))) =
        [("akeyless-auth", "sha256:aa"),
          ("akeyless-uam", "sha256:bb")] :=
  ⟨signed_of_submitted rfl twoServices
    (fun _ => agrees_readyStages _), by decide +kernel⟩

end PrivatePush

end EngenhoPromessa
