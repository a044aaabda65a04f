import EngenhoPromessa.Effect.Fallible
import EngenhoPromessa.Text.Str

/-
  The push phase of `private-push`: a port-forward, a login,
  and for each service a build, a copy to the registry, a
  signature and the digest the registry gave the image.

  What becomes of a process is given with the run; what the
  run leaves outside is kept in a log.

  Key definitions include:
    * `PrivatePush.Ran`
    * `PrivatePush.pushService`
    * `PrivatePush.pushAkeylessImages`

  Key theorems include:
    * `PrivatePush.emits_pushService`
    * `PrivatePush.emits_pushAkeylessImages`
-/

------------------------------------------------------------
-- Subprocesses
------------------------------------------------------------

namespace EngenhoPromessa

namespace PrivatePush

/- The contexts of an error, from the outermost in. -/
abbrev Chain := List String

/- What becomes of a process, and of its output's decoding. -/
inductive Ran where
  | notSpawned (error : String)
  | exited (status : String)
  | done (stdout : Except String String)

/- The command has succeeded, or says how it failed. -/
def runChecked (label : String) : Ran → Except Chain Unit
| .notSpawned e => .error [label ++ ": spawn failed", e]
| .exited status => .error [label ++ ": exit " ++ status]
| .done _ => .ok ()

/- The same with what the command has printed. -/
def runCapture (label : String) : Ran → Except Chain String
| .notSpawned e => .error [label ++ ": spawn failed", e]
| .exited status => .error [label ++ ": exit " ++ status]
| .done (.error e) => .error [label ++ ": non-utf8 stdout", e]
| .done (.ok stdout) => .ok stdout

/- `n` lines have been read, and none of them matched. -/
def waitForLine
    (label : String)
    (predicate : String → Bool)
    (maxLines n : Nat) :
    List (Except String String) → Except Chain Unit
| [] => .error [label ++ ": child stdout closed before match"]
| .error e :: _ => .error ["read child stdout", e]
| .ok line :: lines =>
    if predicate line then
      .ok ()
    else if n ≥ maxLines then
      .error [label ++ ": did not match line within " ++
        toString maxLines ++ " lines"]
    else
      waitForLine label predicate maxLines (n + 1) lines

/- `with_context`: the error gets a first line. -/
def context
    {α : Type}
    (text : String) : Except Chain α → Except Chain α
| .error chain => .error (text :: chain)
| .ok a => .ok a

end PrivatePush

end EngenhoPromessa

------------------------------------------------------------
-- Port-Forward And Login
------------------------------------------------------------

namespace EngenhoPromessa

namespace PrivatePush

/- The options of all commands. -/
structure Common where
  port : UInt16
  cosign : Bool
deriving DecidableEq, Repr

/- The processes before the first service. -/
structure Setup where
  getService : Ran
  portForward : Option String
  forwardLines : List (Except String String)
  sops : Ran
  login : Ran

/- Waits until the port is forwarded, for so many lines. -/
def startPortForward
    (common : Common)
    (setup : Setup) : Except Chain Unit := do
  context "verify kubectl + Zot Service reachable"
    (runChecked "kubectl get svc" setup.getService)
  match setup.portForward with
  | some e =>
      .error ["kubectl port-forward: spawn failed", e]
  | none =>
      waitForLine "kubectl port-forward"
        (fun line =>
          Str.contains "Forwarding from" line &&
            Str.contains (toString common.port) line)
        50 0 setup.forwardLines

/- `s.trim_matches('"')`. -/
def trimQuotes (s : String) : String :=
  Str.trimEndMatches '"' (Str.trimStartMatches "\"" s)

/- The first line with a token decides. -/
def tokenOf : List String → Except Chain String
| [] => .error ["zot-push-token YAML has no `token:` field"]
| line :: lines =>
    match Str.stripPrefix "token:" (Str.trim line) with
    | none => tokenOf lines
    | some rest =>
        let token := trimQuotes (Str.trim rest)
        if token.isEmpty then
          .error
            ["zot-push-token YAML has empty `token:` field"]
        else
          .ok token

/- The token is in the file that sops decrypts. -/
def decryptToken (sops : Ran) : Except Chain String := do
  let yaml ← runCapture "sops -d" sops
  tokenOf (Str.lines yaml)

/- Logs in to the registry with the token. -/
def skopeoLogin (setup : Setup) : Except Chain Unit := do
  let _ ← decryptToken setup.sops
  runChecked "skopeo login" setup.login

end PrivatePush

end EngenhoPromessa

------------------------------------------------------------
-- Pushing
------------------------------------------------------------

namespace EngenhoPromessa

namespace PrivatePush

/- `oci::akeyless_dest`. -/
def akeylessDest
    (port : UInt16)
    (service tag : String) : String :=
  "localhost:" ++ toString port ++ "/akeyless-" ++ service ++
    ":" ++ tag

/- `oci::extract_tag_only`. -/
def extractTagOnly (repoTag : String) : String :=
  Str.afterLast ':' repoTag

/- An image that was pushed, and under which digest. -/
structure PushedImage where
  service : String
  repo : String
  digest : String
deriving DecidableEq, Repr

/- The processes of one service, in their order. -/
structure ServiceStages where
  nixBuild : Ran
  inspectArchive : Ran
  copy : Ran
  signInspect : Ran
  sign : Ran
  inspect : Ran

/-
  What a run leaves outside: the copies made, each with the
  position of its service, and the references signed.
-/
structure PushLog where
  copied : List (Nat × String)
  signed : List String

/- Pushing, with a log of what was copied and signed. -/
abbrev Push (α : Type) := Fallible PushLog Chain α

open Fallible

/- Builds the image. -/
def nixBuild (attr : String) (ran : Ran) : Push Unit :=
  ofResult (runChecked ("nix build .#" ++ attr) ran)

/- The tag the archive has, or `latest` if it has none. -/
def discoverBakedTag (ran : Ran) : Except Chain String := do
  let raw ← runCapture "skopeo inspect docker-archive" ran
  let baked := Str.trim raw
  if baked.isEmpty then
    return "latest"
  else
    return extractTagOnly baked

/- The digest under which the registry has the image. -/
def resolvePushedDigest (ran : Ran) : Except Chain String := do
  let out ← runCapture "skopeo inspect" ran
  return Str.trim out

/- Copies the image; only a success is in the log. -/
def skopeoCopy
    (position : Nat)
    (dest : String)
    (ran : Ran) : Push Unit :=
  ofExec (fun log =>
    match runChecked "skopeo copy" ran with
    | .error chain => (.error chain, log)
    | .ok () =>
        (.ok (), { log with
          copied := log.copied ++ [(position, dest)] }))

/- Signs by the digest that the registry answers. -/
def cosignSign
    (port : UInt16)
    (repo : String)
    (stages : ServiceStages) : Push Unit := do
  let digest ←
    ofResult (resolvePushedDigest stages.signInspect)
  let refByDigest :=
    "localhost:" ++ toString port ++ "/" ++ repo ++ "@" ++
      digest
  ofExec (fun log =>
    match runChecked "cosign sign" stages.sign with
    | .error chain => (.error chain, log)
    | .ok () =>
        (.ok (), { log with
          signed := log.signed ++ [refByDigest] }))

/- The tag that was asked for, or that of the archive. -/
def imageTag
    (tagOverride : Option String)
    (stages : ServiceStages) : Push String :=
  match tagOverride with
  | some t => return t
  | none => ofResult (discoverBakedTag stages.inspectArchive)

/- `--no-cosign` skips the signature. -/
def signCopy
    (common : Common)
    (service : String)
    (stages : ServiceStages) : Push Unit :=
  if common.cosign then
    cosignSign common.port ("akeyless-" ++ service) stages
  else
    return ()

/- All stages of one image, of which any may fail. -/
def pushService
    (common : Common)
    (tagOverride : Option String)
    (stages : ServiceStages)
    (position : Nat)
    (service : String) : Push PushedImage := do
  nixBuild ("dockerImage:amd64:" ++ service) stages.nixBuild
  let tag ← imageTag tagOverride stages
  let dest := akeylessDest common.port service tag
  skopeoCopy position dest stages.copy
  signCopy common service stages
  let digest ← ofResult (resolvePushedDigest stages.inspect)
  return {
    service := service
    repo := "akeyless-" ++ service
    digest := digest }

/- A service that fails ends the loop, and its result. -/
def pushAkeylessImages
    (common : Common)
    (setup : Setup)
    (tagOverride : Option String)
    (stages : Nat → ServiceStages)
    (services : List String) : Push (List PushedImage) := do
  ofResult (startPortForward common setup)
  ofResult (skopeoLogin setup)
  services.zipIdx.mapM (fun p =>
    pushService common tagOverride (stages p.2) p.2 p.1)

end PrivatePush

end EngenhoPromessa

------------------------------------------------------------
-- What A Service Leaves
------------------------------------------------------------

namespace EngenhoPromessa

namespace PrivatePush

namespace Ran

/- The command has ended with success. -/
def succeeded : Ran → Bool
| .done _ => true
| _ => false

/- What a successful command has printed. -/
def text : Ran → Option String
| .done (.ok stdout) => some stdout
| _ => none

end Ran

namespace ServiceStages

/- The image is built, has its tag, and is copied. -/
def copies
    (tagOverride : Option String)
    (s : ServiceStages) : Bool :=
  s.nixBuild.succeeded &&
    (tagOverride.isSome || s.inspectArchive.text.isSome) &&
    s.copy.succeeded

/- Signing is off, or it succeeds. -/
def signs (cosign : Bool) (s : ServiceStages) : Bool :=
  !cosign || s.signInspect.text.isSome && s.sign.succeeded

/- The digest the registry has for the copy. -/
def digest (s : ServiceStages) : Option String :=
  s.inspect.text.map Str.trim

/- The image of a service whose stages all succeed. -/
def image
    (common : Common)
    (tagOverride : Option String)
    (s : ServiceStages)
    (service : String) : Option PushedImage :=
  if s.copies tagOverride && s.signs common.cosign then
    s.digest.map (fun digest =>
      { service := service
        repo := "akeyless-" ++ service
        digest := digest })
  else
    none

end ServiceStages

namespace PushLog

/- The positions of the services whose image was copied. -/
def positions (log : PushLog) : List Nat :=
  log.copied.map Prod.fst

end PushLog

open Fallible

theorem toOption_runChecked (label : String) (ran : Ran) :
    (runChecked label ran).toOption =
      if ran.succeeded then some () else none := by
  rcases ran with _ | _ | _
  · rfl
  · rfl
  · rfl

theorem toOption_runCapture (label : String) (ran : Ran) :
    (runCapture label ran).toOption = ran.text := by
  rcases ran with _ | _ | (_ | _)
  · rfl
  · rfl
  · rfl
  · rfl

/- A digest is a text without the white space around it. -/
theorem toOption_resolvePushedDigest (ran : Ran) :
    (resolvePushedDigest ran).toOption =
      ran.text.map Str.trim := by
  rw [← toOption_runCapture "skopeo inspect"]
  unfold resolvePushedDigest
  cases runCapture "skopeo inspect" ran with
  | error chain => rfl
  | ok out => rfl

/- A tag is found as soon as the archive can be read. -/
theorem isSome_discoverBakedTag (ran : Ran) :
    (discoverBakedTag ran).toOption.isSome =
      ran.text.isSome := by
  rw [← toOption_runCapture
    "skopeo inspect docker-archive"]
  unfold discoverBakedTag
  cases runCapture "skopeo inspect docker-archive" ran with
  | error chain => rfl
  | ok raw =>
      simp only [bind, Except.bind]
      split
      · simp [pure, Except.pure, Except.toOption]
      · simp [pure, Except.pure, Except.toOption]

/- A copy that succeeds is in the log, another is not. -/
theorem emits_skopeoCopy
    (position : Nat)
    (dest : String)
    (ran : Ran) :
    Emits PushLog.positions (skopeoCopy position dest ran)
      (if ran.succeeded then some () else none)
      (if ran.succeeded then [position] else []) := by
  intro log
  rw [← toOption_runChecked "skopeo copy"]
  rcases ran with _ | _ | _
  · exact ⟨rfl, (List.append_nil _).symm⟩
  · exact ⟨rfl, (List.append_nil _).symm⟩
  · exact ⟨rfl, List.map_append⟩

/- Signing copies nothing. -/
theorem emits_cosignSign
    (port : UInt16)
    (repo : String)
    (s : ServiceStages) :
    Emits PushLog.positions (cosignSign port repo s)
      (if s.signs true then some () else none) [] := by
  have hDigest :
      Emits PushLog.positions
        (ofResult (resolvePushedDigest s.signInspect))
        (s.signInspect.text.map Str.trim) [] := by
    rw [← toOption_resolvePushedDigest]
    exact emits_ofResult _
  cases hText : s.signInspect.text with
  | none =>
      rw [hText] at hDigest
      have hNone : s.signs true = false := by
        simp [ServiceStages.signs, hText]
      rw [hNone]
      exact emits_bind_none hDigest _
  | some digest =>
      rw [hText] at hDigest
      have hSign :
          (if s.signs true then some () else none) =
            (runChecked "cosign sign" s.sign).toOption := by
        simp [ServiceStages.signs, hText,
          toOption_runChecked]
      rw [hSign]
      refine emits_bind_some hDigest ?_
      intro log
      rcases s.sign with _ | _ | _
      · exact ⟨rfl, (List.append_nil _).symm⟩
      · exact ⟨rfl, (List.append_nil _).symm⟩
      · exact ⟨rfl, (List.append_nil _).symm⟩

/- Nor does it where it is turned off. -/
theorem emits_signCopy
    (common : Common)
    (service : String)
    (s : ServiceStages) :
    Emits PushLog.positions (signCopy common service s)
      (if s.signs common.cosign then some () else none)
      [] := by
  unfold signCopy
  cases common.cosign with
  | true => exact emits_cosignSign _ _ s
  | false => exact emits_pure ()

/- The tag is given, or it is discovered. -/
theorem emits_imageTag
    (tagOverride : Option String)
    (s : ServiceStages) :
    ∃ tag : Option String,
      tag.isSome =
        (tagOverride.isSome || s.inspectArchive.text.isSome) ∧
      Emits PushLog.positions (imageTag tagOverride s) tag
        [] := by
  cases tagOverride with
  | some t => exact ⟨some t, rfl, emits_pure t⟩
  | none =>
      refine ⟨_, ?_, emits_ofResult _⟩
      simpa using isSome_discoverBakedTag s.inspectArchive

/- From the copy to the image. -/
theorem emits_copy_image
    (common : Common)
    (tagOverride : Option String)
    {s : ServiceStages}
    (hCopies : s.copies tagOverride = s.copy.succeeded)
    (position : Nat)
    (service dest : String) :
    Emits PushLog.positions
      (do
        skopeoCopy position dest s.copy
        signCopy common service s
        let digest ← ofResult (resolvePushedDigest s.inspect)
        return {
          service := service
          repo := "akeyless-" ++ service
          digest := digest : PushedImage })
      (s.image common tagOverride service)
      (if s.copies tagOverride then [position] else []) := by
  have hCopy := emits_skopeoCopy position dest s.copy
  have hSign := emits_signCopy common service s
  have hDigest :
      Emits PushLog.positions
        (ofResult (resolvePushedDigest s.inspect))
        s.digest [] := by
    rw [ServiceStages.digest, ← toOption_resolvePushedDigest]
    exact emits_ofResult _
  rw [ServiceStages.image, hCopies]
  cases hCopied : s.copy.succeeded with
  | false =>
      rw [hCopied] at hCopy
      exact emits_bind_none hCopy _
  | true =>
      rw [hCopied] at hCopy
      refine emits_bind_some hCopy (?_ : Emits _ _ _ [])
      cases hSigned : s.signs common.cosign with
      | false =>
          rw [hSigned] at hSign
          exact emits_bind_none hSign _
      | true =>
          rw [hSigned] at hSign
          refine emits_bind_some hSign ?_
          cases hFound : s.digest with
          | none =>
              rw [hFound] at hDigest
              exact emits_bind_none hDigest _
          | some digest =>
              rw [hFound] at hDigest
              exact emits_bind_some hDigest (emits_pure _)

/-
  A service is copied before it can fail to be signed or to
  have a digest.
-/
theorem emits_pushService
    (common : Common)
    (tagOverride : Option String)
    (s : ServiceStages)
    (position : Nat)
    (service : String) :
    Emits PushLog.positions
      (pushService common tagOverride s position service)
      (s.image common tagOverride service)
      (if s.copies tagOverride then [position] else []) := by
  have hBuild :
      Emits PushLog.positions
        (nixBuild ("dockerImage:amd64:" ++ service) s.nixBuild)
        (if s.nixBuild.succeeded then some () else none)
        [] := by
    rw [← toOption_runChecked
      ("nix build .#" ++ ("dockerImage:amd64:" ++ service))]
    exact emits_ofResult _
  cases hBuilt : s.nixBuild.succeeded with
  | false =>
      rw [hBuilt] at hBuild
      have hNone : s.copies tagOverride = false := by
        simp [ServiceStages.copies, hBuilt]
      rw [ServiceStages.image, hNone]
      exact emits_bind_none hBuild _
  | true =>
      rw [hBuilt] at hBuild
      refine emits_bind_some hBuild ?_
      rcases emits_imageTag tagOverride s with
        ⟨tag, hTagged, hTag⟩
      cases tag with
      | none =>
          have hNone : s.copies tagOverride = false := by
            simp [ServiceStages.copies, hBuilt, ← hTagged]
          rw [ServiceStages.image, hNone]
          exact emits_bind_none hTag _
      | some tag =>
          have hCopies :
              s.copies tagOverride = s.copy.succeeded := by
            simp [ServiceStages.copies, hBuilt, ← hTagged]
          refine emits_bind_some hTag ?_
          exact emits_copy_image common tagOverride hCopies
            position service _

/- The port-forward is up, and the login succeeds. -/
def setupOk (common : Common) (setup : Setup) : Bool :=
  (startPortForward common setup).isOk &&
    (skopeoLogin setup).isOk

/- The images of the services, if no stage of any fails. -/
def images
    (common : Common)
    (tagOverride : Option String)
    (stages : Nat → ServiceStages)
    (services : List String) : Option (List PushedImage) :=
  services.zipIdx.mapM (fun p =>
    (stages p.2).image common tagOverride p.1)

/- The positions copied: up to the first that is no image. -/
def copiedPositions
    (common : Common)
    (tagOverride : Option String)
    (stages : Nat → ServiceStages)
    (services : List String) : List Nat :=
  (services.zipIdx.upToFailure (fun p =>
    ((stages p.2).image common tagOverride
      p.1).isSome)).flatMap (fun p =>
        if (stages p.2).copies tagOverride then [p.2]
        else [])

/- The images are copied up to the first that fails. -/
theorem emits_pushAkeylessImages
    (common : Common)
    (setup : Setup)
    (tagOverride : Option String)
    (stages : Nat → ServiceStages)
    (services : List String) :
    Emits PushLog.positions
      (pushAkeylessImages common setup tagOverride stages
        services)
      (if setupOk common setup then
        images common tagOverride stages services
        else none)
      (if setupOk common setup then
        copiedPositions common tagOverride stages services
        else []) := by
  have hStep :
      ∀ p : String × Nat,
        Emits PushLog.positions
          (pushService common tagOverride (stages p.2) p.2 p.1)
          ((stages p.2).image common tagOverride p.1)
          (if (stages p.2).copies tagOverride then [p.2]
            else []) :=
    fun p =>
      emits_pushService common tagOverride (stages p.2) p.2 p.1
  have hLoop := emits_mapM hStep services.zipIdx
  unfold pushAkeylessImages setupOk
  cases startPortForward common setup with
  | error chain =>
      simp only [Except.isOk, Except.toBool, Bool.false_and,
        Bool.false_eq_true, if_false]
      exact emits_bind_none (emits_ofResult (.error chain)) _
  | ok _ =>
      refine emits_bind_some (emits_ofResult (.ok ())) ?_
      cases skopeoLogin setup with
      | error chain =>
          simp only [Except.isOk, Except.toBool,
            Bool.and_false, Bool.false_eq_true, if_false]
          exact emits_bind_none
            (emits_ofResult (.error chain)) _
      | ok _ =>
          simp only [Except.isOk, Except.toBool,
            Bool.and_self, if_true]
          refine emits_bind_some (emits_ofResult (.ok ())) ?_
          exact hLoop

/- A pushed image was copied, and its digest was answered. -/
theorem copies_of_image_eq_some
    {common : Common}
    {tagOverride : Option String}
    {s : ServiceStages}
    {service : String}
    {img : PushedImage}
    (hImage : s.image common tagOverride service = some img) :
    s.copies tagOverride = true ∧ img.service = service ∧
      img.repo = "akeyless-" ++ service ∧
      s.digest = some img.digest := by
  unfold ServiceStages.image at hImage
  split at hImage
  · rename_i hStages
    rcases Option.map_eq_some_iff.mp hImage with
      ⟨digest, hDigest, rfl⟩
    rw [Bool.and_eq_true] at hStages
    exact ⟨hStages.1, rfl, rfl, hDigest⟩
  · simp at hImage

/- An image comes from the stages of its service. -/
theorem exists_of_mem_images
    {common : Common}
    {tagOverride : Option String}
    {stages : Nat → ServiceStages}
    {services : List String}
    {pushed : List PushedImage}
    (hImages :
      images common tagOverride stages services = some pushed)
    {img : PushedImage}
    (hMem : img ∈ pushed) :
    ∃ position, services[position]? = some img.service ∧
      img.repo = "akeyless-" ++ img.service ∧
      (stages position).digest = some img.digest := by
  rcases List.exists_of_mem_mapM hImages hMem with
    ⟨⟨service, position⟩, hService, hImage⟩
  rcases copies_of_image_eq_some hImage with
    ⟨_, rfl, hRepo, hDigest⟩
  exact ⟨position,
    List.mem_zipIdx_iff_getElem?.mp hService, hRepo, hDigest⟩

/- With no failed service, every service has its image. -/
theorem exists_mem_images
    {common : Common}
    {tagOverride : Option String}
    {stages : Nat → ServiceStages}
    {services : List String}
    {pushed : List PushedImage}
    (hImages :
      images common tagOverride stages services = some pushed)
    {position : Nat}
    {service : String}
    (hService : services[position]? = some service) :
    ∃ img ∈ pushed, img.repo = "akeyless-" ++ service ∧
      (stages position).digest = some img.digest := by
  have hIndexed : (service, position) ∈ services.zipIdx :=
    List.mem_zipIdx_iff_getElem?.mpr hService
  rcases List.exists_mem_of_mapM hImages hIndexed with
    ⟨img, hMem, hImage⟩
  rcases copies_of_image_eq_some hImage with
    ⟨_, _, hRepo, hDigest⟩
  exact ⟨img, hMem, hRepo, hDigest⟩

/- And every service is copied. -/
theorem mem_copiedPositions_of_images
    {common : Common}
    {tagOverride : Option String}
    {stages : Nat → ServiceStages}
    {services : List String}
    {pushed : List PushedImage}
    (hImages :
      images common tagOverride stages services = some pushed)
    {position : Nat}
    {service : String}
    (hService : services[position]? = some service) :
    position ∈
      copiedPositions common tagOverride stages services := by
  have hAll :
      ∀ p ∈ services.zipIdx,
        ((stages p.2).image common tagOverride
          p.1).isSome = true := by
    intro p hp
    rcases List.exists_mem_of_mapM hImages hp with
      ⟨img, _, hImage⟩
    rw [hImage]
    rfl
  have hMem : (service, position) ∈ services.zipIdx :=
    List.mem_zipIdx_iff_getElem?.mpr hService
  rcases Option.isSome_iff_exists.mp (hAll _ hMem) with
    ⟨img, hImage⟩
  rw [copiedPositions, List.upToFailure_of_all
    (List.failure?_eq_none_of_forall hAll)]
  refine List.mem_flatMap.mpr ⟨_, hMem, ?_⟩
  rw [if_pos (copies_of_image_eq_some hImage).1]
  exact List.mem_singleton.mpr rfl

/-
  The first service is copied or not by its own stages; if it
  is no image, nothing else is copied.
-/
theorem zero_mem_copiedPositions
    (common : Common)
    {tagOverride : Option String}
    {stages : Nat → ServiceStages}
    (hCopies : (stages 0).copies tagOverride = true)
    {services : List String}
    (hSome : services ≠ []) :
    0 ∈ copiedPositions common tagOverride stages services := by
  cases services with
  | nil => exact absurd rfl hSome
  | cons service services =>
      rw [copiedPositions, List.zipIdx_cons]
      refine List.mem_flatMap.mpr ⟨(service, 0), ?_, ?_⟩
      · rw [List.upToFailure]
        split
        · exact List.mem_cons_self
        · exact List.mem_cons_self
      · rw [if_pos hCopies]
        exact List.mem_singleton.mpr rfl

/- If the first image fails, at most it was copied. -/
theorem copiedPositions_of_no_image
    {common : Common}
    {tagOverride : Option String}
    {stages : Nat → ServiceStages}
    (hNone :
      ∀ service,
        (stages 0).image common tagOverride service = none)
    (services : List String) :
    ∀ position ∈
        copiedPositions common tagOverride stages services,
      position = 0 ∧ (stages 0).copies tagOverride = true := by
  cases services with
  | nil => simp [copiedPositions, List.upToFailure]
  | cons service services =>
      simp [copiedPositions, List.upToFailure,
        List.zipIdx_cons, hNone]

end PrivatePush

end EngenhoPromessa
