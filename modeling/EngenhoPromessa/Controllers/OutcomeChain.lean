import EngenhoPromessa.Controllers.Cluster

/-
  The outcome chain: on a watch event for a validation in a
  terminal phase it patches a receipt into the status.

  Key definitions include:
    * `OutcomeChain.buildReceipt`
    * `OutcomeChain.handle`

  Key theorems include:
    * `OutcomeChain.exec_handle_validations`
-/

------------------------------------------------------------
-- Receipts
------------------------------------------------------------

namespace EngenhoPromessa

namespace OutcomeChain

/- The text a receipt is the hash of. -/
def canonicalText (obj : AkeylessImageValidation) : String :=
  let decision :=
    obj.status.bind AkeylessImageValidationStatus.gateDecision
  obj.spec.service ++ "|" ++ obj.spec.imageDigest ++ "|" ++
    (decision.map (fun gd => gd.verdict.debugName)).getD "" ++
    "|" ++ (decision.map GateDecision.severity).getD "" ++
    "|" ++ (obj.status.bind
      AkeylessImageValidationStatus.evidenceBundleHash).getD
        ""

/- `build_receipt`: the signature stays empty. -/
def buildReceipt
    [Blake3]
    (ctx : ReconcileCtx)
    (obj : AkeylessImageValidation) : OutcomeReceiptRef :=
  let hash :=
    Blake3.hashHex (canonicalText obj).toUTF8.data.toList
  { blake3Hash := hash
    ed25519Sig := ""
    minioPath :=
      "s3://outcome-chains-pleme-dev/" ++
        "akeyless-nix-images-fedramp-scr/" ++ hash ++ ".json"
    signedAt := ctx.clock .signedAt }

end OutcomeChain

end EngenhoPromessa

------------------------------------------------------------
-- Events
------------------------------------------------------------

namespace EngenhoPromessa

namespace OutcomeChain

variable [Chrono] [Blake3]

/- Where the receipt writer patches. -/
def scopeOf (ctx : ReconcileCtx) : ApiScope :=
  match ctx.namespace with
  | some ns => .namespaced ns
  | none => .all

/- A failed patch is only logged. -/
def handle
    (ctx : ReconcileCtx)
    (obj : AkeylessImageValidation) : Kube Unit :=
  match obj.status.bind
      AkeylessImageValidationStatus.phase with
  | none => return ()
  | some phase =>
      if !phase.isTerminal then
        return ()
      else if (obj.status.bind
          AkeylessImageValidationStatus.outcomeReceiptRef
          ).isSome then
        return ()
      else
        Fallible.unwrapOr ()
          (Api.patchValidationStatus (scopeOf ctx)
            obj.metadata.nameAny
            (.obj [("status",
              receiptPatch (buildReceipt ctx obj))]))

/-
  An event keeps the stored validations, or patches a receipt
  of a terminal, unsigned object into them.
-/
theorem exec_handle_validations
    (ctx : ReconcileCtx)
    (obj : AkeylessImageValidation)
    (w : World) :
    let w' := ((handle ctx obj).exec w).2
    w'.cluster.validations = w.cluster.validations ∨
      obj.currentPhase.isTerminal = true ∧
        ∃ ns, ctx.namespace = some ns ∧
          Stored.patchNamed ns obj.metadata.nameAny
              (.obj [("status",
                receiptPatch (buildReceipt ctx obj))])
              w.cluster.validations =
            some w'.cluster.validations := by
  intro w'
  rcases hPhase : obj.status.bind
      AkeylessImageValidationStatus.phase with _ | phase
  · left
    simp [w', handle, hPhase]
  · by_cases hTerminal : phase.isTerminal = true
    · by_cases hSigned : (obj.status.bind
          AkeylessImageValidationStatus.outcomeReceiptRef
          ).isSome = true
      · left
        simp [w', handle, hPhase, hTerminal, hSigned]
      · have hCurrent :
            obj.currentPhase.isTerminal = true := by
          simpa [AkeylessImageValidation.currentPhase,
            hPhase] using hTerminal
        have hWorld :
            w' = ((Api.patchValidationStatus (scopeOf ctx)
              obj.metadata.nameAny
              (.obj [("status",
                receiptPatch (buildReceipt ctx obj))])).exec
                  w).2 := by
          simp [w', handle, hPhase, hTerminal, hSigned,
            Fallible.exec_unwrapOr_snd]
        rw [hWorld]
        unfold scopeOf
        cases hNs : ctx.namespace with
        | none =>
            exact Or.inl
              (Api.keeps_validations_patchAll _ _ w)
        | some ns =>
            rcases Api.exec_patchValidationStatus ns _ _ w
              with hSame | hPatched
            · exact Or.inl hSame
            · exact Or.inr
                ⟨hCurrent, ns, rfl, hPatched⟩
    · left
      simp [w', handle, hPhase, hTerminal]

end OutcomeChain

end EngenhoPromessa
