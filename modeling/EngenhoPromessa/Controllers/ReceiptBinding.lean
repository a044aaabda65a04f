import EngenhoPromessa.Collections.Cuts
import EngenhoPromessa.Controllers.OutcomeChain
import EngenhoPromessa.Text.Str
import EngenhoPromessa.Text.Utf8

/-
  What the hash of a receipt binds. The five fields are put
  together with bars between them; a bar inside a field, or
  an absent field beside an empty one, does not show.

  Key definitions include:
    * `OutcomeChain.canonicalBytes`
    * `OutcomeChain.BindsAttested`
    * `OutcomeChain.KeepsFieldsApart`

  Key theorems include:
    * `OutcomeChain.bindsAttested_iff`
-/

------------------------------------------------------------
-- Receipt Texts
------------------------------------------------------------

namespace EngenhoPromessa

namespace AkeylessImageValidation

/- The evidence hash of a validation that has one. -/
def evidenceHash?
    (obj : AkeylessImageValidation) : Option String :=
  obj.status.bind
    AkeylessImageValidationStatus.evidenceBundleHash

end AkeylessImageValidation

namespace OutcomeChain

/- The bytes a receipt is the hash of. -/
def canonicalBytes (obj : AkeylessImageValidation) :
    List UInt8 :=
  Str.asBytes (canonicalText obj)

/- The receipt's hash is taken of the canonical bytes. -/
theorem blake3Hash_buildReceipt
    [Blake3]
    (ctx : ReconcileCtx)
    (obj : AkeylessImageValidation) :
    (buildReceipt ctx obj).blake3Hash =
      Blake3.hashHex (canonicalBytes obj) := rfl

/- The fields a receipt attests, as the text has them. -/
def verdictText (decision : Option GateDecision) : String :=
  (decision.map (fun gd => gd.verdict.debugName)).getD ""

/- The severity as the receipt writes it. -/
def severityText (decision : Option GateDecision) : String :=
  (decision.map GateDecision.severity).getD ""

/- The receipt's text from the four things it attests. -/
def receiptText
    (service digest : String)
    (decision : Option GateDecision)
    (hash : Option String) : String :=
  service ++ "|" ++ digest ++ "|" ++ verdictText decision ++
    "|" ++ severityText decision ++ "|" ++ hash.getD ""

theorem canonicalText_eq (obj : AkeylessImageValidation) :
    canonicalText obj =
      receiptText obj.spec.service obj.spec.imageDigest
        obj.gateDecision? obj.evidenceHash? := rfl

/- The validations agree in all that a receipt attests. -/
structure SameAttested
    (obj obj' : AkeylessImageValidation) : Prop where
  service : obj'.spec.service = obj.spec.service
  digest : obj'.spec.imageDigest = obj.spec.imageDigest
  verdict :
    obj'.gateDecision?.map GateDecision.verdict =
      obj.gateDecision?.map GateDecision.verdict
  severity :
    obj'.gateDecision?.map GateDecision.severity =
      obj.gateDecision?.map GateDecision.severity
  evidence : obj'.evidenceHash? = obj.evidenceHash?

/- No other validation has the bytes of this one. -/
def BindsAttested (obj : AkeylessImageValidation) : Prop :=
  ∀ obj' : AkeylessImageValidation,
    canonicalBytes obj' = canonicalBytes obj →
    SameAttested obj obj'

/- A whole decision is somewhere in the text, with its bars. -/
def ShowsDecision (text : String) : Prop :=
  ∃ before decision after,
    text = before ++ "|" ++ verdictText decision ++ "|" ++
      severityText decision ++ "|" ++ after

/-
  No field has a bar, and there is an evidence hash. Without
  a decision the hash may have bars, as long as they do not
  look like a decision.
-/
structure KeepsFieldsApart
    (obj : AkeylessImageValidation) : Prop where
  service : '|' ∉ obj.spec.service.toList
  digest : '|' ∉ obj.spec.imageDigest.toList
  evidence : obj.evidenceHash?.getD "" ≠ ""
  decided :
    ∀ gd, obj.gateDecision? = some gd →
      '|' ∉ gd.severity.toList ∧
        '|' ∉ (obj.evidenceHash?.getD "").toList
  undecided :
    obj.gateDecision? = none →
      ¬ ShowsDecision ("||" ++ obj.evidenceHash?.getD "")

end OutcomeChain

end EngenhoPromessa

------------------------------------------------------------
-- Texts That Are Read One Way
------------------------------------------------------------

namespace EngenhoPromessa

namespace OutcomeChain

/- A verdict has no bar in its name. -/
theorem bar_not_mem_verdictText
    (decision : Option GateDecision) :
    '|' ∉ (verdictText decision).toList := by
  have hNamed :
      ∀ v : GateVerdict, '|' ∉ v.debugName.toList := by
    intro v
    cases v <;> decide
  cases decision with
  | none => simp [verdictText]
  | some gd => exact hNamed gd.verdict

/- The verdict is read back from its text. -/
theorem map_verdict_eq
    {decision decision' : Option GateDecision}
    (hText : verdictText decision' = verdictText decision) :
    decision'.map GateDecision.verdict =
      decision.map GateDecision.verdict := by
  have hNamed : ∀ v v' : GateVerdict,
      v.debugName ≠ "" ∧
        (v'.debugName = v.debugName → v' = v) := by
    intro v v'
    cases v <;> cases v' <;> simp [GateVerdict.debugName]
  cases decision with
  | none =>
      cases decision' with
      | none => rfl
      | some gd' =>
          exact absurd hText (hNamed gd'.verdict .passed).1
  | some gd =>
      cases decision' with
      | none =>
          exact absurd hText.symm
            (hNamed gd.verdict .passed).1
      | some gd' =>
          exact congrArg some
            ((hNamed gd.verdict gd'.verdict).2 hText)

/-
  The severity is read back, knowing whether there is a
  verdict.
-/
theorem map_severity_eq
    {decision decision' : Option GateDecision}
    (hVerdict :
      decision'.map GateDecision.verdict =
        decision.map GateDecision.verdict)
    (hText : severityText decision' = severityText decision) :
    decision'.map GateDecision.severity =
      decision.map GateDecision.severity := by
  cases decision with
  | none =>
      rw [Option.map_none, Option.map_eq_none_iff]
        at hVerdict
      rw [hVerdict]
  | some gd =>
      cases decision' with
      | none => simp at hVerdict
      | some gd' => exact congrArg some hText

/- The text, cut at the bar behind the digest. -/
theorem receiptText_toList
    (service digest : String)
    (decision : Option GateDecision)
    (hash : Option String) :
    (receiptText service digest decision hash).toList =
      (service.toList ++ '|' :: digest.toList) ++ '|' ::
        ((verdictText decision).toList ++ '|' ::
          ((severityText decision).toList ++ '|' ::
            (hash.getD "").toList)) := by
  simp [receiptText]

/-
  The bar behind the digest is where it was: an earlier one
  is inside a field, and a later one would show a decision.
-/
theorem cut_of_receiptText_eq
    {obj obj' : AkeylessImageValidation}
    (hApart : KeepsFieldsApart obj)
    {left left' right right' : List Char}
    (hLeft :
      left = obj.spec.service.toList ++
        '|' :: obj.spec.imageDigest.toList)
    (hLeft' :
      left' = obj'.spec.service.toList ++
        '|' :: obj'.spec.imageDigest.toList)
    (hRight :
      right = (verdictText obj.gateDecision?).toList ++ '|' ::
        ((severityText obj.gateDecision?).toList ++ '|' ::
          (obj.evidenceHash?.getD "").toList))
    (hRight' :
      right' = (verdictText obj'.gateDecision?).toList ++ '|' ::
        ((severityText obj'.gateDecision?).toList ++ '|' ::
          (obj'.evidenceHash?.getD "").toList))
    (hText : left' ++ '|' :: right' = left ++ '|' :: right) :
    left' = left ∧ right' = right := by
  have hOne : left.count '|' = 1 := by
    rw [hLeft, List.count_append, List.count_cons_self,
      List.count_eq_zero.mpr hApart.service,
      List.count_eq_zero.mpr hApart.digest]
  rcases (Cuts.append_cons_eq_iff '|').mp hText with
    hSame | ⟨z, hEarlier, -⟩ | ⟨z, -, hLater⟩
  · exact hSame
  · have hCount := congrArg (List.count '|') hEarlier
    rw [hOne, hLeft'] at hCount
    simp only [List.count_append, List.count_cons_self]
      at hCount
    omega
  · exfalso
    cases hDecision : obj.gateDecision? with
    | some gd =>
        have hSeverity :
            '|' ∉ (severityText (some gd)).toList :=
          (hApart.decided gd hDecision).1
        have hHash := (hApart.decided gd hDecision).2
        have hCount := congrArg (List.count '|') hLater
        rw [hRight, hRight', hDecision] at hCount
        simp only [List.count_append, List.count_cons_self,
          List.count_eq_zero.mpr
            (bar_not_mem_verdictText (some gd)),
          List.count_eq_zero.mpr hSeverity,
          List.count_eq_zero.mpr hHash] at hCount
        omega
    | none =>
        refine hApart.undecided hDecision
          ⟨String.ofList z, obj'.gateDecision?,
            obj'.evidenceHash?.getD "", ?_⟩
        rw [hRight, hRight', hDecision] at hLater
        apply String.toList_inj.mp
        simpa [verdictText, severityText] using hLater

/- With fields that keep apart, equal texts attest the same. -/
theorem sameAttested_of_canonicalText_eq
    {obj obj' : AkeylessImageValidation}
    (hApart : KeepsFieldsApart obj)
    (hText : canonicalText obj' = canonicalText obj) :
    SameAttested obj obj' := by
  rw [canonicalText_eq, canonicalText_eq, ← String.toList_inj,
    receiptText_toList, receiptText_toList] at hText
  rcases cut_of_receiptText_eq hApart rfl rfl rfl rfl hText
    with ⟨hNames, hRest⟩
  rcases Cuts.eq_of_count_le
    (by rw [List.count_eq_zero.mpr hApart.service]; simp)
    (by rw [List.count_eq_zero.mpr hApart.digest]; simp)
    hNames.symm with ⟨hService, hDigest⟩
  rcases Cuts.eq_of_not_mem (bar_not_mem_verdictText _)
    (bar_not_mem_verdictText _) hRest with
    ⟨hVerdictText, hRest⟩
  have hVerdict := map_verdict_eq
    (String.toList_inj.mp hVerdictText)
  have hBoth :
      severityText obj'.gateDecision? =
          severityText obj.gateDecision? ∧
        obj'.evidenceHash?.getD "" =
          obj.evidenceHash?.getD "" := by
    rw [← String.toList_inj, ← String.toList_inj]
    cases hDecision : obj.gateDecision? with
    | some gd =>
        have hSeverity :
            '|' ∉ (severityText (some gd)).toList :=
          (hApart.decided gd hDecision).1
        have hHash := (hApart.decided gd hDecision).2
        rw [hDecision] at hRest
        rcases Cuts.eq_of_count_le
          (by rw [List.count_eq_zero.mpr hSeverity]; simp)
          (by rw [List.count_eq_zero.mpr hHash]; simp)
          hRest.symm with ⟨hSame, hSame'⟩
        exact ⟨hSame.symm, hSame'.symm⟩
    | none =>
        rw [hDecision, Option.map_none,
          Option.map_eq_none_iff] at hVerdict
        rw [hDecision, hVerdict] at hRest
        rw [hVerdict]
        exact ⟨rfl, (List.cons.inj hRest).2⟩
  exact
    { service := String.toList_inj.mp hService.symm
      digest := String.toList_inj.mp hDigest.symm
      verdict := hVerdict
      severity := map_severity_eq hVerdict hBoth.1
      evidence := Str.eq_of_getD_eq hApart.evidence hBoth.2 }

end OutcomeChain

end EngenhoPromessa

------------------------------------------------------------
-- Texts That Are Read Another Way
------------------------------------------------------------

namespace EngenhoPromessa

namespace OutcomeChain

theorem exists_bar_of_mem
    {s : String}
    (hBar : '|' ∈ s.toList) :
    ∃ x y, s = x ++ "|" ++ y :=
  Str.exists_append_of_mem (by decide) hBar

theorem ne_append_bar (x y : String) : x ++ "|" ++ y ≠ x :=
  Str.append_append_ne (by decide) x y

/- Any fields are those of a validation. -/
theorem exists_attesting
    (obj : AkeylessImageValidation)
    (service digest : String)
    (decision : Option GateDecision)
    (hash : Option String) :
    ∃ obj' : AkeylessImageValidation,
      obj'.spec.service = service ∧
        obj'.spec.imageDigest = digest ∧
        obj'.gateDecision? = decision ∧
        obj'.evidenceHash? = hash :=
  ⟨{ obj with
      spec := { obj.spec with
        service := service
        imageDigest := digest }
      status := some { obj.statusOrDefault with
        gateDecision := decision
        evidenceBundleHash := hash } },
    rfl, rfl, rfl, rfl⟩

/- Fields with the text of a bound receipt are its fields. -/
theorem attested_of_receiptText_eq
    {obj : AkeylessImageValidation}
    (hBinds : BindsAttested obj)
    {service digest : String}
    {decision : Option GateDecision}
    {hash : Option String}
    (hText :
      receiptText service digest decision hash =
        receiptText obj.spec.service obj.spec.imageDigest
          obj.gateDecision? obj.evidenceHash?) :
    service = obj.spec.service ∧
      digest = obj.spec.imageDigest ∧
      decision.map GateDecision.severity =
        obj.gateDecision?.map GateDecision.severity ∧
      hash = obj.evidenceHash? := by
  rcases exists_attesting obj service digest decision hash with
    ⟨obj', rfl, rfl, rfl, rfl⟩
  have hSame := hBinds obj' (congrArg Str.asBytes hText)
  exact ⟨hSame.service, hSame.digest, hSame.severity,
    hSame.evidence⟩

/- Without bars in it, a bound receipt has its hash. -/
theorem keepsFieldsApart_of_bindsAttested
    {obj : AkeylessImageValidation}
    (hBinds : BindsAttested obj) :
    KeepsFieldsApart obj where
  service := by
    intro hBar
    rcases exists_bar_of_mem hBar with ⟨x, y, hService⟩
    -- What follows the bar can be read as the digest's.
    have hRead := attested_of_receiptText_eq hBinds
      (show receiptText x (y ++ "|" ++ obj.spec.imageDigest)
          obj.gateDecision? obj.evidenceHash? = _ by
        rw [hService]
        simp [receiptText, String.append_assoc])
    exact ne_append_bar x y
      (hService.symm.trans hRead.1.symm)
  digest := by
    intro hBar
    rcases exists_bar_of_mem hBar with ⟨x, y, hDigest⟩
    have hRead := attested_of_receiptText_eq hBinds
      (show receiptText (obj.spec.service ++ "|" ++ x) y
          obj.gateDecision? obj.evidenceHash? = _ by
        rw [hDigest]
        simp [receiptText, String.append_assoc])
    exact ne_append_bar _ _ hRead.1
  evidence := by
    intro hEmpty
    -- An absent hash and an empty one have the same text.
    have hNone := attested_of_receiptText_eq hBinds
      (show receiptText obj.spec.service obj.spec.imageDigest
          obj.gateDecision? none = _ by
        rw [receiptText, receiptText, hEmpty]
        rfl)
    have hSome := attested_of_receiptText_eq hBinds
      (show receiptText obj.spec.service obj.spec.imageDigest
          obj.gateDecision? (some "") = _ by
        rw [receiptText, receiptText, hEmpty]
        rfl)
    have hSame := hNone.2.2.2.trans hSome.2.2.2.symm
    simp at hSame
  decided := by
    intro gd hDecision
    constructor
    · intro hBar
      rcases exists_bar_of_mem hBar with ⟨x, y, hSeverity⟩
      have hRead := attested_of_receiptText_eq hBinds
        (show receiptText obj.spec.service
            obj.spec.imageDigest
            (some { gd with severity := x })
            (some (y ++ "|" ++ obj.evidenceHash?.getD "")) =
              _ by
          rw [hDecision]
          simp [receiptText, verdictText, severityText,
            hSeverity, String.append_assoc])
      rw [hDecision] at hRead
      have hSame : x = gd.severity :=
        Option.some.inj hRead.2.2.1
      exact ne_append_bar x y (hSeverity.symm.trans hSame.symm)
    · intro hBar
      rcases exists_bar_of_mem hBar with ⟨x, y, hHash⟩
      have hRead := attested_of_receiptText_eq hBinds
        (show receiptText obj.spec.service
            obj.spec.imageDigest
            (some { gd with
              severity := gd.severity ++ "|" ++ x })
            (some y) = _ by
          rw [hDecision]
          simp [receiptText, verdictText, severityText,
            hHash, String.append_assoc])
      rw [hDecision] at hRead
      exact ne_append_bar _ _ (Option.some.inj hRead.2.2.1)
  undecided := by
    rintro hNone ⟨before, decision, after, hShows⟩
    have hText :
        receiptText obj.spec.service
            (obj.spec.imageDigest ++ "|" ++ before) decision
            (some after) =
          receiptText obj.spec.service obj.spec.imageDigest
            obj.gateDecision? obj.evidenceHash? :=
      calc
        _ = obj.spec.service ++ "|" ++ obj.spec.imageDigest ++
              "|" ++ (before ++ "|" ++ verdictText decision ++
                "|" ++ severityText decision ++ "|" ++
                  after) := by
          simp [receiptText, String.append_assoc]
        _ = obj.spec.service ++ "|" ++ obj.spec.imageDigest ++
              "|" ++ ("||" ++ obj.evidenceHash?.getD "") := by
          rw [hShows]
        _ = _ := by
          rw [hNone, ← String.toList_inj]
          simp [receiptText, verdictText, severityText]
    have hRead := attested_of_receiptText_eq hBinds hText
    exact ne_append_bar _ _ hRead.2.1

/-
  A receipt binds what it attests exactly if its fields can
  be told apart in the text.
-/
theorem bindsAttested_iff (obj : AkeylessImageValidation) :
    BindsAttested obj ↔ KeepsFieldsApart obj := by
  constructor
  · exact keepsFieldsApart_of_bindsAttested
  · intro hApart obj' hBytes
    exact sameAttested_of_canonicalText_eq hApart
      (Str.asBytes_injective hBytes)

/- A validation that passed, of this service and digest. -/
def passedValidation
    (service digest : String) : AkeylessImageValidation where
  metadata := default
  spec :=
    { imageDigest := digest
      imageRepo := "ghcr.io/akeylesslabs/akeyless-auth"
      service := service
      promessaRef := "akeyless"
      pack := "akeyless-saas@1"
      keepFor := none }
  status := some
    { AkeylessImageValidationStatus.default with
      phase := some .passed
      evidenceBundleHash := some "d53d18c2"
      gateDecision := some
        { severity := "Cosmetic"
          verdict := .passed
          action := .str "Noop"
          reason := none
          decidedAt := ⟨0⟩ } }

/- A digest with a bar, read as the end of the service. -/
theorem not_bindsAttested_barred :
    ¬ BindsAttested
      (passedValidation "auth" "sha256:aa|sha256:bb") := by
  intro hBinds
  have hSame := hBinds
    (passedValidation "auth|sha256:aa" "sha256:bb")
    (by decide +kernel)
  exact absurd hSame.service (by decide)

end OutcomeChain

end EngenhoPromessa
