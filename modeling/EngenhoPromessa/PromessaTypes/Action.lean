import EngenhoPromessa.Json.Codec
import Mathlib.Logic.Function.Basic
import Mathlib.Order.Lattice

/-
  The vocabulary shared by the decider and the executor:
  severities, decisions, typed actions and the outcomes of
  running them. Only the variants the code names are listed;
  a field it never names is part of an opaque payload.

  Key definitions include:
    * `Severity`
    * `TypedAction`
    * `TypedAction.Leaf`
    * `Decision`
    * `ReconcilerOutcome`
    * `PromessaSerde`
-/

------------------------------------------------------------
-- Decisions
------------------------------------------------------------

namespace EngenhoPromessa

/- How bad a drift is. -/
inductive Severity where
  | cosmetic
  | functional
  | critical
deriving DecidableEq, Repr

namespace Severity

/- Cosmetic below functional below critical. -/
instance : LinearOrder Severity :=
  LinearOrder.lift' Severity.ctorIdx
    (Function.LeftInverse.injective Severity.ofNat_ctorIdx)

/-
  A severity is at least another when it is critical
  whenever that is, and cosmetic only if that is.
-/
theorem le_of_imp
    {a b : Severity}
    (hCritical : a = .critical → b = .critical)
    (hCosmetic : b = .cosmetic → a = .cosmetic) :
    a ≤ b := by
  cases a with
  | cosmetic => cases b <;> decide
  | functional =>
      cases b with
      | cosmetic => exact absurd (hCosmetic rfl) (by simp)
      | functional => exact le_refl _
      | critical => decide
  | critical =>
      rw [hCritical rfl]

/- How `Debug` prints a severity. -/
def debugName : Severity → String
| .cosmetic => "Cosmetic"
| .functional => "Functional"
| .critical => "Critical"

end Severity

/- The kinds of reconcilers there are. -/
inductive ReconcilerKind where
  | cartorioAdmit
  | ghcrTagRevoke
  | harborMirror
  | cosignAttest
  | sbomGenerate
  | slsaProvenance
  | renovateBaseImageBump
deriving DecidableEq, Repr

namespace ReconcilerKind

/- How `Debug` prints a kind, and how it is stored. -/
def debugName : ReconcilerKind → String
| .cartorioAdmit => "CartorioAdmit"
| .ghcrTagRevoke => "GhcrTagRevoke"
| .harborMirror => "HarborMirror"
| .cosignAttest => "CosignAttest"
| .sbomGenerate => "SbomGenerate"
| .slsaProvenance => "SlsaProvenance"
| .renovateBaseImageBump => "RenovateBaseImageBump"

end ReconcilerKind

/- What can be done about a drift. -/
inductive TypedAction where
  | fluxCommit (path : String) (patch : Json)
  | reconcilerApply
      (reconciler : ReconcilerKind) (spec : Json)
  | magmaApply (payload : Json)
  | cofreRotate (payload : Json)
  | crachaPatch (payload : Json)
  | custom (kind : String) (payload : Json)
  | compose (steps : List TypedAction)
  | noop
deriving Repr, Inhabited

namespace TypedAction

/- Everything but a compose of steps. -/
def isLeaf : TypedAction → Bool
| .compose _ => false
| _ => true

/- Any action but a `Compose`. -/
abbrev Leaf := { action : TypedAction // action.isLeaf }

end TypedAction

/- What the controller decides about a drift. -/
inductive Decision where
  | noAction
  | autoCorrect (action : TypedAction)
  | requireApproval (action : TypedAction)
  | alert
  | suppressedAfterRepeatedFailure (failureCount : Nat)

end EngenhoPromessa

------------------------------------------------------------
-- Outcomes
------------------------------------------------------------

namespace EngenhoPromessa

/- Why a reconciler has failed. -/
inductive ReconcilerError where
  | invalidSpec (detail : String)
  | internal (detail : String)
  | transient (detail : String)
  | substrateRefused (detail : String)
deriving DecidableEq, Repr

/- What has come of an action, with a receipt if it was done. -/
inductive ReconcilerOutcome (R : Type) where
  | applied (receipt : R)
  | alreadyConverged
  | flagGated (flag : String)
  | failed (error : ReconcilerError)
deriving Repr

namespace ReconcilerOutcome

variable {R : Type}

/- Everything but a failure is a terminal success. -/
def isTerminalSuccess : ReconcilerOutcome R → Bool
| .applied _ => true
| .alreadyConverged => true
| .flagGated _ => true
| .failed _ => false

/- Another receipt in the same outcome. -/
def mapReceipt
    {S : Type}
    (f : R → S) :
    ReconcilerOutcome R → ReconcilerOutcome S
| .applied receipt => .applied (f receipt)
| .alreadyConverged => .alreadyConverged
| .flagGated flag => .flagGated flag
| .failed error => .failed error

end ReconcilerOutcome

/- An outcome whose receipt is already JSON. -/
abbrev ErasedOutcome := ReconcilerOutcome Json

end EngenhoPromessa

------------------------------------------------------------
-- Serialization
------------------------------------------------------------

namespace EngenhoPromessa

/-
  The JSON form of actions and outcomes. Serialization may
  fail, which is `none`; a serialized action is an object
  with members or at least not null, as the CRD schema pins
  `gateDecision.action` to an object.
-/
class PromessaSerde where
  actionToValue : TypedAction → Option Json
  actionFromValue : Json → Option TypedAction
  outcomeToValue : ErasedOutcome → Json
  actionToValue_ne_null :
    ∀ {a j}, actionToValue a = some j → j ≠ .null

end EngenhoPromessa
