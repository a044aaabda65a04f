import EngenhoPromessa.ReconcilerEngine.Specs
import EngenhoPromessa.External.Crates

/-
  The reconciler engine: a table of handlers keyed by kind,
  and the dispatch of an apply action to its handler.

  A handler reads its typed spec from JSON before it acts.
  The effect of acting is left to a monad, so one engine
  serves every account of the outside world.

  Key definitions include:
    * `Reconciler`
    * `Reconciler.actErased`
    * `ReconcilerEngine.withDefaults`
    * `ReconcilerEngine.dispatch`
    * `ReconcilerEngine.Dispatchable`

  Key theorems include:
    * `ReconcilerEngine.dispatch_of_not_dispatchable`
-/

------------------------------------------------------------
-- Reconcilers
------------------------------------------------------------

namespace EngenhoPromessa

/- Message texts that crates outside the repository make. -/
class ErrorText where
  debugAction : TypedAction → String
  specError : ReconcilerKind → Json → String

namespace Reference

/- The texts of errors are of no consequence here. -/
instance errorText : ErrorText where
  debugAction _ := ""
  specError _ _ := ""

end Reference

/-
  A reconciler of one kind: the reader of its spec, and its
  action, whose receipt is already JSON.
-/
structure Reconciler (m : Type → Type) where
  kind : ReconcilerKind
  Spec : Type
  fromValue : Json → Option Spec
  act : Spec → m ErasedOutcome

namespace Reconciler

variable {m : Type → Type} [Monad m] [ErrorText]

/- A spec that cannot be read is an error of its own. -/
def actErased
    (r : Reconciler m)
    (spec : Json) : m ErasedOutcome :=
  match r.fromValue spec with
  | some typed => r.act typed
  | none =>
      pure (.failed (.invalidSpec
        ("deserialize spec for " ++ r.kind.debugName ++
          ": " ++ ErrorText.specError r.kind spec)))

end Reconciler

end EngenhoPromessa

------------------------------------------------------------
-- The Engine
------------------------------------------------------------

namespace EngenhoPromessa

/- The handler of each kind, if there is one. -/
structure ReconcilerEngine (m : Type → Type) where
  handlers : ReconcilerKind → Option (Reconciler m)

/- The actions of the default reconcilers. -/
structure DefaultActs (m : Type → Type) where
  cartorioAdmit : CartorioAdmitSpec → m ErasedOutcome
  ghcrTagRevoke : GhcrTagRevokeSpec → m ErasedOutcome
  harborMirror : HarborMirrorSpec → m ErasedOutcome

namespace ReconcilerEngine

variable {m : Type → Type}

/- An engine without handlers. -/
def builder : ReconcilerEngine m where
  handlers _ := none

/-
  A later handler of a kind takes the place of an earlier
  one.
-/
def register
    (engine : ReconcilerEngine m)
    (handler : Reconciler m) : ReconcilerEngine m where
  handlers kind :=
    if kind = handler.kind then
      some handler
    else
      engine.handlers kind

/- The handler of artifacts, with its act. -/
def cartorioAdmitReconciler
    (acts : DefaultActs m) : Reconciler m where
  kind := .cartorioAdmit
  Spec := CartorioAdmitSpec
  fromValue := CartorioAdmitSpec.fromValue
  act := acts.cartorioAdmit

/- The handler of tags, with its act. -/
def ghcrTagRevokeReconciler
    (acts : DefaultActs m) : Reconciler m where
  kind := .ghcrTagRevoke
  Spec := GhcrTagRevokeSpec
  fromValue := GhcrTagRevokeSpec.fromValue
  act := acts.ghcrTagRevoke

/- The handler of mirrors, with its act. -/
def harborMirrorReconciler
    (acts : DefaultActs m) : Reconciler m where
  kind := .harborMirror
  Spec := HarborMirrorSpec
  fromValue := HarborMirrorSpec.fromValue
  act := acts.harborMirror

/- The engine with the three handlers there are. -/
def withDefaults
    (acts : DefaultActs m) : ReconcilerEngine m :=
  ((builder.register (cartorioAdmitReconciler acts)).register
    (ghcrTagRevokeReconciler acts)).register
      (harborMirrorReconciler acts)

variable [Monad m] [ErrorText]

/- Only an apply of a kind with a handler is dispatched. -/
def dispatch
    (engine : ReconcilerEngine m)
    (action : TypedAction) : m ErasedOutcome :=
  match action with
  | .reconcilerApply reconciler spec =>
      match engine.handlers reconciler with
      | some handler => handler.actErased spec
      | none =>
          pure (.failed (.internal
            ("no handler registered for " ++
              reconciler.debugName)))
  | action =>
      pure (.failed (.internal
        ("ReconcilerEngine only dispatches " ++
          "ReconcilerApply, got " ++
          ErrorText.debugAction action)))

end ReconcilerEngine

end EngenhoPromessa

------------------------------------------------------------
-- What The Engine Can Dispatch
------------------------------------------------------------

namespace EngenhoPromessa

namespace ReconcilerEngine

variable {m : Type → Type}

/-
  A handler is registered for the kind and the spec reads
  as that handler's typed spec.
-/
def Dispatchable
    (engine : ReconcilerEngine m)
    (reconciler : ReconcilerKind)
    (spec : Json) : Prop :=
  ∃ handler, engine.handlers reconciler = some handler ∧
    (handler.fromValue spec).isSome

/-
  The default engine dispatches exactly three kinds, each
  under its own spec type.
-/
theorem dispatchable_withDefaults_iff
    (acts : DefaultActs m)
    (reconciler : ReconcilerKind)
    (spec : Json) :
    (withDefaults acts).Dispatchable reconciler spec ↔
      match reconciler with
      | .cartorioAdmit =>
          (CartorioAdmitSpec.fromValue spec).isSome
      | .ghcrTagRevoke =>
          (GhcrTagRevokeSpec.fromValue spec).isSome
      | .harborMirror =>
          (HarborMirrorSpec.fromValue spec).isSome
      | _ => False := by
  cases reconciler <;>
    simp [Dispatchable, withDefaults, register, builder,
      cartorioAdmitReconciler, ghcrTagRevokeReconciler,
      harborMirrorReconciler]

variable [Monad m] [ErrorText]

/- A dispatchable action reaches its handler. -/
theorem dispatch_of_dispatchable
    {engine : ReconcilerEngine m}
    {reconciler : ReconcilerKind}
    {spec : Json}
    (hDispatchable : engine.Dispatchable reconciler spec) :
    ∃ handler typed,
      engine.handlers reconciler = some handler ∧
      engine.dispatch (.reconcilerApply reconciler spec) =
        handler.act typed := by
  rcases hDispatchable with ⟨handler, hHandler, hSome⟩
  rcases Option.isSome_iff_exists.mp hSome with
    ⟨typed, hTyped⟩
  refine ⟨handler, typed, hHandler, ?_⟩
  simp only [dispatch, hHandler, Reconciler.actErased,
    hTyped]

/- Any other fails before a handler acts. -/
theorem dispatch_of_not_dispatchable
    {engine : ReconcilerEngine m}
    {reconciler : ReconcilerKind}
    {spec : Json}
    (hNot : ¬ engine.Dispatchable reconciler spec) :
    ∃ detail,
      engine.dispatch (.reconcilerApply reconciler spec) =
          pure (.failed (.invalidSpec detail)) ∨
        engine.dispatch (.reconcilerApply reconciler spec) =
          pure (.failed (.internal
            ("no handler registered for " ++
              reconciler.debugName))) := by
  cases hHandler : engine.handlers reconciler with
  | none =>
      refine ⟨"", Or.inr ?_⟩
      simp only [dispatch, hHandler]
  | some handler =>
      cases hSpec : handler.fromValue spec with
      | none =>
          refine ⟨"deserialize spec for " ++
            handler.kind.debugName ++ ": " ++
            ErrorText.specError handler.kind spec,
            Or.inl ?_⟩
          simp only [dispatch, hHandler,
            Reconciler.actErased, hSpec]
      | some typed =>
          have hDispatchable :
              engine.Dispatchable reconciler spec :=
            ⟨handler, hHandler, by rw [hSpec]; rfl⟩
          exact absurd hDispatchable hNot

end ReconcilerEngine

end EngenhoPromessa
