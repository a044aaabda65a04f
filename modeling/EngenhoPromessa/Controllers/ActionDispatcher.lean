import EngenhoPromessa.PromessaTypes.Action
import EngenhoPromessa.Crds.ImageValidationSerde

/-
  The action dispatcher: it turns watch events into actions
  to execute, each gate decision once per process.

  Key definitions include:
    * `ActionDispatcher.DedupeSet`
    * `ActionDispatcher.handle`

  Key theorems include:
    * `ActionDispatcher.handle_eq_or`
-/

------------------------------------------------------------
-- Deduplication
------------------------------------------------------------

namespace EngenhoPromessa

namespace ActionDispatcher

/- `(uid, decided_at_rfc3339)`. -/
abbrev DedupeKey := String × String

/- The keys already dispatched, newest last. -/
structure DedupeSet where
  seen : List DedupeKey
deriving DecidableEq, Repr

namespace DedupeSet

/- The set a dispatcher starts with. -/
def empty : DedupeSet := ⟨[]⟩

/- Whether the key is new, and the set with it recorded. -/
def record
    (d : DedupeSet)
    (key : DedupeKey) : Bool × DedupeSet :=
  if key ∈ d.seen then
    (false, d)
  else
    (true, ⟨d.seen ++ [key]⟩)

end DedupeSet

end ActionDispatcher

end EngenhoPromessa

------------------------------------------------------------
-- Events
------------------------------------------------------------

namespace EngenhoPromessa

namespace ActionDispatcher

variable [Chrono] [PromessaSerde]

/- A decision is known by its object's uid and its time. -/
def keyOf
    (uid : String)
    (gate : GateDecision) : DedupeKey :=
  (uid, Chrono.toRfc3339 gate.decidedAt)

/-
  The action an event leads to, if any. The key is recorded
  before the action is read.
-/
def handle
    (dedupe : DedupeSet)
    (obj : AkeylessImageValidation) :
    DedupeSet × Option TypedAction :=
  match obj.metadata.uid with
  | none => (dedupe, none)
  | some uid =>
      match obj.status with
      | none => (dedupe, none)
      | some status =>
          match status.gateDecision with
          | none => (dedupe, none)
          | some gate =>
              let (isNew, dedupe') :=
                dedupe.record (keyOf uid gate)
              if !isNew then
                (dedupe', none)
              else
                (dedupe',
                  PromessaSerde.actionFromValue gate.action)

/- An event changes nothing, or records a key of its own. -/
theorem handle_eq_or
    (dedupe : DedupeSet)
    (obj : AkeylessImageValidation) :
    handle dedupe obj = (dedupe, none) ∨
      ∃ uid gate,
        obj.status.bind
            AkeylessImageValidationStatus.gateDecision =
          some gate ∧
        keyOf uid gate ∉ dedupe.seen ∧
        handle dedupe obj =
          (⟨dedupe.seen ++ [keyOf uid gate]⟩,
            PromessaSerde.actionFromValue gate.action) ∧
        obj.metadata.uid = some uid := by
  unfold handle
  cases hUid : obj.metadata.uid with
  | none => exact Or.inl rfl
  | some uid =>
      cases hStatus : obj.status with
      | none => exact Or.inl rfl
      | some status =>
          cases hGate : status.gateDecision with
          | none => simp [hGate]
          | some gate =>
              by_cases hSeen : keyOf uid gate ∈ dedupe.seen
              · left
                simp [hGate, DedupeSet.record, hSeen]
              · right
                refine ⟨uid, gate, hGate, hSeen, ?_, rfl⟩
                simp [hGate, DedupeSet.record, hSeen]

end ActionDispatcher

end EngenhoPromessa
