import EngenhoPromessa.Collections.FirstsBy
import EngenhoPromessa.Controllers.ActionDispatcher
import EngenhoPromessa.Effect.Run
import EngenhoPromessa.External.Reference

/-
  Runs of the action dispatcher over the events of its watch.

  A process starts with an empty set of keys and handles one
  event after another, so what it executes is read off the
  history of events: the first event of each key counts.

  Key definitions include:
    * `ActionDispatcher.WatchEvent`
    * `ActionDispatcher.Dispatcher`
    * `ActionDispatcher.delivered`

  Key theorems include:
    * `ActionDispatcher.run_eq_firsts`
    * `ActionDispatcher.dispatches_once`
-/

------------------------------------------------------------
-- Events And Runs
------------------------------------------------------------

namespace EngenhoPromessa

namespace ActionDispatcher

/- What the watcher yields; the last is an error item. -/
inductive WatchEvent where
  | apply (obj : AkeylessImageValidation)
  | delete (obj : AkeylessImageValidation)
  | init
  | initApply (obj : AkeylessImageValidation)
  | initDone
  | error

/- The dispatcher's set and the actions it has executed. -/
structure Dispatcher where
  dedupe : DedupeSet
  executed : List TypedAction

namespace Dispatcher

/- A dispatcher that has seen nothing. -/
def start : Dispatcher where
  dedupe := .empty
  executed := []

variable [Chrono] [PromessaSerde]

/-
  One delivered object: the deduplication set and the
  actions run so far.
-/
def handleObject
    (d : Dispatcher)
    (obj : AkeylessImageValidation) : Dispatcher :=
  let (dedupe, action) := handle d.dedupe obj
  { dedupe := dedupe
    executed := d.executed ++ action.toList }

/- One round of the loop over the watch stream. -/
def step (d : Dispatcher) : WatchEvent → Dispatcher
| .apply obj => d.handleObject obj
| .initApply obj => d.handleObject obj
| .delete _ => d
| .init => d
| .initDone => d
| .error => d

end Dispatcher

/- The uid and the gate decision an object carries. -/
def decisionOf
    (obj : AkeylessImageValidation) :
    Option (String × GateDecision) := do
  let uid ← obj.metadata.uid
  let status ← obj.status
  let gate ← status.gateDecision
  return (uid, gate)

/- What an event delivers to the dispatcher, if anything. -/
def delivered :
    WatchEvent → Option (String × GateDecision)
| .apply obj => decisionOf obj
| .initApply obj => decisionOf obj
| .delete _ => none
| .init => none
| .initDone => none
| .error => none

/- `(uid, gate_decision.decided_at)`. -/
def decisionKey
    (d : String × GateDecision) : String × DateTime :=
  (d.1, d.2.decidedAt)

/- The deliveries that come first for their key. -/
def firstDeliveries
    (events : List WatchEvent) :
    List (String × GateDecision) :=
  (events.filterMap delivered).firstsBy decisionKey

end ActionDispatcher

end EngenhoPromessa

------------------------------------------------------------
-- What A Round Does
------------------------------------------------------------

namespace EngenhoPromessa

namespace ActionDispatcher

variable [Chrono] [PromessaSerde]

/- The printed key tells two decisions apart. -/
def seenKey (k : String × DateTime) : DedupeKey :=
  (k.1, Chrono.toRfc3339 k.2)

omit [PromessaSerde] in
theorem seenKey_injective :
    Function.Injective seenKey := by
  rintro ⟨uid, t⟩ ⟨uid', t'⟩ hEq
  rcases Prod.mk.inj hEq with ⟨hUid, hTime⟩
  have hInstant := Chrono.toRfc3339_injective hTime
  rw [show uid = uid' from hUid,
    show t = t' from hInstant]

/- The dispatcher has seen these keys and no others. -/
def Seen (d : Dispatcher) (keys : List (String × DateTime)) :
    Prop :=
  d.dedupe.seen = keys.map seenKey

/-
  An object without a decision, or with one whose key was
  seen, changes nothing; any other is recorded and its action
  executed if it reads as one.
-/
theorem handleObject_eq
    {d : Dispatcher}
    {keys : List (String × DateTime)}
    (hSeen : Seen d keys)
    (obj : AkeylessImageValidation) :
    d.handleObject obj =
      match decisionOf obj with
      | none => d
      | some delivery =>
          if decisionKey delivery ∈ keys then
            d
          else
            { dedupe :=
                ⟨(keys ++ [decisionKey delivery]).map
                  seenKey⟩
              executed := d.executed ++
                (PromessaSerde.actionFromValue
                  delivery.2.action).toList } := by
  rcases d with ⟨⟨seen⟩, executed⟩
  obtain rfl : seen = keys.map seenKey := hSeen
  unfold Dispatcher.handleObject handle decisionOf
  cases hUid : obj.metadata.uid with
  | none => simp
  | some uid =>
      cases hStatus : obj.status with
      | none => simp
      | some status =>
          cases hGate : status.gateDecision with
          | none => simp [hGate]
          | some gate =>
              have hKey :
                  seenKey (decisionKey (uid, gate)) ∈
                      keys.map seenKey ↔
                    decisionKey (uid, gate) ∈ keys :=
                List.mem_map_of_injective seenKey_injective
              have hSame :
                  keyOf uid gate =
                    seenKey (decisionKey (uid, gate)) := rfl
              rw [← hSame] at hKey
              by_cases hMem : decisionKey (uid, gate) ∈ keys
              · simp [hGate, DedupeSet.record, hKey, hMem]
              · simp [hGate, DedupeSet.record, hKey, hMem]
                rfl

/- A step depends on the set of keys seen only. -/
theorem step_eq
    {d : Dispatcher}
    {keys : List (String × DateTime)}
    (hSeen : Seen d keys)
    (event : WatchEvent) :
    d.step event =
      match delivered event with
      | none => d
      | some delivery =>
          if decisionKey delivery ∈ keys then
            d
          else
            { dedupe :=
                ⟨(keys ++ [decisionKey delivery]).map
                  seenKey⟩
              executed := d.executed ++
                (PromessaSerde.actionFromValue
                  delivery.2.action).toList } := by
  cases event with
  | apply obj => exact handleObject_eq hSeen obj
  | initApply obj => exact handleObject_eq hSeen obj
  | delete obj => rfl
  | init => rfl
  | initDone => rfl
  | error => rfl

end ActionDispatcher

end EngenhoPromessa

------------------------------------------------------------
-- Each Decision Once
------------------------------------------------------------

namespace EngenhoPromessa

namespace ActionDispatcher

variable [Chrono] [PromessaSerde]

/- The actions of a list of deliveries, those that read. -/
def actionsOf
    (deliveries : List (String × GateDecision)) :
    List TypedAction :=
  deliveries.filterMap
    (fun d => PromessaSerde.actionFromValue d.2.action)

/-
  From any state, a run executes the first deliveries whose
  keys were not seen before it. The induction walks the
  events with the keys seen so far.
-/
theorem run_step_eq
    {d : Dispatcher}
    {keys : List (String × DateTime)}
    (hSeen : Seen d keys)
    (events : List WatchEvent) :
    Seen (Run.run Dispatcher.step d events)
        (keys ++ ((events.filterMap delivered).newFirstsBy
          decisionKey keys).map decisionKey) ∧
      (Run.run Dispatcher.step d events).executed =
        d.executed ++ actionsOf
          ((events.filterMap delivered).newFirstsBy
            decisionKey keys) := by
  induction events generalizing d keys with
  | nil => simpa [actionsOf] using hSeen
  | cons event events ih =>
      rw [Run.run_cons, step_eq hSeen event]
      cases hDelivered : delivered event with
      | none =>
          rw [List.filterMap_cons_none hDelivered]
          exact ih hSeen
      | some delivery =>
          rw [List.filterMap_cons_some hDelivered]
          dsimp only
          by_cases hOld : decisionKey delivery ∈ keys
          · rw [if_pos hOld,
              List.newFirstsBy_cons_of_mem hOld]
            exact ih hSeen
          · rw [if_neg hOld,
              List.newFirstsBy_cons_of_not_mem hOld]
            rcases ih (d :=
                { dedupe :=
                    ⟨(keys ++ [decisionKey delivery]).map
                      seenKey⟩
                  executed := d.executed ++
                    (PromessaSerde.actionFromValue
                      delivery.2.action).toList })
                rfl with ⟨hKeys, hExecuted⟩
            refine ⟨?_, ?_⟩
            · simpa using hKeys
            · rw [hExecuted, List.append_assoc]
              congr 1
              cases hAction :
                PromessaSerde.actionFromValue
                  delivery.2.action
              · simp [actionsOf, hAction]
              · simp [actionsOf, hAction]

/- The run of a process from its start. -/
theorem run_eq_firsts (events : List WatchEvent) :
    Seen (Run.run Dispatcher.step .start events)
        ((firstDeliveries events).map decisionKey) ∧
      (Run.run Dispatcher.step .start events).executed =
        actionsOf (firstDeliveries events) := by
  have hStart : Seen Dispatcher.start [] := rfl
  rcases run_step_eq hStart events with ⟨hKeys, hExecuted⟩
  rw [List.newFirstsBy_seen_nil] at hKeys hExecuted
  exact ⟨hKeys, hExecuted⟩

/-
  A process executes the action of the first delivery of each
  key, in order, and no key occurs twice among these; an
  event whose key was delivered before executes nothing.
-/
theorem dispatches_once (events : List WatchEvent) :
    (Run.run Dispatcher.step .start events).executed =
        (firstDeliveries events).filterMap (fun d =>
          PromessaSerde.actionFromValue d.2.action) ∧
      ((firstDeliveries events).map decisionKey).Nodup ∧
      ∀ event delivery,
        delivered event = some delivery →
        decisionKey delivery ∈
          (events.filterMap delivered).map decisionKey →
        (Run.run Dispatcher.step .start
            (events ++ [event])).executed =
          (Run.run Dispatcher.step .start
            events).executed := by
  rcases run_eq_firsts events with ⟨hSeen, hExecuted⟩
  refine ⟨hExecuted, List.nodup_map_firstsBy _ _, ?_⟩
  intro event delivery hDelivered hAgain
  have hOld :
      decisionKey delivery ∈
        (firstDeliveries events).map decisionKey := by
    rcases List.mem_map.mp hAgain with ⟨before, hMem, hEq⟩
    rw [← hEq]
    exact List.mem_map_firstsBy_of_mem decisionKey hMem
  rw [Run.run_append, Run.run_cons, Run.run_nil,
    step_eq hSeen, hDelivered]
  simp only [hOld, if_true]

end ActionDispatcher

end EngenhoPromessa
