import EngenhoPromessa.Effect.Retried
import EngenhoPromessa.ReconcilerEngine.HarborGuard
import EngenhoPromessa.ReconcilerEngine.HttpActs

/-
  An action that is executed again and again against servers
  behind a network that fails.

  A request may not reach its server, or its answer may be
  lost after it took effect. The executor stops at the first
  step that fails, and the next execution starts from the
  first step, so what was done comes first again.

  Key definitions include:
    * `Servers`
    * `Network`
    * `Servers.substrate`
    * `Servers.Conform`
    * `Servers.effect`

  Key theorems include:
    * `Servers.attempts_executeSteps`
    * `Servers.applied_of_executions`
-/

------------------------------------------------------------
-- Servers Behind A Network
------------------------------------------------------------

namespace EngenhoPromessa

/- A server: its answer to a request, and its next state. -/
abbrev HttpServer (S : Type) :=
  HttpRequest → S → HttpResponse × S

/- What becomes of a request on its way. -/
inductive NetFault where
  | none
  | refused (e : SendError)
  | lost (e : SendError)
deriving DecidableEq, Repr

/-
  The states of the two servers and of all else, with the
  faults that the next requests meet.
-/
structure Network (R L ρ : Type) where
  registry : R
  ledger : L
  rest : ρ
  faults : List NetFault

namespace Network

variable {R L ρ : Type}

/- Send a request to the server of a part of the state. -/
def send
    {S : Type}
    (get : Network R L ρ → S)
    (set : Network R L ρ → S → Network R L ρ)
    (server : HttpServer S) :
    HttpClient (StateM (Network R L ρ)) :=
  fun request net =>
    let sent := { net with faults := net.faults.tail }
    let served := server request (get net)
    match net.faults.head?.getD .none with
    | .none => (.ok served.1, set sent served.2)
    | .refused e => (.error e, sent)
    | .lost e => (.error e, set sent served.2)

/- What a computation on all else does to the network. -/
def aside
    {α : Type}
    (x : StateM ρ α) : StateM (Network R L ρ) α :=
  fun net =>
    let (a, rest) := x.run net.rest
    (a, { net with rest := rest })

/- The states of the two servers. -/
def view (net : Network R L ρ) : R × L :=
  (net.registry, net.ledger)

@[simp] theorem view_aside
    {α : Type}
    (x : StateM ρ α)
    (net : Network R L ρ) :
    view ((aside x).run net).2 = view net := rfl

end Network

/- The servers, and where the ledger's is looked for. -/
structure Servers (R L : Type) where
  registry : HttpServer R
  ledger : HttpServer L
  cartorioBaseUrl : String

namespace Servers

variable {R L ρ : Type} [HttpText]

/- Admissions over the network, to the ledger. -/
def cartorioAdmit
    (servers : Servers R L) :
    CartorioAdmitReconciler (StateM (Network R L ρ)) where
  baseUrl := servers.cartorioBaseUrl
  http := Network.send Network.ledger
    (fun net ledger => { net with ledger := ledger })
    servers.ledger

/- Revocations over the network, to the registry. -/
def ghcrTagRevoke
    (servers : Servers R L)
    (config : EngineConfig) :
    GhcrTagRevokeReconciler (StateM (Network R L ρ)) where
  baseUrl := config.zotBaseUrl
  auth := config.zotBasicAuth
  http := Network.send Network.registry
    (fun net registry => { net with registry := registry })
    servers.registry

/- All that the executor reaches, the other systems given. -/
def substrate
    (servers : Servers R L)
    (config : EngineConfig)
    (others : Substrate ρ) : Substrate (Network R L ρ) where
  runner request := Network.aside (others.runner request)
  now := Network.aside others.now
  cartorioAdmit spec := do
    let outcome ← servers.cartorioAdmit.act spec
    return outcome.mapReceipt CartorioAdmitReceipt.toValue
  ghcrTagRevoke spec := do
    let outcome ← (servers.ghcrTagRevoke config).act spec
    return outcome.mapReceipt GhcrTagRevokeReceipt.toValue
  fluxCommit :=
    others.fluxCommit.map
      (fun act spec => Network.aside (act spec))

variable [Chrono]

/- The executor that reaches the servers. -/
def executor
    (servers : Servers R L)
    (config : EngineConfig)
    (others : Substrate ρ) :
    ActionExecutor (StateM (Host (Network R L ρ))) :=
  (servers.substrate config others).executor config

/- The states of the two servers, seen from the executor. -/
def view (h : Host (Network R L ρ)) : R × L :=
  h.rest.view

end Servers

end EngenhoPromessa

------------------------------------------------------------
-- What The Requests Do
------------------------------------------------------------

namespace EngenhoPromessa

/-
  What requests are for: to have the manifest at a URL
  deleted, and a transition made at the ledger.
-/
structure Requested (R L : Type) where
  deleted : String → R → R
  posted : String → Json → L → L

/-
  The servers do what they are asked for or nothing, do it if
  they answer with success, and tell when it is done already:
  the manifest is not found, the transition is in conflict.
-/
structure Servers.Conform
    {R L : Type}
    (servers : Servers R L)
    (requested : Requested R L) : Prop where
  delete_or_not : ∀ request r, request.method = .delete →
    (servers.registry request r).2 = r ∨
      (servers.registry request r).2 =
        requested.deleted request.url r
  delete_success : ∀ request r, request.method = .delete →
    (servers.registry request r).1.isSuccess = true →
      (servers.registry request r).2 =
        requested.deleted request.url r
  delete_missing : ∀ request r, request.method = .delete →
    (servers.registry request r).1.status = 404 →
      (servers.registry request r).2 = r ∧
        requested.deleted request.url r = r
  post_or_not : ∀ request body l, request.method = .post →
    request.body = some body →
      (servers.ledger request l).2 = l ∨
        (servers.ledger request l).2 =
          requested.posted request.url body l
  post_success : ∀ request body l, request.method = .post →
    request.body = some body →
      (servers.ledger request l).1.isSuccess = true →
        (servers.ledger request l).2 =
          requested.posted request.url body l
  post_conflict : ∀ request body l, request.method = .post →
    request.body = some body →
      (servers.ledger request l).1.status = 409 →
        (servers.ledger request l).2 = l ∧
          requested.posted request.url body l = l

namespace Servers

variable {R L ρ : Type}

/- What an action asks of the two servers. -/
def effect
    (servers : Servers R L)
    (config : EngineConfig)
    (requested : Requested R L)
    (action : TypedAction)
    (v : R × L) : R × L :=
  match action with
  | .reconcilerApply .ghcrTagRevoke spec =>
      match GhcrTagRevokeSpec.fromValue spec with
      | some spec =>
          (requested.deleted (spec.url config.zotBaseUrl) v.1,
            v.2)
      | none => v
  | .reconcilerApply .cartorioAdmit spec =>
      match CartorioAdmitSpec.fromValue spec with
      | some spec =>
          (v.1, requested.posted
            (spec.url servers.cartorioBaseUrl)
            spec.transition.body v.2)
      | none => v
  | _ => v

/- One request, whatever becomes of it on its way. -/
theorem send_cases
    {S : Type}
    (get : Network R L ρ → S)
    (set : Network R L ρ → S → Network R L ρ)
    (server : HttpServer S)
    (request : HttpRequest)
    (net : Network R L ρ) :
    let sent := { net with faults := net.faults.tail }
    let served := server request (get net)
    let result :=
      (Network.send get set server request).run net
    (∃ e, result = (.error e, sent)) ∨
      (∃ e, result = (.error e, set sent served.2)) ∨
      result = (.ok served.1, set sent served.2) := by
  intro sent served result
  have hResult :
      result =
        match net.faults.head?.getD .none with
        | .none => (.ok served.1, set sent served.2)
        | .refused e => (.error e, sent)
        | .lost e => (.error e, set sent served.2) := rfl
  cases hFault : net.faults.head?.getD .none with
  | none =>
      rw [hFault] at hResult
      exact .inr (.inr hResult)
  | refused e =>
      rw [hFault] at hResult
      exact .inl ⟨e, hResult⟩
  | lost e =>
      rw [hFault] at hResult
      exact .inr (.inl ⟨e, hResult⟩)

/- What an act does, if at all, and surely if it succeeds. -/
def ActsAs
    (x : StateM (Network R L ρ) ErasedOutcome)
    (change : R × L → R × L) : Prop :=
  ∀ net,
    ((x.run net).2.view = net.view ∨
      (x.run net).2.view = change net.view) ∧
    ((x.run net).1.isTerminalSuccess = true →
      (x.run net).2.view = change net.view)

/-
  An act that is one request: it fails without a response,
  and one that counts as success means that it is done.
-/
theorem actsAs_send
    {S : Type}
    {get : Network R L ρ → S}
    {set : Network R L ρ → S → Network R L ρ}
    {server : HttpServer S}
    {request : HttpRequest}
    {answer : Except SendError HttpResponse → ErasedOutcome}
    {change : R × L → R × L}
    (hError : ∀ e,
      (answer (.error e)).isTerminalSuccess = false)
    (hServed : ∀ net : Network R L ρ,
      let served := server request (get net)
      let after := (set { net with
        faults := net.faults.tail } served.2).view
      (after = net.view ∨ after = change net.view) ∧
        ((answer (.ok served.1)).isTerminalSuccess = true →
          after = change net.view)) :
    ActsAs
      (do let response ←
            Network.send get set server request
          return answer response)
      change := by
  intro net
  have hRun :
      (do let response ←
            Network.send get set server request
          return answer response : StateM _ _).run net =
        let result :=
          (Network.send get set server request).run net
        (answer result.1, result.2) := rfl
  rw [hRun]
  rcases hServed net with ⟨hEffect, hSuccess⟩
  rcases send_cases get set server request net with
    ⟨e, hResult⟩ | ⟨e, hResult⟩ | hResult
  · rw [hResult]
    refine ⟨.inl rfl, fun h => ?_⟩
    rw [hError e] at h
    cases h
  · rw [hResult]
    refine ⟨hEffect, fun h => ?_⟩
    rw [hError e] at h
    cases h
  · rw [hResult]
    exact ⟨hEffect, hSuccess⟩

/- Another receipt does not change whether it is done. -/
theorem isTerminalSuccess_mapReceipt
    {A B : Type}
    (f : A → B)
    (outcome : ReconcilerOutcome A) :
    (outcome.mapReceipt f).isTerminalSuccess =
      outcome.isTerminalSuccess := by
  cases outcome with
  | applied receipt => rfl
  | alreadyConverged => rfl
  | flagGated flag => rfl
  | failed error => rfl

/- An error while sending never counts as done. -/
theorem isTerminalSuccess_outcome
    {A : Type}
    (call : String)
    (e : SendError) :
    (e.outcome call : ReconcilerOutcome A).isTerminalSuccess =
      false := by
  cases e with
  | timeout text => rfl
  | connect text => rfl
  | other text => rfl

variable [HttpText]

/- A revocation deletes its manifest, or does nothing. -/
theorem actsAs_ghcrTagRevoke
    {servers : Servers R L}
    {requested : Requested R L}
    (hConform : servers.Conform requested)
    (config : EngineConfig)
    (others : Substrate ρ)
    (spec : GhcrTagRevokeSpec) :
    ActsAs ((servers.substrate config others).ghcrTagRevoke
        spec)
      (fun v =>
        (requested.deleted (spec.url config.zotBaseUrl) v.1,
          v.2)) := by
  let self : GhcrTagRevokeReconciler
      (StateM (Network R L ρ)) :=
    servers.ghcrTagRevoke config
  let answer (response : Except SendError HttpResponse) :
      ErasedOutcome :=
    (outcomeOfSent (self.call spec) (self.outcomeOf spec)
      response).mapReceipt GhcrTagRevokeReceipt.toValue
  have hAct :
      (servers.substrate config others).ghcrTagRevoke spec =
        (do let response ←
              Network.send Network.registry
                (fun net registry =>
                  { net with registry := registry })
                servers.registry (self.request spec)
            return answer response) := by
    simp only [substrate, GhcrTagRevokeReconciler.act,
      bind_assoc]
    rfl
  rw [hAct]
  refine actsAs_send (fun e => ?_) (fun net => ⟨?_, ?_⟩)
  · rw [isTerminalSuccess_mapReceipt]
    exact isTerminalSuccess_outcome _ e
  · rcases hConform.delete_or_not (self.request spec)
      net.registry rfl with hSame | hDeleted
    · exact .inl (congrArg (·, net.ledger) hSame)
    · exact .inr (congrArg (·, net.ledger) hDeleted)
  · intro hSuccess
    rw [isTerminalSuccess_mapReceipt, outcomeOfSent,
      GhcrTagRevokeReconciler.isTerminalSuccess_outcomeOf]
      at hSuccess
    rcases hSuccess with hDeleted | hMissing
    · exact congrArg (·, net.ledger)
        (hConform.delete_success (self.request spec)
          net.registry rfl hDeleted)
    · rcases hConform.delete_missing (self.request spec)
        net.registry rfl hMissing with ⟨hSame, hGone⟩
      exact congrArg (·, net.ledger)
        (hSame.trans hGone.symm)

/- An admission makes its transition, or does nothing. -/
theorem actsAs_cartorioAdmit
    {servers : Servers R L}
    {requested : Requested R L}
    (hConform : servers.Conform requested)
    (config : EngineConfig)
    (others : Substrate ρ)
    (spec : CartorioAdmitSpec) :
    ActsAs ((servers.substrate config others).cartorioAdmit
        spec)
      (fun v =>
        (v.1, requested.posted
          (spec.url servers.cartorioBaseUrl)
          spec.transition.body v.2)) := by
  let self : CartorioAdmitReconciler
      (StateM (Network R L ρ)) :=
    servers.cartorioAdmit
  let answer (response : Except SendError HttpResponse) :
      ErasedOutcome :=
    (outcomeOfSent (self.call spec) (self.outcomeOf spec)
      response).mapReceipt CartorioAdmitReceipt.toValue
  have hAct :
      (servers.substrate config others).cartorioAdmit spec =
        (do let response ←
              Network.send Network.ledger
                (fun net ledger =>
                  { net with ledger := ledger })
                servers.ledger (self.request spec)
            return answer response) := by
    simp only [substrate, CartorioAdmitReconciler.act,
      bind_assoc]
    rfl
  rw [hAct]
  refine actsAs_send (fun e => ?_) (fun net => ⟨?_, ?_⟩)
  · rw [isTerminalSuccess_mapReceipt]
    exact isTerminalSuccess_outcome _ e
  · rcases hConform.post_or_not (self.request spec) _
      net.ledger rfl rfl with hSame | hPosted
    · exact .inl (congrArg (net.registry, ·) hSame)
    · exact .inr (congrArg (net.registry, ·) hPosted)
  · intro hSuccess
    rw [isTerminalSuccess_mapReceipt, outcomeOfSent,
      CartorioAdmitReconciler.isTerminalSuccess_outcomeOf]
      at hSuccess
    rcases hSuccess with hConflict | hPosted
    · rcases hConform.post_conflict (self.request spec) _
        net.ledger rfl rfl hConflict with ⟨hSame, hDone⟩
      exact congrArg (net.registry, ·)
        (hSame.trans hDone.symm)
    · exact congrArg (net.registry, ·)
        (hConform.post_success (self.request spec) _
          net.ledger rfl rfl hPosted)

end Servers

end EngenhoPromessa

------------------------------------------------------------
-- One Leaf
------------------------------------------------------------

namespace EngenhoPromessa

namespace Servers

variable {R L ρ : Type}

/- A computation that leaves both servers alone. -/
def LeavesAlone
    {α : Type}
    (x : StateM (Host (Network R L ρ)) α) : Prop :=
  ∀ h, view (x.run h).2 = view h

theorem leavesAlone_pure
    {α : Type}
    (a : α) :
    LeavesAlone
      (pure a : StateM (Host (Network R L ρ)) α) :=
  fun _ => rfl

/- Two parts that leave them alone do so together. -/
theorem leavesAlone_bind
    {α β : Type}
    {x : StateM (Host (Network R L ρ)) α}
    {f : α → StateM (Host (Network R L ρ)) β}
    (hx : LeavesAlone x)
    (hf : ∀ a, LeavesAlone (f a)) :
    LeavesAlone (x >>= f) := by
  intro h
  rw [StateT.run_bind]
  exact (hf _ _).trans (hx h)

/- The same for the executor, which logs its copies. -/
def LeafActsAs
    (x : StateM (Host (Network R L ρ)) ErasedOutcome)
    (change : R × L → R × L) : Prop :=
  ∀ h,
    (view (x.run h).2 = view h ∨
      view (x.run h).2 = change (view h)) ∧
    ((x.run h).1.isTerminalSuccess = true →
      view (x.run h).2 = change (view h))

theorem leafActsAs_of_leavesAlone
    {x : StateM (Host (Network R L ρ)) ErasedOutcome}
    (hAlone : LeavesAlone x) :
    LeafActsAs x id :=
  fun h => ⟨.inl (hAlone h), fun _ => hAlone h⟩

theorem leafActsAs_aside
    {x : StateM (Network R L ρ) ErasedOutcome}
    {change : R × L → R × L}
    (hActs : ActsAs x change) :
    LeafActsAs (Host.aside x) change :=
  fun h => hActs h.rest

variable [HttpText]

/- Copies between registries do not go to either server. -/
theorem leavesAlone_harborMirror
    [Chrono]
    (servers : Servers R L)
    (config : EngineConfig)
    (others : Substrate ρ)
    (spec : HarborMirrorSpec) :
    LeavesAlone
      (((servers.substrate config others).acts
        config).harborMirror spec) := by
  refine leavesAlone_bind ?_ (fun _ => leavesAlone_pure _)
  unfold HarborMirrorReconciler.act
  split
  · exact leavesAlone_pure _
  · refine leavesAlone_bind (fun h => rfl) (fun copied => ?_)
    cases copied with
    | error e => exact leavesAlone_pure _
    | ok outcome =>
        dsimp only
        split
        · exact leavesAlone_pure _
        · exact leavesAlone_bind (fun h => rfl)
            (fun _ => leavesAlone_pure _)

variable [Chrono] [ErrorText]

/- Each kind of reconciler acts as its requests say. -/
theorem leafActsAs_dispatch
    {servers : Servers R L}
    {requested : Requested R L}
    (hConform : servers.Conform requested)
    (config : EngineConfig)
    (others : Substrate ρ)
    (reconciler : ReconcilerKind)
    (spec : Json) :
    LeafActsAs
      ((servers.executor config others).engine.dispatch
        (.reconcilerApply reconciler spec))
      (servers.effect config requested
        (.reconcilerApply reconciler spec)) := by
  have hPure :
      ∀ outcome : ErasedOutcome,
        LeafActsAs (R := R) (L := L) (pure outcome :
          StateM (Host (Network R L ρ)) ErasedOutcome) id :=
    fun outcome =>
      leafActsAs_of_leavesAlone (leavesAlone_pure outcome)
  let acts := (servers.substrate config others).acts config
  cases reconciler with
  | cartorioAdmit =>
      change LeafActsAs
        ((ReconcilerEngine.cartorioAdmitReconciler
          acts).actErased spec) _
      unfold effect Reconciler.actErased
      dsimp only [ReconcilerEngine.cartorioAdmitReconciler]
      cases CartorioAdmitSpec.fromValue spec with
      | none => exact hPure _
      | some typed =>
          exact leafActsAs_aside
            (actsAs_cartorioAdmit hConform config others
              typed)
  | ghcrTagRevoke =>
      change LeafActsAs
        ((ReconcilerEngine.ghcrTagRevokeReconciler
          acts).actErased spec) _
      unfold effect Reconciler.actErased
      dsimp only [ReconcilerEngine.ghcrTagRevokeReconciler]
      cases GhcrTagRevokeSpec.fromValue spec with
      | none => exact hPure _
      | some typed =>
          exact leafActsAs_aside
            (actsAs_ghcrTagRevoke hConform config others
              typed)
  | harborMirror =>
      change LeafActsAs
        ((ReconcilerEngine.harborMirrorReconciler
          acts).actErased spec) id
      unfold Reconciler.actErased
      dsimp only [ReconcilerEngine.harborMirrorReconciler]
      cases HarborMirrorSpec.fromValue spec with
      | none => exact hPure _
      | some typed =>
          exact leafActsAs_of_leavesAlone
            (leavesAlone_harborMirror servers config others
              typed)
  | cosignAttest => exact hPure _
  | sbomGenerate => exact hPure _
  | slsaProvenance => exact hPure _
  | renovateBaseImageBump => exact hPure _

/- Each leaf has its effect, or none if it failed. -/
theorem leafActsAs_executeLeaf
    {servers : Servers R L}
    {requested : Requested R L}
    (hConform : servers.Conform requested)
    (config : EngineConfig)
    (others : Substrate ρ)
    (env : Env)
    (leaf : TypedAction.Leaf) :
    LeafActsAs
      ((servers.executor config others).executeLeaf env leaf)
      (servers.effect config requested leaf) := by
  have hPure :
      ∀ outcome : ErasedOutcome,
        LeafActsAs (R := R) (L := L) (pure outcome :
          StateM (Host (Network R L ρ)) ErasedOutcome) id :=
    fun outcome =>
      leafActsAs_of_leavesAlone (leavesAlone_pure outcome)
  rcases leaf with ⟨action, hLeaf⟩
  cases action with
  | compose steps => simp [TypedAction.isLeaf] at hLeaf
  | noop => exact hPure _
  | magmaApply payload => exact hPure _
  | cofreRotate payload => exact hPure _
  | crachaPatch payload => exact hPure _
  | custom kind payload => exact hPure _
  | fluxCommit path patch =>
      refine leafActsAs_of_leavesAlone (fun h => ?_)
      unfold ActionExecutor.executeLeaf executor
        Substrate.executor substrate
      cases others.fluxCommit with
      | none => rfl
      | some act => rfl
  | reconcilerApply reconciler spec =>
      exact leafActsAs_dispatch hConform config others
        reconciler spec

end Servers

end EngenhoPromessa

------------------------------------------------------------
-- Executions
------------------------------------------------------------

namespace EngenhoPromessa

namespace ActionExecutor

/- A leaf is executed as it is. -/
theorem executeWith_eq_executeLeaf
    {m : Type → Type}
    [Monad m]
    [PromessaSerde]
    (run : List Nat → TypedAction.Leaf → m ErasedOutcome)
    (pos : List Nat)
    {action : TypedAction}
    (hLeaf : action.isLeaf = true) :
    executeWith run pos action = run pos ⟨action, hLeaf⟩ := by
  cases action with
  | compose steps => simp [TypedAction.isLeaf] at hLeaf
  | _ => rw [executeWith]

end ActionExecutor

namespace Servers

open Retried ActionExecutor

variable {R L ρ : Type} [PromessaSerde]

/- The steps of an execution are one attempt at them. -/
theorem attempts_executeSteps
    {run :
      List Nat → TypedAction.Leaf →
        StateM (Host (Network R L ρ)) ErasedOutcome}
    {effect : TypedAction → R × L → R × L}
    (hRun : ∀ pos leaf, LeafActsAs (run pos leaf)
      (effect leaf))
    (pos : List Nat)
    (i : Nat)
    {steps : List TypedAction}
    (hLeaves : ∀ step ∈ steps, step.isLeaf = true)
    (h : Host (Network R L ρ)) :
    let result := (executeSteps run pos i steps).run h
    Attempts effect steps (view h) (view result.2)
      (result.1.all ReconcilerOutcome.isTerminalSuccess) := by
  induction steps generalizing i h with
  | nil => exact .finished _
  | cons step steps ih =>
      rcases List.forall_mem_cons.mp hLeaves with
        ⟨hLeaf, hRest⟩
      have hActs := hRun (pos ++ [i]) ⟨step, hLeaf⟩ h
      rcases hOutcome :
          (run (pos ++ [i]) ⟨step, hLeaf⟩).run h with
        ⟨outcome, h₁⟩
      rw [hOutcome] at hActs
      have hStep :
          (executeWith run (pos ++ [i]) step).run h =
            (outcome, h₁) := by
        rw [executeWith_eq_executeLeaf run _ hLeaf]
        exact hOutcome
      intro result
      have hResult :
          result =
            (if outcome.isTerminalSuccess then
              (do let receipts ←
                    executeSteps run pos (i + 1) steps
                  return outcome :: receipts)
            else
              return [outcome]).run h₁ := by
        simp only [result]
        rw [executeSteps]
        exact run_bind_of_run hStep _
      rw [hResult]
      cases hSuccess : outcome.isTerminalSuccess with
      | false =>
          have hNot :
              [outcome].all
                  ReconcilerOutcome.isTerminalSuccess =
                false := by
            simp [hSuccess]
          simp only [Bool.false_eq_true, if_false]
          rw [show (pure [outcome] : StateM (Host
            (Network R L ρ)) _).run h₁ = ([outcome], h₁)
              from rfl, hNot]
          exact .failed hActs.1
      | true =>
          have hAfter := ih (i + 1) hRest h₁
          rw [hActs.2 hSuccess] at hAfter
          rcases hMore :
              (executeSteps run pos (i + 1) steps).run h₁ with
            ⟨outcomes, h₂⟩
          rw [hMore] at hAfter
          simp only [if_true]
          rw [run_bind_of_run hMore]
          have hAll :
              (outcome :: outcomes).all
                  ReconcilerOutcome.isTerminalSuccess =
                outcomes.all
                  ReconcilerOutcome.isTerminalSuccess := by
            simp [hSuccess]
          rw [show (pure (outcome :: outcomes) : StateM
            (Host (Network R L ρ)) _).run h₂ =
              (outcome :: outcomes, h₂) from rfl, hAll]
          exact .succeeded hAfter

variable [HttpText] [Chrono] [ErrorText]

/- The leaves, as the executor runs them. -/
def leafRun
    (servers : Servers R L)
    (config : EngineConfig)
    (others : Substrate ρ)
    (env : Env)
    (_ : List Nat)
    (leaf : TypedAction.Leaf) :
    StateM (Host (Network R L ρ)) ErasedOutcome :=
  (servers.executor config others).executeLeaf env leaf

/- The world, and the faults that its next requests meet. -/
def meeting
    (h : Host (Network R L ρ))
    (faults : List NetFault) : Host (Network R L ρ) :=
  { h with rest := { h.rest with faults := faults } }

/- An execution of the steps, with the faults it meets. -/
def execution
    (servers : Servers R L)
    (config : EngineConfig)
    (others : Substrate ρ)
    (steps : List TypedAction)
    (h : Host (Network R L ρ))
    (e : Env × List NetFault) : Host (Network R L ρ) :=
  (((servers.executor config others).execute e.1
    (.compose steps)).run (meeting h e.2)).2

/- All of its steps are reported as successes. -/
def reportsSuccess
    (servers : Servers R L)
    (config : EngineConfig)
    (others : Substrate ρ)
    (steps : List TypedAction)
    (h : Host (Network R L ρ))
    (e : Env × List NetFault) : Bool :=
  ((executeSteps (servers.leafRun config others e.1) [] 0
    steps).run (meeting h e.2)).1.all
      ReconcilerOutcome.isTerminalSuccess

/-
  However often the steps are executed, and whatever becomes
  of the requests: what the servers were asked for is done up
  to some step, once and in order, and all of it after an
  execution that reports success.
-/
theorem applied_of_executions
    (servers : Servers R L)
    (requested : Requested R L)
    (config : EngineConfig)
    (others : Substrate ρ)
    (steps : List TypedAction)
    (hConform : servers.Conform requested)
    (hLeaves : ∀ step ∈ steps, step.isLeaf = true)
    (hNever :
      NeverUndone (servers.effect config requested) steps)
    (h : Host (Network R L ρ))
    (executions : List (Env × List NetFault)) :
    let run := servers.execution config others steps
    let effect := servers.effect config requested
    ∃ done, done <+: steps ∧
      view (Run.run run h executions) =
        applied effect done (view h) ∧
      (¬ Run.Allowed run (fun h e =>
          servers.reportsSuccess config others steps h e =
            false) h executions →
        done = steps) := by
  intro run effect
  refine applied_run hNever view (fun h e => ?_) h executions
  have hAttempt :=
    attempts_executeSteps
      (fun pos leaf => leafActsAs_executeLeaf hConform config
        others e.1 leaf) [] 0 hLeaves (meeting h e.2)
  exact hAttempt

end Servers

end EngenhoPromessa

------------------------------------------------------------
-- A Registry And A Ledger
------------------------------------------------------------

namespace EngenhoPromessa

namespace Reference

instance httpText : HttpText where
  status _ := ""
  json _ := ""

/- The manifests there are, by their URLs. -/
def registryServer : HttpServer (List String) :=
  fun request manifests =>
    if request.url ∈ manifests then
      (⟨202, .error ""⟩, manifests.filter (· ≠ request.url))
    else
      (⟨404, .error ""⟩, manifests)

/- The transitions made, by their URLs. -/
def ledgerServer : HttpServer (List String) :=
  fun request made =>
    if request.url ∈ made then
      (⟨409, .error ""⟩, made)
    else
      (⟨201, .ok .null⟩, made ++ [request.url])

/- A registry of manifests and a ledger of transitions. -/
def servers : Servers (List String) (List String) where
  registry := registryServer
  ledger := ledgerServer
  cartorioBaseUrl := "http://cartorio"

/- Deleting and posting, as they should be. -/
def requested : Requested (List String) (List String) where
  deleted url manifests := manifests.filter (· ≠ url)
  posted url _ made :=
    if url ∈ made then made else made ++ [url]

/- These servers do so and answer accordingly. -/
theorem servers_conform : servers.Conform requested where
  delete_or_not request r hMethod := by
    by_cases hMem : request.url ∈ r
    · simp [servers, registryServer, requested, hMem]
    · simp [servers, registryServer, hMem]
  delete_success request r hMethod hSuccess := by
    by_cases hMem : request.url ∈ r
    · simp [servers, registryServer, requested, hMem]
    · simp [servers, registryServer, hMem,
        HttpResponse.isSuccess] at hSuccess
  delete_missing request r hMethod hMissing := by
    by_cases hMem : request.url ∈ r
    · simp [servers, registryServer, hMem] at hMissing
    · refine ⟨by simp [servers, registryServer, hMem],
        List.filter_eq_self.mpr (fun url hUrl => ?_)⟩
      simp only [decide_eq_true_eq]
      rintro rfl
      exact hMem hUrl
  post_or_not request body l hMethod hBody := by
    by_cases hMem : request.url ∈ l
    · simp [servers, ledgerServer, hMem]
    · simp [servers, ledgerServer, requested, hMem]
  post_success request body l hMethod hBody hSuccess := by
    by_cases hMem : request.url ∈ l
    · simp [servers, ledgerServer, requested, hMem]
    · simp [servers, ledgerServer, requested, hMem]
  post_conflict request body l hMethod hBody hConflict := by
    by_cases hMem : request.url ∈ l
    · simp [servers, ledgerServer, requested, hMem]
    · simp [servers, ledgerServer, hMem] at hConflict

/- One registry without a login. -/
def zotConfig : EngineConfig where
  zotBaseUrl := "https://zot"
  zotBasicAuth := none
  harborBaseUrl := "https://harbor"
  harborBasicAuth := none

/- What does nothing else than the two acts. -/
def nothingElse : Substrate Unit where
  runner _ := pure (.error (.internal ""))
  now := pure (second 0)
  cartorioAdmit _ := pure .alreadyConverged
  ghcrTagRevoke _ := pure .alreadyConverged
  fluxCommit := none

/- An artifact is revoked and its manifest deleted. -/
def revocation : List TypedAction :=
  [.reconcilerApply .cartorioAdmit
      (.obj [("transition", .obj
        [("kind", .str "revoke"),
          ("artifact_id", .str "a"),
          ("body", .null)])]),
    .reconcilerApply .ghcrTagRevoke
      (.obj [("repository", .str "auth"),
        ("reference", .str "release")])]

/-
  The answer to the first transition is lost, then the
  registry cannot be reached, and then all is well.
-/
def revocationTries : List (Env × List NetFault) :=
  [(fun _ => none, [.lost (.timeout "")]),
    (fun _ => none, [.none, .refused (.connect "")]),
    (fun _ => none, [])]

/- One manifest is there, and no transition was made. -/
def revocationWorld :
    Host (Network (List String) (List String) Unit) where
  copies := []
  rest :=
    { registry := ["https://zot/v2/auth/manifests/release"]
      ledger := []
      rest := ()
      faults := [] }

/- A manifest that is gone stays gone, and a transition made. -/
theorem revocation_neverUndone :
    Retried.NeverUndone
      (servers.effect zotConfig requested) revocation where
  once step hMem v := by
    rcases List.mem_cons.mp hMem with rfl | hMem
    · -- a transition that was made is found
      refine Prod.ext rfl ?_
      change requested.posted _ .null
          (requested.posted _ .null v.2) =
        requested.posted _ .null v.2
      simp only [requested]
      split
      · rfl
      · simp
    · -- a manifest that was deleted is not there
      obtain rfl := List.mem_singleton.mp hMem
      refine Prod.ext ?_ rfl
      change requested.deleted _ (requested.deleted _ v.1) =
        requested.deleted _ v.1
      simp [requested]
  kept := by
    -- the two effects are on different servers
    refine List.pairwise_pair.mpr (fun v hMade => ?_)
    have hSnd :
        requested.posted _ .null v.2 = v.2 :=
      congrArg Prod.snd hMade
    exact Prod.ext rfl hSnd

end Reference

namespace Servers

/- Tries that fail, and one that does all the rest. -/
theorem applied_of_executions_reference :
    ∃ done, done <+: Reference.revocation ∧
      view (Run.run
          (Reference.servers.execution Reference.zotConfig
            Reference.nothingElse Reference.revocation)
          Reference.revocationWorld
          Reference.revocationTries) =
        Retried.applied
          (Reference.servers.effect Reference.zotConfig
            Reference.requested) done
          (view Reference.revocationWorld) ∧
      (¬ Run.Allowed
          (Reference.servers.execution Reference.zotConfig
            Reference.nothingElse Reference.revocation)
          (fun h e =>
            Reference.servers.reportsSuccess
              Reference.zotConfig Reference.nothingElse
              Reference.revocation h e = false)
          Reference.revocationWorld
          Reference.revocationTries →
        done = Reference.revocation) :=
  applied_of_executions Reference.servers
    Reference.requested Reference.zotConfig
    Reference.nothingElse Reference.revocation
    Reference.servers_conform (by decide)
    Reference.revocation_neverUndone
    Reference.revocationWorld Reference.revocationTries

example :
    (view (Run.run
      (Reference.servers.execution Reference.zotConfig
        Reference.nothingElse Reference.revocation)
      Reference.revocationWorld
      Reference.revocationTries)) =
      ([], ["http://cartorio/api/v1/artifacts/a/revoke"]) := by
  decide +kernel

end Servers

end EngenhoPromessa
