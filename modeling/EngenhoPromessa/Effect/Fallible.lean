import EngenhoPromessa.Collections.UpToFailure
import Mathlib.Data.List.Basic
import Mathlib.Control.Basic

/-
  Computations over a state that may stop with an error. An
  error keeps the state reached so far: what was done before
  it is not undone.

  `exec_bind_eq_ok` takes a successful run apart into the
  runs of its parts, and `Keeps` collects what no part of a
  computation touches, whether it succeeds or not;
  `Preserves` does so for what no part breaks. `Atomic` is
  the all or nothing of a computation whose last part alone
  takes effect. `Simulates` compares a computation with one
  on a part of its state, and `Emits` gives the result of a
  computation and what it adds to a log, where neither
  depends on the state.

  Key definitions include:
    * `Fallible`
    * `Fallible.exec`
    * `Fallible.unwrapOr`
    * `Fallible.Keeps`
    * `Fallible.Preserves`
    * `Fallible.Atomic`
    * `Fallible.zoom`
    * `Fallible.Simulates`
    * `Fallible.Emits`

  Key theorems include:
    * `Fallible.exec_bind_eq_ok`
    * `Fallible.keeps_bind`
    * `Fallible.keeps_mapM`
    * `Fallible.preserves_bind`
    * `Fallible.preserves_mapM`
    * `Fallible.atomic_bind`
    * `Fallible.simulates_bind`
    * `Fallible.emits_mapM`
-/

------------------------------------------------------------
-- Running
------------------------------------------------------------

/- A computation on a state that may end in an error. -/
abbrev Fallible (σ ε α : Type) : Type :=
  ExceptT ε (StateM σ) α

namespace Fallible

variable {σ ε α β γ : Type}

/- The result of a run and the state it leaves. -/
def exec (x : Fallible σ ε α) (s : σ) : Except ε α × σ :=
  (x.run).run s

/- A computation given by its runs. -/
def ofExec
    (f : σ → Except ε α × σ) : Fallible σ ε α :=
  ExceptT.mk (StateT.mk f)

/- Run `x`, and go on with `a` if it fails. -/
def unwrapOr
    (a : α)
    (x : Fallible σ ε α) : Fallible σ ε α :=
  ofExec (fun s =>
    match x.exec s with
    | (.ok b, s') => (.ok b, s')
    | (.error _, s') => (.ok a, s'))

@[simp] theorem exec_ofExec
    (f : σ → Except ε α × σ)
    (s : σ) :
    (ofExec f : Fallible σ ε α).exec s = f s := rfl

/- The state is that of the computation, failed or not. -/
theorem exec_unwrapOr
    (a : α)
    (x : Fallible σ ε α)
    (s : σ) :
    (unwrapOr a x).exec s =
      (.ok ((x.exec s).1.toOption.getD a),
        (x.exec s).2) := by
  rcases hRun : x.exec s with ⟨_ | b, s'⟩
  · simp [unwrapOr, hRun, Except.toOption]
  · simp [unwrapOr, hRun, Except.toOption]

@[simp] theorem exec_unwrapOr_snd
    (a : α)
    (x : Fallible σ ε α)
    (s : σ) :
    ((unwrapOr a x).exec s).2 = (x.exec s).2 := by
  rw [exec_unwrapOr]

@[simp] theorem exec_pure (a : α) (s : σ) :
    (pure a : Fallible σ ε α).exec s = (.ok a, s) := rfl

/- An error ends a sequence; a result is passed on. -/
theorem exec_bind
    (x : Fallible σ ε α)
    (f : α → Fallible σ ε β)
    (s : σ) :
    (x >>= f).exec s =
      match x.exec s with
      | (.ok a, s') => (f a).exec s'
      | (.error e, s') => (.error e, s') := by
  simp only [exec, ExceptT.run_bind, StateT.run_bind]
  rcases x.run.run s with ⟨_ | a, s'⟩
  · rfl
  · rfl

/- The rest goes on where the first part has ended. -/
theorem exec_bind_ok
    {x : Fallible σ ε α}
    {s s' : σ}
    {a : α}
    (hx : x.exec s = (.ok a, s'))
    (f : α → Fallible σ ε β) :
    (x >>= f).exec s = (f a).exec s' := by
  rw [exec_bind, hx]

theorem exec_bind_pure
    (x : Fallible σ ε α)
    (g : α → β)
    (s : σ) :
    (x >>= fun a => pure (g a)).exec s =
      ((x.exec s).1.map g, (x.exec s).2) := by
  rw [exec_bind]
  rcases x.exec s with ⟨_ | a, s'⟩
  · rfl
  · rfl

/-
  A sequence succeeds exactly when its first part does and
  the rest succeeds from there.
-/
theorem exec_bind_eq_ok
    {x : Fallible σ ε α}
    {f : α → Fallible σ ε β}
    {s s'' : σ}
    {b : β} :
    (x >>= f).exec s = (.ok b, s'') ↔
      ∃ a s', x.exec s = (.ok a, s') ∧
        (f a).exec s' = (.ok b, s'') := by
  rw [exec_bind]
  rcases hx : x.exec s with ⟨e | a, s'⟩
  · simp
  · simp

theorem exec_pure_eq_ok
    {a b : α}
    {s s' : σ} :
    (pure a : Fallible σ ε α).exec s = (.ok b, s') ↔
      a = b ∧ s = s' := by
  simp

/- A list worked through successfully has all its results. -/
theorem length_of_exec_mapM_eq_ok
    {f : α → Fallible σ ε β}
    {as : List α}
    {bs : List β}
    {s s' : σ}
    (hRun : (as.mapM f).exec s = (.ok bs, s')) :
    bs.length = as.length := by
  induction as generalizing bs s s' with
  | nil =>
      rw [List.mapM_nil, exec_pure_eq_ok] at hRun
      rw [← hRun.1]
      rfl
  | cons a as ih =>
      rw [List.mapM_cons] at hRun
      rcases exec_bind_eq_ok.mp hRun with ⟨b, s₁, _, hRest⟩
      rcases exec_bind_eq_ok.mp hRest with
        ⟨bs', s₂, hTail, hPure⟩
      rw [← (exec_pure_eq_ok.mp hPure).1, List.length_cons,
        List.length_cons, ih hTail]

end Fallible

------------------------------------------------------------
-- What A Run Leaves Alone
------------------------------------------------------------

namespace Fallible

variable {σ ε α β γ : Type}

/- Every run leaves the observation `view` of the state. -/
def Keeps (view : σ → γ) (x : Fallible σ ε α) : Prop :=
  ∀ s, view (x.exec s).2 = view s

theorem keeps_pure (view : σ → γ) (a : α) :
    Keeps view (pure a : Fallible σ ε α) :=
  fun _ => rfl

/- After its first part, the rest leaves `view` alone. -/
theorem view_exec_bind
    {view : σ → γ}
    (x : Fallible σ ε α)
    {f : α → Fallible σ ε β}
    (hf : ∀ a, Keeps view (f a))
    (s : σ) :
    view ((x >>= f).exec s).2 = view (x.exec s).2 := by
  rw [exec_bind]
  rcases hRun : x.exec s with ⟨e | a, s'⟩
  · rfl
  · exact hf a s'

/- A sequence of parts that keep a view keeps it. -/
theorem keeps_bind
    {view : σ → γ}
    {x : Fallible σ ε α}
    {f : α → Fallible σ ε β}
    (hx : Keeps view x)
    (hf : ∀ a, Keeps view (f a)) :
    Keeps view (x >>= f) := by
  intro s
  rw [view_exec_bind x hf]
  exact hx s

/- A default in place of an error changes no state. -/
theorem keeps_unwrapOr
    {view : σ → γ}
    {x : Fallible σ ε α}
    (hx : Keeps view x)
    (a : α) :
    Keeps view (unwrapOr a x) := by
  intro s
  rw [exec_unwrapOr_snd]
  exact hx s

/- A loop whose every round keeps a view keeps it. -/
theorem keeps_mapM
    {view : σ → γ}
    {f : α → Fallible σ ε β}
    (hf : ∀ a, Keeps view (f a))
    (as : List α) :
    Keeps view (as.mapM f) := by
  induction as with
  | nil =>
      simpa using keeps_pure view []
  | cons a as ih =>
      rw [List.mapM_cons]
      apply keeps_bind (hf a)
      intro b
      apply keeps_bind ih
      intro bs
      exact keeps_pure view (b :: bs)

/- The same for a loop without results. -/
theorem keeps_forM
    {view : σ → γ}
    {f : α → Fallible σ ε PUnit}
    (hf : ∀ a, Keeps view (f a))
    (as : List α) :
    Keeps view (as.forM f) := by
  induction as with
  | nil => exact keeps_pure view _
  | cons a as ih =>
      exact keeps_bind (hf a) (fun _ => ih)

/- The kept view before and after one run. -/
theorem keeps_of_exec_eq
    {view : σ → γ}
    {x : Fallible σ ε α}
    (hx : Keeps view x)
    {s s' : σ}
    {r : Except ε α}
    (hRun : x.exec s = (r, s')) :
    view s' = view s := by
  have hEq := hx s
  rwa [hRun] at hEq

end Fallible

------------------------------------------------------------
-- What A Run Does Not Break
------------------------------------------------------------

namespace Fallible

variable {σ ε α β γ : Type}

/- Every run from a state with `P` leaves one. -/
def Preserves (P : σ → Prop) (x : Fallible σ ε α) : Prop :=
  ∀ s, P s → P (x.exec s).2

/- What only depends on a kept view is preserved. -/
theorem preserves_of_keeps
    {view : σ → γ}
    {x : Fallible σ ε α}
    (hx : Keeps view x)
    (Q : γ → Prop) :
    Preserves (fun s => Q (view s)) x := by
  intro s hs
  rwa [hx s]

theorem preserves_pure (P : σ → Prop) (a : α) :
    Preserves P (pure a : Fallible σ ε α) :=
  fun _ hs => hs

/- A sequence preserves what both of its parts preserve. -/
theorem preserves_bind
    {P : σ → Prop}
    {x : Fallible σ ε α}
    {f : α → Fallible σ ε β}
    (hx : Preserves P x)
    (hf : ∀ a, Preserves P (f a)) :
    Preserves P (x >>= f) := by
  intro s hs
  have hAfter := hx s hs
  rw [exec_bind]
  rcases hRun : x.exec s with ⟨e | a, s'⟩
  · rwa [hRun] at hAfter
  · rw [hRun] at hAfter
    exact hf a s' hAfter

/- A default in place of an error preserves as much. -/
theorem preserves_unwrapOr
    {P : σ → Prop}
    {x : Fallible σ ε α}
    (hx : Preserves P x)
    (a : α) :
    Preserves P (unwrapOr a x) := by
  intro s hs
  rw [exec_unwrapOr_snd]
  exact hx s hs

/- A loop preserves what its every round preserves. -/
theorem preserves_forM
    {P : σ → Prop}
    {f : α → Fallible σ ε PUnit}
    (hf : ∀ a, Preserves P (f a))
    (as : List α) :
    Preserves P (as.forM f) := by
  induction as with
  | nil => exact preserves_pure P _
  | cons a as ih => exact preserves_bind (hf a) (fun _ => ih)

/- The same for a loop with results. -/
theorem preserves_mapM
    {P : σ → Prop}
    {f : α → Fallible σ ε β}
    (hf : ∀ a, Preserves P (f a))
    (as : List α) :
    Preserves P (as.mapM f) := by
  induction as with
  | nil =>
      simpa using preserves_pure P []
  | cons a as ih =>
      rw [List.mapM_cons]
      apply preserves_bind (hf a)
      intro b
      apply preserves_bind ih
      intro bs
      exact preserves_pure P (b :: bs)

end Fallible

------------------------------------------------------------
-- All Or Nothing
------------------------------------------------------------

namespace Fallible

variable {σ ε α β γ : Type}

/- A run that fails leaves the observation as it was. -/
def Atomic (view : σ → γ) (x : Fallible σ ε α) : Prop :=
  ∀ s e s', x.exec s = (.error e, s') → view s' = view s

theorem atomic_of_keeps
    {view : σ → γ}
    {x : Fallible σ ε α}
    (hx : Keeps view x) :
    Atomic view x :=
  fun _ _ _ hRun => keeps_of_exec_eq hx hRun

/- What comes before an atomic part may only look on. -/
theorem atomic_bind
    {view : σ → γ}
    {x : Fallible σ ε α}
    {f : α → Fallible σ ε β}
    (hx : Keeps view x)
    (hf : ∀ a, Atomic view (f a)) :
    Atomic view (x >>= f) := by
  intro s e s' hRun
  rw [exec_bind] at hRun
  have hFirst := hx s
  rcases hExec : x.exec s with ⟨e' | a, s₁⟩
  · rw [hExec] at hRun hFirst
    rw [← (Prod.mk.inj hRun).2]
    exact hFirst
  · rw [hExec] at hRun hFirst
    exact (hf a s₁ e s' hRun).trans hFirst

/- What comes after an atomic part may not fail. -/
theorem atomic_bind_pure
    {view : σ → γ}
    {x : Fallible σ ε α}
    (hx : Atomic view x)
    (f : α → β) :
    Atomic view (x >>= fun a => pure (f a)) := by
  intro s e s' hRun
  rw [exec_bind] at hRun
  rcases hExec : x.exec s with ⟨e' | a, s₁⟩
  · rw [hExec] at hRun
    rw [← (Prod.mk.inj hRun).2]
    exact hx s e' s₁ hExec
  · simp [hExec] at hRun

end Fallible

------------------------------------------------------------
-- Parts Of A State
------------------------------------------------------------

namespace Fallible

variable {σ τ ε α β γ : Type}

/- A computation on a part of the state. -/
def zoom
    (get : τ → σ)
    (set : σ → τ → τ)
    (x : Fallible σ ε α) : Fallible τ ε α :=
  ofExec (fun t =>
    let (result, s) := x.exec (get t)
    (result, set s t))

/- Work on a part of the state keeps what is beside it. -/
theorem keeps_zoom
    {get : τ → σ}
    {set : σ → τ → τ}
    {view : τ → γ}
    (hView : ∀ s t, view (set s t) = view t)
    (x : Fallible σ ε α) :
    Keeps view (zoom get set x) :=
  fun _ => hView _ _

/-
  Run from `t`, `x` has the result that `y` has on the part
  `π`, and leaves of it what `y` leaves.
-/
def Simulates
    (π : τ → σ)
    (x : Fallible τ ε α)
    (y : Fallible σ ε α)
    (t : τ) : Prop :=
  y.exec (π t) = ((x.exec t).1, π (x.exec t).2)

/- A run of the simulating one is a run of the other. -/
theorem exec_eq_of_simulates
    {π : τ → σ}
    {x : Fallible τ ε α}
    {y : Fallible σ ε α}
    {t t' : τ}
    {r : Except ε α}
    (hx : Simulates π x y t)
    (hRun : x.exec t = (r, t')) :
    y.exec (π t) = (r, π t') := by
  rw [hx, hRun]

theorem simulates_pure (π : τ → σ) (a : α) (t : τ) :
    Simulates π (pure a : Fallible τ ε α) (pure a) t := rfl

/- Work on a part does there what it does alone. -/
theorem simulates_zoom
    {get : τ → σ}
    {set : σ → τ → τ}
    (hSet : ∀ s t, get (set s t) = s)
    (x : Fallible σ ε α)
    (t : τ) :
    Simulates get (zoom get set x) x t := by
  simp [Simulates, zoom, hSet]

/- Step by step, from the states the simulation comes to. -/
theorem simulates_bind
    {π : τ → σ}
    {x : Fallible τ ε α}
    {y : Fallible σ ε α}
    {f : α → Fallible τ ε β}
    {g : α → Fallible σ ε β}
    {t : τ}
    (hx : Simulates π x y t)
    (hf :
      ∀ a t', x.exec t = (.ok a, t') →
        Simulates π (f a) (g a) t') :
    Simulates π (x >>= f) (y >>= g) t := by
  unfold Simulates
  rw [exec_bind, exec_bind, hx]
  rcases hRun : x.exec t with ⟨e | a, t'⟩
  · rfl
  · exact hf a t' hRun

end Fallible

------------------------------------------------------------
-- Logs
------------------------------------------------------------

namespace Fallible

variable {σ ε α β γ : Type}

/- A result that is known and costs no state. -/
def ofResult (r : Except ε α) : Fallible σ ε α :=
  ofExec (fun s => (r, s))

/- The known result must be a success to go on. -/
theorem exec_ofResult_bind_eq_ok
    {r : Except ε α}
    {f : α → Fallible σ ε β}
    {s s' : σ}
    {b : β} :
    (ofResult r >>= f).exec s = (.ok b, s') ↔
      ∃ a, r = .ok a ∧ (f a).exec s = (.ok b, s') := by
  rw [exec_bind_eq_ok]
  simp [ofResult]

/-
  From every state, `x` succeeds with the one result it has,
  or fails if it has none, and adds the entries to the log.
-/
def Emits
    (view : σ → List γ)
    (x : Fallible σ ε α)
    (result : Option α)
    (entries : List γ) : Prop :=
  ∀ s, (x.exec s).1.toOption = result ∧
    view (x.exec s).2 = view s ++ entries

variable {view : σ → List γ}

theorem emits_pure (a : α) :
    Emits view (pure a : Fallible σ ε α) (some a) [] :=
  fun s => ⟨rfl, (List.append_nil (view s)).symm⟩

theorem emits_ofResult (r : Except ε α) :
    Emits view (ofResult r : Fallible σ ε α) r.toOption [] :=
  fun s => ⟨rfl, (List.append_nil (view s)).symm⟩

/- After a success the second part emits behind the first. -/
theorem emits_bind_some
    {x : Fallible σ ε α}
    {f : α → Fallible σ ε β}
    {a : α}
    {result : Option β}
    {first second : List γ}
    (hx : Emits view x (some a) first)
    (hf : Emits view (f a) result second) :
    Emits view (x >>= f) result (first ++ second) := by
  intro s
  rcases hx s with ⟨hResult, hView⟩
  rw [exec_bind]
  rcases hRun : x.exec s with ⟨e | b, s'⟩
  · simp [hRun, Except.toOption] at hResult
  · rw [hRun] at hResult hView
    obtain rfl : b = a := Option.some.inj hResult
    rcases hf s' with ⟨hResult', hView'⟩
    refine ⟨hResult', hView'.trans ?_⟩
    rw [hView, List.append_assoc]

/- After an error nothing more is emitted. -/
theorem emits_bind_none
    {x : Fallible σ ε α}
    {entries : List γ}
    (hx : Emits view x none entries)
    (f : α → Fallible σ ε β) :
    Emits view (x >>= f) none entries := by
  intro s
  rcases hx s with ⟨hResult, hView⟩
  rw [exec_bind]
  rcases hRun : x.exec s with ⟨e | b, s'⟩
  · rw [hRun] at hView
    exact ⟨rfl, hView⟩
  · simp [hRun, Except.toOption] at hResult

/- On a part of the state, the log is one of that part. -/
theorem emits_zoom
    {τ : Type}
    {get : τ → σ}
    {set : σ → τ → τ}
    (hSet : ∀ s t, get (set s t) = s)
    {x : Fallible σ ε α}
    {result : Option α}
    {entries : List γ}
    (hx : Emits view x result entries) :
    Emits (fun t => view (get t)) (zoom get set x) result
      entries := by
  intro t
  rcases hx (get t) with ⟨hResult, hView⟩
  refine ⟨hResult, ?_⟩
  simpa [zoom, hSet] using hView

/- A log of another part stays as it is. -/
theorem emits_zoom_nil
    {τ δ : Type}
    {get : τ → σ}
    {set : σ → τ → τ}
    {other : τ → List δ}
    (hOther : ∀ s t, other (set s t) = other t)
    {x : Fallible σ ε α}
    {result : Option α}
    {entries : List γ}
    (hx : Emits view x result entries) :
    Emits other (zoom get set x) result [] := by
  intro t
  refine ⟨(hx (get t)).1, ?_⟩
  simp [zoom, hOther]

/- A loop adds what its steps add, up to the first failure. -/
theorem emits_mapM
    {f : α → Fallible σ ε β}
    {result : α → Option β}
    {entries : α → List γ}
    (hStep : ∀ a, Emits view (f a) (result a) (entries a))
    (as : List α) :
    Emits view (as.mapM f) (as.mapM result)
      ((as.upToFailure (fun a => (result a).isSome)).flatMap
        entries) := by
  induction as with
  | nil =>
      rw [List.mapM_nil, List.mapM_nil]
      exact emits_pure []
  | cons a as ih =>
      have hHead := hStep a
      rw [List.mapM_cons, List.mapM_cons, List.upToFailure]
      cases hResult : result a with
      | none =>
          rw [hResult] at hHead
          simpa using emits_bind_none hHead _
      | some b =>
          rw [hResult] at hHead
          simp only [Option.isSome_some, if_true,
            List.flatMap_cons]
          refine emits_bind_some hHead ?_
          cases hRest : as.mapM result with
          | none =>
              rw [hRest] at ih
              exact emits_bind_none ih _
          | some bs =>
              rw [hRest] at ih
              have hAll := emits_bind_some
                (f := fun bs => pure (b :: bs)) ih
                (emits_pure (b :: bs))
              rwa [List.append_nil] at hAll

/- A loop emits the entries up to its first failure. -/
theorem emits_forM
    {f : α → Fallible σ ε PUnit}
    {ok : α → Bool}
    {entries : α → List γ}
    (hStep :
      ∀ a, Emits view (f a)
        (if ok a then some ⟨⟩ else none) (entries a))
    (as : List α) :
    Emits view (as.forM f)
      (if as.all ok then some ⟨⟩ else none)
      ((as.upToFailure ok).flatMap entries) := by
  induction as with
  | nil => exact emits_pure _
  | cons a as ih =>
      have hHead := hStep a
      rw [List.upToFailure, List.all_cons]
      cases hOk : ok a with
      | false =>
          rw [hOk] at hHead
          simpa using emits_bind_none hHead _
      | true =>
          rw [hOk] at hHead
          exact emits_bind_some hHead ih

/- A loop that ends well leaves the entries of every step. -/
theorem view_of_exec_forM_eq_ok
    {f : α → Fallible σ ε PUnit}
    {ok : α → Bool}
    {entries : α → List γ}
    (hStep :
      ∀ a, Emits view (f a)
        (if ok a then some ⟨⟩ else none) (entries a))
    {as : List α}
    {s s' : σ}
    {u : PUnit}
    (hRun : (as.forM f).exec s = (.ok u, s')) :
    (∀ a ∈ as, ok a = true) ∧
      view s' = view s ++ as.flatMap entries := by
  rcases emits_forM hStep as s with ⟨hResult, hView⟩
  rw [hRun] at hResult hView
  have hAll : ∀ a ∈ as, ok a = true := by
    by_contra hNot
    have hFails : as.all ok = false := by
      rw [Bool.eq_false_iff, ne_eq, List.all_eq_true]
      exact hNot
    rw [hFails] at hResult
    simp [Except.toOption] at hResult
  rw [List.upToFailure_of_all
    (List.failure?_eq_none_of_forall hAll)] at hView
  exact ⟨hAll, hView⟩

end Fallible
