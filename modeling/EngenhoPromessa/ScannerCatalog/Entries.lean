import EngenhoPromessa.ScannerCatalog.Parsers

/-
  The parsers of JSON documents read the entries of one
  array, each on its own. An entry of the wrong shape
  reports nothing, and every thing that an entry reports
  becomes one finding.

  Key definitions include:
    * `ReadsEntries`

  Key theorems include:
    * `parseWith_eq_ok`
    * `readsEntries_of_map`
    * `readsEntries_of_listed`
    * `readsEntries_kubeBenchFindings`
    * `readsEntries_polarisFindings`
-/

------------------------------------------------------------
-- Entries
------------------------------------------------------------

namespace EngenhoPromessa

/- The entries of the array, of which there may be none. -/
def entriesOf (key : String) (doc : Json) : List Json :=
  (arrayMember doc key).getD []

/-
  The findings of a document are those of its entries, one
  for each thing reported and made from that thing alone.
-/
def ReadsEntries
    (findings : ScannerKind → Json → List UnstampedFinding)
    (key : String)
    {ρ : Type}
    (reported : Json → List ρ)
    (finding : ScannerKind → ρ → UnstampedFinding) : Prop :=
  ∀ scanner doc,
    findings scanner doc =
      (entriesOf key doc).flatMap (fun entry =>
        (reported entry).map (finding scanner))

/-
  A document that can be read has the findings of its
  parser.
-/
theorem parseWith_eq_ok
    [SerdeJson]
    (findings : ScannerKind → Json → List UnstampedFinding)
    (scanner : ScannerKind)
    {raw : String}
    {doc : Json}
    (hDoc : SerdeJson.fromStr (Str.trimStart raw) =
      .ok doc) :
    parseWith findings raw scanner =
      .ok (findings scanner doc) := by
  rw [parseWith, parseDocument, hDoc]

/- An entry that is itself what is reported. -/
def wholeEntry (entry : Json) : List Json :=
  [entry]

/- What is reported stands in an array of the entry. -/
def listedUnder (key : String) (entry : Json) : List Json :=
  (arrayMember entry key).getD []

/- A parser that makes a finding of each entry. -/
theorem readsEntries_of_map
    {findings :
      ScannerKind → Json → List UnstampedFinding}
    {key : String}
    {finding : ScannerKind → Json → UnstampedFinding}
    (hFindings : ∀ scanner doc,
      findings scanner doc =
        match arrayMember doc key with
        | none => []
        | some entries => entries.map (finding scanner)) :
    ReadsEntries findings key wholeEntry finding := by
  intro scanner doc
  rw [hFindings, entriesOf]
  cases arrayMember doc key with
  | none => rfl
  | some entries => exact List.map_eq_flatMap

/- A parser whose entries have lists of their own. -/
theorem readsEntries_of_listed
    {findings :
      ScannerKind → Json → List UnstampedFinding}
    {key inner : String}
    {finding : ScannerKind → Json → UnstampedFinding}
    (hFindings : ∀ scanner doc,
      findings scanner doc =
        match arrayMember doc key with
        | none => []
        | some entries =>
            entries.flatMap (fun entry =>
              match arrayMember entry inner with
              | none => []
              | some listed =>
                  listed.map (finding scanner))) :
    ReadsEntries findings key (listedUnder inner)
      finding := by
  intro scanner doc
  rw [hFindings, entriesOf]
  cases arrayMember doc key with
  | none => rfl
  | some entries =>
      refine congrArg (fun g => entries.flatMap g)
        (funext fun entry => ?_)
      rw [listedUnder]
      cases arrayMember entry inner with
      | none => rfl
      | some listed => rfl

end EngenhoPromessa

------------------------------------------------------------
-- Parsers That Report All They Read
------------------------------------------------------------

namespace EngenhoPromessa

theorem readsEntries_trivyFindings [SerdeJson] :
    ReadsEntries trivyFindings "Results"
      (listedUnder "Vulnerabilities") trivyFinding :=
  readsEntries_of_listed (fun _ _ => rfl)

theorem readsEntries_grypeFindings [SerdeJson] :
    ReadsEntries grypeFindings "matches" wholeEntry
      grypeFinding :=
  readsEntries_of_map (fun _ _ => rfl)

theorem readsEntries_syftFindings :
    ReadsEntries syftFindings "packages" wholeEntry
      syftFinding :=
  readsEntries_of_map (fun _ _ => rfl)

theorem readsEntries_sarifFindings :
    ReadsEntries sarifFindings "runs"
      (listedUnder "results") sarifFinding :=
  readsEntries_of_listed (fun _ _ => rfl)

theorem readsEntries_kubeLinterFindings :
    ReadsEntries kubeLinterFindings "Reports" wholeEntry
      kubeLinterFinding :=
  readsEntries_of_map (fun _ _ => rfl)

theorem readsEntries_kubeHunterFindings :
    ReadsEntries kubeHunterFindings "vulnerabilities"
      wholeEntry kubeHunterFinding :=
  readsEntries_of_map (fun _ _ => rfl)

theorem readsEntries_zapFindings :
    ReadsEntries zapFindings "site"
      (listedUnder "alerts") zapFinding :=
  readsEntries_of_listed (fun _ _ => rfl)

end EngenhoPromessa

------------------------------------------------------------
-- Parsers That Pass Over Some
------------------------------------------------------------

namespace EngenhoPromessa

/- A map with a test is a filter and a map. -/
theorem filterMap_eq_map_filter
    {α β : Type}
    {f : α → Option β}
    {p : α → Bool}
    (hSome : ∀ a, p a = (f a).isSome)
    (b : β)
    (xs : List α) :
    xs.filterMap f =
      (xs.filter p).map (fun a => (f a).getD b) := by
  induction xs with
  | nil => rfl
  | cons a xs ih =>
      rw [List.filterMap_cons, List.filter_cons, hSome a]
      cases hA : f a with
      | none => simpa using ih
      | some c => simp [hA, ih]

/- What is made of a result or check that is passed over. -/
def unreported (scanner : ScannerKind) : UnstampedFinding :=
  makeFinding scanner none .low none none none

/- The only results that KubeBench reports. -/
def isFailOrWarn (r : Json) : Bool :=
  strMember r "status" = some "FAIL" ∨
    strMember r "status" = some "WARN"

/- The failed and warned results of a control's tests. -/
def kubeBenchReported (control : Json) : List Json :=
  (listedUnder "tests" control).flatMap (fun test =>
    (listedUnder "results" test).filter isFailOrWarn)

/- The test that the parser makes. -/
theorem isFailOrWarn_eq
    (scanner : ScannerKind)
    (r : Json) :
    isFailOrWarn r = (kubeBenchFinding scanner r).isSome := by
  unfold isFailOrWarn kubeBenchFinding
  cases hStatus : strMember r "status" with
  | none => rfl
  | some status =>
      rw [Option.getD_some]
      split
      · simp
      · simp
      · rename_i hFail hWarn
        have hNeither :
            ¬ status = "FAIL" ∧ ¬ status = "WARN" :=
          ⟨hFail, hWarn⟩
        simpa using hNeither

/- KubeBench lists the results of each test of a control. -/
theorem readsEntries_kubeBenchFindings :
    ReadsEntries kubeBenchFindings "Controls"
      kubeBenchReported (fun scanner r =>
        (kubeBenchFinding scanner r).getD
          (unreported scanner)) := by
  intro scanner doc
  unfold kubeBenchFindings entriesOf
  cases arrayMember doc "Controls" with
  | none => rfl
  | some controls =>
      refine congrArg (fun g => controls.flatMap g)
        (funext fun c => ?_)
      unfold kubeBenchReported
      rw [List.map_flatMap, listedUnder]
      cases arrayMember c "tests" with
      | none => rfl
      | some tests =>
          refine congrArg (fun g => tests.flatMap g)
            (funext fun t => ?_)
          unfold listedUnder
          cases arrayMember t "results" with
          | none => rfl
          | some results =>
              exact filterMap_eq_map_filter
                (isFailOrWarn_eq scanner) _ results

end EngenhoPromessa

------------------------------------------------------------
-- Polaris
------------------------------------------------------------

namespace EngenhoPromessa

/- What a check was about. -/
def polarisTarget (item : Json) : String :=
  let ns := (strMember item "Namespace").getD ""
  let name := (strMember item "Name").getD ""
  let kind := (strMember item "Kind").getD ""
  kind ++ "/" ++ ns ++ "/" ++ name

/- The failed checks of one item. -/
def polarisItemFindings
    (scanner : ScannerKind)
    (item : Json) : List UnstampedFinding :=
  (((item.get? "Results").bind Json.asObject).getD
    []).filterMap
      (polarisFinding scanner (polarisTarget item))

/- The findings item by item. -/
theorem polarisFindings_eq
    (scanner : ScannerKind)
    (doc : Json) :
    polarisFindings scanner doc =
      ((arrayMember doc "Results").getD []).flatMap
        (polarisItemFindings scanner) := by
  unfold polarisFindings
  cases arrayMember doc "Results" with
  | none => rfl
  | some items =>
      refine congrArg (fun g => items.flatMap g)
        (funext fun item => ?_)
      unfold polarisItemFindings polarisTarget
      cases (item.get? "Results").bind Json.asObject with
      | none => rfl
      | some checks => rfl

/- The check has failed. -/
def isUnsuccessful (check : String × Json) : Bool :=
  (check.2.get? "Success").bind Json.asBool = some false

/- The unsuccessful checks, with the item they are of. -/
def polarisReported
    (item : Json) : List (Json × (String × Json)) :=
  ((((item.get? "Results").bind Json.asObject).getD
    []).filter isUnsuccessful).map (fun check => (item, check))

/- The test that the parser makes. -/
theorem isUnsuccessful_eq
    (scanner : ScannerKind)
    (target : String)
    (check : String × Json) :
    isUnsuccessful check =
      (polarisFinding scanner target check).isSome := by
  unfold isUnsuccessful polarisFinding
  cases hSuccess :
      (check.2.get? "Success").bind Json.asBool with
  | none => simp [hSuccess]
  | some success => cases success <;> simp [hSuccess]

/- Polaris has the failed checks of each item. -/
theorem readsEntries_polarisFindings :
    ReadsEntries polarisFindings "Results"
      polarisReported (fun scanner reported =>
        (polarisFinding scanner (polarisTarget reported.1)
          reported.2).getD (unreported scanner)) := by
  intro scanner doc
  rw [polarisFindings_eq]
  refine congrArg
    (fun g => (entriesOf "Results" doc).flatMap g)
    (funext fun item => ?_)
  unfold polarisItemFindings polarisReported
  rw [List.map_map]
  exact filterMap_eq_map_filter
    (isUnsuccessful_eq scanner (polarisTarget item)) _ _

end EngenhoPromessa
