import EngenhoPromessa.ScannerCatalog.Entries

/-
  What every parsed finding has in common: it was made by
  `makeFinding`, so the clock and nothing in the scanner's
  output says when it was first seen.

  Key definitions include:
    * `IsMade`
    * `Makes`
    * `MakesEach`

  Key theorems include:
    * `isMade_of_parseUnstamped`
    * `ScannerCatalog.getElem?_parseScannerOutput`
-/

------------------------------------------------------------
-- Made Findings
------------------------------------------------------------

namespace EngenhoPromessa

/- A finding whose fields a parser chose, but not its time. -/
def IsMade
    (scanner : ScannerKind)
    (finding : UnstampedFinding) : Prop :=
  ∃ cveId severity cvssV3 fixedIn message,
    finding =
      makeFinding scanner cveId severity cvssV3 fixedIn
        message

/- A reader of JSON documents that makes all its findings. -/
def Makes
    (findings : ScannerKind → Json → List UnstampedFinding) :
    Prop :=
  ∀ scanner value, ∀ finding ∈ findings scanner value,
    IsMade scanner finding

/- What is made for a scanner is made for it. -/
theorem isMade_makeFinding
    (scanner : ScannerKind)
    (cveId : Option String)
    (severity : ScanFindingSeverity)
    (cvssV3 : Option F32)
    (fixedIn message : Option String) :
    IsMade scanner
      (makeFinding scanner cveId severity cvssV3 fixedIn
        message) :=
  ⟨cveId, severity, cvssV3, fixedIn, message, rfl⟩

/- A finding is first seen when it is stamped. -/
theorem IsMade.firstSeen_eq
    {scanner : ScannerKind}
    {finding : UnstampedFinding}
    (hMade : IsMade scanner finding)
    (now : DateTime) :
    (finding now).firstSeen = now := by
  rcases hMade with ⟨_, _, _, _, _, rfl⟩
  rfl

/- No parser makes an exception. -/
theorem IsMade.exceptionId_eq
    {scanner : ScannerKind}
    {finding : UnstampedFinding}
    (hMade : IsMade scanner finding)
    (now : DateTime) :
    (finding now).exceptionId = none := by
  rcases hMade with ⟨_, _, _, _, _, rfl⟩
  rfl

/- A finding names the scanner it was read for. -/
theorem IsMade.scanner_eq
    {scanner : ScannerKind}
    {finding : UnstampedFinding}
    (hMade : IsMade scanner finding)
    (now : DateTime) :
    (finding now).scanner = scanner := by
  rcases hMade with ⟨_, _, _, _, _, rfl⟩
  rfl

end EngenhoPromessa

------------------------------------------------------------
-- Documents
------------------------------------------------------------

namespace EngenhoPromessa

/- A reader that makes one finding of each thing reported. -/
def MakesEach
    (findings : ScannerKind → Json → List UnstampedFinding)
    (key : String)
    {ρ : Type}
    (reported : Json → List ρ) : Prop :=
  ∃ finding : ScannerKind → ρ → UnstampedFinding,
    ReadsEntries findings key reported finding ∧
      ∀ scanner r, IsMade scanner (finding scanner r)

/- What each entry leads to was made for its scanner. -/
theorem makes_of_makesEach
    {findings :
      ScannerKind → Json → List UnstampedFinding}
    {key : String}
    {ρ : Type}
    {reported : Json → List ρ}
    (hEach : MakesEach findings key reported) :
    Makes findings := by
  rcases hEach with ⟨finding, hReads, hMade⟩
  intro scanner value f hMem
  rw [hReads] at hMem
  rcases List.mem_flatMap.mp hMem with ⟨entry, -, hEntry⟩
  rcases List.mem_map.mp hEntry with ⟨r, -, rfl⟩
  exact hMade scanner r

/- Trivy's findings are made entry by entry. -/
theorem makesEach_trivyFindings [SerdeJson] :
    MakesEach trivyFindings "Results"
      (listedUnder "Vulnerabilities") :=
  ⟨_, readsEntries_trivyFindings,
    fun _ _ => isMade_makeFinding _ _ _ _ _ _⟩

/- And those of Grype. -/
theorem makesEach_grypeFindings [SerdeJson] :
    MakesEach grypeFindings "matches" wholeEntry :=
  ⟨_, readsEntries_grypeFindings,
    fun _ _ => isMade_makeFinding _ _ _ _ _ _⟩

/- And those of Syft. -/
theorem makesEach_syftFindings :
    MakesEach syftFindings "packages" wholeEntry :=
  ⟨_, readsEntries_syftFindings,
    fun _ _ => isMade_makeFinding _ _ _ _ _ _⟩

/- And those of a SARIF document. -/
theorem makesEach_sarifFindings :
    MakesEach sarifFindings "runs"
      (listedUnder "results") :=
  ⟨_, readsEntries_sarifFindings,
    fun _ _ => isMade_makeFinding _ _ _ _ _ _⟩

/- And those of KubeLinter. -/
theorem makesEach_kubeLinterFindings :
    MakesEach kubeLinterFindings "Reports" wholeEntry :=
  ⟨_, readsEntries_kubeLinterFindings,
    fun _ _ => isMade_makeFinding _ _ _ _ _ _⟩

/- And those of KubeHunter. -/
theorem makesEach_kubeHunterFindings :
    MakesEach kubeHunterFindings "vulnerabilities"
      wholeEntry :=
  ⟨_, readsEntries_kubeHunterFindings,
    fun _ _ => isMade_makeFinding _ _ _ _ _ _⟩

/- And those of ZAP. -/
theorem makesEach_zapFindings :
    MakesEach zapFindings "site" (listedUnder "alerts") :=
  ⟨_, readsEntries_zapFindings,
    fun _ _ => isMade_makeFinding _ _ _ _ _ _⟩

/- What stands in for no finding is made as well. -/
theorem isMade_getD
    {scanner : ScannerKind}
    {finding : Option UnstampedFinding}
    (hSome : ∀ f, finding = some f → IsMade scanner f) :
    IsMade scanner (finding.getD (unreported scanner)) := by
  cases hFinding : finding with
  | none => exact isMade_makeFinding _ _ _ _ _ _
  | some f => exact hSome f hFinding

/- KubeBench's are, those of the reported results. -/
theorem makesEach_kubeBenchFindings :
    MakesEach kubeBenchFindings "Controls"
      kubeBenchReported := by
  refine ⟨_, readsEntries_kubeBenchFindings, ?_⟩
  intro scanner r
  refine isMade_getD (fun f hSome => ?_)
  rcases Option.map_eq_some_iff.mp hSome with ⟨s, _, rfl⟩
  exact isMade_makeFinding _ _ _ _ _ _

/- Polaris's are, those of the failed checks. -/
theorem makesEach_polarisFindings :
    MakesEach polarisFindings "Results" polarisReported := by
  refine ⟨_, readsEntries_polarisFindings, ?_⟩
  intro scanner r
  refine isMade_getD (fun f hSome => ?_)
  simp only [polarisFinding] at hSome
  split at hSome
  · simp at hSome
  · rw [← Option.some.inj hSome]
    exact isMade_makeFinding _ _ _ _ _ _

end EngenhoPromessa

------------------------------------------------------------
-- Whole Outputs
------------------------------------------------------------

namespace EngenhoPromessa

variable [SerdeJson]

/- So every finding that was read was made so. -/
theorem isMade_of_parseWith
    {findings :
      ScannerKind → Json → List UnstampedFinding}
    (hMakes : Makes findings)
    {raw : String}
    {scanner : ScannerKind}
    {found : List UnstampedFinding}
    (hParse : parseWith findings raw scanner = .ok found) :
    ∀ finding ∈ found, IsMade scanner finding := by
  unfold parseWith at hParse
  split at hParse
  · rename_i value _
    rw [← Except.ok.inj hParse]
    exact hMakes scanner value
  · simp at hParse

/- By induction on the lines still to be read. -/
theorem isMade_of_trufflehogLines
    {scanner : ScannerKind}
    {idx : Nat}
    {lines : List String}
    {found : List UnstampedFinding}
    (hParse :
      trufflehogLines scanner idx lines = .ok found) :
    ∀ finding ∈ found, IsMade scanner finding := by
  induction lines generalizing idx found with
  | nil =>
      rw [trufflehogLines] at hParse
      rw [← Except.ok.inj hParse]
      simp
  | cons line rest ih =>
      simp only [trufflehogLines] at hParse
      split at hParse
      · exact ih hParse
      · split at hParse
        · rename_i v _
          split at hParse
          · rename_i later hLater
            rw [← Except.ok.inj hParse]
            intro finding hMem
            rcases List.mem_cons.mp hMem with rfl | hMem
            · exact isMade_makeFinding _ _ _ _ _ _
            · exact ih hLater finding hMem
          · simp at hParse
        · split at hParse
          · exact ih hParse
          · simp at hParse

/- Whichever parser the catalog picks. -/
theorem isMade_of_parseUnstamped
    {raw : String}
    {scanner : ScannerKind}
    {found : List UnstampedFinding}
    (hParse : parseUnstamped raw scanner = .ok found) :
    ∀ finding ∈ found, IsMade scanner finding := by
  unfold parseUnstamped at hParse
  split at hParse
  · exact isMade_of_parseWith
      (makes_of_makesEach makesEach_trivyFindings) hParse
  · exact isMade_of_parseWith
      (makes_of_makesEach makesEach_grypeFindings) hParse
  · exact isMade_of_parseWith
      (makes_of_makesEach makesEach_syftFindings) hParse
  · exact isMade_of_trufflehogLines hParse
  · exact isMade_of_parseWith
      (makes_of_makesEach makesEach_sarifFindings) hParse
  · exact isMade_of_parseWith
      (makes_of_makesEach makesEach_kubeLinterFindings) hParse
  · exact isMade_of_parseWith
      (makes_of_makesEach makesEach_kubeBenchFindings) hParse
  · exact isMade_of_parseWith
      (makes_of_makesEach makesEach_kubeHunterFindings) hParse
  · exact isMade_of_parseWith
      (makes_of_makesEach makesEach_polarisFindings) hParse
  · exact isMade_of_parseWith
      (makes_of_makesEach makesEach_zapFindings) hParse
  · simp at hParse

namespace ScannerCatalog

/-
  The `i`th finding of an output carries the `i`th reading
  of the clock, its scanner's kind and no exception.
-/
theorem getElem?_parseScannerOutput
    {clock : Nat → DateTime}
    {raw : String}
    {scanner : ScannerKind}
    {found : List ScanFinding}
    (hParse :
      parseScannerOutput clock raw scanner = .ok found)
    {i : Nat}
    {f : ScanFinding}
    (hGet : found[i]? = some f) :
    f.firstSeen = clock i ∧ f.scanner = scanner ∧
      f.exceptionId = none := by
  unfold parseScannerOutput at hParse
  split at hParse
  · rename_i unstamped hUnstamped
    rw [← Except.ok.inj hParse, stampFindings,
      List.getElem?_mapIdx] at hGet
    rcases Option.map_eq_some_iff.mp hGet with
      ⟨finding, hFinding, rfl⟩
    have hMade := isMade_of_parseUnstamped hUnstamped
      finding (List.mem_of_getElem? hFinding)
    exact ⟨hMade.firstSeen_eq _, hMade.scanner_eq _,
      hMade.exceptionId_eq _⟩
  · simp at hParse

end ScannerCatalog

end EngenhoPromessa
