import EngenhoPromessa.ScannerCatalog.Stamps

/-
  What the parsers of JSON documents lose and mix, which is
  nothing: a document has the findings of its entries, in
  order.

  Key definitions include:
    * `AppendsEntries`
    * `LosesNothing`

  Key theorems include:
    * `losesNothing_of_makesEach`
    * `parsers_loseNothing`
-/

------------------------------------------------------------
-- Parsers Of Documents
------------------------------------------------------------

namespace EngenhoPromessa

variable [SerdeJson]

/- The documents a text is read as. -/
def IsDocument (raw : String) (doc : Json) : Prop :=
  SerdeJson.fromStr (Str.trimStart raw) = .ok doc

/-
  A document with the entries of two others has the findings
  of the first and then those of the second.
-/
def AppendsEntries
    (parse : String → ScannerKind →
      Except ParserError (List UnstampedFinding))
    (key : String) : Prop :=
  ∀ scanner raw rawX rawY doc docX docY xs ys,
    IsDocument raw doc →
    IsDocument rawX docX →
    IsDocument rawY docY →
    arrayMember docX key = some xs →
    arrayMember docY key = some ys →
    arrayMember doc key = some (xs ++ ys) →
    ∃ fs gs,
      parse rawX scanner = .ok fs ∧
        parse rawY scanner = .ok gs ∧
        parse raw scanner = .ok (fs ++ gs)

/-
  Every document is parsed, to one finding for each thing
  that an entry reports, in order and stamped.
-/
def LosesNothing
    (parse : String → ScannerKind →
      Except ParserError (List UnstampedFinding))
    (key : String)
    {ρ : Type}
    (reported : Json → List ρ) : Prop :=
  (∃ finding : ScannerKind → ρ → UnstampedFinding,
    (∀ scanner r now,
      (finding scanner r now).scanner = scanner ∧
        (finding scanner r now).exceptionId = none) ∧
      ∀ scanner raw doc,
        IsDocument raw doc →
        parse raw scanner =
          .ok ((entriesOf key doc).flatMap (fun entry =>
            (reported entry).map (finding scanner)))) ∧
    AppendsEntries parse key

/- Entries that are added add their findings. -/
theorem appendsEntries_of_readsEntries
    {findings :
      ScannerKind → Json → List UnstampedFinding}
    {key : String}
    {ρ : Type}
    {reported : Json → List ρ}
    {finding : ScannerKind → ρ → UnstampedFinding}
    (hReads : ReadsEntries findings key reported finding) :
    AppendsEntries (parseWith findings) key := by
  intro scanner raw rawX rawY doc docX docY xs ys
    hRaw hRawX hRawY hXs hYs hBoth
  refine ⟨findings scanner docX, findings scanner docY,
    parseWith_eq_ok findings scanner hRawX,
    parseWith_eq_ok findings scanner hRawY, ?_⟩
  rw [parseWith_eq_ok findings scanner hRaw, hReads, hReads,
    hReads]
  simp only [entriesOf, hXs, hYs, hBoth, Option.getD_some,
    List.flatMap_append]

/- No entry is lost if each makes its finding. -/
theorem losesNothing_of_makesEach
    {findings :
      ScannerKind → Json → List UnstampedFinding}
    {key : String}
    {ρ : Type}
    {reported : Json → List ρ}
    (hEach : MakesEach findings key reported) :
    LosesNothing (parseWith findings) key reported := by
  rcases hEach with ⟨finding, hReads, hMade⟩
  refine ⟨⟨finding, ?_, ?_⟩,
    appendsEntries_of_readsEntries hReads⟩
  · intro scanner r now
    exact ⟨(hMade scanner r).scanner_eq now,
      (hMade scanner r).exceptionId_eq now⟩
  · intro scanner raw doc hRaw
    rw [parseWith_eq_ok findings scanner hRaw, hReads]

/- No parser loses anything, whatever it reports. -/
theorem parsers_loseNothing :
    LosesNothing trivyParse "Results"
        (listedUnder "Vulnerabilities") ∧
      LosesNothing grypeParse "matches" wholeEntry ∧
      LosesNothing syftParse "packages" wholeEntry ∧
      LosesNothing semgrepSarifParse "runs"
        (listedUnder "results") ∧
      LosesNothing kubeLinterParse "Reports" wholeEntry ∧
      LosesNothing kubeBenchParse "Controls"
        kubeBenchReported ∧
      LosesNothing kubeHunterParse "vulnerabilities"
        wholeEntry ∧
      LosesNothing polarisParse "Results" polarisReported ∧
      LosesNothing zapParse "site" (listedUnder "alerts") := by
  refine ⟨?_, ?_, ?_, ?_, ?_, ?_, ?_, ?_, ?_⟩
  · exact losesNothing_of_makesEach makesEach_trivyFindings
  · exact losesNothing_of_makesEach makesEach_grypeFindings
  · exact losesNothing_of_makesEach makesEach_syftFindings
  · exact losesNothing_of_makesEach makesEach_sarifFindings
  · exact losesNothing_of_makesEach
      makesEach_kubeLinterFindings
  · exact losesNothing_of_makesEach
      makesEach_kubeBenchFindings
  · exact losesNothing_of_makesEach
      makesEach_kubeHunterFindings
  · exact losesNothing_of_makesEach makesEach_polarisFindings
  · exact losesNothing_of_makesEach makesEach_zapFindings

end EngenhoPromessa
