import EngenhoPromessa.Collections.Replaced
import EngenhoPromessa.External.Reference
import EngenhoPromessa.ScannerCatalog.Entries

/-
  What becomes of a finding's severity when the document it
  is read from says more, or says it in a higher grade.

  The words of all tools are looked up in one table. It does
  not know the `error` of SARIF or the `danger` of Polaris,
  and reads both as low.

  Key definitions include:
    * `NeverLowers`
    * `RepeatsLevel`
    * `WarningToDanger`

  Key theorems include:
    * `replaced_sarifFindings`
    * `replaced_polarisFindings`
    * `severity_order_kept_iff`
-/

------------------------------------------------------------
-- Edits Of Documents
------------------------------------------------------------

namespace EngenhoPromessa

/- An element of the array under `key` is replaced. -/
def ReplacesElem
    (key : String)
    (x y j j' : Json) : Prop :=
  ∃ pre post,
    arrayMember j key = some (pre ++ x :: post) ∧
      j' = j.setMember key (.arr (pre ++ y :: post))

/- A member of the object under `key` is replaced. -/
def ReplacesMember
    (key : String)
    (m m' : String × Json)
    (j j' : Json) : Prop :=
  ∃ pre post,
    (j.get? key).bind Json.asObject =
        some (pre ++ m :: post) ∧
      j' = j.setMember key (.obj (pre ++ m' :: post))

/- The array after the edit differs in that element. -/
theorem ReplacesElem.replaced
    {key : String}
    {x y j j' : Json}
    (hEdit : ReplacesElem key x y j j') :
    ∃ elems elems',
      arrayMember j key = some elems ∧
        arrayMember j' key = some elems' ∧
        Replaced [x] [y] elems elems' := by
  rcases hEdit with ⟨pre, post, hElems, rfl⟩
  refine ⟨_, pre ++ y :: post, hElems, ?_,
    Replaced.singleton pre post x y⟩
  simp [arrayMember, Json.get?_setMember, Json.asArray]

/- The object after the edit differs in that member. -/
theorem ReplacesMember.replaced
    {key : String}
    {m m' : String × Json}
    {j j' : Json}
    (hEdit : ReplacesMember key m m' j j') :
    ∃ ms ms',
      (j.get? key).bind Json.asObject = some ms ∧
        (j'.get? key).bind Json.asObject = some ms' ∧
        Replaced [m] [m'] ms ms' := by
  rcases hEdit with ⟨pre, post, hMembers, rfl⟩
  refine ⟨_, pre ++ m' :: post, hMembers, ?_,
    Replaced.singleton pre post m m'⟩
  simp [Json.get?_setMember, Json.asObject]

/- Texts under other keys are read as before. -/
theorem ReplacesMember.strMember_eq
    {key : String}
    {m m' : String × Json}
    {j j' : Json}
    (hEdit : ReplacesMember key m m' j j')
    {k : String}
    (hOther : k ≠ key) :
    strMember j' k = strMember j k := by
  rcases hEdit with ⟨pre, post, -, rfl⟩
  simp [strMember, Json.get?_setMember, hOther]

end EngenhoPromessa

------------------------------------------------------------
-- Grades
------------------------------------------------------------

namespace EngenhoPromessa

/- How bad a severity is, as a number. -/
def ScanFindingSeverity.grade : ScanFindingSeverity → Nat
| .low => 0
| .medium => 1
| .high => 2
| .critical => 3

/- Whenever they are made, the second is as grave. -/
def NotLower (f f' : UnstampedFinding) : Prop :=
  ∀ now, (f now).severity.grade ≤ (f' now).severity.grade

/- The same findings in the same order, none of them lower. -/
def NeverLowers
    (fs fs' : List UnstampedFinding) : Prop :=
  List.Forall₂ NotLower fs fs'

theorem neverLowers_iff
    {f f' : UnstampedFinding}
    {fs fs' : List UnstampedFinding}
    (hReplaced : Replaced [f] [f'] fs fs') :
    NeverLowers fs fs' ↔ NotLower f f' :=
  hReplaced.forall₂_iff (fun _ _ => le_rfl)

end EngenhoPromessa

------------------------------------------------------------
-- SARIF
------------------------------------------------------------

namespace EngenhoPromessa

/- A result with `properties.severity` set to a word. -/
def withSeverity (word : String) (r : Json) : Json :=
  r.setMember "properties"
    (((r.get? "properties").getD (.obj [])).setMember
      "severity" (.str word))

/-
  A result that has no `properties.severity` gets one that
  repeats its level, in any letter case.
-/
def RepeatsLevel
    (level : String)
    (doc doc' : Json) : Prop :=
  ∃ run run' r word,
    ReplacesElem "runs" run run' doc doc' ∧
      ReplacesElem "results" r (withSeverity word r)
        run run' ∧
      (r.get? "properties").bind
        (fun p => p.get? "severity") = none ∧
      strMember r "level" = some level ∧
      level ∈ ["error", "warning", "note"] ∧
      Str.eqIgnoreAsciiCase word level = true

/- The results of all runs. -/
def sarifResults (doc : Json) : List Json :=
  ((arrayMember doc "runs").getD []).flatMap (fun run =>
    (arrayMember run "results").getD [])

/- A finding for each result, in order. -/
theorem sarifFindings_eq
    (scanner : ScannerKind)
    (doc : Json) :
    sarifFindings scanner doc =
      (sarifResults doc).map (sarifFinding scanner) := by
  rw [readsEntries_sarifFindings, sarifResults,
    List.map_flatMap]
  rfl

/- One result is read anew, all others are read as before. -/
theorem replaced_sarifFindings
    (scanner : ScannerKind)
    {run run' r r' doc doc' : Json}
    (hRun : ReplacesElem "runs" run run' doc doc')
    (hResult : ReplacesElem "results" r r' run run') :
    Replaced [sarifFinding scanner r]
      [sarifFinding scanner r']
      (sarifFindings scanner doc)
      (sarifFindings scanner doc') := by
  rcases hRun.replaced with
    ⟨runs, runs', hRuns, hRuns', hOuter⟩
  rcases hResult.replaced with
    ⟨results, results', hResults, hResults', hInner⟩
  have hResultsAll :
      Replaced [r] [r'] (sarifResults doc)
        (sarifResults doc') := by
    refine hInner.trans ?_
    have hFlat := hOuter.flatMap (fun run =>
      (arrayMember run "results").getD [])
    simpa [sarifResults, hRuns, hRuns', hResults,
      hResults'] using hFlat
  rw [sarifFindings_eq, sarifFindings_eq]
  exact hResultsAll.map (sarifFinding scanner)

theorem normalizeSeverity_eq
    {word level : String}
    (hSame : Str.eqIgnoreAsciiCase word level = true) :
    normalizeSeverity word = normalizeSeverity level := by
  unfold normalizeSeverity
  rw [Str.toAsciiUppercase_eq hSame]

/- Without a severity of its own a result has its level's. -/
theorem sarifSeverity_of_level
    {r : Json}
    {level : String}
    (hNone : (r.get? "properties").bind
      (fun p => p.get? "severity") = none)
    (hLevel : strMember r "level" = some level) :
    sarifSeverity r = mapSarifLevel level := by
  have hWord :
      (r.get? "properties").bind
        (fun p => strMember p "severity") = none := by
    cases hProperties : r.get? "properties" with
    | none => rfl
    | some p =>
        rw [hProperties, Option.bind_some] at hNone
        rw [Option.bind_some, strMember, hNone]
        rfl
  rw [sarifSeverity, hWord, hLevel]
  rfl

theorem sarifSeverity_withSeverity
    (word : String)
    (r : Json) :
    sarifSeverity (withSeverity word r) =
      normalizeSeverity word := by
  simp [sarifSeverity, withSeverity, strMember,
    Json.get?_setMember, Json.asStr]

/- The two tables agree on all level words but one. -/
theorem mapSarifLevel_le_iff
    {level : String}
    (hLevel : level ∈ ["error", "warning", "note"]) :
    (mapSarifLevel level).grade ≤
        (normalizeSeverity level).grade ↔
      level ≠ "error" := by
  simp only [List.mem_cons, List.not_mem_nil,
    or_false] at hLevel
  rcases hLevel with rfl | rfl | rfl
  · decide
  · decide
  · decide

/- Repeating the level lowers errors only. -/
theorem notLower_withSeverity_iff
    (scanner : ScannerKind)
    {r : Json}
    {word level : String}
    (hNone : (r.get? "properties").bind
      (fun p => p.get? "severity") = none)
    (hLevel : strMember r "level" = some level)
    (hWords : level ∈ ["error", "warning", "note"])
    (hSame : Str.eqIgnoreAsciiCase word level = true) :
    NotLower (sarifFinding scanner r)
        (sarifFinding scanner (withSeverity word r)) ↔
      level ≠ "error" := by
  rw [← mapSarifLevel_le_iff hWords,
    ← normalizeSeverity_eq hSame,
    ← sarifSeverity_withSeverity word r,
    ← sarifSeverity_of_level hNone hLevel]
  exact ⟨fun hGrades => hGrades ⟨0⟩, fun hGrade _ => hGrade⟩

end EngenhoPromessa

------------------------------------------------------------
-- Polaris
------------------------------------------------------------

namespace EngenhoPromessa

/- A failing check goes from `warning` to `danger`. -/
def WarningToDanger (doc doc' : Json) : Prop :=
  ∃ item item' check body,
    ReplacesElem "Results" item item' doc doc' ∧
      ReplacesMember "Results" (check, body)
        (check, body.setMember "Severity" (.str "danger"))
        item item' ∧
      (body.get? "Success").bind Json.asBool = some false ∧
      strMember body "Severity" = some "warning"

/- One check is read anew, all others are read as before. -/
theorem replaced_polarisFindings
    (scanner : ScannerKind)
    {item item' doc doc' : Json}
    {m m' : String × Json}
    (hItem : ReplacesElem "Results" item item' doc doc')
    (hCheck : ReplacesMember "Results" m m' item item') :
    Replaced
      (polarisFinding scanner (polarisTarget item) m).toList
      (polarisFinding scanner (polarisTarget item) m').toList
      (polarisFindings scanner doc)
      (polarisFindings scanner doc') := by
  have hTarget : polarisTarget item' = polarisTarget item := by
    unfold polarisTarget
    rw [hCheck.strMember_eq (by decide),
      hCheck.strMember_eq (by decide),
      hCheck.strMember_eq (by decide)]
  rcases hItem.replaced with
    ⟨items, items', hItems, hItems', hOuter⟩
  rcases hCheck.replaced with
    ⟨checks, checks', hChecks, hChecks', hInner⟩
  have hOne (check : String × Json) :
      [check].filterMap
          (polarisFinding scanner (polarisTarget item)) =
        (polarisFinding scanner (polarisTarget item)
          check).toList := by
    cases hFinding :
        polarisFinding scanner (polarisTarget item) check with
    | none => simp [hFinding]
    | some f => simp [hFinding]
  have hFindings := hInner.filterMap
    (polarisFinding scanner (polarisTarget item))
  rw [hOne, hOne] at hFindings
  rw [polarisFindings_eq, polarisFindings_eq]
  refine hFindings.trans ?_
  have hFlat := hOuter.flatMap (polarisItemFindings scanner)
  simpa [polarisItemFindings, hItems, hItems', hChecks,
    hChecks', hTarget] using hFlat

/- A failing check of this severity is read so. -/
theorem polarisFinding_of_severity
    (scanner : ScannerKind)
    (target check : String)
    {body : Json}
    {word : String}
    (hFailing :
      (body.get? "Success").bind Json.asBool = some false)
    (hSeverity : strMember body "Severity" = some word) :
    ∃ f,
      polarisFinding scanner target (check, body) = some f ∧
        ∀ now, (f now).severity = normalizeSeverity word := by
  unfold polarisFinding
  simp only [hFailing, hSeverity, Option.getD_some,
    Option.map_some, Bool.false_eq_true, if_false]
  exact ⟨_, rfl, fun _ => rfl⟩

/-
  The finding of the check falls from medium to low, and all
  others stay as they are.
-/
theorem replaced_of_warningToDanger
    (scanner : ScannerKind)
    {doc doc' : Json}
    (hEdit : WarningToDanger doc doc') :
    ∃ f f',
      Replaced [f] [f'] (polarisFindings scanner doc)
          (polarisFindings scanner doc') ∧
        ∀ now, (f now).severity = .medium ∧
          (f' now).severity = .low := by
  rcases hEdit with
    ⟨item, item', check, body, hItem, hCheck, hFailing,
      hWarning⟩
  have hReplaced :=
    replaced_polarisFindings scanner hItem hCheck
  have hFailing' :
      ((body.setMember "Severity" (.str "danger")).get?
        "Success").bind Json.asBool = some false := by
    rw [Json.get?_setMember, if_neg (by decide), hFailing]
  have hDanger :
      strMember (body.setMember "Severity" (.str "danger"))
        "Severity" = some "danger" := by
    rw [strMember, Json.get?_setMember, if_pos rfl]
    rfl
  rcases polarisFinding_of_severity scanner
      (polarisTarget item) check hFailing hWarning with
    ⟨f, hFinding, hMedium⟩
  rcases polarisFinding_of_severity scanner
      (polarisTarget item) check hFailing' hDanger with
    ⟨f', hFinding', hLow⟩
  rw [hFinding, hFinding'] at hReplaced
  refine ⟨f, f', hReplaced, fun now => ?_⟩
  exact ⟨hMedium now, hLow now⟩

end EngenhoPromessa

------------------------------------------------------------
-- Parsing
------------------------------------------------------------

namespace EngenhoPromessa

section

variable [SerdeJson]

/- No finding of the second text is lower than before. -/
def SarifKeepsOrder
    (scanner : ScannerKind)
    (raw raw' : String) : Prop :=
  ∃ fs fs',
    semgrepSarifParse raw scanner = .ok fs ∧
      semgrepSarifParse raw' scanner = .ok fs' ∧
      NeverLowers fs fs'

/- One finding may differ, and is not lower than before. -/
def PolarisKeepsOrder
    (scanner : ScannerKind)
    (raw raw' : String) : Prop :=
  ∃ fs fs',
    polarisParse raw scanner = .ok fs ∧
      polarisParse raw' scanner = .ok fs' ∧
      NeverLowers fs fs' ∧
      ∃ f f', Replaced [f] [f'] fs fs'

/- So it is for the document with that result. -/
theorem sarifKeepsOrder_iff
    (scanner : ScannerKind)
    {raw raw' level : String}
    {doc doc' : Json}
    (hDoc : SerdeJson.fromStr (Str.trimStart raw) =
      .ok doc)
    (hDoc' : SerdeJson.fromStr (Str.trimStart raw') =
      .ok doc')
    (hEdit : RepeatsLevel level doc doc') :
    SarifKeepsOrder scanner raw raw' ↔ level ≠ "error" := by
  rcases hEdit with
    ⟨run, run', r, word, hRun, hResult, hNone, hLevel,
      hWords, hSame⟩
  have hReplaced :=
    replaced_sarifFindings scanner hRun hResult
  rw [← notLower_withSeverity_iff scanner hNone hLevel
    hWords hSame, ← neverLowers_iff hReplaced]
  unfold SarifKeepsOrder semgrepSarifParse
  rw [parseWith_eq_ok _ _ hDoc, parseWith_eq_ok _ _ hDoc']
  simp only [Except.ok.injEq, exists_and_left,
    exists_eq_left']

/- A danger is taken for less than a warning. -/
theorem not_polarisKeepsOrder
    (scanner : ScannerKind)
    {raw raw' : String}
    {doc doc' : Json}
    (hDoc : SerdeJson.fromStr (Str.trimStart raw) =
      .ok doc)
    (hDoc' : SerdeJson.fromStr (Str.trimStart raw') =
      .ok doc')
    (hEdit : WarningToDanger doc doc') :
    ¬ PolarisKeepsOrder scanner raw raw' := by
  rintro ⟨fs, fs', hParse, hParse', hKept, -⟩
  rw [polarisParse, parseWith_eq_ok _ _ hDoc] at hParse
  rw [polarisParse, parseWith_eq_ok _ _ hDoc'] at hParse'
  rcases replaced_of_warningToDanger scanner hEdit with
    ⟨f, f', hReplaced, hGrades⟩
  rw [← Except.ok.inj hParse, ← Except.ok.inj hParse',
    neverLowers_iff hReplaced] at hKept
  have hLower := hKept ⟨0⟩
  rw [(hGrades ⟨0⟩).1, (hGrades ⟨0⟩).2] at hLower
  exact absurd hLower (by decide)

/-
  The order is kept for all SARIF levels but `error`, and
  for no Polaris check.
-/
theorem severity_order_kept_iff
    (scanner : ScannerKind)
    {raw raw' : String}
    {doc doc' : Json}
    (hDoc : SerdeJson.fromStr (Str.trimStart raw) =
      .ok doc)
    (hDoc' : SerdeJson.fromStr (Str.trimStart raw') =
      .ok doc') :
    (∀ level, RepeatsLevel level doc doc' →
      (SarifKeepsOrder scanner raw raw' ↔
        level ≠ "error")) ∧
      (WarningToDanger doc doc' →
        ¬ PolarisKeepsOrder scanner raw raw') :=
  ⟨fun _ hEdit => sarifKeepsOrder_iff scanner hDoc hDoc' hEdit,
    not_polarisKeepsOrder scanner hDoc hDoc'⟩

end

namespace Reference

/- A reader that knows some more texts. -/
@[reducible] def reading
    (documents : List (String × Json)) : SerdeJson :=
  { serdeJson with
    fromStr := fun s =>
      match documents.lookup s with
      | some doc => .ok doc
      | none => fromStr s }

/- One result, an error. -/
def sarifText : String :=
  "\x7b\"runs\":[\x7b\"results\":[\x7b\"level\":\"error\"" ++
    "\x7d]\x7d]\x7d"

/- The same result with its level repeated. -/
def annotatedSarifText : String :=
  "\x7b\"runs\":[\x7b\"results\":[\x7b\"level\":\"error\"," ++
    "\"properties\":\x7b\"severity\":\"ERROR\"\x7d" ++
    "\x7d]\x7d]\x7d"

/- One failed check of the given severity. -/
def polarisText (severity : String) : String :=
  "\x7b\"Results\":[\x7b\"Results\":\x7b\"hostIPCSet\":" ++
    "\x7b\"Success\":false,\"Severity\":\"" ++ severity ++
    "\"\x7d\x7d\x7d]\x7d"

/- A result that is an error. -/
def errorResult : Json := .obj [("level", .str "error")]

/- A document with one result. -/
def sarifDocument (result : Json) : Json :=
  .obj [("runs", .arr [.obj [("results", .arr [result])]])]

/- A document with one failed check. -/
def polarisDocument (severity : String) : Json :=
  .obj [("Results", .arr [.obj [("Results", .obj
    [("hostIPCSet", .obj
      [("Success", .bool false),
        ("Severity", .str severity)])])]])]

/- Reads these four texts. -/
@[reducible] def scannerReader : SerdeJson :=
  reading
    [(sarifText, sarifDocument errorResult),
      (annotatedSarifText,
        sarifDocument (withSeverity "ERROR" errorResult)),
      (polarisText "warning", polarisDocument "warning"),
      (polarisText "danger", polarisDocument "danger")]

theorem fromStr_sarifText :
    scannerReader.fromStr (Str.trimStart sarifText) =
      .ok (sarifDocument errorResult) := by
  rw [show Str.trimStart sarifText = sarifText by decide]
  rfl

set_option maxRecDepth 1024 in
/- The text of the annotated error is read. -/
theorem fromStr_annotatedSarifText :
    scannerReader.fromStr
        (Str.trimStart annotatedSarifText) =
      .ok (sarifDocument
        (withSeverity "ERROR" errorResult)) := by
  rw [show Str.trimStart annotatedSarifText =
    annotatedSarifText by decide]
  rfl

set_option maxRecDepth 1024 in
theorem fromStr_polarisText_warning :
    scannerReader.fromStr
        (Str.trimStart (polarisText "warning")) =
      .ok (polarisDocument "warning") := by
  rw [show Str.trimStart (polarisText "warning") =
    polarisText "warning" by decide]
  rfl

set_option maxRecDepth 1024 in
/- The text of the danger is read. -/
theorem fromStr_polarisText_danger :
    scannerReader.fromStr
        (Str.trimStart (polarisText "danger")) =
      .ok (polarisDocument "danger") := by
  rw [show Str.trimStart (polarisText "danger") =
    polarisText "danger" by decide]
  rfl

/- The second text repeats the level of the first. -/
theorem repeatsLevel_annotated :
    RepeatsLevel "error" (sarifDocument errorResult)
      (sarifDocument (withSeverity "ERROR" errorResult)) :=
  ⟨_, _, errorResult, "ERROR", ⟨[], [], rfl, rfl⟩,
    ⟨[], [], rfl, rfl⟩, rfl, rfl, by decide, by decide⟩

/- The danger is the warning, made worse. -/
theorem warningToDanger_polarisDocument :
    WarningToDanger (polarisDocument "warning")
      (polarisDocument "danger") :=
  ⟨_, _, "hostIPCSet", _, ⟨[], [], rfl, rfl⟩,
    ⟨[], [], rfl, rfl⟩, rfl, rfl⟩

end Reference

open Reference

/- Each part at the documents that it is about. -/
theorem severity_order_kept_iff_error :
    letI := scannerReader
    (∀ level,
      RepeatsLevel level (sarifDocument errorResult)
          (sarifDocument
            (withSeverity "ERROR" errorResult)) →
        (SarifKeepsOrder .semgrep sarifText
            annotatedSarifText ↔
          level ≠ "error")) ∧
      ¬ PolarisKeepsOrder .polaris (polarisText "warning")
        (polarisText "danger") :=
  letI := scannerReader
  ⟨(severity_order_kept_iff .semgrep fromStr_sarifText
      fromStr_annotatedSarifText).1,
    (severity_order_kept_iff .polaris
      fromStr_polarisText_warning
      fromStr_polarisText_danger).2
      warningToDanger_polarisDocument⟩

/- An error repeated, and a check that turns to danger. -/
theorem severity_order_lost :
    letI := scannerReader
    (RepeatsLevel "error" (sarifDocument errorResult)
        (sarifDocument (withSeverity "ERROR" errorResult)) ∧
      ¬ SarifKeepsOrder .semgrep sarifText
        annotatedSarifText) ∧
      WarningToDanger (polarisDocument "warning")
        (polarisDocument "danger") ∧
      ¬ PolarisKeepsOrder .polaris (polarisText "warning")
        (polarisText "danger") := by
  let reader := scannerReader
  refine ⟨⟨repeatsLevel_annotated, fun hKept => ?_⟩,
    warningToDanger_polarisDocument, ?_⟩
  · exact (sarifKeepsOrder_iff .semgrep fromStr_sarifText
      fromStr_annotatedSarifText
      repeatsLevel_annotated).mp hKept rfl
  · exact not_polarisKeepsOrder .polaris
      fromStr_polarisText_warning
      fromStr_polarisText_danger
      warningToDanger_polarisDocument

end EngenhoPromessa
