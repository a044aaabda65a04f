import EngenhoPromessa.ScannerCatalog.Catalog

/-
  The scanner output parsers. Each maps a scanner's native
  JSON to findings; a member that is missing or of the wrong
  type reads as its default and never fails the parse.

  A finding takes its `first_seen` from the clock when it is
  made, so a parser yields findings still waiting for it and
  `stampFindings` hands out the successive readings.

  Key definitions include:
    * `ParserError`
    * `normalizeSeverity`
    * `makeFinding`
    * `trufflehogParse`
    * `parseScannerOutput`
-/

------------------------------------------------------------
-- Common Helpers
------------------------------------------------------------

namespace EngenhoPromessa

/- Why an output was not read. -/
inductive ParserError where
  | json (scanner : ScannerKind) (detail : String)
  | noParser (scanner : ScannerKind)
deriving DecidableEq, Repr

/-
  The severities under the words that tools use; any other
  word is low.
-/
def normalizeSeverity (raw : String) : ScanFindingSeverity :=
  match Str.toAsciiUppercase raw with
  | "CRITICAL" => .critical
  | "VERY-HIGH" => .critical
  | "VERY_HIGH" => .critical
  | "HIGH" => .high
  | "MEDIUM" => .medium
  | "MODERATE" => .medium
  | "WARNING" => .medium
  | _ => .low

/- A finding that waits for the time it was first seen. -/
abbrev UnstampedFinding := DateTime → ScanFinding

/- A finding, first seen when it is stamped. -/
def makeFinding
    (scanner : ScannerKind)
    (cveId : Option String)
    (severity : ScanFindingSeverity)
    (cvssV3 : Option F32)
    (fixedIn : Option String)
    (message : Option String) : UnstampedFinding :=
  fun now =>
    { scanner, cveId, severity
      firstSeen := now
      fixedIn
      exceptionId := none
      cvssV3, message }

/- The `i`th finding made reads the clock for the `i`th time. -/
def stampFindings
    (clock : Nat → DateTime)
    (findings : List UnstampedFinding) : List ScanFinding :=
  findings.mapIdx (fun i finding => finding (clock i))

/- The text under a key, if there is one. -/
def strMember (j : Json) (key : String) : Option String :=
  (j.get? key).bind Json.asStr

/- The array under a key, if there is one. -/
def arrayMember
    (j : Json)
    (key : String) : Option (List Json) :=
  (j.get? key).bind Json.asArray

/- The document every parser but one starts from. -/
def parseDocument
    [SerdeJson]
    (raw : String)
    (scanner : ScannerKind) : Except ParserError Json :=
  match SerdeJson.fromStr (Str.trimStart raw) with
  | .ok value => .ok value
  | .error detail => .error (.json scanner detail)

end EngenhoPromessa

------------------------------------------------------------
-- Vulnerability Scanners
------------------------------------------------------------

namespace EngenhoPromessa

variable [SerdeJson]

/- One vulnerability of Trivy. -/
def trivyFinding
    (scanner : ScannerKind)
    (v : Json) : UnstampedFinding :=
  let severity :=
    ((strMember v "Severity").map normalizeSeverity).getD
      .low
  let cvssV3 :=
    ((((v.get? "CVSS").bind (fun c => c.get? "nvd")).bind
        (fun n => n.get? "V3Score")).bind
      Json.asNumber).map SerdeJson.asF32
  let message :=
    match strMember v "PkgName", strMember v "Title" with
    | some p, some t => some (p ++ ": " ++ t)
    | some p, none => some p
    | none, some t => some t
    | none, none => none
  makeFinding scanner (strMember v "VulnerabilityID")
    severity cvssV3 (strMember v "FixedVersion") message

/- The findings of a Trivy report. -/
def trivyFindings
    (scanner : ScannerKind)
    (value : Json) : List UnstampedFinding :=
  match arrayMember value "Results" with
  | none => []
  | some results =>
      results.flatMap (fun r =>
        match arrayMember r "Vulnerabilities" with
        | none => []
        | some vulns => vulns.map (trivyFinding scanner))

/- The score of the first version 3 entry that has one. -/
def grypeScore (entries : List Json) : Option F32 :=
  entries.findSome? (fun entry =>
    match strMember entry "version" with
    | none => none
    | some v =>
        if Str.startsWith "3." v then
          (((entry.get? "metrics").bind
            (fun m => m.get? "baseScore")).bind
              Json.asNumber).map SerdeJson.asF32
        else
          none)

/- One match of Grype. -/
def grypeFinding
    (scanner : ScannerKind)
    (m : Json) : UnstampedFinding :=
  let vuln := m.get? "vulnerability"
  let cveId := vuln.bind (fun v => strMember v "id")
  let severity :=
    ((vuln.bind (fun v => strMember v "severity")).map
      normalizeSeverity).getD .low
  let cvssV3 :=
    (vuln.bind (fun v => arrayMember v "cvss")).bind
      grypeScore
  let fixedIn :=
    (((vuln.bind (fun v => v.get? "fix")).bind
      (fun f => arrayMember f "versions")).bind
        List.head?).bind Json.asStr
  let message :=
    (m.get? "artifact").bind (fun a => strMember a "name")
  makeFinding scanner cveId severity cvssV3 fixedIn message

/- The findings of a Grype report. -/
def grypeFindings
    (scanner : ScannerKind)
    (value : Json) : List UnstampedFinding :=
  match arrayMember value "matches" with
  | none => []
  | some found => found.map (grypeFinding scanner)

omit [SerdeJson] in
/- One package of Syft; it is no fault, so it is low. -/
def syftFinding
    (scanner : ScannerKind)
    (p : Json) : UnstampedFinding :=
  let name := (strMember p "name").getD ""
  let version := (strMember p "versionInfo").getD ""
  let message :=
    if version.isEmpty then
      "sbom-package: " ++ name
    else
      "sbom-package: " ++ name ++ "@" ++ version
  makeFinding scanner none .low none none (some message)

omit [SerdeJson] in
/- The packages of a Syft document. -/
def syftFindings
    (scanner : ScannerKind)
    (value : Json) : List UnstampedFinding :=
  match arrayMember value "packages" with
  | none => []
  | some packages => packages.map (syftFinding scanner)

end EngenhoPromessa

------------------------------------------------------------
-- Source And Secret Scanners
------------------------------------------------------------

namespace EngenhoPromessa

/- The severity of a SARIF level. -/
def mapSarifLevel (level : String) : ScanFindingSeverity :=
  match level with
  | "error" => .high
  | "warning" => .medium
  | _ => .low

/- The severity a tool gives counts before the level. -/
def sarifSeverity (r : Json) : ScanFindingSeverity :=
  ((((r.get? "properties").bind
      (fun p => strMember p "severity")).map
        normalizeSeverity).or
    ((strMember r "level").map mapSarifLevel)).getD .low

/- What is shown of a result: rule, place and text. -/
def sarifMessage
    (ruleId : Option String)
    (text loc : String) : String :=
  match ruleId with
  | some r =>
      if loc.isEmpty then
        if text.isEmpty then r else r ++ ": " ++ text
      else
        r ++ " at " ++ loc ++ ": " ++ text
  | none =>
      if loc.isEmpty then text
      else "at " ++ loc ++ ": " ++ text

/- One result of a SARIF run. -/
def sarifFinding
    (scanner : ScannerKind)
    (r : Json) : UnstampedFinding :=
  let ruleId := strMember r "ruleId"
  let text :=
    ((r.get? "message").bind
      (fun m => strMember m "text")).getD ""
  let loc :=
    (((((arrayMember r "locations").bind List.head?).bind
        (fun l => l.get? "physicalLocation")).bind
      (fun p => p.get? "artifactLocation")).bind
        (fun a => strMember a "uri")).getD ""
  let cveId := ruleId.filter (Str.startsWith "CVE-")
  makeFinding scanner cveId (sarifSeverity r) none none
    (some (sarifMessage ruleId text loc))

/- The findings of a SARIF document. -/
def sarifFindings
    (scanner : ScannerKind)
    (value : Json) : List UnstampedFinding :=
  match arrayMember value "runs" with
  | none => []
  | some runs =>
      runs.flatMap (fun run =>
        match arrayMember run "results" with
        | none => []
        | some results =>
            results.map (sarifFinding scanner))

/- One hit of Trufflehog, critical if it was verified. -/
def trufflehogFinding
    (scanner : ScannerKind)
    (v : Json) : UnstampedFinding :=
  let detector := (strMember v "DetectorName").getD "?"
  let verified :=
    ((v.get? "Verified").bind Json.asBool).getD false
  let path :=
    ((((v.get? "SourceMetadata").bind
        (fun m => m.get? "Data")).bind
      (fun d => d.get? "Git")).bind
        (fun g => strMember g "file")).getD "?"
  let message :=
    if verified then
      "verified secret (" ++ detector ++ ") at " ++ path
    else
      "unverified secret (" ++ detector ++ ") at " ++ path
  makeFinding scanner none
    (if verified then .critical else .high)
    none none (some message)

/-
  One record per line. A line that is not JSON is tolerated
  as a banner only when it is line number 0 of the text.
-/
def trufflehogLines
    [SerdeJson]
    (scanner : ScannerKind) :
    Nat → List String →
      Except ParserError (List UnstampedFinding)
| _, [] => .ok []
| idx, line :: rest =>
    let line := Str.trim line
    if line.isEmpty then
      trufflehogLines scanner (idx + 1) rest
    else
      match SerdeJson.fromStr line with
      | .ok v =>
          match trufflehogLines scanner (idx + 1) rest with
          | .ok found =>
              .ok (trufflehogFinding scanner v :: found)
          | .error e => .error e
      | .error e =>
          if idx = 0 then
            trufflehogLines scanner (idx + 1) rest
          else
            .error (.json scanner
              ("line " ++ toString idx ++ ": " ++ e))

end EngenhoPromessa

------------------------------------------------------------
-- Posture And Dynamic Scanners
------------------------------------------------------------

namespace EngenhoPromessa

/- One report of KubeLinter. -/
def kubeLinterFinding
    (scanner : ScannerKind)
    (r : Json) : UnstampedFinding :=
  let check := (strMember r "Check").getD ""
  let diag := r.get? "Diagnostic"
  let msg :=
    (diag.bind (fun d => strMember d "Message")).getD ""
  let severity :=
    ((diag.bind (fun d => strMember d "Severity")).map
      normalizeSeverity).getD .medium
  let obj :=
    (r.get? "Object").bind (fun o => o.get? "K8sObject")
  let target :=
    match obj.bind (fun o => strMember o "Namespace"),
        obj.bind (fun o => strMember o "Name") with
    | some ns, some n => ns ++ "/" ++ n
    | none, some n => n
    | _, none => ""
  let message :=
    if target.isEmpty then
      check ++ ": " ++ msg
    else
      check ++ " on " ++ target ++ ": " ++ msg
  makeFinding scanner none severity none none (some message)

/- The findings of a KubeLinter document. -/
def kubeLinterFindings
    (scanner : ScannerKind)
    (value : Json) : List UnstampedFinding :=
  match arrayMember value "Reports" with
  | none => []
  | some reports => reports.map (kubeLinterFinding scanner)

/- Only a failed or a warned check is a finding. -/
def kubeBenchFinding
    (scanner : ScannerKind)
    (r : Json) : Option UnstampedFinding :=
  let severity : Option ScanFindingSeverity :=
    match (strMember r "status").getD "PASS" with
    | "FAIL" => some .high
    | "WARN" => some .medium
    | _ => none
  let testNo := (strMember r "test_number").getD "?"
  let desc := (strMember r "test_desc").getD ""
  let message := "CIS " ++ testNo ++ ": " ++ desc
  severity.map (fun s =>
    makeFinding scanner none s none none (some message))

/- The failed and warned checks of KubeBench. -/
def kubeBenchFindings
    (scanner : ScannerKind)
    (value : Json) : List UnstampedFinding :=
  match arrayMember value "Controls" with
  | none => []
  | some controls =>
      controls.flatMap (fun c =>
        match arrayMember c "tests" with
        | none => []
        | some tests =>
            tests.flatMap (fun t =>
              match arrayMember t "results" with
              | none => []
              | some results =>
                  results.filterMap
                    (kubeBenchFinding scanner)))

/- One vulnerability of KubeHunter. -/
def kubeHunterFinding
    (scanner : ScannerKind)
    (v : Json) : UnstampedFinding :=
  let severity :=
    ((strMember v "severity").map normalizeSeverity).getD
      .medium
  let vid := (strMember v "vid").getD "?"
  let name := (strMember v "vulnerability").getD ""
  makeFinding scanner none severity none none
    (some (vid ++ ": " ++ name))

/- The findings of a KubeHunter document. -/
def kubeHunterFindings
    (scanner : ScannerKind)
    (value : Json) : List UnstampedFinding :=
  match arrayMember value "vulnerabilities" with
  | none => []
  | some vulns => vulns.map (kubeHunterFinding scanner)

/- Only a check that did not succeed is a finding. -/
def polarisFinding
    (scanner : ScannerKind)
    (target : String)
    (check : String × Json) : Option UnstampedFinding :=
  let body := check.2
  let success :=
    ((body.get? "Success").bind Json.asBool).getD true
  let severity :=
    ((strMember body "Severity").map
      normalizeSeverity).getD .medium
  let msg := (strMember body "Message").getD ""
  if success then
    none
  else
    some (makeFinding scanner none severity none none
      (some (check.1 ++ " on " ++ target ++ ": " ++ msg)))

/- The failed checks of a Polaris audit. -/
def polarisFindings
    (scanner : ScannerKind)
    (value : Json) : List UnstampedFinding :=
  match arrayMember value "Results" with
  | none => []
  | some items =>
      items.flatMap (fun item =>
        let ns := (strMember item "Namespace").getD ""
        let name := (strMember item "Name").getD ""
        let kind := (strMember item "Kind").getD ""
        let target := kind ++ "/" ++ ns ++ "/" ++ name
        match (item.get? "Results").bind Json.asObject with
        | none => []
        | some checks =>
            checks.filterMap
              (polarisFinding scanner target))

/- One alert of ZAP, by the first word of its risk. -/
def zapFinding
    (scanner : ScannerKind)
    (a : Json) : UnstampedFinding :=
  let name := (strMember a "alert").getD ""
  let risk := (strMember a "riskdesc").getD "Low"
  let severity :=
    normalizeSeverity ((Str.firstWord risk).getD "Low")
  makeFinding scanner none severity none none
    (some ("ZAP: " ++ name))

/- The findings of a ZAP report. -/
def zapFindings
    (scanner : ScannerKind)
    (value : Json) : List UnstampedFinding :=
  match arrayMember value "site" with
  | none => []
  | some sites =>
      sites.flatMap (fun site =>
        match arrayMember site "alerts" with
        | none => []
        | some alerts => alerts.map (zapFinding scanner))

end EngenhoPromessa

------------------------------------------------------------
-- Dispatch
------------------------------------------------------------

namespace EngenhoPromessa

variable [SerdeJson]

/- A parser that reads one JSON document. -/
def parseWith
    (findings : ScannerKind → Json → List UnstampedFinding)
    (raw : String)
    (scanner : ScannerKind) :
    Except ParserError (List UnstampedFinding) :=
  match parseDocument raw scanner with
  | .ok value => .ok (findings scanner value)
  | .error e => .error e

/- Reads what Trivy prints. -/
def trivyParse := parseWith trivyFindings

/- Reads what Grype prints. -/
def grypeParse := parseWith grypeFindings

/- Reads what Syft prints. -/
def syftParse := parseWith syftFindings

/- Reads what Semgrep prints. -/
def semgrepSarifParse := parseWith sarifFindings

/- Reads what KubeLinter prints. -/
def kubeLinterParse := parseWith kubeLinterFindings

/- Reads what KubeBench prints. -/
def kubeBenchParse := parseWith kubeBenchFindings

/- Reads what KubeHunter prints. -/
def kubeHunterParse := parseWith kubeHunterFindings

/- Reads what Polaris prints. -/
def polarisParse := parseWith polarisFindings

/- Reads what ZAP prints. -/
def zapParse := parseWith zapFindings

/- Reads what Trufflehog prints, line by line. -/
def trufflehogParse
    (raw : String)
    (scanner : ScannerKind) :
    Except ParserError (List UnstampedFinding) :=
  trufflehogLines scanner 0 (Str.lines raw)

/- `scanner_catalog::parse_scanner_output`, before stamping. -/
def parseUnstamped
    (raw : String)
    (scanner : ScannerKind) :
    Except ParserError (List UnstampedFinding) :=
  match (Catalog.forKind scanner).outputFormat with
  | .trivyJson => trivyParse raw scanner
  | .grypeJson => grypeParse raw scanner
  | .syftSpdx => syftParse raw scanner
  | .trufflehogNdjson => trufflehogParse raw scanner
  | .semgrepSarif => semgrepSarifParse raw scanner
  | .kubeLinterJson => kubeLinterParse raw scanner
  | .kubeBenchJson => kubeBenchParse raw scanner
  | .kubeHunterJson => kubeHunterParse raw scanner
  | .polarisJson => polarisParse raw scanner
  | .zapJson => zapParse raw scanner
  | .noOp => .error (.noParser scanner)

namespace ScannerCatalog

/- Reads what a scanner prints, and stamps the findings. -/
def parseScannerOutput
    (clock : Nat → DateTime)
    (raw : String)
    (scanner : ScannerKind) :
    Except ParserError (List ScanFinding) :=
  match parseUnstamped raw scanner with
  | .ok findings => .ok (stampFindings clock findings)
  | .error e => .error e

end ScannerCatalog

end EngenhoPromessa
