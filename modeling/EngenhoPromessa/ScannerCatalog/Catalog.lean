import EngenhoPromessa.Crds.ScanJob
import EngenhoPromessa.Text.Str

/-
  The scanner catalog: for every scanner kind its image, the
  field its target comes from, its argument template and the
  format of its output.

  Key definitions include:
    * `TargetField`
    * `OutputFormat`
    * `ScannerImpl`
    * `Catalog.forKind`
    * `mirrorImage`
-/

------------------------------------------------------------
-- Entries
------------------------------------------------------------

namespace EngenhoPromessa

/- Where a scanner's target comes from. -/
inductive TargetField where
  | digest
  | source
  | tenantUrl
  | none
deriving DecidableEq, Repr

/- What a scanner is started with. -/
inductive ArgsTemplate where
  | static (args : List String)
deriving DecidableEq, Repr

namespace ArgsTemplate

/- Only an argument equal to the placeholder is replaced. -/
def render
    (template : ArgsTemplate)
    (target : Option String) : List String :=
  match template with
  | .static args =>
      args.map (fun s =>
        if s = "$\x7btarget\x7d" then
          target.getD ""
        else
          s)

end ArgsTemplate

/- The format of what a scanner prints. -/
inductive OutputFormat where
  | trivyJson
  | grypeJson
  | syftSpdx
  | trufflehogNdjson
  | semgrepSarif
  | kubeLinterJson
  | kubeBenchJson
  | kubeHunterJson
  | polarisJson
  | zapJson
  | noOp
deriving DecidableEq, Repr

/- An entry of the catalog. -/
structure ScannerImpl where
  kind : ScannerKind
  «class» : ScannerClass
  defaultEnabled : Bool
  image : String
  targetField : TargetField
  args : ArgsTemplate
  outputFormat : OutputFormat
deriving Repr

end EngenhoPromessa

------------------------------------------------------------
-- The Catalog
------------------------------------------------------------

namespace EngenhoPromessa

namespace Catalog

/- The catalog: one entry for each scanner. -/
def forKind : ScannerKind → ScannerImpl
| .trivy =>
    { kind := .trivy
      «class» := .cve
      defaultEnabled := true
      image := "aquasec/trivy:0.50.0"
      targetField := .digest
      args := .static
        ["image", "--quiet", "--format=json",
          "--severity=CRITICAL,HIGH,MEDIUM,LOW",
          "$\x7btarget\x7d"]
      outputFormat := .trivyJson }
| .grype =>
    { kind := .grype
      «class» := .cve
      defaultEnabled := true
      image := "anchore/grype:v0.74.7"
      targetField := .digest
      args := .static ["$\x7btarget\x7d", "-q", "-o", "json"]
      outputFormat := .grypeJson }
| .syft =>
    { kind := .syft
      «class» := .cve
      defaultEnabled := true
      image := "anchore/syft:v1.4.1"
      targetField := .digest
      args := .static
        ["$\x7btarget\x7d", "-q", "-o", "spdx-json"]
      outputFormat := .syftSpdx }
| .trufflehog =>
    { kind := .trufflehog
      «class» := .sast
      defaultEnabled := true
      image := "trufflesecurity/trufflehog:3.78.0"
      targetField := .digest
      args := .static
        ["docker", "--image", "$\x7btarget\x7d", "--json",
          "--no-update"]
      outputFormat := .trufflehogNdjson }
| .semgrep =>
    { kind := .semgrep
      «class» := .sast
      defaultEnabled := true
      image := "returntocorp/semgrep:1.78.0"
      targetField := .source
      args := .static
        ["semgrep", "--quiet", "--config=auto", "--sarif",
          "$\x7btarget\x7d"]
      outputFormat := .semgrepSarif }
| .kubeLinter =>
    { kind := .kubeLinter
      «class» := .hardening
      defaultEnabled := true
      image := "stackrox/kube-linter:v0.6.8"
      targetField := .source
      args := .static
        ["lint", "$\x7btarget\x7d", "--format=json"]
      outputFormat := .kubeLinterJson }
| .kubeBench =>
    { kind := .kubeBench
      «class» := .hardening
      defaultEnabled := true
      image := "aquasec/kube-bench:v0.7.3"
      targetField := .none
      args := .static ["run", "--json"]
      outputFormat := .kubeBenchJson }
| .kubeHunter =>
    { kind := .kubeHunter
      «class» := .hardening
      defaultEnabled := true
      image := "aquasec/kube-hunter:0.6.10"
      targetField := .none
      args := .static ["--pod", "--report", "json"]
      outputFormat := .kubeHunterJson }
| .polaris =>
    { kind := .polaris
      «class» := .hardening
      defaultEnabled := true
      image := "quay.io/fairwinds/polaris:8.5"
      targetField := .none
      args := .static ["audit", "--format=json"]
      outputFormat := .polarisJson }
| .stigCisValidator =>
    { kind := .stigCisValidator
      «class» := .hardening
      defaultEnabled := true
      image := "aquasec/trivy:0.50.0"
      targetField := .none
      args := .static
        ["k8s", "--quiet", "--report=summary",
          "--format=json", "--compliance=k8s-cis"]
      outputFormat := .trivyJson }
| .zap =>
    { kind := .zap
      «class» := .dast
      defaultEnabled := true
      image := "softwaresecurityproject/zap-stable:2.15.0"
      targetField := .tenantUrl
      args := .static
        ["zap-baseline.py", "-t", "$\x7btarget\x7d", "-J",
          "/scan/result.json"]
      outputFormat := .zapJson }
| .snyk =>
    { kind := .snyk
      «class» := .cve
      defaultEnabled := false
      image := "snyk/snyk:docker"
      targetField := .digest
      args := .static
        ["container", "test", "$\x7btarget\x7d",
          "--json-file-output=/scan/result.json"]
      outputFormat := .noOp }
| .dockerScout =>
    { kind := .dockerScout
      «class» := .cve
      defaultEnabled := false
      image := "docker/scout-cli:1.18.0"
      targetField := .digest
      args := .static
        ["cves", "$\x7btarget\x7d", "--format=sarif",
          "--output=/scan/result.json"]
      outputFormat := .noOp }
| .jfrogXray =>
    { kind := .jfrogXray
      «class» := .cve
      defaultEnabled := false
      image :=
        "releases-docker.jfrog.io/jfrog/jfrog-cli-v2:2.55.0"
      targetField := .digest
      args := .static ["docker", "scan", "$\x7btarget\x7d"]
      outputFormat := .noOp }
| .wiz =>
    { kind := .wiz
      «class» := .cve
      defaultEnabled := false
      image := "wiziocli/wizcli:latest"
      targetField := .digest
      args := .static
        ["docker", "scan", "--image", "$\x7btarget\x7d",
          "--output=json"]
      outputFormat := .noOp }
| .prismaCloud =>
    { kind := .prismaCloud
      «class» := .cve
      defaultEnabled := false
      image := "twistlock/twistcli:latest"
      targetField := .digest
      args := .static
        ["images", "scan",
          "--output-file=/scan/result.json",
          "$\x7btarget\x7d"]
      outputFormat := .noOp }
| .burpEnterprise =>
    { kind := .burpEnterprise
      «class» := .dast
      defaultEnabled := false
      image := "portswigger/burp-enterprise-edition:latest"
      targetField := .tenantUrl
      args := .static ["scan", "--target=$\x7btarget\x7d"]
      outputFormat := .noOp }
| .codeql =>
    { kind := .codeql
      «class» := .sast
      defaultEnabled := false
      image := "ghcr.io/github/codeql-cli:2.17.0"
      targetField := .source
      args := .static
        ["database", "analyze", "$\x7btarget\x7d",
          "--format=sarifv2.1.0",
          "--output=/scan/result.json"]
      outputFormat := .semgrepSarif }

end Catalog

/-
  Rewrite an image reference to its mirror. A first segment
  with a dot or a colon, or `localhost`, is a registry host.
-/
def mirrorImage
    (canonical : String)
    (mirrorPrefix : Option String) : String :=
  match mirrorPrefix with
  | none => canonical
  | some pre =>
      let stripped :=
        match Str.splitOnce '/' canonical with
        | some (host, rest) =>
            if host.toList.contains '.' ||
                host.toList.contains ':' ||
                host == "localhost" then
              rest
            else
              canonical
        | none => canonical
      Str.trimEndMatches '/' pre ++ "/" ++ stripped

end EngenhoPromessa
