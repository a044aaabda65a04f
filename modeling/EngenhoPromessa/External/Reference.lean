import EngenhoPromessa.PromessaTypes.Action
import EngenhoPromessa.External.Crates
import Mathlib.Data.List.Nodup

/-
  Executable stand-ins for the external crates, exact on the
  values that the examples of this development pass to them:
  the first seconds of the epoch, the empty documents and the
  JSON form that serde derives for actions and outcomes.

  Key definitions include:
    * `Reference.chrono`
    * `Reference.blake3`
    * `Reference.serdeJson`
    * `Reference.compact`
    * `Reference.promessaSerde`
-/

------------------------------------------------------------
-- Time
------------------------------------------------------------

namespace EngenhoPromessa

namespace Reference

/- The nanoseconds of a second. -/
def nanosPerSecond : Int := 1000000000

/- The instant `s` seconds after the epoch. -/
def second (s : Nat) : DateTime where
  nanos := s * nanosPerSecond

/- Every other instant is tallied in nanoseconds. -/
def tally (t : DateTime) : List Char :=
  match t.nanos with
  | .ofNat n => '+' :: List.replicate n 'n'
  | .negSucc n => '-' :: List.replicate n 'n'

/- Counts a tally back. -/
def ofTally : List Char → Option DateTime
| '+' :: cs => some ⟨.ofNat cs.length⟩
| '-' :: cs => some ⟨.negSucc cs.length⟩
| _ => none

theorem ofTally_tally (t : DateTime) :
    ofTally (tally t) = some t := by
  rcases t with ⟨n | n⟩
  · simp [tally, ofTally]
  · simp [tally, ofTally]

/- The text of the table, or else a tally. -/
def printWith
    (table : List (DateTime × String))
    (t : DateTime) : String :=
  match table.lookup t with
  | some s => s
  | none => String.ofList (tally t)

/- Looks a text up in the table, or else counts it. -/
def parseWith
    (table : List (DateTime × String))
    (s : String) : Option DateTime :=
  match table.find? (fun entry => entry.2 = s) with
  | some entry => some entry.1
  | none => ofTally s.toList

/- A table whose texts differ from each other and tallies. -/
theorem parseWith_printWith
    {table : List (DateTime × String)}
    (hTexts : (table.map Prod.snd).Nodup)
    (hTally :
      ∀ entry ∈ table, ofTally entry.2.toList = none)
    (t : DateTime) :
    parseWith table (printWith table t) = some t := by
  cases hLookup : table.lookup t with
  | some s =>
      have hMem : (t, s) ∈ table := by
        rw [List.lookup_eq_some_iff] at hLookup
        rcases hLookup with ⟨before, after, rfl, _⟩
        simp
      have hSome :
          (table.find? (fun entry => entry.2 = s)).isSome := by
        rw [List.find?_isSome]
        exact ⟨(t, s), hMem, by simp⟩
      rcases Option.isSome_iff_exists.mp hSome with
        ⟨entry, hFind⟩
      have hText : entry.2 = s := by
        simpa using List.find?_some hFind
      have hEq : entry = (t, s) :=
        List.inj_on_of_nodup_map hTexts
          (List.mem_of_find?_eq_some hFind) hMem hText
      simp [printWith, parseWith, hLookup, hFind, hEq]
  | none =>
      have hFind :
          table.find? (fun entry =>
            entry.2 = String.ofList (tally t)) = none := by
        rw [List.find?_eq_none]
        intro entry hEntry
        have hNone := hTally entry hEntry
        intro hText
        have hText : entry.2 = String.ofList (tally t) := by
          simpa using hText
        rw [hText, String.toList_ofList, ofTally_tally]
          at hNone
        simp at hNone
      simp [printWith, parseWith, hLookup, hFind,
        ofTally_tally]

/- The first seconds as serde writes them. -/
def serializedSeconds : List (DateTime × String) :=
  [(second 0, "1970-01-01T00:00:00Z"),
    (second 1, "1970-01-01T00:00:01Z"),
    (second 2, "1970-01-01T00:00:02Z"),
    (second 3, "1970-01-01T00:00:03Z")]

/- The same as `to_rfc3339` writes them. -/
def rfc3339Seconds : List (DateTime × String) :=
  [(second 0, "1970-01-01T00:00:00+00:00"),
    (second 1, "1970-01-01T00:00:01+00:00"),
    (second 2, "1970-01-01T00:00:02+00:00"),
    (second 3, "1970-01-01T00:00:03+00:00")]

instance chrono : Chrono where
  serialize := printWith serializedSeconds
  deserialize := parseWith serializedSeconds
  toRfc3339 := printWith rfc3339Seconds
  deserialize_serialize :=
    parseWith_printWith (by decide) (by decide)
  toRfc3339_injective := by
    intro t t' hEq
    have hParse :
        ∀ t, parseWith rfc3339Seconds
          (printWith rfc3339Seconds t) = some t :=
      parseWith_printWith (by decide) (by decide)
    have hSome := (hParse t).symm.trans
      ((congrArg _ hEq).trans (hParse t'))
    simpa using hSome

end Reference

end EngenhoPromessa

------------------------------------------------------------
-- Hashes And JSON Text
------------------------------------------------------------

namespace EngenhoPromessa

namespace Reference

/- The hash of `[]`, the canonical bytes of no findings. -/
instance blake3 : Blake3 where
  hashHex bytes :=
    if bytes = [91, 93] then
      "d53d18c23212ea7b6300594bb89bce60" ++
        "218f6eff2b9d628b8cc42d3e79bbd5ab"
    else
      ""

/- What serde says of a text that is no value. -/
def syntaxError (s : String) : String :=
  if s = "" then
    "EOF while parsing a value at line 1 column 0"
  else
    "expected value at line 1 column 1"

/- The empty documents are read; other texts are refused. -/
def fromStr (s : String) : Except String Json :=
  if s = "[]" then
    .ok (.arr [])
  else if s = "\x7b\x7d" then
    .ok (.obj [])
  else
    .error (syntaxError s)

/- The bytes of an empty value; no other is needed here. -/
def toVec : Json → List UInt8
| .arr [] => [91, 93]
| .obj [] => [123, 125]
| _ => []

instance serdeJson : SerdeJson where
  fromStr := fromStr
  toVec := toVec
  asF32
    | .int _ => ⟨0⟩
    | .float bits => ⟨bits.toUInt32⟩
  ofF32 x := .float x.bits.toUInt64
  asF32_ofF32 x := by simp

/- A character of a text that has no control characters. -/
def escaped (c : Char) : List Char :=
  if c = '"' then ['\\', '"']
  else if c = '\\' then ['\\', '\\']
  else [c]

/- A text in quotes, with what must be escaped. -/
def quoted (s : String) : List Char :=
  '"' :: s.toList.flatMap escaped ++ ['"']

mutual

/- The text of a value that has no floating-point numbers. -/
def compact : Json → List Char
| .null => "null".toList
| .bool b => (toString b).toList
| .num (.int n) => (toString n).toList
| .num (.float _) => []
| .str s => quoted s
| .arr elems =>
    '[' :: [','].intercalate (compactElems elems) ++ [']']
| .obj ms =>
    '\x7b' :: [','].intercalate (compactMembers ms) ++
      ['\x7d']

/- The texts of the elements. -/
def compactElems : List Json → List (List Char)
| [] => []
| elem :: elems => compact elem :: compactElems elems

/- The texts of the members. -/
def compactMembers :
    List (String × Json) → List (List Char)
| [] => []
| (key, value) :: ms =>
    (quoted key ++ ':' :: compact value) ::
      compactMembers ms

end

end Reference

end EngenhoPromessa

------------------------------------------------------------
-- Actions And Outcomes
------------------------------------------------------------

namespace EngenhoPromessa

namespace Reference

mutual

/- An action under its name, as serde writes an enum. -/
def encodeAction : TypedAction → Json
| .fluxCommit path patch =>
    .obj [("FluxCommit",
      .obj [("path", .str path), ("patch", patch)])]
| .reconcilerApply reconciler spec =>
    .obj [("ReconcilerApply",
      .obj [("reconciler", .str reconciler.debugName),
        ("spec", spec)])]
| .magmaApply payload => .obj [("MagmaApply", payload)]
| .cofreRotate payload => .obj [("CofreRotate", payload)]
| .crachaPatch payload => .obj [("CrachaPatch", payload)]
| .custom kind payload =>
    .obj [("Custom",
      .obj [("kind", .str kind), ("payload", payload)])]
| .compose steps =>
    .obj [("Compose", .arr (encodeActions steps))]
| .noop => .str "Noop"

/- The steps of a compose. -/
def encodeActions : List TypedAction → List Json
| [] => []
| step :: steps => encodeAction step :: encodeActions steps

end

/- A kind is read by its name. -/
def decodeKind (s : String) : Option ReconcilerKind :=
  [.cartorioAdmit, .ghcrTagRevoke, .harborMirror,
    .cosignAttest, .sbomGenerate, .slsaProvenance,
    .renovateBaseImageBump].find?
      (fun kind => kind.debugName = s)

mutual

/- An action is read by the name it is written under. -/
def decodeAction : Json → Option TypedAction
| .str "Noop" => some .noop
| .obj [("Compose", .arr steps)] =>
    (decodeActions steps).map .compose
| .obj [("FluxCommit", body)] =>
    match body.structValues ["path", "patch"] with
    | some [.str path, patch] => some (.fluxCommit path patch)
    | _ => none
| .obj [("ReconcilerApply", body)] =>
    match body.structValues ["reconciler", "spec"] with
    | some [.str kind, spec] =>
        (decodeKind kind).map (.reconcilerApply · spec)
    | _ => none
| _ => none

/- The steps of a compose, all of which must be read. -/
def decodeActions : List Json → Option (List TypedAction)
| [] => some []
| step :: steps =>
    match decodeAction step, decodeActions steps with
    | some action, some actions => some (action :: actions)
    | _, _ => none

end

/- An error under its name. -/
def encodeError : ReconcilerError → Json
| .invalidSpec detail =>
    .obj [("InvalidSpec", .obj [("detail", .str detail)])]
| .internal detail =>
    .obj [("Internal", .obj [("detail", .str detail)])]
| .transient detail =>
    .obj [("Transient", .obj [("detail", .str detail)])]
| .substrateRefused detail =>
    .obj [("SubstrateRefused",
      .obj [("detail", .str detail)])]

/- An outcome under its name. -/
def encodeOutcome : ErasedOutcome → Json
| .applied receipt =>
    .obj [("Applied", .obj [("receipt", receipt)])]
| .alreadyConverged => .str "AlreadyConverged"
| .flagGated flag =>
    .obj [("FlagGated", .obj [("flag", .str flag)])]
| .failed error =>
    .obj [("Failed", .obj [("error", encodeError error)])]

theorem encodeAction_ne_null (action : TypedAction) :
    encodeAction action ≠ .null := by
  cases action <;> simp [encodeAction]

instance promessaSerde : PromessaSerde where
  actionToValue action := some (encodeAction action)
  actionFromValue := decodeAction
  outcomeToValue := encodeOutcome
  actionToValue_ne_null := by
    intro action j hSome
    rw [← Option.some.inj hSome]
    exact encodeAction_ne_null action

end Reference

end EngenhoPromessa
