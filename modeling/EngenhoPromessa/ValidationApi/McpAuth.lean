import EngenhoPromessa.Text.Utf8
import EngenhoPromessa.ValidationApi.McpHttp
import Mathlib.Data.List.GetD

/-
  The bearer token of the MCP endpoint, and the comparison
  that is written to take the same time for every token.

  Key definitions include:
    * `Mcp.ctEq`
    * `Mcp.AuthConfig`
    * `Mcp.authorize`

  Key theorems include:
    * `Mcp.ctEq_iff`
    * `Mcp.ctEq_iff_of_nul_free`
    * `Mcp.decidesEquality_iff`
    * `Mcp.authorize_eq_ok_iff`
-/

------------------------------------------------------------
-- Comparing Tokens
------------------------------------------------------------

namespace EngenhoPromessa

namespace Mcp

/- `s.as_bytes()`. -/
def asBytes (s : String) : List UInt8 :=
  s.toUTF8.data.toList

/- The shorter text is taken to go on with zeros. -/
def ctEq (a b : String) : Bool :=
  let aa := asBytes a
  let bb := asBytes b
  let n := max aa.length bb.length
  -- The cast to a byte drops the high bits.
  let acc := UInt8.ofNat (aa.length ^^^ bb.length)
  (List.range n).foldl
    (fun acc i => acc ||| (aa.getD i 0 ^^^ bb.getD i 0))
    acc == 0

theorem asBytes_injective : Function.Injective asBytes :=
  Str.asBytes_injective

theorem asBytes_append (a b : String) :
    asBytes (a ++ b) = asBytes a ++ asBytes b :=
  Str.asBytes_append a b

/- Differences that are joined are zero if each of them is. -/
theorem foldl_or_eq_zero_iff
    {α : Type}
    (f : α → UInt8)
    (as : List α)
    (acc : UInt8) :
    as.foldl (fun acc a => acc ||| f a) acc = 0 ↔
      acc = 0 ∧ ∀ a ∈ as, f a = 0 := by
  induction as generalizing acc with
  | nil => simp
  | cons a as ih =>
      rw [List.foldl_cons, ih, UInt8.or_eq_zero_iff,
        List.forall_mem_cons, and_assoc]

/- What the comparison tells apart. -/
theorem ctEq_iff (a b : String) :
    ctEq a b = true ↔
      UInt8.ofNat
          ((asBytes a).length ^^^ (asBytes b).length) = 0 ∧
        ∀ i, (asBytes a).getD i 0 = (asBytes b).getD i 0 := by
  unfold ctEq
  rw [beq_iff_eq, foldl_or_eq_zero_iff]
  refine and_congr_right fun _ => ?_
  simp only [UInt8.xor_eq_zero_iff, List.mem_range,
    lt_max_iff]
  refine forall_congr' fun i => ⟨fun hByte => ?_,
    fun hByte _ => hByte⟩
  by_cases hLt :
      i < (asBytes a).length ∨ i < (asBytes b).length
  · exact hByte hLt
  · rw [not_or, not_lt, not_lt] at hLt
    rw [List.getD_eq_default _ _ hLt.1,
      List.getD_eq_default _ _ hLt.2]

/- Lists that agree when padded with a value in neither. -/
theorem length_le_of_getD_eq
    {α : Type}
    {d : α}
    {as bs : List α}
    (hBs : d ∉ bs)
    (hPadded : ∀ i, as.getD i d = bs.getD i d) :
    bs.length ≤ as.length := by
  by_contra hLonger
  rw [not_le] at hLonger
  have hByte := hPadded as.length
  rw [List.getD_eq_default as d le_rfl,
    List.getD_eq_getElem bs d hLonger] at hByte
  exact hBs (hByte ▸ List.getElem_mem hLonger)

/- Padding hides no difference in texts without it. -/
theorem eq_of_getD_eq
    {α : Type}
    {d : α}
    {as bs : List α}
    (hAs : d ∉ as)
    (hBs : d ∉ bs)
    (hPadded : ∀ i, as.getD i d = bs.getD i d) :
    as = bs := by
  have hLength : as.length = bs.length :=
    le_antisymm
      (length_le_of_getD_eq hAs fun i => (hPadded i).symm)
      (length_le_of_getD_eq hBs hPadded)
  refine List.ext_getElem hLength fun i hA hB => ?_
  have hByte := hPadded i
  rwa [List.getD_eq_getElem as d hA,
    List.getD_eq_getElem bs d hB] at hByte

/- The comparison is exact where no text has a NUL. -/
theorem ctEq_iff_of_nul_free
    {a b : String}
    (hA : 0 ∉ asBytes a)
    (hB : 0 ∉ asBytes b) :
    ctEq a b = true ↔ a = b := by
  rw [ctEq_iff]
  constructor
  · rintro ⟨-, hPadded⟩
    exact asBytes_injective (eq_of_getD_eq hA hB hPadded)
  · rintro rfl
    simp

end Mcp

end EngenhoPromessa

------------------------------------------------------------
-- Where The Comparison Is Exact
------------------------------------------------------------

namespace EngenhoPromessa

namespace Mcp

/- What the comparison says of these texts is true. -/
def DecidesEquality (a b : String) : Prop :=
  ctEq a b = true ↔ a = b

/- A text of NUL characters. -/
def nuls (n : Nat) : String :=
  String.ofList (List.replicate n '\x00')

/- The text, followed by some blocks of 256 NULs. -/
def GrowsByNuls (a b : String) : Prop :=
  ∃ k, 0 < k ∧ b = a ++ nuls (256 * k)

/- NUL characters are zero bytes. -/
theorem asBytes_nuls (n : Nat) :
    asBytes (nuls n) = List.replicate n 0 := by
  induction n with
  | zero => rfl
  | succ n ih =>
      have hLast : nuls (n + 1) = nuls n ++ "\x00" := by
        apply String.toList_inj.mp
        simp [nuls, List.replicate_succ']
      rw [hLast, asBytes_append, ih, List.replicate_succ']
      rfl

/- Padding does not show where lists are read with `getD`. -/
theorem getD_append_replicate
    {α : Type}
    (d : α)
    (as : List α)
    (n i : Nat) :
    (as ++ List.replicate n d).getD i d = as.getD i d := by
  by_cases hLt : i < as.length
  · rw [List.getD_append _ _ _ _ hLt]
  · rw [not_lt] at hLt
    rw [List.getD_append_right _ _ _ _ hLt,
      List.getD_eq_default as d hLt]
    by_cases hIn : i - as.length < n
    · rw [List.getD_replicate _ hIn]
    · rw [List.getD_eq_default]
      simpa using hIn

/- Of lists read alike the longer is the other, padded. -/
theorem eq_append_replicate_of_getD_eq
    {α : Type}
    {d : α}
    {as bs : List α}
    (hLength : as.length ≤ bs.length)
    (hPadded : ∀ i, as.getD i d = bs.getD i d) :
    bs = as ++ List.replicate (bs.length - as.length) d := by
  refine List.ext_getElem ?_ fun i hB hA => ?_
  · rw [List.length_append, List.length_replicate]
    omega
  · have hByte := hPadded i
    rw [List.getD_eq_getElem bs d hB] at hByte
    rw [← hByte]
    by_cases hLt : i < as.length
    · rw [List.getElem_append_left hLt,
        List.getD_eq_getElem as d hLt]
    · rw [List.getElem_append_right (not_lt.mp hLt),
        List.getElem_replicate,
        List.getD_eq_default as d (not_lt.mp hLt)]

/- Of the lengths only the low byte is compared. -/
theorem ofNat_xor_eq_zero_iff (m n : Nat) :
    UInt8.ofNat (m ^^^ n) = 0 ↔ m % 256 = n % 256 := by
  rw [UInt8.ofNat_xor, UInt8.xor_eq_zero_iff,
    ← UInt8.toNat_inj, UInt8.toNat_ofNat', UInt8.toNat_ofNat']

/- Texts that only blocks of NULs tell apart are not told. -/
theorem ctEq_of_growsByNuls
    {a b : String}
    (hGrows : GrowsByNuls a b) :
    ctEq a b = true ∧ ctEq b a = true ∧ a ≠ b := by
  rcases hGrows with ⟨k, hPos, rfl⟩
  have hBytes :
      asBytes (a ++ nuls (256 * k)) =
        asBytes a ++ List.replicate (256 * k) 0 := by
    rw [asBytes_append, asBytes_nuls]
  have hLow :
      (asBytes a).length % 256 =
        (asBytes (a ++ nuls (256 * k))).length % 256 := by
    rw [hBytes, List.length_append, List.length_replicate,
      Nat.add_mul_mod_self_left]
  refine ⟨?_, ?_, ?_⟩
  · rw [ctEq_iff, ofNat_xor_eq_zero_iff]
    refine ⟨hLow, fun i => ?_⟩
    rw [hBytes, getD_append_replicate]
  · rw [ctEq_iff, ofNat_xor_eq_zero_iff]
    refine ⟨hLow.symm, fun i => ?_⟩
    rw [hBytes, getD_append_replicate]
  · intro hSame
    have hLength := congrArg (fun s => (asBytes s).length) hSame
    simp only [hBytes, List.length_append,
      List.length_replicate] at hLength
    omega

/- Texts taken for equal are so, but for blocks of NULs. -/
theorem eq_or_growsByNuls
    {a b : String}
    (hLength : (asBytes a).length ≤ (asBytes b).length)
    (hEq : ctEq a b = true) :
    a = b ∨ GrowsByNuls a b := by
  rw [ctEq_iff, ofNat_xor_eq_zero_iff] at hEq
  have hBytes := eq_append_replicate_of_getD_eq hLength hEq.2
  have hText :
      b = a ++ nuls
        ((asBytes b).length - (asBytes a).length) := by
    apply asBytes_injective
    rw [asBytes_append, asBytes_nuls]
    exact hBytes
  rcases Nat.eq_zero_or_pos
    ((asBytes b).length - (asBytes a).length) with
    hNone | hSome
  · left
    rw [hNone] at hText
    simpa [nuls] using hText.symm
  · right
    have hBlocks :
        256 ∣ (asBytes b).length - (asBytes a).length := by
      have hLow := hEq.1
      omega
    rcases hBlocks with ⟨k, hk⟩
    refine ⟨k, by omega, ?_⟩
    rw [← hk]
    exact hText

/-
  The comparison decides equality unless one of the texts is
  the other with a multiple of 256 NULs behind it.
-/
theorem decidesEquality_iff (a b : String) :
    DecidesEquality a b ↔
      ¬ GrowsByNuls a b ∧ ¬ GrowsByNuls b a := by
  constructor
  · intro hDecides
    constructor
    · intro hGrows
      rcases ctEq_of_growsByNuls hGrows with ⟨hEq, -, hNe⟩
      exact hNe (hDecides.mp hEq)
    · intro hGrows
      rcases ctEq_of_growsByNuls hGrows with ⟨-, hEq, hNe⟩
      exact hNe (hDecides.mp hEq).symm
  · rintro ⟨hNot, hNot'⟩
    constructor
    · intro hEq
      rcases Nat.le_total (asBytes a).length
        (asBytes b).length with hLength | hLength
      · exact (eq_or_growsByNuls hLength hEq).resolve_right
          hNot
      · have hEq' : ctEq b a = true := by
          rw [ctEq_iff, ofNat_xor_eq_zero_iff] at hEq ⊢
          exact ⟨hEq.1.symm, fun i => (hEq.2 i).symm⟩
        exact ((eq_or_growsByNuls hLength hEq').resolve_right
          hNot').symm
    · rintro rfl
      rw [ctEq_iff]
      simp

/- No text at all, and 256 NULs. -/
theorem not_decidesEquality_nuls :
    ¬ DecidesEquality "" (nuls 256) := by
  intro hDecides
  have hGrows : GrowsByNuls "" (nuls 256) :=
    ⟨1, Nat.one_pos, by simp⟩
  rcases ctEq_of_growsByNuls hGrows with ⟨hEq, -, hNe⟩
  exact hNe (hDecides.mp hEq)

end Mcp

end EngenhoPromessa

------------------------------------------------------------
-- Headers
------------------------------------------------------------

namespace EngenhoPromessa

namespace Mcp

/- The bytes of a header, none a control character but tab. -/
structure HeaderValue where
  bytes : List UInt8
  valid : ∀ b ∈ bytes, (32 ≤ b ∧ b ≠ 127) ∨ b = 9

/- In the order received; names are in lower case. -/
abbrev HeaderMap := List (String × HeaderValue)

namespace HeaderValue

/- What `to_str` takes: printable ASCII and tab. -/
def isVisibleAscii (b : UInt8) : Bool :=
  (32 ≤ b && b < 127) || b == 9

/- Visible ASCII is UTF-8, so only the test can fail. -/
def toStr (v : HeaderValue) : Option String :=
  if v.bytes.all isVisibleAscii then
    String.fromUTF8? ⟨v.bytes.toArray⟩
  else
    none

/- A header that is read has the bytes of its text. -/
theorem toStr_eq_some_iff (v : HeaderValue) (s : String) :
    v.toStr = some s ↔
      v.bytes.all isVisibleAscii = true ∧
        v.bytes = asBytes s := by
  unfold toStr
  split
  · rename_i hVisible
    rw [and_iff_right hVisible]
    constructor
    · intro hText
      unfold String.fromUTF8? at hText
      split at hText
      · rw [← Option.some.inj hText]
        rfl
      · exact absurd hText (by simp)
    · intro hBytes
      have hArray :
          (⟨v.bytes.toArray⟩ : ByteArray) =
            s.toByteArray := by
        rw [hBytes]
        rfl
      rw [hArray, String.fromUTF8?, dif_pos s.isValidUTF8]
      rfl
  · rename_i hHidden
    simp [hHidden]

theorem nul_not_mem_of_visible
    {v : HeaderValue}
    (hVisible : v.bytes.all isVisibleAscii = true) :
    0 ∉ v.bytes := by
  intro hNul
  exact absurd (List.all_eq_true.mp hVisible 0 hNul)
    (by decide)

end HeaderValue

end Mcp

end EngenhoPromessa

------------------------------------------------------------
-- Authorization
------------------------------------------------------------

namespace EngenhoPromessa

namespace Mcp

/- The token that is asked for, and whether none is needed. -/
structure AuthConfig where
  expectedToken : Option String
  allowAnonymous : Bool
deriving DecidableEq, Repr

/- Any value of the second variable is a yes. -/
def AuthConfig.fromEnv (env : Env) : AuthConfig where
  expectedToken := env "MCP_BEARER_TOKEN"
  allowAnonymous := (env "MCP_ALLOW_ANONYMOUS").isSome

/- Lets a caller pass, or says why not. -/
def authorize
    (headers : HeaderMap)
    (cfg : AuthConfig) : Except McpResponse Unit :=
  match cfg.expectedToken, cfg.allowAnonymous with
  | some tok, _ =>
      match headers.lookup "authorization" with
      | none =>
          .error (.err none (-32001) "missing bearer token")
      | some auth =>
          match auth.toStr with
          | none =>
              .error (.err none (-32001)
                "invalid authorization header encoding")
          | some auth =>
              match Str.stripPrefix "Bearer " auth with
              | none =>
                  .error (.err none (-32001)
                    "Authorization scheme must be Bearer")
              | some given =>
                  if ctEq given tok then
                    .ok ()
                  else
                    .error (.err none (-32001)
                      "bearer token mismatch")
  | none, true => .ok ()
  | none, false =>
      .error (.err none (-32001)
        ("MCP endpoint not configured (MCP_BEARER_TOKEN " ++
          "env unset on validation-api pod)"))

/- The caller has shown the token there is, or needs none. -/
def MayCall (headers : HeaderMap) (cfg : AuthConfig) : Prop :=
  (∃ t v,
    cfg.expectedToken = some t ∧
      headers.lookup "authorization" = some v ∧
      v.bytes = asBytes ("Bearer " ++ t)) ∨
    (cfg.expectedToken = none ∧ cfg.allowAnonymous = true)

/- One header against one token. -/
theorem authorize_token_iff
    {headers : HeaderMap}
    {cfg : AuthConfig}
    {tok : String}
    {v : HeaderValue}
    (hToken : cfg.expectedToken = some tok)
    (hHeader : headers.lookup "authorization" = some v)
    (hNul : 0 ∉ asBytes tok)
    (hVisible :
      v.bytes.all HeaderValue.isVisibleAscii = true) :
    authorize headers cfg = .ok () ↔
      v.bytes = asBytes ("Bearer " ++ tok) := by
  have hText (s : String) :
      v.toStr = some s ↔ v.bytes = asBytes s :=
    (v.toStr_eq_some_iff s).trans (and_iff_right hVisible)
  unfold authorize
  rw [hToken, hHeader]
  cases hAuth : v.toStr with
  | none =>
      refine iff_of_false (by simp [hAuth])
        fun hBytes => ?_
      rw [(hText _).mpr hBytes] at hAuth
      exact absurd hAuth (by simp)
  | some auth =>
      rw [(hText auth).mp hAuth, asBytes_injective.eq_iff]
      cases hStrip : Str.stripPrefix "Bearer " auth with
      | none =>
          refine iff_of_false (by simp [hAuth, hStrip]) ?_
          rintro rfl
          rw [Str.stripPrefix_append] at hStrip
          exact absurd hStrip (by simp)
      | some given =>
          have hParts :=
            (Str.stripPrefix_eq_some_iff _ _ _).mp hStrip
          have hGiven : 0 ∉ asBytes given := by
            have hAll :=
              HeaderValue.nul_not_mem_of_visible hVisible
            rw [(hText auth).mp hAuth, hParts,
              asBytes_append, List.mem_append,
              not_or] at hAll
            exact hAll.2
          have hEq := ctEq_iff_of_nul_free hGiven hNul
          have hSame :
              auth = "Bearer " ++ tok ↔ given = tok := by
            rw [hParts, String.append_right_inj]
          rw [hSame, ← hEq]
          cases hCt : ctEq given tok with
          | true => simp [hAuth, hStrip, hCt]
          | false => simp [hAuth, hStrip, hCt]

/- Of printable headers exactly the right ones pass. -/
theorem authorize_eq_ok_iff
    {headers : HeaderMap}
    {cfg : AuthConfig}
    (hNul :
      ∀ t, cfg.expectedToken = some t → 0 ∉ asBytes t)
    (hVisible :
      ∀ v, headers.lookup "authorization" = some v →
        v.bytes.all HeaderValue.isVisibleAscii = true) :
    authorize headers cfg = .ok () ↔ MayCall headers cfg := by
  unfold MayCall
  cases hToken : cfg.expectedToken with
  | none =>
      unfold authorize
      rw [hToken]
      cases cfg.allowAnonymous with
      | true => simp
      | false => simp
  | some tok =>
      cases hHeader : headers.lookup "authorization" with
      | none =>
          unfold authorize
          rw [hToken, hHeader]
          simp
      | some v =>
          rw [authorize_token_iff hToken hHeader
            (hNul tok hToken) (hVisible v hHeader)]
          simp

end Mcp

end EngenhoPromessa
