import EngenhoPromessa.Controllers.EphemeralTenant
import EngenhoPromessa.Text.Split

/-
  The URLs of cluster services, and those that the tenant
  controller takes for one.

  Key definitions include:
    * `EphemeralTenant.ServiceUrl`
    * `EphemeralTenant.ReadsServiceUrls`
    * `EphemeralTenant.ReadAsWritten`

  Key theorems include:
    * `EphemeralTenant.inClusterServiceRef_eq_some_iff`
    * `EphemeralTenant.namesService_of_serviceUrl`
    * `EphemeralTenant.readsServiceUrls_iff`
-/

------------------------------------------------------------
-- The Grammar
------------------------------------------------------------

namespace EngenhoPromessa

namespace EphemeralTenant

/- Letters, digits and inner hyphens, at most 63 of them. -/
structure IsDnsLabel (s : String) : Prop where
  nonempty : s ≠ ""
  length_le : s.length ≤ 63
  chars :
    ∀ c ∈ s.toList, c.isAlphanum = true ∨ c = '-'
  head : s.toList.head? ≠ some '-'
  last : s.toList.getLast? ≠ some '-'

/- A scheme, as addresses are written. -/
def IsScheme (s : String) : Prop :=
  ∃ c cs, s.toList = c :: cs ∧ c.isAlpha = true ∧
    ∀ d ∈ cs, d.isAlphanum = true ∨ d ∈ ['+', '-', '.']

/- A port, or none. -/
def IsPort (s : String) : Prop :=
  s = "" ∨
    ∃ digits, s = ":" ++ digits ∧ digits ≠ "" ∧
      ∀ c ∈ digits.toList, c.isDigit = true

/- A path, or none. -/
def IsPath (s : String) : Prop :=
  s = "" ∨ ∃ segments, s = "/" ++ segments

/- `<name>.<ns>.svc`, in the default zone or without one. -/
def serviceHost (ns name zone : String) : String :=
  name ++ "." ++ (ns ++ "." ++ ("svc" ++ zone))

/- A service's host with a port and a path, if any. -/
def ServiceAddress (url ns name : String) : Prop :=
  IsDnsLabel name ∧ IsDnsLabel ns ∧
    ∃ zone port path,
      zone ∈ ["", ".cluster.local"] ∧ IsPort port ∧
        IsPath path ∧
        url = serviceHost ns name zone ++ (port ++ path)

/- An address, after a scheme or without one. -/
def ServiceUrl (url ns name : String) : Prop :=
  ServiceAddress url ns name ∨
    ∃ scheme address,
      IsScheme scheme ∧
        ServiceAddress address ns name ∧
        url = scheme ++ "://" ++ address

end EphemeralTenant

end EngenhoPromessa

------------------------------------------------------------
-- What Is Read
------------------------------------------------------------

namespace EngenhoPromessa

namespace EphemeralTenant

/- The host of what follows the first `://`, or of it all. -/
def hostOf (url : String) : String :=
  Str.beforeAny ['/', ':']
    (((Str.split "://" url)[1]?).getD url)

/- The first three labels are these two and `svc`. -/
def NamesService (host ns name : String) : Prop :=
  ∃ rest, Str.split "." host = name :: ns :: "svc" :: rest

theorem toList_dot : ".".toList = ['.'] := by
  decide

theorem toList_separator :
    "://".toList = [':', '/', '/'] := by
  decide

/- A host that names a service has `.svc` in it. -/
theorem contains_svc_of_namesService
    {host ns name : String}
    (hNames : NamesService host ns name) :
    Str.contains ".svc" host = true := by
  rcases hNames with ⟨rest, hLabels⟩
  rcases Str.exists_of_split_eq toList_dot hLabels with
    ⟨t, rfl, hTail⟩
  rcases Str.exists_of_split_eq toList_dot hTail with
    ⟨u, rfl, hSvc⟩
  rcases Str.exists_of_split_head toList_dot hSvc with
    ⟨v, rfl⟩
  have hText :
      name ++ "." ++ (ns ++ "." ++ ("svc" ++ v)) =
        (name ++ "." ++ ns) ++ ".svc" ++ v := by
    simp only [String.append_assoc]
    rfl
  rw [hText]
  exact Str.contains_append _ _ _

/- An address gives a service exactly when its host names it. -/
theorem inClusterServiceRef_eq_some_iff
    (url ns name : String) :
    inClusterServiceRef url = some (ns, name) ↔
      NamesService (hostOf url) ns name := by
  simp only [inClusterServiceRef, hostOf]
  generalize Str.beforeAny ['/', ':']
    (((Str.split "://" url)[1]?).getD url) = host
  constructor
  · intro hSome
    split at hSome
    · exact absurd hSome (by simp)
    · split at hSome
      · rename_i hLabels
        injection hSome with hPair
        injection hPair with hNs hName
        subst hNs hName
        exact ⟨_, hLabels⟩
      · exact absurd hSome (by simp)
  · intro hNames
    rw [contains_svc_of_namesService hNames]
    rcases hNames with ⟨rest, hLabels⟩
    rw [hLabels]
    rfl

end EphemeralTenant

end EngenhoPromessa

------------------------------------------------------------
-- Service URLs As They Are Read
------------------------------------------------------------

namespace EngenhoPromessa

namespace EphemeralTenant

/- A label stops before a dot, a slash or a colon. -/
theorem IsDnsLabel.not_mem
    {s : String}
    (hLabel : IsDnsLabel s)
    {c : Char}
    (hStop : c ∈ ['.', '/', ':']) :
    c ∉ s.toList := by
  intro hMem
  simp only [List.mem_cons, List.not_mem_nil,
    or_false] at hStop
  rcases hLabel.chars c hMem with hAlphanum | rfl
  · rcases hStop with rfl | rfl | rfl
    · exact absurd hAlphanum (by decide)
    · exact absurd hAlphanum (by decide)
    · exact absurd hAlphanum (by decide)
  · exact absurd hStop (by decide)

/- A scheme has no colon in it. -/
theorem IsScheme.colon_not_mem
    {s : String}
    (hScheme : IsScheme s) :
    ':' ∉ s.toList := by
  rcases hScheme with ⟨c, cs, hChars, hFirst, hRest⟩
  rw [hChars, List.mem_cons, not_or]
  constructor
  · rintro rfl
    exact absurd hFirst (by decide)
  · intro hMem
    exact absurd (hRest ':' hMem) (by decide)

/- A port and a path begin where a host ends. -/
theorem head_of_port_path
    {port path : String}
    (hPort : IsPort port)
    (hPath : IsPath path) :
    ∀ c, (port ++ path).toList.head? = some c →
      c ∈ ['/', ':'] := by
  intro c hHead
  rw [String.toList_append, List.head?_append] at hHead
  rcases hPort with rfl | ⟨digits, rfl, -, -⟩
  · rcases hPath with rfl | ⟨segments, rfl⟩
    · simp at hHead
    · have hSlash : '/' = c := by simpa using hHead
      exact hSlash ▸ by decide
  · have hColon : ':' = c := by simpa using hHead
    exact hColon ▸ by decide

/- A service's host has no slash or colon in it. -/
theorem stop_not_mem_serviceHost
    {ns name zone : String}
    (hName : IsDnsLabel name)
    (hNs : IsDnsLabel ns)
    (hZone : zone ∈ ["", ".cluster.local"]) :
    ∀ c ∈ (serviceHost ns name zone).toList,
      c ∉ ['/', ':'] := by
  intro c hMem hStop
  have hThree : c ∈ ['.', '/', ':'] :=
    List.mem_cons_of_mem _ hStop
  have hTail :
      c ∉ ("." : String).toList ∧
        c ∉ ("svc" ++ zone).toList := by
    simp only [List.mem_cons, List.not_mem_nil,
      or_false] at hZone hStop
    rcases hZone with rfl | rfl
    · rcases hStop with rfl | rfl
      · decide
      · decide
    · rcases hStop with rfl | rfl
      · decide
      · decide
  unfold serviceHost at hMem
  simp only [String.toList_append, List.mem_append] at hMem
  simp only [String.toList_append, List.mem_append] at hTail
  rcases hMem with (hMem | hMem) | (hMem | hMem) | hMem
  · exact hName.not_mem hThree hMem
  · exact hTail.1 hMem
  · exact hNs.not_mem hThree hMem
  · exact hTail.1 hMem
  · exact hTail.2 hMem

/- The labels of a service's host. -/
theorem split_serviceHost
    {ns name zone : String}
    (hName : IsDnsLabel name)
    (hNs : IsDnsLabel ns) :
    Str.split "." (serviceHost ns name zone) =
      name :: ns :: Str.split "." ("svc" ++ zone) := by
  unfold serviceHost
  rw [Str.split_append toList_dot
      (hName.not_mem (by decide)),
    Str.split_append toList_dot (hNs.not_mem (by decide))]

/- The labels of an address's host. -/
theorem labels_of_serviceAddress
    {url ns name : String}
    (hAddress : ServiceAddress url ns name) :
    ∃ zone ∈ [[], ["cluster", "local"]],
      Str.split "." (Str.beforeAny ['/', ':'] url) =
        name :: ns :: "svc" :: zone := by
  rcases hAddress with
    ⟨hName, hNs, zone, port, path, hZone, hPort, hPath, rfl⟩
  rw [Str.beforeAny_append
      (stop_not_mem_serviceHost hName hNs hZone)
      (head_of_port_path hPort hPath),
    split_serviceHost hName hNs]
  simp only [List.mem_cons, List.not_mem_nil,
    or_false] at hZone
  have hDefault :
      Str.split "." ("svc" ++ ".cluster.local") =
        ["svc", "cluster", "local"] := by
    decide
  have hBare : Str.split "." ("svc" ++ "") = ["svc"] := by
    decide
  rcases hZone with rfl | rfl
  · exact ⟨[], by decide, by rw [hBare]⟩
  · exact ⟨["cluster", "local"], by decide,
      by rw [hDefault]⟩

/- A scheme has no part in what is read as the host. -/
theorem hostOf_scheme
    {scheme : String}
    (hScheme : IsScheme scheme)
    (address : String) :
    hostOf (scheme ++ "://" ++ address) =
      Str.beforeAny ['/', ':'] address := by
  unfold hostOf
  rw [Str.split_append toList_separator
    hScheme.colon_not_mem]
  cases hPieces : Str.split "://" address with
  | nil => exact absurd hPieces (Str.split_ne_nil _ _)
  | cons piece pieces =>
      have hColon : ':' ∈ ['/', ':'] := by decide
      have hRead :=
        Str.beforeAny_head_split toList_separator hColon
          hPieces
      simpa using hRead

theorem hostOf_of_not_contains
    {url : String}
    (hNone : Str.contains "://" url = false) :
    hostOf url = Str.beforeAny ['/', ':'] url := by
  unfold hostOf
  rw [Str.split_of_not_contains toList_separator hNone]
  rfl

/-
  The one service URL that may be misread is an address
  without a scheme that has a `://` in its path.
-/
theorem namesService_of_serviceUrl
    {url ns name : String}
    (hUrl : ServiceUrl url ns name)
    (hRead :
      ServiceAddress url ns name →
        Str.contains "://" url = true →
          NamesService (hostOf url) ns name) :
    NamesService (hostOf url) ns name := by
  rcases hUrl with
    hAddress | ⟨scheme, address, hScheme, hAddress, rfl⟩
  · cases hContains : Str.contains "://" url with
    | true => exact hRead hAddress hContains
    | false =>
        rw [hostOf_of_not_contains hContains]
        rcases labels_of_serviceAddress hAddress with
          ⟨zone, -, hLabels⟩
        exact ⟨zone, hLabels⟩
  · rw [hostOf_scheme hScheme]
    rcases labels_of_serviceAddress hAddress with
      ⟨zone, -, hLabels⟩
    exact ⟨zone, hLabels⟩

end EphemeralTenant

end EngenhoPromessa

------------------------------------------------------------
-- Exactness
------------------------------------------------------------

namespace EngenhoPromessa

namespace EphemeralTenant

/- The text is read as the grammar has it. -/
def ReadsServiceUrls (url : String) : Prop :=
  ∀ ns name,
    inClusterServiceRef url = some (ns, name) ↔
      ServiceUrl url ns name

/- The addresses that are read as they are written. -/
structure ReadAsWritten (url : String) : Prop where
  /- A `://` in the path of an address does no harm. -/
  address :
    ∀ ns name, ServiceAddress url ns name →
      Str.contains "://" url = true →
        NamesService (hostOf url) ns name
  /- The third label of what is no service is not `svc`. -/
  other :
    (¬ ∃ ns name, ServiceUrl url ns name) →
      ¬ ∃ ns name, NamesService (hostOf url) ns name

/-
  Addresses are read right exactly when they are read as
  written.
-/
theorem readsServiceUrls_iff (url : String) :
    ReadsServiceUrls url ↔ ReadAsWritten url := by
  unfold ReadsServiceUrls
  simp only [inClusterServiceRef_eq_some_iff]
  constructor
  · intro hReads
    constructor
    · intro ns name hAddress _
      exact (hReads ns name).mpr (.inl hAddress)
    · rintro hOther ⟨ns, name, hNames⟩
      exact hOther ⟨ns, name, (hReads ns name).mp hNames⟩
  · intro hWritten ns name
    have hRead (ns' name' : String)
        (hUrl : ServiceUrl url ns' name') :
        NamesService (hostOf url) ns' name' :=
      namesService_of_serviceUrl hUrl
        (hWritten.address ns' name')
    refine ⟨fun hNames => ?_, hRead ns name⟩
    by_cases hSome : ∃ ns' name', ServiceUrl url ns' name'
    · rcases hSome with ⟨ns', name', hUrl⟩
      rcases hNames with ⟨rest, hLabels⟩
      rcases hRead ns' name' hUrl with ⟨rest', hLabels'⟩
      rw [hLabels', List.cons.injEq,
        List.cons.injEq] at hLabels
      rwa [hLabels.1, hLabels.2.1] at hUrl
    · exact absurd ⟨ns, name, hNames⟩
        (hWritten.other hSome)

/- What is taken for no service is not waited for. -/
theorem assessTarget_of_other
    {url : String}
    (hWritten : ReadAsWritten url)
    (hOther : ¬ ∃ ns name, ServiceUrl url ns name) :
    assessTarget (some url) = return .readyAt url := by
  have hNone : inClusterServiceRef url = none := by
    cases hRef : inClusterServiceRef url with
    | none => rfl
    | some service =>
        have hNames :=
          (inClusterServiceRef_eq_some_iff url service.1
            service.2).mp hRef
        exact absurd ⟨_, _, hNames⟩ (hWritten.other hOther)
  unfold assessTarget
  dsimp only
  generalize inClusterServiceRef url = service at hNone ⊢
  subst hNone
  rfl

/- A host elsewhere that begins like a service. -/
def lookAlike : String := "http://a.b.svc.evil.com/"

/-
  A host whose third label is `svc` is read as a service,
  though it names none.
-/
theorem not_readsServiceUrls_lookAlike :
    ¬ ReadsServiceUrls lookAlike := by
  intro hReads
  have hRead :
      inClusterServiceRef lookAlike = some ("b", "a") := by
    decide
  rcases (hReads "b" "a").mp hRead with
    hAddress | ⟨scheme, address, hScheme, hAddress, hUrl⟩
  · rcases labels_of_serviceAddress hAddress with
      ⟨zone, -, hLabels⟩
    rw [show Str.split "."
        (Str.beforeAny ['/', ':'] lookAlike) = ["http"]
      by decide] at hLabels
    simp at hLabels
  · have hHost := hostOf_scheme hScheme address
    rw [← hUrl] at hHost
    rcases labels_of_serviceAddress hAddress with
      ⟨zone, hZone, hLabels⟩
    rw [← hHost,
      show Str.split "." (hostOf lookAlike) =
          ["a", "b", "svc", "evil", "com"] by decide]
      at hLabels
    simp only [List.cons.injEq, true_and] at hLabels
    rw [← hLabels] at hZone
    exact absurd hZone (by decide)

end EphemeralTenant

end EngenhoPromessa
