import EngenhoPromessa.Controllers.EventSubjects
import EngenhoPromessa.ValidationEvents.Wire

/-
  The stream of events, from the publisher to a consumer.

  A publication is dropped when there is no connection, when
  the client fails, or on its way: the broker keeps nothing.
  A consumer subscribes to a pattern of tokens and parses
  what it is sent.

  Key definitions include:
    * `EventsPublisher`
    * `EventsPublisher.tryPublish`
    * `subjectMatches`
    * `received`

  Key theorems include:
    * `subjectTokens_subject`
    * `matches_ofService_iff`
    * `matches_ofKind_iff`
    * `received_stream`
-/

------------------------------------------------------------
-- The Publisher
------------------------------------------------------------

namespace EngenhoPromessa

/- What the broker is given. -/
structure Message where
  subject : String
  body : List UInt8
deriving DecidableEq, Repr

/- A publication that failed, with the client's text. -/
inductive PublishError where
  | client (text : String)
deriving DecidableEq, Repr

/- What becomes of a publication on a live connection. -/
inductive Fate where
  | delivered
  | lost
  | failed (text : String)
deriving DecidableEq, Repr

/- An event with its fresh identifier, and what became of it. -/
structure Publication where
  eventId : String
  event : ValidationEvent
  fate : Fate
deriving DecidableEq, Repr

/- Whether the publisher has a connection. -/
inductive EventsPublisher where
  | connected
  | disconnected
deriving DecidableEq, Repr

namespace EventsPublisher

/-
  Connect if there is a URL; a broker that cannot be reached
  is the same as none.
-/
def fromEnv
    (env : Env)
    (connects : String → Bool) : EventsPublisher :=
  match env "NATS_URL" with
  | none => .disconnected
  | some url =>
      if connects url then .connected else .disconnected

variable [Chrono] [SerdeJson]

/- The result, and what reaches the broker. -/
def tryPublish
    (self : EventsPublisher)
    (p : Publication) :
    Except PublishError Unit × List Message :=
  match self with
  | .disconnected => (.ok (), [])
  | .connected =>
      let message : Message :=
        { subject := p.event.subject
          body := SerdeJson.toVec (p.event.toValue p.eventId) }
      match p.fate with
      | .delivered => (.ok (), [message])
      | .lost => (.ok (), [])
      | .failed text => (.error (.client text), [])

/- A failure is logged and the event dropped. -/
def publish
    (self : EventsPublisher)
    (p : Publication) : List Message :=
  (self.tryPublish p).2

/- What one publication after another reaches the broker. -/
def stream
    (self : EventsPublisher)
    (ps : List Publication) : List Message :=
  ps.flatMap self.publish

end EventsPublisher

end EngenhoPromessa

------------------------------------------------------------
-- Subscriptions
------------------------------------------------------------

namespace EngenhoPromessa

/-
  The broker's rule: a star stands for one token, an arrow at
  the end for all that are left, if there are any.
-/
def subjectMatches : List String → List String → Bool
| [], tokens => tokens.isEmpty
| _ :: _, [] => false
| p :: ps, token :: tokens =>
    (p = ">" && ps.isEmpty) ||
      ((p = "*" || p = token) && subjectMatches ps tokens)

/- The subscriptions that consumers are told of. -/
def allPosture : List String := ["validation", "posture", ">"]

/- Every subject of one service. -/
def ofService (service : String) : List String :=
  ["validation", "posture", service, ">"]

/- Every subject of one kind. -/
def ofKind (kind : String) : List String :=
  ["validation", "posture", "*", kind]

/- A token that stands for itself. -/
def IsToken (token : String) : Prop :=
  '.' ∉ token.toList ∧ token ≠ "*" ∧ token ≠ ">"

instance (token : String) : Decidable (IsToken token) :=
  inferInstanceAs (Decidable (_ ∧ _ ∧ _))

/- Tokens of a joined subject. -/
theorem subjectTokens_append (a b : String) :
    subjectTokens (a ++ "." ++ b) =
      subjectTokens a ++ subjectTokens b := by
  have hText :
      (a ++ "." ++ b).toList =
        a.toList ++ '.' :: b.toList := by
    simp
  rw [subjectTokens, hText, List.splitOn_append_cons_self,
    List.map_append]
  rfl

/- A text without a dot is one token. -/
theorem subjectTokens_of_not_mem
    {token : String}
    (hDot : '.' ∉ token.toList) :
    subjectTokens token = [token] := by
  have hSplit :
      (['.'].intercalate [token.toList]).splitOn '.' =
        [token.toList] :=
    List.splitOn_intercalate '.' (by simpa using hDot)
      (by simp)
  rw [List.intercalate_singleton] at hSplit
  rw [subjectTokens, hSplit]
  simp

/- Every text is that of its tokens. -/
theorem ofTokens_subjectTokens (text : String) :
    String.ofList (['.'].intercalate
      ((subjectTokens text).map String.toList)) = text := by
  simp [subjectTokens, Function.comp_def]

/- The subject of an event, token by token. -/
theorem subjectTokens_subject (event : ValidationEvent) :
    subjectTokens event.subject =
      "validation" :: "posture" ::
        (subjectTokens event.service ++ [event.kind]) := by
  have hPrefix :
      subjectTokens ValidationEvent.subjectPrefix =
        ["validation", "posture"] := by
    decide
  rw [ValidationEvent.subject, subjectTokens_append,
    subjectTokens_append, hPrefix,
    subjectTokens_of_not_mem event.dot_not_mem_kind]
  rfl

theorem subjectTokens_ne_nil (text : String) :
    subjectTokens text ≠ [] := by
  simp [subjectTokens, List.splitOn_ne_nil]

/- A text without a dot is its only token. -/
theorem subjectTokens_eq_singleton_iff (text : String) :
    (∃ token, subjectTokens text = [token]) ↔
      '.' ∉ text.toList := by
  constructor
  · rintro ⟨token, hToken⟩ hDot
    rcases List.append_of_mem hDot with
      ⟨before, after, hText⟩
    have hLength := congrArg List.length hToken
    rw [subjectTokens, hText, List.splitOn_append_cons_self,
      List.map_append, List.length_append] at hLength
    have hBefore :=
      List.length_pos_of_ne_nil
        (List.splitOn_ne_nil '.' before)
    have hAfter :=
      List.length_pos_of_ne_nil
        (List.splitOn_ne_nil '.' after)
    simp at hLength
    omega
  · intro hDot
    exact ⟨text, subjectTokens_of_not_mem hDot⟩

/- A subject with all its tokens that a pattern leaves open. -/
theorem matches_allPosture (event : ValidationEvent) :
    subjectMatches allPosture
      (subjectTokens event.subject) = true := by
  rw [subjectTokens_subject]
  cases subjectTokens event.service with
  | nil => rfl
  | cons token tokens => rfl

/- A service is addressed by its first token. -/
def Addresses (service : String) (event : ValidationEvent) :
    Prop :=
  event.service = service ∨
    ∃ rest, event.service = service ++ "." ++ rest

/-
  The first token is the service exactly when the text is it
  or goes on with a dot.
-/
theorem head?_subjectTokens_iff
    {service : String}
    (hDot : '.' ∉ service.toList)
    (text : String) :
    (subjectTokens text).head? = some service ↔
      text = service ∨
        ∃ rest, text = service ++ "." ++ rest := by
  constructor
  · intro hHead
    rcases List.head?_eq_some_iff.mp hHead with
      ⟨tokens, hTokens⟩
    have hText := ofTokens_subjectTokens text
    rw [hTokens] at hText
    cases tokens with
    | nil =>
        refine .inl ?_
        rw [← hText]
        simp [List.intercalate]
    | cons token tokens =>
        refine .inr ⟨String.ofList (['.'].intercalate
          ((token :: tokens).map String.toList)), ?_⟩
        rw [← hText]
        apply String.toList_inj.mp
        simp [List.intercalate]
  · rintro (rfl | ⟨rest, rfl⟩)
    · rw [subjectTokens_of_not_mem hDot]
      rfl
    · rw [subjectTokens_append,
        subjectTokens_of_not_mem hDot]
      rfl

/-
  The subscription to a service gets its events, and those of
  services whose names go on behind a dot.
-/
theorem matches_ofService_iff
    {service : String}
    (hToken : IsToken service)
    (event : ValidationEvent) :
    subjectMatches (ofService service)
        (subjectTokens event.subject) = true ↔
      Addresses service event := by
  have hRest :
      ∀ tokens : List String,
        subjectMatches [">"] (tokens ++ [event.kind]) =
          true := by
    intro tokens
    cases tokens with
    | nil => rfl
    | cons token tokens => rfl
  rw [Addresses, ← head?_subjectTokens_iff hToken.1,
    subjectTokens_subject]
  cases hTokens : subjectTokens event.service with
  | nil => exact absurd hTokens (subjectTokens_ne_nil _)
  | cons token tokens =>
      simp [ofService, subjectMatches, hRest, hToken.2.1,
        eq_comm]

/-
  The subscription to a kind gets its events from all
  services without a dot in their names.
-/
theorem matches_ofKind_iff
    {kind : String}
    (hToken : IsToken kind)
    (event : ValidationEvent) :
    subjectMatches (ofKind kind)
        (subjectTokens event.subject) = true ↔
      event.kind = kind ∧ '.' ∉ event.service.toList := by
  have hLast :
      ∀ tokens : List String,
        subjectMatches [kind] (tokens ++ [event.kind]) =
            true ↔
          event.kind = kind ∧ tokens = [] := by
    intro tokens
    cases tokens with
    | nil =>
        simp [subjectMatches, hToken.2.1, hToken.2.2,
          eq_comm]
    | cons token tokens =>
        simp [subjectMatches, hToken.2.2]
  rw [← subjectTokens_eq_singleton_iff,
    subjectTokens_subject]
  cases hTokens : subjectTokens event.service with
  | nil => exact absurd hTokens (subjectTokens_ne_nil _)
  | cons token tokens =>
      simp [ofKind, subjectMatches, hLast]

end EngenhoPromessa

------------------------------------------------------------
-- Consumers
------------------------------------------------------------

namespace EngenhoPromessa

instance
    (service : String)
    (event : ValidationEvent) :
    Decidable (Addresses service event) :=
  decidable_of_iff
    (event.service = service ∨
      Str.startsWith (service ++ ".") event.service = true)
    (by
      rw [Addresses]
      refine or_congr_right ⟨?_, ?_⟩
      · exact Str.exists_of_startsWith
      · rintro ⟨rest, hRest⟩
        rw [hRest]
        exact Str.startsWith_append _ _)

variable [Chrono]

/-
  What the consumer of a pattern makes of the messages, one
  after the other: the event that a body reads as, if any.
-/
def received
    (fromSlice : List UInt8 → Option Json)
    (pattern : List String)
    (messages : List Message) :
    List (Option (String × ValidationEvent)) :=
  (messages.filter (fun m =>
    subjectMatches pattern (subjectTokens m.subject))).map
    (fun m => (fromSlice m.body).bind ValidationEvent.fromValue)

/- The publications that are not lost on their way. -/
def arriving (ps : List Publication) : List Publication :=
  ps.filter (fun p => p.fate = .delivered)

/- Events with their identifiers, as they were published. -/
def asPublished
    (ps : List Publication) :
    List (Option (String × ValidationEvent)) :=
  ps.map (fun p => some (p.eventId, p.event))

variable [SerdeJson]

/- What is written of the events that arrive is read back. -/
def Readable
    (fromSlice : List UInt8 → Option Json)
    (ps : List Publication) : Prop :=
  ∀ p ∈ arriving ps,
    fromSlice (SerdeJson.toVec (p.event.toValue p.eventId)) =
      some (p.event.toValue p.eventId)

/-
  A delivered publication reaches the stream, another does
  not.
-/
theorem publish_connected (p : Publication) :
    EventsPublisher.connected.publish p =
      if p.fate = .delivered then
        [{ subject := p.event.subject
           body :=
            SerdeJson.toVec (p.event.toValue p.eventId) }]
      else
        [] := by
  unfold EventsPublisher.publish EventsPublisher.tryPublish
  cases hFate : p.fate with
  | delivered => rfl
  | lost => rfl
  | failed text => rfl

/- A pattern that stands for a condition on the events. -/
theorem received_stream_of_matches
    {fromSlice : List UInt8 → Option Json}
    {pattern : List String}
    {Wanted : ValidationEvent → Prop}
    [DecidablePred Wanted]
    (hPattern : ∀ event,
      subjectMatches pattern
          (subjectTokens event.subject) = true ↔
        Wanted event)
    {ps : List Publication}
    (hReadable : Readable fromSlice ps) :
    received fromSlice pattern
        (EventsPublisher.connected.stream ps) =
      asPublished
        ((arriving ps).filter (fun p => Wanted p.event)) := by
  induction ps with
  | nil => rfl
  | cons p ps ih =>
      have hStream :
          EventsPublisher.connected.stream (p :: ps) =
            EventsPublisher.connected.publish p ++
              EventsPublisher.connected.stream ps := rfl
      rw [hStream, publish_connected]
      by_cases hArrives : p.fate = .delivered
      · have hArriving :
            arriving (p :: ps) = p :: arriving ps := by
          simp [arriving, hArrives]
        rw [Readable, hArriving] at hReadable
        rcases List.forall_mem_cons.mp hReadable with
          ⟨hRead, hRest⟩
        have hTail := ih hRest
        rw [if_pos hArrives, hArriving]
        by_cases hWanted : Wanted p.event
        · have hMatches := (hPattern p.event).mpr hWanted
          simpa [received, asPublished, hMatches, hWanted,
            hRead, ValidationEvent.fromValue_toValue]
            using hTail
        · have hMisses :=
            (hPattern p.event).not.mpr hWanted
          simpa [received, asPublished, hMisses, hWanted]
            using hTail
      · have hArriving :
            arriving (p :: ps) = arriving ps := by
          simp [arriving, hArrives]
        rw [Readable, hArriving] at hReadable
        rw [if_neg hArrives, hArriving, List.nil_append]
        exact ih hReadable

/- Without a connection nothing is sent. -/
theorem stream_disconnected (ps : List Publication) :
    EventsPublisher.disconnected.stream ps = [] := by
  induction ps with
  | nil => rfl
  | cons p ps ih => exact ih

/-
  Each consumer reads the events that arrive and that it
  subscribed to, in order and as they were published.
-/
theorem received_stream
    {fromSlice : List UInt8 → Option Json}
    {ps : List Publication}
    (hReadable : Readable fromSlice ps) :
    received fromSlice allPosture
        (EventsPublisher.connected.stream ps) =
      asPublished (arriving ps) ∧
    (∀ service, IsToken service →
      received fromSlice (ofService service)
          (EventsPublisher.connected.stream ps) =
        asPublished ((arriving ps).filter
          (fun p => Addresses service p.event))) ∧
    (∀ kind, IsToken kind →
      received fromSlice (ofKind kind)
          (EventsPublisher.connected.stream ps) =
        asPublished ((arriving ps).filter
          (fun p => p.event.kind = kind ∧
            '.' ∉ p.event.service.toList))) ∧
    ∀ pattern,
      received fromSlice pattern
        (EventsPublisher.disconnected.stream ps) = [] := by
  refine ⟨?_, ?_, ?_, ?_⟩
  · have hEvery : ∀ event,
        subjectMatches allPosture
            (subjectTokens event.subject) = true ↔
          (fun _ : ValidationEvent => True) event :=
      fun event => iff_true_intro (matches_allPosture event)
    simpa using received_stream_of_matches hEvery hReadable
  · intro service hToken
    exact received_stream_of_matches
      (matches_ofService_iff hToken) hReadable
  · intro kind hToken
    exact received_stream_of_matches
      (matches_ofKind_iff hToken) hReadable
  · intro pattern
    rw [stream_disconnected]
    rfl

end EngenhoPromessa

------------------------------------------------------------
-- One Stream
------------------------------------------------------------

namespace EngenhoPromessa

namespace Reference

/- A writer that is exact on the events of this section. -/
abbrev eventJson : SerdeJson where
  fromStr := fromStr
  toVec j := (compact j).map (fun c => UInt8.ofNat c.toNat)
  asF32 := SerdeJson.asF32
  ofF32 := SerdeJson.ofF32
  asF32_ofF32 := SerdeJson.asF32_ofF32

/- The same event published three times, with one arriving. -/
def onePublished : List Publication :=
  [{ eventId := "01", event := firstPhase, fate := .lost },
    { eventId := "02", event := firstPhase,
      fate := .delivered },
    { eventId := "03", event := firstPhase,
      fate := .failed "no responders" }]

/- Reads the event that arrives. -/
def readSecond (bytes : List UInt8) : Option Json :=
  if bytes = eventJson.toVec (firstPhase.toValue "02") then
    some (firstPhase.toValue "02")
  else
    none

end Reference

/- A stream of one event, under a filter of its service. -/
theorem received_stream_onePublished :
    letI := Reference.eventJson
    Readable Reference.readSecond Reference.onePublished ∧
      received Reference.readSecond (ofService "auth")
          (EventsPublisher.connected.stream
            Reference.onePublished) =
        [some ("02", Reference.firstPhase)] ∧
      received Reference.readSecond (ofService "gator")
          (EventsPublisher.connected.stream
            Reference.onePublished) = [] := by
  let := Reference.eventJson
  have hReadable :
      Readable Reference.readSecond
        Reference.onePublished := by
    have hArriving :
        arriving Reference.onePublished =
          [{ eventId := "02", event := Reference.firstPhase,
             fate := .delivered }] := rfl
    rw [Readable, hArriving]
    intro p hp
    rw [List.mem_singleton.mp hp]
    exact if_pos rfl
  rcases received_stream hReadable with ⟨_, hService, _⟩
  refine ⟨hReadable, ?_, ?_⟩
  · rw [hService "auth" (by decide)]
    decide
  · rw [hService "gator" (by decide)]
    decide

end EngenhoPromessa
