import ForwardProxy.Proofs.Session.Fidelity

namespace ForwardProxy

/-!
# What a client asks for

A session is told by how it begins and by everything that happens to it.  What its client asks for
is told by what the client has sent, and when, and not by what the session makes of it.

* `Opening` — how a session begins.
* `Opening.HeadBegun`, `Opening.HeadRead` — when a head may begin, and the head that came in time.
* `Opening.Asked` — the target that it asks for.
* `Opening.Refused` — why a tunnel is refused, with the code that tells so.
* `Session.refusal?` — the failure that a session refuses a tunnel for.
-/

/-- How a session begins: in which network, on which terms and when, and what its client has done
    before. -/
structure Opening where
  network : Network
  settings : Settings
  peer : SocketAddress
  entry : Entry
  turn : Turn
  now : Nat
  /-- How many octets the client takes at first; none if there is no limit. -/
  room : Option Nat
  /-- What the client has done before the session begins. -/
  early : List Channel.Event

namespace Opening

open SessionRun (Event)

/-- The session at its first settled point. -/
def begun (v : Opening) : SessionRun :=
  .start v.network v.now
    (.start v.settings v.peer v.entry v.turn v.now ((Channel.idle v.room).applyAll v.early))

/-- The session after everything that happened, and the clock then. -/
def after (v : Opening) (es : List Event) : SessionRun := v.begun.run es

/-- The stream of the client after everything that happened, as if nobody had read any of it. -/
def client (v : Opening) (es : List Event) : Lookahead :=
  SessionRun.clientStream v.room v.early es

/-- The octets of the client in front of the first thing that keeps a reader from reading on. -/
def heard (v : Opening) (es : List Event) : Bytes := Item.leading (v.client es).items

/-- What comes first from the client is octets. -/
def Spoken (v : Opening) (es : List Event) : Prop :=
  ∃ bs, (v.client es).channel.inbox.head? = some (.data bs)

/-- The session is one that speaks HTTP: it is entered that way, or the first octet says so, if
    there is one. -/
def SpeaksHttp (v : Opening) (es : List Event) : Prop :=
  v.entry = .speaking .httpConnect ∨
    v.entry = .detecting ∧ ∀ b bs, (v.client es).channel.inbox.head? = some (.data (b :: bs)) →
      Protocol.detect b = .httpConnect

/-! ### The stream of the client -/

/-- A client's stream is a channel from which nothing was read ahead. -/
theorem client_eq (v : Opening) (es : List Event) :
    v.client es = .ofChannel (((Channel.idle v.room).applyAll v.early).applyAll
      (SessionRun.clientEvents es)) := by
  show (Lookahead.ofChannel _).applyAll _ = _
  rw [Lookahead.applyAll_eq]
  rfl

/-- Nothing of a client's stream was read ahead by the client. -/
theorem ahead_client (v : Opening) (es : List Event) : (v.client es).ahead = [] := by
  rw [client_eq]
  rfl

/-- The stream of a client has no empty chunk in it. -/
theorem proper_client (v : Opening) (es : List Event) : (v.client es).Proper := by
  rw [client_eq]
  exact ((Channel.proper_idle v.room).applyAll v.early).applyAll _

/-- What the client does later comes to its stream, as if nobody had read any of it. -/
theorem client_append (v : Opening) (es more : List Event) :
    v.client (es ++ more) = (v.client es).applyAll (SessionRun.clientEvents more) := by
  have hevents : SessionRun.clientEvents (es ++ more) =
      SessionRun.clientEvents es ++ SessionRun.clientEvents more := by
    induction es with
    | nil => rfl
    | cons e es ih =>
      rw [List.cons_append, SessionRun.clientEvents_cons, ih, SessionRun.clientEvents_cons e es,
        List.append_assoc]
  show Lookahead.applyAll _ _ = _
  rw [hevents, Lookahead.applyAll_append]
  rfl

/-- What has arrived first stays first. -/
theorem inbox_isPrefix (v : Opening) {es es' : List Event} (h : es <+: es') :
    (v.client es).channel.inbox <+: (v.client es').channel.inbox := by
  obtain ⟨more, rfl⟩ := h
  rw [client_append]
  generalize SessionRun.clientEvents more = events
  generalize v.client es = l
  induction events generalizing l with
  | nil => exact List.prefix_refl _
  | cons e events ih =>
    refine List.IsPrefix.trans ?_ (ih (l.apply e))
    show l.channel.inbox <+: (l.channel.apply e).inbox
    -- Things arrive at the end of the inbox, or not at all once the input has ended.
    have harrive : ∀ a, l.channel.inbox <+: (l.channel.arrive a).inbox := by
      intro a
      unfold Channel.arrive
      split
      · exact List.prefix_refl _
      · exact List.prefix_append _ _
    cases e with
    | send bs =>
      simp only [Channel.apply]
      split
      · exact List.prefix_refl _
      · exact harrive _
    | failRead f => exact harrive _
    | widen amount => cases amount <;> exact List.prefix_refl _
    | _ => exact List.prefix_refl _

/-- What the first octet says is not taken back. -/
theorem SpeaksHttp.of_isPrefix {v : Opening} {es es' : List Event} (h : v.SpeaksHttp es')
    (hes : es <+: es') : v.SpeaksHttp es := by
  rcases h with h | ⟨hentry, h⟩
  · exact .inl h
  · refine .inr ⟨hentry, fun b bs hfirst => h b bs ?_⟩
    obtain ⟨rest, hrest⟩ := v.inbox_isPrefix hes
    rw [← hrest, List.head?_append, hfirst]
    rfl

/-! ### Requests -/

/-- The instant from which on a head is read: at once, or when the first octet has come. -/
inductive HeadBegun (v : Opening) (es : List Event) : Nat → Prop where
  | entered (entry : v.entry = .speaking .httpConnect) : HeadBegun v es v.now
  | detected {es₀ : List Event} (entry : v.entry = .detecting) (within : es₀ <+: es)
      (spoken : v.Spoken es₀)
      (first : ∀ es', es' <+: es₀ → es' ≠ es₀ → (v.client es').channel.inbox = []) :
      HeadBegun v es (v.after es₀).now

/-- The instant at which a head has to be there that is read from `began` on. -/
def headDeadline (v : Opening) (began : Nat) : Nat :=
  Time.deadline began v.settings.requestReadTimeout

/-- A head was there within the cap and by the deadline, with nothing but blank lines in front. -/
inductive HeadRead (v : Opening) (es : List Event) : Bytes → Prop where
  | intro {es₀ : List Event} {began : Nat} {p h : Bytes} (within : es₀ <+: es)
      (begun : v.HeadBegun es₀ began) (preamble : IsPreamble p) (head : IsHead h)
      (there : p ++ h <+: v.heard es₀)
      (in_cap : (p ++ h).length ≤ v.settings.maxRequestBytes)
      (in_time : (v.after es₀).now ≤ v.headDeadline began) : HeadRead v es h

/-- The client has asked for a target: its head is understood, with the method CONNECT and an
    authority that names the target. -/
inductive Asked (v : Opening) (es : List Event) : Target → Prop where
  | intro {h : Bytes} {request : RequestHead} {target : Target} (head : v.HeadRead es h)
      (understood : RequestHead.parse h v.settings.maxRequestBytes = .ok request)
      (method : request.method = text "CONNECT")
      (named : Target.ofAuthority request.authority = .ok target) : Asked v es target

/-- What a client has sent holds no head that fits the cap. -/
def Headless (v : Opening) (es : List Event) : Prop :=
  ∀ p h, Framed (v.heard es) p h → v.settings.maxRequestBytes < (p ++ h).length

/-- Why a tunnel is refused, and the code of the answer. -/
inductive Refused (v : Opening) (es : List Event) : Failure → Nat → Prop where
  /-- The cap is used up without a head. -/
  | overlong {es₀ : List Event} {began : Nat} (within : es₀ <+: es)
      (begun : v.HeadBegun es₀ began) (headless : v.Headless es₀)
      (used : v.settings.maxRequestBytes ≤ (v.heard es₀).length) :
      Refused v es (.requestTooLarge v.settings.maxRequestBytes) 431
  /-- The stream ends or fails without a head. -/
  | cut {es₀ : List Event} {began : Nat} {e : Ending} (within : es₀ <+: es)
      (begun : v.HeadBegun es₀ began) (headless : v.Headless es₀)
      (ending : Item.ending? (v.client es₀).items = some e) :
      Refused v es (.malformedRequest (.unreadable e.asFault)) 400
  /-- The deadline comes without a head. -/
  | late {es₀ : List Event} {began : Nat} (within : es₀ <+: es)
      (begun : v.HeadBegun es₀ began) (headless : v.Headless es₀)
      (deadline : v.headDeadline began ≤ (v.after es₀).now) :
      Refused v es (.malformedRequest (.late v.settings.requestReadTimeout)) 400
  | tooManyHeaders {h : Bytes} (head : v.HeadRead es h)
      (flawed : RequestHead.read h = .error .tooManyHeaders) :
      Refused v es (.requestTooLarge v.settings.maxRequestBytes) 431
  | malformed {h : Bytes} {flaw : HeadFlaw} (head : v.HeadRead es h)
      (flawed : RequestHead.read h = .error flaw) (slots : flaw ≠ .tooManyHeaders) :
      Refused v es (.malformedRequest flaw) 400
  | method {h : Bytes} {request : RequestHead} (head : v.HeadRead es h)
      (understood : RequestHead.read h = .ok request) (method : request.method ≠ text "CONNECT") :
      Refused v es (.unsupportedMethod request.method) 405
  | target {h : Bytes} {request : RequestHead} {flaw : TargetFlaw} (head : v.HeadRead es h)
      (understood : RequestHead.read h = .ok request) (method : request.method = text "CONNECT")
      (nameless : Target.resolve request.authority = .error flaw) :
      Refused v es (.invalidTarget request.authority flaw) 400
  /-- The target could not be connected to, or not in time. -/
  | dial {target : Target} {fault : Fault} (asked : v.Asked es target)
      (failed : (v.network.attempt target.render).reach = .failed fault ∨
        (v.network.attempt target.render).reach = .hanging ∧ fault = Dial.timedOut) :
      Refused v es (.dialFailure target.render fault) 502

variable {v : Opening} {es es' : List Event} {h : Bytes} {target : Target} {failure : Failure}
  {code began : Nat}

/-! ### Nothing of this is taken back -/

/-- A request head that has begun has begun when it did, whatever follows. -/
theorem HeadBegun.mono (hb : v.HeadBegun es began) (hes : es <+: es') : v.HeadBegun es' began := by
  cases hb with
  | entered entry => exact .entered entry
  | detected entry within spoken first => exact .detected entry (within.trans hes) spoken first

/-- A request head that was read stays read. -/
theorem HeadRead.mono (hr : v.HeadRead es h) (hes : es <+: es') : v.HeadRead es' h := by
  cases hr with
  | intro within begun preamble head there in_cap in_time =>
    exact .intro (within.trans hes) begun preamble head there in_cap in_time

/-- A target that was asked for stays the one asked for. -/
theorem Asked.mono (ha : v.Asked es target) (hes : es <+: es') : v.Asked es' target := by
  cases ha with
  | intro head understood method named => exact .intro (head.mono hes) understood method named

/-- A request that was refused stays refused, with the same failure and code. -/
theorem Refused.mono (hr : v.Refused es failure code) (hes : es <+: es') :
    v.Refused es' failure code := by
  cases hr with
  | overlong within begun headless used =>
    exact .overlong (within.trans hes) begun headless used
  | cut within begun headless ending => exact .cut (within.trans hes) begun headless ending
  | late within begun headless deadline =>
    exact .late (within.trans hes) begun headless deadline
  | tooManyHeaders head flawed => exact .tooManyHeaders (head.mono hes) flawed
  | malformed head flawed slots => exact .malformed (head.mono hes) flawed slots
  | method head understood method => exact .method (head.mono hes) understood method
  | target head understood method nameless =>
    exact .target (head.mono hes) understood method nameless
  | dial asked failed => exact .dial (asked.mono hes) failed

/-- A tunnel is refused only when a head had begun to be read. -/
theorem Refused.begun (hr : v.Refused es failure code) : ∃ began, v.HeadBegun es began := by
  have hread : ∀ {h}, v.HeadRead es h → ∃ began, v.HeadBegun es began := by
    intro h hh
    cases hh with
    | intro within begun => exact ⟨_, begun.mono within⟩
  cases hr with
  | overlong within begun => exact ⟨_, begun.mono within⟩
  | cut within begun => exact ⟨_, begun.mono within⟩
  | late within begun => exact ⟨_, begun.mono within⟩
  | tooManyHeaders head => exact hread head
  | malformed head => exact hread head
  | method head => exact hread head
  | target head => exact hread head
  | dial asked =>
    cases asked with
    | intro head => exact hread head

/-- Once a head has begun, nothing changes the protocol any more. -/
theorem HeadBegun.speaksHttp (hb : v.HeadBegun es began) (hspeaks : v.SpeaksHttp es)
    (hes : es <+: es') : v.SpeaksHttp es' := by
  rcases hspeaks with hentry | ⟨hentry, hfirst⟩
  · exact .inl hentry
  · refine .inr ⟨hentry, fun b bs hb' => hfirst b bs ?_⟩
    cases hb with
    | entered entry =>
      rw [hentry] at entry
      cases entry
    | detected entry within spoken first =>
      -- The first thing that came is still the first one.
      obtain ⟨cs, hcs⟩ := spoken
      have hat : ∀ {fs : List Event}, _ <+: fs →
          (v.client fs).channel.inbox.head? = some (.data cs) := fun hle => by
        obtain ⟨rest, hrest⟩ := v.inbox_isPrefix hle
        rw [← hrest, List.head?_append, hcs]
        rfl
      rw [hat within]
      rw [hat (within.trans hes)] at hb'
      exact hb'

/-! ### Answers -/

/-- **Every refusal has an answer**, with the code of its cause. -/
theorem Refused.status (hr : v.Refused es failure code) :
    ∃ reason, failure.httpStatus? = some (code, reason) := by
  cases hr <;> exact ⟨_, rfl⟩

/-- A refused request is answered by the status of its failure and the text of it. -/
theorem Refused.answer (hr : v.Refused es failure code) :
    ∃ reason, failure.httpStatus? = some (code, reason) ∧
      Response.ofFailure? failure = some (Response.error code reason failure.httpBody) := by
  obtain ⟨reason, hstatus⟩ := hr.status
  exact ⟨reason, hstatus, by rw [Response.ofFailure?, hstatus]; rfl⟩

/-- A request head that can be read asks for the target of its authority, if its method is the one
    served. -/
theorem requested_of_read {request : RequestHead} (cap : Nat)
    (hread : RequestHead.read h = .ok request) :
    RequestHead.parse h cap = .ok request ∧
      Session.requested h cap =
        if request.method = text "CONNECT" then Target.ofAuthority request.authority
        else .error (.unsupportedMethod request.method) := by
  have hparse : RequestHead.parse h cap = .ok request := by
    rw [RequestHead.parse, hread]
    rfl
  refine ⟨hparse, ?_⟩
  rw [Session.requested, hparse]
  rfl

/-- A request head with a flaw asks for nothing but a refusal. -/
theorem requested_of_flaw {flaw : HeadFlaw} (cap : Nat) (hread : RequestHead.read h = .error flaw) :
    Session.requested h cap = .error (RequestHead.failureOf cap flaw) := by
  rw [Session.requested, RequestHead.parse, hread]
  rfl

/-- A head that is there asks for a target, or is refused. -/
theorem requested_cases (hh : v.HeadRead es h) :
    (∃ target, Session.requested h v.settings.maxRequestBytes = .ok target ∧ v.Asked es target) ∨
      ∃ failure code, Session.requested h v.settings.maxRequestBytes = .error failure ∧
        v.Refused es failure code := by
  -- In the order of the checks: the head itself, its method, and then its target.
  cases hread : RequestHead.read h with
  | error flaw =>
    rw [requested_of_flaw _ hread]
    by_cases hslots : flaw = .tooManyHeaders
    · subst hslots
      exact .inr ⟨_, 431, rfl, .tooManyHeaders hh hread⟩
    · have hfailure : RequestHead.failureOf v.settings.maxRequestBytes flaw =
          .malformedRequest flaw := by
        cases flaw <;> first | rfl | exact absurd rfl hslots
      rw [hfailure]
      exact .inr ⟨_, 400, rfl, .malformed hh hread hslots⟩
  | ok request =>
    obtain ⟨hparse, hrequested⟩ := requested_of_read v.settings.maxRequestBytes hread
    rw [hrequested]
    by_cases hmethod : request.method = text "CONNECT"
    · rw [if_pos hmethod]
      cases hresolve : Target.resolve request.authority with
      | ok target =>
        have hnamed : Target.ofAuthority request.authority = .ok target := by
          rw [Target.ofAuthority, hresolve]
        exact .inl ⟨target, hnamed, .intro hh hparse hmethod hnamed⟩
      | error flaw =>
        have hnameless : Target.ofAuthority request.authority =
            .error (.invalidTarget request.authority flaw) := by
          rw [Target.ofAuthority, hresolve]
        exact .inr ⟨_, 400, hnameless, .target hh hread hmethod hresolve⟩
    · rw [if_neg hmethod]
      exact .inr ⟨_, 405, rfl, .method hh hread hmethod⟩

end Opening

/-- The failure that a session refuses a tunnel for, if it does. -/
def Session.refusal? (s : Session) : Option Failure :=
  match s.outbound, s.phase with
  | none, .refusing failure _ => some failure
  | none, .finished (some (.proxy failure)) => some failure
  | _, _ => none

end ForwardProxy
