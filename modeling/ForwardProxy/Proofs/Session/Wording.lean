import ForwardProxy.Proofs.Session.Acts
import ForwardProxy.Proofs.Session.Unmixed
import ForwardProxy.Proofs.Session.Course
import ForwardProxy.Proofs.Tunnel.Faults
import ForwardProxy.Proofs.Wording.Handshakes
import ForwardProxy.Proofs.Wording.Requests

namespace ForwardProxy

/-!
# The wording of a session

What a session that was entered by its first octet puts into the log: its own words, numbers, the
address of the client, faults, and what the client asks for.  All of it is on one line but, at most,
the target of a SOCKS5 request, which is told as the client spells it.

* `PlainLog` — a log whose lines hold no line break.
* `Session.Asks` — what a client may have asked for, as far as the log is concerned.
* `Session.endingTells`, `Session.tellsTarget` — whether the target of a request has been told.
* `Session.Tells` — what a session has told the operator, one constructor for each phase.
* `Session.Worded.act` — nothing that a session does spoils that.
* `Session.Worded.applyClient`, `Session.Worded.applyPeer` — nor does what others do.
-/

open Text (OneLine oneLine_append oneLine_concat oneLine_literal oneLine_message oneLine_ofList
  oneLine_toString)

/-! ### Failures and lines -/

namespace SessionFailure

/-- A failure is told on one line. -/
def Plain : SessionFailure → Prop
  | proxy failure => failure.Plain
  | socks failure => failure.Plain

variable {failure : SessionFailure}

/-- The message of a failure is one line exactly if the failure is plain. -/
theorem oneLine_message_iff : OneLine (text failure.message) ↔ failure.Plain := by
  cases failure <;> exact .rfl

/-- A cause that is told behind a failure has been told in the failure already. -/
theorem oneLine_withCause_iff : OneLine (text failure.withCause) ↔ failure.Plain := by
  cases failure with
  | socks failure => exact .rfl
  | proxy failure =>
    cases failure with
    | io fault =>
      have hio : OneLine (text (Failure.io fault).message) ↔ fault.Plain := Failure.plain_io_iff
      show OneLine (text s!"{(Failure.io fault).message}: {fault.message}") ↔
        (Failure.io fault).Plain
      simp only [oneLine_concat, oneLine_message, hio, Failure.plain_io_iff]
      exact ⟨fun h => h.2, fun h => ⟨⟨h, by decide⟩, h⟩⟩
    | _ => exact .rfl

end SessionFailure

/-- The name of a protocol is one line. -/
theorem Protocol.oneLine_name (protocol : Protocol) : OneLine (text protocol.name) := by
  cases protocol <;> exact oneLine_literal rfl

/-- No line of a log holds a line break. -/
def PlainLog (log : List LogLine) : Prop := ∀ line ∈ log, OneLine (text line.message)

/-- An empty log is plain. -/
theorem plainLog_nil : PlainLog [] := nofun

/-- A log with one line more is plain exactly if it was, and the line is one line. -/
theorem plainLog_concat {log : List LogLine} {level : LogLevel} {message : String} :
    PlainLog (log ++ [⟨level, message⟩]) ↔ PlainLog log ∧ OneLine (text message) := by
  simp only [PlainLog, List.forall_mem_append, List.forall_mem_singleton]

/-- A line that is about the same as those before it. -/
theorem plainLog_concat_iff {log : List LogLine} {level : LogLevel} {message : String} {P : Prop}
    (hlog : PlainLog log ↔ P) (hmessage : OneLine (text message) ↔ P) :
    PlainLog (log ++ [⟨level, message⟩]) ↔ P := by
  rw [plainLog_concat, hlog, hmessage]
  exact and_self_iff

/-! ### Targets -/

/-- Why a local address cannot be read is told on one line. -/
theorem Outbound.plain_localAddress {o : Outbound} {fault : Fault}
    (h : o.localAddress = .error fault) : fault.Plain := by
  unfold localAddress at h
  split at h
  · split at h <;> cases h
  · cases h
    exact Fault.plain_system 22

/-- The target of a request is on one line if its domain is. -/
theorem Socks5.Ask.oneLine_target_iff {a : Socks5.Ask} :
    OneLine a.target ↔ ∀ name, a.host = .domain name → OneLine name := by
  cases hhost : a.host with
  | ip address =>
    have htarget : a.target = (SocketAddress.ofIp address a.port).render := by
      rw [target, request, Destination.render, hhost]
    rw [htarget]
    exact iff_of_true (SocketAddress.oneLine_render _) nofun
  | domain name =>
    have htarget : a.target = name ++ [':'] ++ Decimal.write a.port.toNat := by
      rw [target, request, Destination.render, hhost]
    rw [htarget]
    simp only [oneLine_append, Text.oneLine_write, and_true]
    refine ⟨fun h name' hname => ?_, fun h => ⟨h name rfl, by decide⟩⟩
    cases hname
    exact h.1

namespace Session

/-- What a client may have asked for: an HTTP client for a target on one line, a SOCKS5 client for
    the target of the request that its stream opens with. -/
inductive Asks (g : Lookahead) : Protocol → Text → Prop where
  | httpConnect {target : Text} (speaks : Protocol.spoken? g.unread = some .httpConnect)
      (oneLine : OneLine target) : Asks g .httpConnect target
  | socks5 {a : Socks5.Ask} (opens : a.octets <+: g.unread) (command : a.command = .connect) :
      Asks g .socks5 a.target

/-- Whether a session that ends this way, with a connection or without one, has told the target that
    its client asked for: its tunnel has run, or the target could not be reached. -/
def endingTells (connected : Bool) : Option SessionFailure → Bool
  | some (.proxy (.dialFailure _ _)) => true
  | failure => connected && endsTunnel failure

/-- Whether a SOCKS5 session has told the target that its client asked for. -/
def tellsTarget (s : Session) : Bool :=
  match s.phase with
  | .relaying _ _ _ => true
  | .finished failure => endingTells s.outbound.isSome failure
  | _ => false

/-! ### The invariant -/

/-- What a session has told the operator: `g` is the stream of its client, of which nobody has read
    anything. -/
inductive Tells (g : Lookahead) :
    Phase → Lookahead → Option Outbound → List LogLine → Prop where
  | peeking {deadline : Nat} {client : Lookahead} {log : List LogLine}
      (follows : g.Follows [] client) (untold : client.channel.written = [])
      (plain : PlainLog log) : Tells g (.peeking deadline) client none log
  | readingHead {reader : HeadReader} {deadline : Nat} {client : Lookahead} {log : List LogLine}
      (speaks : Protocol.spoken? g.unread = some .httpConnect) (plain : PlainLog log) :
      Tells g (.readingHead reader deadline) client none log
  | negotiating {handshake : Socks5.Handshake} {deadline : Nat} {client : Lookahead}
      {log : List LogLine} (stood : Socks5.Stood g (handshake, client))
      (flaws : handshake.Plain) (plain : PlainLog log) :
      Tells g (.negotiating handshake deadline) client none log
  | dialling {protocol : Protocol} {dial : Dial} {client : Lookahead} {log : List LogLine}
      (asks : Asks g protocol dial.target)
      (fails : ∀ f, dial.attempt.reach = .failed f → f.Plain) (plain : PlainLog log) :
      Tells g (.dialling protocol dial) client none log
  | refusing {failure : Failure} {left : Bytes} {client : Lookahead} {log : List LogLine}
      (speaks : Protocol.spoken? g.unread = some .httpConnect) (cause : failure.Plain)
      (plain : PlainLog log) : Tells g (.refusing failure left) client none log
  | rejecting {failure : Socks5.SocksFailure} {reply : Bytes} {client : Lookahead}
      {log : List LogLine} (cause : failure.Plain) (plain : PlainLog log) :
      Tells g (.rejecting (.socks failure) reply) client none log
  /-- The target could not be reached. -/
  | unreached {target : Text} {fault : Fault} {reply : Bytes} {client : Lookahead}
      {log : List LogLine} (asks : Asks g .socks5 target) (cause : fault.Plain)
      (plain : PlainLog log) :
      Tells g (.rejecting (.proxy (.dialFailure target fault)) reply) client none log
  | announcing {protocol : Protocol} {target : Text} {left : Bytes} {client : Lookahead}
      {o : Outbound} {log : List LogLine} (asks : Asks g protocol target) (plain : PlainLog log) :
      Tells g (.announcing protocol target left) client (some o) log
  | relaying {protocol : Protocol} {target : Text} {tunnel : Tunnel} {client : Lookahead}
      {o : Outbound} {log : List LogLine} (asks : Asks g protocol target)
      (ended : ∀ f, tunnel.up.fault? = some f ∨ tunnel.down.fault? = some f → f.Plain)
      (told : PlainLog log ↔ OneLine target) :
      Tells g (.relaying protocol target tunnel) client (some o) log
  /-- Nobody was told of a target. -/
  | silent {failure : Option SessionFailure} {client : Lookahead} {outbound : Option Outbound}
      {log : List LogLine} (untold : endingTells outbound.isSome failure = false)
      (plain : PlainLog log) : Tells g (.finished failure) client outbound log
  /-- The session of an HTTP client is over. -/
  | served {failure : Option SessionFailure} {client : Lookahead} {outbound : Option Outbound}
      {log : List LogLine} (speaks : Protocol.spoken? g.unread = some .httpConnect)
      (plain : PlainLog log) : Tells g (.finished failure) client outbound log
  /-- The session of a SOCKS5 client is over, and has told its target. -/
  | named {failure : Option SessionFailure} {target : Text} {client : Lookahead}
      {outbound : Option Outbound} {log : List LogLine} (asks : Asks g .socks5 target)
      (tells : endingTells outbound.isSome failure = true) (told : PlainLog log ↔ OneLine target) :
      Tells g (.finished failure) client outbound log

/-- A session that was entered by its first octet, and meets no fault but such as are told on one
    line. -/
structure Meets (s : Session) : Prop where
  entry_eq : s.entry = .detecting
  client : s.client.Raises Fault.Plain
  target : ∀ o, s.outbound = some o → o.stream.Raises Fault.Plain

/-- Such a session that tells its operator what it may. -/
structure Worded (g : Lookahead) (s : Session) : Prop where
  meets : s.Meets
  tells : Tells g s.phase s.client s.outbound s.log

variable {net : Network} {g : Lookahead} {s : Session} {protocol : Protocol} {now : Nat}

/-- A target that was asked for stays so when more is sent. -/
theorem Asks.mono {g' : Lookahead} {target : Text} (h : Asks g protocol target)
    (hmore : g.unread <+: g'.unread) : Asks g' protocol target := by
  cases h with
  | httpConnect speaks oneLine => exact .httpConnect (spoken?_of_isPrefix hmore speaks) oneLine
  | socks5 opens command => exact .socks5 (opens.trans hmore) command

/-! ### Lines that tell a failure or a target -/

/-- The address of a peer is one line. -/
theorem oneLine_peerText (s : Session) : OneLine (text s.peerText) :=
  oneLine_ofList.2 s.peer.oneLine_render

/-- The line about the protocol is one line. -/
theorem oneLine_routed (s : Session) (protocol : Protocol) :
    OneLine (text s!"routing {s.peerText} as {protocol.name}") := by
  simp only [oneLine_concat, oneLine_message, s.oneLine_peerText, protocol.oneLine_name, and_true]
  exact ⟨oneLine_literal rfl, oneLine_literal rfl⟩

/-- The line about a client that closes at once is one line. -/
theorem oneLine_closedEarly (s : Session) :
    OneLine (text s!"{s.peerText} closed before sending anything") := by
  simp only [oneLine_concat, oneLine_message, s.oneLine_peerText, true_and]
  exact oneLine_literal rfl

/-- The line about a failed peek is one line, if the fault is plain. -/
theorem oneLine_peekFailed (s : Session) {f : Fault} (hf : f.Plain) :
    OneLine (text s!"peek failed for {s.peerText}: {f.message}") := by
  have hmessage : OneLine (text f.message) := hf
  simp only [oneLine_concat, oneLine_message, s.oneLine_peerText, hmessage, and_true]
  exact ⟨oneLine_literal rfl, oneLine_literal rfl⟩

/-- The line about a client that sends nothing is one line. -/
theorem oneLine_noData (s : Session) (span : Nat) :
    OneLine (text s!"no data from {s.peerText} within {Duration.describe span}") := by
  simp only [oneLine_concat, oneLine_message, s.oneLine_peerText, Text.oneLine_describe, and_true]
  exact ⟨oneLine_literal rfl, oneLine_literal rfl⟩

/-- The line about an answer that cannot be sent is one line, if the fault is plain. -/
theorem oneLine_unsent (s : Session) (code : Nat) {f : Fault} (hf : f.Plain) :
    OneLine (text s!"failed to send {code} to {s.peerText}: {f.message}") := by
  have hmessage : OneLine (text f.message) := hf
  simp only [oneLine_concat, oneLine_message, oneLine_toString, s.oneLine_peerText, hmessage,
    and_true]
  exact ⟨⟨oneLine_literal rfl, oneLine_literal rfl⟩, oneLine_literal rfl⟩

/-- The line about a failed SOCKS5 session is one line exactly if the failure is plain. -/
theorem oneLine_socksFailed (s : Session) (failure : SessionFailure) :
    OneLine (text s!"socks5 session for {s.peerText} failed: {failure.withCause}") ↔
      failure.Plain := by
  simp only [oneLine_concat, oneLine_message, s.oneLine_peerText,
    SessionFailure.oneLine_withCause_iff]
  exact ⟨fun h => h.2, fun h => ⟨⟨⟨oneLine_literal rfl, trivial⟩, oneLine_literal rfl⟩, h⟩⟩

/-- The line about a failed HTTP session is one line exactly if the failure is plain. -/
theorem oneLine_connectFailed (s : Session) (failure : SessionFailure) :
    OneLine (text s!"http connect for {s.peerText} failed: {failure.message}") ↔
      failure.Plain := by
  simp only [oneLine_concat, oneLine_message, s.oneLine_peerText,
    SessionFailure.oneLine_message_iff]
  exact ⟨fun h => h.2, fun h => ⟨⟨⟨oneLine_literal rfl, trivial⟩, oneLine_literal rfl⟩, h⟩⟩

/-- The line about a connection is one line exactly if the target is. -/
theorem oneLine_established (s : Session) (target : Text) :
    OneLine (text s!"Connection established to {String.ofList target} by {s.peerText}") ↔
      OneLine target := by
  simp only [oneLine_concat, oneLine_message, oneLine_ofList, s.oneLine_peerText, and_true]
  exact ⟨fun h => h.1.2, fun h => ⟨⟨oneLine_literal rfl, h⟩, oneLine_literal rfl⟩⟩

/-- The two ends of a tunnel are one line exactly if the target is. -/
theorem oneLine_between (s : Session) (target : Text) :
    OneLine (text s!"{s.peerText} <-> {String.ofList target}") ↔ OneLine target := by
  simp only [oneLine_concat, oneLine_message, oneLine_ofList, s.oneLine_peerText, true_and]
  exact and_iff_right (oneLine_literal rfl)

/-- The numbers of octets are one line. -/
theorem oneLine_moved (sent received : Nat) :
    OneLine (text s!"(sent: {sent}, received: {received})") := by
  simp only [oneLine_concat, oneLine_message, oneLine_toString, and_true]
  decide

/-- The line about a closed tunnel is one line exactly if its two ends are. -/
theorem oneLine_closed {between moved : String} (hmoved : OneLine (text moved)) :
    OneLine (text s!"Closed tunnel {between} {moved}") ↔ OneLine (text between) := by
  simp only [oneLine_concat, oneLine_message, hmoved, and_true]
  exact ⟨fun h => h.1.2, fun h => ⟨⟨oneLine_literal rfl, h⟩, oneLine_literal rfl⟩⟩

/-- The line about an idle tunnel is one line exactly if its two ends are. -/
theorem oneLine_idle (between : String) (span : Nat) :
    OneLine (text s!"tunnel {between} idle for {Duration.describe span}") ↔
      OneLine (text between) := by
  simp only [oneLine_concat, oneLine_message, Text.oneLine_describe, and_true]
  exact ⟨fun h => h.1.2, fun h => ⟨⟨oneLine_literal rfl, h⟩, oneLine_literal rfl⟩⟩

/-! ### Faults that are met -/

/-- A session that has read from its client, or written to it. -/
theorem Meets.hear (h : s.Meets) {l : Lookahead} (hl : l.Raises Fault.Plain) :
    Meets { s with client := l } := ⟨h.entry_eq, hl, h.target⟩

/-- The faults that a session may meet have nothing to do with its phase. -/
theorem Meets.enter (h : s.Meets) (phase : Phase) : Meets { s with phase := phase } :=
  ⟨h.entry_eq, h.client, h.target⟩

/-- The faults that a session may meet have nothing to do with its log. -/
theorem Meets.note (h : s.Meets) (level : LogLevel) (message : String) :
    (s.note level message).Meets := ⟨h.entry_eq, h.client, h.target⟩

/-! ### Endings -/

/-- A session that ends meets no other faults. -/
theorem Meets.finish (h : s.Meets) (failure : Option SessionFailure) :
    (s.finish failure).Meets where
  entry_eq := h.entry_eq
  client := h.client.close
  target o ho := by
    obtain ⟨o', ho', rfl⟩ := Option.map_eq_some_iff.1 ho
    exact (h.target o' ho').close

/-- A session that ends is worded by what it has told by then. -/
theorem Worded.finish_of (h : s.Meets) {failure : Option SessionFailure}
    (htells : Tells g (.finished failure) s.client.close (s.outbound.map Outbound.close) s.log) :
    (s.finish failure).Worded g := ⟨h.finish failure, htells⟩

/-- A failure is told as it is, by one line. -/
theorem Worded.fail_of (h : s.Meets) {failure : SessionFailure}
    (htells : ∀ log, (PlainLog log ↔ PlainLog s.log ∧ failure.Plain) →
      Tells g (.finished (some failure)) s.client.close (s.outbound.map Outbound.close) log) :
    (s.fail protocol failure).Worded g := by
  unfold Session.fail
  rw [h.entry_eq]
  have hnote (message : String) (hmessage : OneLine (text message) ↔ failure.Plain) :
      ((s.note .debug message).finish (some failure)).Worded g :=
    .finish_of (h.note .debug message)
      (htells _ (plainLog_concat.trans (and_congr_right fun _ => hmessage)))
  cases protocol with
  | socks5 => exact hnote _ (s.oneLine_socksFailed failure)
  | httpConnect => exact hnote _ (s.oneLine_connectFailed failure)

/-- A session without a connection that fails for a reason of its own. -/
theorem Worded.fail_alone (h : s.Meets) (hnone : s.outbound = none) (hplain : PlainLog s.log)
    {failure : Socks5.SocksFailure} (hfailure : failure.Plain) :
    (s.fail protocol (.socks failure)).Worded g := by
  refine .fail_of h fun log hlog => .silent ?_ (hlog.2 ⟨hplain, hfailure⟩)
  rw [hnone]
  rfl

/-- The session of an HTTP client fails. -/
theorem Worded.fail_served (h : s.Meets) (hspeaks : Protocol.spoken? g.unread = some .httpConnect)
    (hplain : PlainLog s.log) {failure : Failure} (hfailure : failure.Plain) :
    (s.fail .httpConnect (.proxy failure)).Worded g :=
  .fail_of h fun _ hlog => .served hspeaks (hlog.2 ⟨hplain, hfailure⟩)

/-- An HTTP failure is answered, or ends the session at once. -/
theorem Worded.refuse_of (h : s.Meets) (hnone : s.outbound = none)
    (hspeaks : Protocol.spoken? g.unread = some .httpConnect) (hplain : PlainLog s.log)
    {failure : Failure} (hfailure : failure.Plain) : (s.refuse failure).Worded g := by
  unfold Session.refuse
  split
  · refine ⟨⟨h.entry_eq, h.client, h.target⟩, ?_⟩
    show Tells g _ s.client s.outbound s.log
    rw [hnone]
    exact .refusing hspeaks hfailure hplain
  · exact .fail_served h hspeaks hplain hfailure

/-- A session that has nothing to tell but its own words ends without a failure. -/
theorem Worded.finish_alone (h : s.Meets) (hnone : s.outbound = none) (hplain : PlainLog s.log)
    {message : String} (hmessage : OneLine (text message)) :
    ((s.note .debug message).finish none).Worded g := by
  refine .finish_of (h.note .debug message) (.silent ?_ (plainLog_concat.2 ⟨hplain, hmessage⟩))
  show endingTells (s.outbound.map Outbound.close).isSome none = false
  rw [hnone]
  rfl

/-- A SOCKS5 failure is told by a reply before it is told the operator. -/
theorem Worded.reject_of (h : s.Meets) (hnone : s.outbound = none) {failure : SessionFailure}
    {code : Socks5.ReplyCode}
    (htells : ∀ reply, Tells g (.rejecting failure reply) s.client none s.log) :
    (s.reject code failure).Worded g := by
  refine ⟨⟨h.entry_eq, h.client, h.target⟩, ?_⟩
  show Tells g (.rejecting failure _) s.client s.outbound s.log
  rw [hnone]
  exact htells _

/-- A session that begins to dial has said nothing of its target yet. -/
theorem Worded.beginDial_of (h : s.Meets) (hnone : s.outbound = none) (hplain : PlainLog s.log)
    {target : Text} (hasks : Asks g protocol target) :
    (s.beginDial net now protocol target).Worded g := by
  refine ⟨⟨h.entry_eq, h.client, h.target⟩, ?_⟩
  show Tells g (.dialling protocol (Dial.start net target s.settings.dialTimeout now)) s.client
    s.outbound s.log
  rw [hnone]
  exact .dialling hasks (fun f hf => @Network.plain_attempt net f target hf) hplain

/-! ### Phase by phase -/

/-- A session that has been routed begins to speak its protocol. -/
theorem Tells.opened {settings : Settings} {client : Lookahead} {log : List LogLine}
    (hspeaks : Protocol.spoken? g.unread = some protocol) (hfollows : g.Follows [] client)
    (hstill : client.channel.written = []) (hplain : PlainLog log) :
    Tells g (opening settings now protocol) client none log := by
  cases protocol with
  | httpConnect => exact .readingHead hspeaks hplain
  | socks5 =>
    have hstood : Socks5.Stood g (.start, client) := by
      refine ⟨[], hfollows, ?_⟩
      rw [show (Socks5.Handshake.start, client).2.channel.written = [] from hstill]
      exact Socks5.stands_start
    exact .negotiating hstood trivial hplain

/-- What the first octet tells is told by the names of the protocols. -/
theorem Worded.peek (hw : s.Worded g) (now : Nat) : (s.peek now).Worded g := by
  have hsame := hw
  have hclosed := s.oneLine_closedEarly
  have hnoData := s.oneLine_noData s.settings.peekTimeout
  have hfailed {f : Fault} (hf : f.Plain) := s.oneLine_peekFailed hf
  have hrouted (b : UInt8) := s.oneLine_routed (.detect b)
  obtain ⟨settings, peer, entry, turn, client, outbound, phase, log, lookups, dials⟩ := s
  obtain ⟨hmeets, htells⟩ := hw
  cases htells with
  | peeking follows untold plain =>
    -- A peek may raise a fault of the stream, which is then part of a line.
    have hpeek := Lookahead.raises_peek hmeets.client
    have htook := client.took_peek
    unfold Session.peek
    dsimp only
    rcases hp : client.peek with ⟨a, l⟩
    rw [hp] at hpeek htook
    have hfollows : g.Follows [] l := follows.took htook
    have hstill : l.channel.written = [] := htook.written_eq.trans untold
    have hheard := hmeets.hear hpeek.1
    cases a with
    | ready first =>
      cases first with
      | none => exact .finish_alone hheard rfl plain hclosed
      | some b =>
        have hspeaks : Protocol.spoken? g.unread = some (.detect b) := by
          rw [Protocol.spoken?, follows.unread_eq, List.nil_append, Lookahead.unread_of_peek hp]
          rfl
        refine ⟨(hheard.note _ _).enter _, ?_⟩
        exact .opened hspeaks hfollows hstill (plainLog_concat.2 ⟨plain, hrouted b⟩)
    | failed f => exact .finish_alone hheard rfl plain (hfailed (hpeek.2 f rfl))
    | blocked =>
      dsimp only
      split
      · exact .finish_alone hheard rfl plain hnoData
      · exact ⟨hheard, .peeking hfollows hstill plain⟩
  | _ => exact hsame

/-- Why a head is refused is told on one line, and so is the target that it asks for. -/
theorem Worded.readHead (hw : s.Worded g) (now : Nat) : (s.readHead net now).Worded g := by
  have hsame := hw
  obtain ⟨settings, peer, entry, turn, client, outbound, phase, log, lookups, dials⟩ := s
  obtain ⟨hmeets, htells⟩ := hw
  cases htells with
  | @readingHead reader deadline client log speaks plain =>
    -- An attempt fails by a fault of the stream or by a flaw of the head; both are plain.
    have hattempt := reader.plain_attempt hmeets.client settings.headTerms deadline now
    unfold Session.readHead
    dsimp only
    rcases ha : reader.attempt settings.headTerms deadline now client with ⟨x, l⟩
    rw [ha] at hattempt
    have hheard := hmeets.hear hattempt.1
    rcases x with r | result
    · exact ⟨hheard.enter _, .readingHead speaks plain⟩
    · cases result with
      | error failure => exact .refuse_of hheard rfl speaks plain (hattempt.2 failure rfl)
      | ok head =>
        dsimp only
        split
        · rename_i failure hrequested
          exact .refuse_of hheard rfl speaks plain (plain_of_requested hrequested)
        · rename_i target hrequested
          have honeLine := oneLine_of_requested hrequested
          exact .beginDial_of hheard rfl plain (.httpConnect speaks honeLine)
  | _ => exact hsame

/-- A handshake tells its flaws on one line, and asks for what the stream opens with. -/
theorem Worded.negotiate (hw : s.Worded g) (now : Nat) : (s.negotiate net now).Worded g := by
  have hsame := hw
  obtain ⟨settings, peer, entry, turn, client, outbound, phase, log, lookups, dials⟩ := s
  obtain ⟨hmeets, htells⟩ := hw
  cases htells with
  | @negotiating handshake deadline client log stood flaws plain =>
    have hstood := Socks5.stood_run stood
    have htold := Socks5.Handshake.told_run (h := handshake) ⟨flaws, hmeets.client⟩
    unfold Session.negotiate
    dsimp only
    generalize handshake.run client = r at hstood htold ⊢
    obtain ⟨h, l⟩ := r
    obtain ⟨taken, hfollows, hstands⟩ := id hstood
    have hheard := hmeets.hear htold.raises
    -- A handshake that has not come to its end goes on, unless it is late.
    have hgoesOn : ∀ h' : Socks5.Handshake, h = h' →
        (if deadline ≤ now then
          Session.fail .socks5 (.socks (.late settings.requestReadTimeout))
            ⟨settings, peer, entry, turn, l, none, .negotiating handshake deadline, log, lookups,
              dials⟩
        else ⟨settings, peer, entry, turn, l, none, .negotiating h' deadline, log, lookups,
          dials⟩).Worded g := by
      rintro h' rfl
      split
      · exact .fail_alone hheard rfl plain (Socks5.SocksFailure.plain_late _)
      · exact ⟨hheard.enter _, .negotiating hstood htold.plain plain⟩
    cases h with
    | understood request =>
      generalize hwritten : (Socks5.Handshake.understood request, l).2.channel.written = said
        at hstands
      cases hstands with
      | understood a =>
        dsimp only
        split
        · rename_i hcommand
          have hopens : a.octets <+: g.unread := ⟨_, hfollows.unread_eq.symm⟩
          exact .beginDial_of hheard rfl plain (.socks5 hopens hcommand)
        · exact .reject_of hheard rfl fun _ =>
            .rejecting (Socks5.SocksFailure.plain_unsupported a.command) plain
    | failed failure => exact .fail_alone hheard rfl plain htold.plain
    | _ => exact hgoesOn _ rfl
  | _ => exact hsame

/-- Why a dial fails is told behind its target. -/
theorem Worded.dial (hw : s.Worded g) (next now : Nat) : (s.dial next now).Worded g := by
  have hsame := hw
  obtain ⟨settings, peer, entry, turn, client, outbound, phase, log, lookups, dials⟩ := s
  obtain ⟨hmeets, htells⟩ := hw
  cases htells with
  | @dialling protocol d client log asks fails plain =>
    obtain ⟨target, attempt, deadline⟩ := d
    unfold Session.dial
    dsimp only at asks ⊢
    cases houtcome : Dial.outcome? now ⟨target, attempt, deadline⟩ with
    | none => exact hsame
    | some result =>
      cases result with
      | error failure =>
        -- A failed dial tells the target; only an HTTP target is known to be one line here.
        obtain ⟨fault, rfl, hfault⟩ := Dial.dialFailure_of_outcome fails houtcome
        cases asks with
        | httpConnect speaks oneLine =>
          have hcause := (Failure.plain_dialFailure_iff hfault).2 oneLine
          exact .refuse_of hmeets rfl speaks plain hcause
        | socks5 opens command =>
          exact .reject_of hmeets rfl fun _ => .unreached (.socks5 opens command) hfault plain
      | ok c =>
        have hgreeted : ((Channel.idle c.room).apply (.send c.greeting)).Raises Fault.Plain :=
          (Channel.raises_idle c.room).apply (Fault.plain_bare _) trivial
        have hmeets' : ∀ phase, Meets ⟨settings, peer, entry, turn, client,
            some (.connect next c.address c.greeting c.localKnown c.room), phase, log, lookups,
            dials⟩ :=
          fun _ => ⟨hmeets.entry_eq, hmeets.client, fun o ho => by cases ho; exact hgreeted⟩
        cases protocol with
        | httpConnect => exact ⟨hmeets' _, .announcing asks plain⟩
        | socks5 =>
          dsimp only [announce]
          cases haddress :
              (Outbound.connect next c.address c.greeting c.localKnown c.room).localAddress with
          | ok address => exact ⟨hmeets' _, .announcing asks plain⟩
          | error fault =>
            have hfault := Outbound.plain_localAddress haddress
            have hcause := Socks5.SocksFailure.plain_localAddress hfault
            exact .fail_of (hmeets' _) fun log hlog => .silent rfl (hlog.2 ⟨plain, hcause⟩)
  | _ => exact hsame

/-- What a client is told is no concern of the operator, unless it cannot be told. -/
theorem Worded.tell_refusing (h : s.Meets) {failure : Failure} {left : Bytes}
    (hphase : s.phase = .refusing failure left) (hnone : s.outbound = none)
    (hspeaks : Protocol.spoken? g.unread = some .httpConnect) (hcause : failure.Plain)
    (hplain : PlainLog s.log) (now : Nat) : (s.tell now).Worded g := by
  have hwrite := Lookahead.raises_writeAll (Fault.plain_bare _) h.client left
  have hunsent (code : Nat) {f : Fault} (hf : f.Plain) := s.oneLine_unsent code hf
  obtain ⟨settings, peer, entry, turn, client, outbound, phase, log, lookups, dials⟩ := s
  obtain rfl : phase = .refusing failure left := hphase
  obtain rfl : outbound = none := hnone
  unfold Session.tell
  dsimp only at hwrite ⊢
  rcases hw : client.writeAll left with ⟨a, rest, l⟩
  rw [hw] at hwrite
  have hheard := h.hear hwrite.1
  cases a with
  | ready u => exact .fail_served hheard hspeaks hplain hcause
  | blocked => exact ⟨hheard.enter _, .refusing hspeaks hcause hplain⟩
  | failed f =>
    refine .fail_served (hheard.note _ _) hspeaks (plainLog_concat.2 ⟨hplain, ?_⟩) hcause
    exact hunsent _ (hwrite.2 f rfl)

/-- A rejection ends the session, however little of the reply was taken. -/
theorem Worded.tell_rejecting (h : s.Meets) {failure : SessionFailure} {reply : Bytes}
    (hphase : s.phase = .rejecting failure reply) (hnone : s.outbound = none)
    (hwaits : ∀ l, Tells g (.rejecting failure reply) l none s.log)
    (hends : ∀ l log, (PlainLog log ↔ PlainLog s.log ∧ failure.Plain) →
      Tells g (.finished (some failure)) l none log) (now : Nat) : (s.tell now).Worded g := by
  have hwrite := Lookahead.raises_write (Fault.plain_bare _) h.client reply
  obtain ⟨settings, peer, entry, turn, client, outbound, phase, log, lookups, dials⟩ := s
  obtain rfl : phase = .rejecting failure reply := hphase
  obtain rfl : outbound = none := hnone
  unfold Session.tell
  dsimp only at hwrite ⊢
  rcases hw : client.write reply with ⟨a, l⟩
  rw [hw] at hwrite
  have hheard := h.hear hwrite.1
  cases a with
  | blocked => exact ⟨hheard, hwaits l⟩
  | ready k => exact .fail_of hheard (hends l.close)
  | failed f => exact .fail_of hheard (hends l.close)

/-- **The target** is told when the tunnel begins, as the client spells it. -/
theorem Worded.beginRelay_of (h : s.Meets) {o : Outbound} (houtbound : s.outbound = some o)
    (hplain : PlainLog s.log) {target : Text} (hasks : Asks g protocol target) (now : Nat) :
    (s.beginRelay now protocol target).Worded g := by
  refine ⟨⟨h.entry_eq, h.client, h.target⟩, ?_⟩
  show Tells g (.relaying protocol target _) s.client s.outbound (s.log ++ [⟨_, _⟩])
  rw [houtbound]
  refine .relaying hasks (fun f hf => ?_) ?_
  · rcases hf with hf | hf <;> cases hf
  · exact plainLog_concat.trans ((and_iff_right hplain).trans (s.oneLine_established target))

/-- A session that tells its client of the connection has told nothing of the target that is not
    asked for. -/
theorem Worded.tell_announcing (h : s.Meets) {target : Text} {left : Bytes} {o : Outbound}
    (hphase : s.phase = .announcing protocol target left) (houtbound : s.outbound = some o)
    (hasks : Asks g protocol target) (hplain : PlainLog s.log) (now : Nat) :
    (s.tell now).Worded g := by
  obtain ⟨settings, peer, entry, turn, client, outbound, phase, log, lookups, dials⟩ := s
  obtain rfl : phase = .announcing protocol target left := hphase
  obtain rfl : outbound = some o := houtbound
  unfold Session.tell
  cases protocol with
  | httpConnect =>
    have hwrite := Lookahead.raises_writeAll (Fault.plain_bare _) h.client left
    dsimp only at hwrite ⊢
    rcases hw : client.writeAll left with ⟨a, rest, l⟩
    rw [hw] at hwrite
    have hheard := h.hear hwrite.1
    cases a with
    | ready u => exact .beginRelay_of hheard rfl hplain hasks now
    | blocked => exact ⟨hheard.enter _, .announcing hasks hplain⟩
    | failed f =>
      cases hasks with
      | httpConnect speaks oneLine =>
        exact .fail_served hheard speaks hplain (Failure.plain_io_iff.2 (hwrite.2 f rfl))
  | socks5 =>
    have hwrite := Lookahead.raises_write (Fault.plain_bare _) h.client left
    dsimp only at hwrite ⊢
    rcases hw : client.write left with ⟨a, l⟩
    rw [hw] at hwrite
    have hheard := h.hear hwrite.1
    cases a with
    | ready k => exact .beginRelay_of hheard rfl hplain hasks now
    | blocked => exact ⟨hheard, .announcing hasks hplain⟩
    | failed f =>
      have hcause := Socks5.SocksFailure.plain_reply (hwrite.2 f rfl)
      exact .fail_of hheard fun log hlog => .silent rfl (hlog.2 ⟨hplain, hcause⟩)

/-- A session stays worded when it tells its client what it can. -/
theorem Worded.tell (hw : s.Worded g) (now : Nat) : (s.tell now).Worded g := by
  have hsame := hw
  obtain ⟨settings, peer, entry, turn, client, outbound, phase, log, lookups, dials⟩ := s
  obtain ⟨hmeets, htells⟩ := hw
  cases htells with
  | refusing speaks cause plain => exact .tell_refusing hmeets rfl rfl speaks cause plain now
  | rejecting cause plain =>
    exact .tell_rejecting hmeets rfl rfl (fun _ => .rejecting cause plain)
      (fun _ _ hlog => .silent rfl (hlog.2 ⟨plain, cause⟩)) now
  | unreached asks cause plain =>
    exact .tell_rejecting hmeets rfl rfl (fun _ => .unreached asks cause plain)
      (fun _ _ hlog => .named asks rfl
        (hlog.trans ((and_iff_right plain).trans (Failure.plain_dialFailure_iff cause)))) now
  | announcing asks plain => exact .tell_announcing hmeets rfl rfl asks plain now
  | _ => exact hsame

/-- A tunnel that moves tells nothing. -/
theorem Worded.carry (hw : s.Worded g) (now : Nat) (m : TunnelRun.Move) :
    (s.carry now m).Worded g := by
  have hsame := hw
  obtain ⟨settings, peer, entry, turn, client, outbound, phase, log, lookups, dials⟩ := s
  obtain ⟨hmeets, htells⟩ := hw
  cases htells with
  | @relaying protocol target tunnel client o log asks ended told =>
    unfold Session.carry
    dsimp only
    split
    · rename_i hown
      -- The streams and the halves meet plain faults only, so the move meets no other.
      have hraises : TunnelRun.Raises Fault.Plain ⟨now, tunnel, ⟨client, o.stream⟩⟩ := by
        constructor
        · intro side
          cases side with
          | client => exact hmeets.client
          | target => exact hmeets.target o rfl
        · intro side f hf
          cases side with
          | client => exact ended f (.inl hf)
          | target => exact ended f (.inr hf)
      have hmoved := hraises.move (Fault.plain_bare _) Fault.plain_idle hown
      refine ⟨⟨hmeets.entry_eq, hmoved.streams .client, fun o' ho => ?_⟩, ?_⟩
      · cases ho
        exact hmoved.streams .target
      · refine .relaying asks (fun f hf => ?_) told
        exact hf.elim (hmoved.halves .client f) (hmoved.halves .target f)
    · exact hsame
  | _ => exact hsame

/-- A session whose tunnel has run has told the target. -/
theorem Asks.tells {target : Text} {failure : Option SessionFailure} {client : Lookahead}
    {o : Outbound} {log : List LogLine} (h : Asks g protocol target)
    (hends : endingTells true failure = true) (htold : PlainLog log ↔ OneLine target) :
    Tells g (.finished failure) client (some o) log := by
  cases h with
  | httpConnect speaks oneLine => exact .served speaks (htold.2 oneLine)
  | socks5 opens command => exact .named (.socks5 opens command) hends htold

/-- When the tunnel ends, the target is told once more, and why the tunnel stopped. -/
theorem Worded.conclude_of (h : s.Meets) {o : Outbound} (houtbound : s.outbound = some o)
    {target : Text} (hasks : Asks g protocol target) (htold : PlainLog s.log ↔ OneLine target)
    (stats : TunnelStats)
    (hcause : ∀ failure, stats.failure = some failure →
      (∃ span, failure = .idleTimeout span) ∨ ∃ f, failure = .io f ∧ f.Plain) :
    (s.conclude protocol target stats).Worded g := by
  obtain ⟨sent, received, failure⟩ := stats
  have hbetween := s.oneLine_between target
  -- The lines at the end name the target once more, so they are as plain as it is.
  have hclosed := (oneLine_closed (oneLine_moved sent received)).trans hbetween
  have hlog := @plainLog_concat_iff _ .info _ _ htold hclosed
  obtain ⟨settings, peer, entry, turn, client, outbound, phase, log, lookups, dials⟩ := s
  obtain rfl : outbound = some o := houtbound
  unfold Session.conclude
  dsimp only
  cases failure with
  | none => exact .finish_of (h.note _ _) (hasks.tells rfl hlog)
  | some failure =>
    rcases hcause failure rfl with ⟨span, rfl⟩ | ⟨f, rfl, hf⟩
    · exact .finish_of ((h.note _ _).note _ _)
        (hasks.tells rfl (plainLog_concat_iff hlog ((oneLine_idle _ span).trans hbetween)))
    · refine .fail_of (h.note _ _) fun log' hlog' => hasks.tells rfl ?_
      exact (hlog'.trans (and_iff_left (Failure.plain_io_iff.2 hf))).trans hlog

/-- A session that ends if its tunnel has stays worded. -/
theorem Worded.concludeOver (hw : s.Worded g) : s.concludeOver.Worded g := by
  have hsame := hw
  obtain ⟨settings, peer, entry, turn, client, outbound, phase, log, lookups, dials⟩ := s
  obtain ⟨hmeets, htells⟩ := hw
  cases htells with
  | @relaying protocol target tunnel client o log asks ended told =>
    unfold Session.concludeOver
    dsimp only
    split
    · exact hsame
    · rename_i stats hstats
      unfold Tunnel.stats? at hstats
      split at hstats
      · cases hstats
        refine .conclude_of hmeets rfl asks told _ fun failure hfailure => ?_
        refine (Tunnel.cause_of_failure? hfailure).imp_right ?_
        rintro ⟨f, rfl, hf⟩
        exact ⟨f, rfl, ended f hf⟩
      · cases hstats
  | _ => exact hsame

/-- **A session that does one thing** tells its operator what it may. -/
theorem Worded.act (hw : s.Worded g) (next now : Nat) (a : Act) :
    (s.act net next now a).Worded g := by
  cases a with
  | peek => exact hw.peek now
  | readHead => exact hw.readHead now
  | negotiate => exact hw.negotiate now
  | dial => exact hw.dial next now
  | tell => exact hw.tell now
  | carry m => exact hw.carry now m
  | conclude => exact hw.concludeOver

/-! ### What others do -/

/-- **Whatever a client does** has its stream open as it did. -/
theorem Worded.applyClient (hw : s.Worded g) {e : Channel.Event} (he : e.Raises Fault.Plain) :
    (s.applyClient e).Worded (g.apply e) := by
  obtain ⟨settings, peer, entry, turn, client, outbound, phase, log, lookups, dials⟩ := s
  obtain ⟨hmeets, htells⟩ := hw
  have hwritten := Lookahead.written_apply e client
  have hmore := g.unread_isPrefix_apply e
  refine ⟨⟨hmeets.entry_eq, hmeets.client.apply (Fault.plain_bare _) he, hmeets.target⟩, ?_⟩
  show Tells (g.apply e) phase (client.apply e) outbound log
  cases htells with
  | peeking follows untold plain =>
    exact .peeking (follows.apply e) (hwritten.trans untold) plain
  | readingHead speaks plain => exact .readingHead (spoken?_of_isPrefix hmore speaks) plain
  | negotiating stood flaws plain =>
    obtain ⟨taken, hfollows, hstands⟩ := stood
    rw [← hwritten] at hstands
    exact .negotiating ⟨taken, hfollows.apply e, hstands⟩ flaws plain
  | dialling asks fails plain => exact .dialling (asks.mono hmore) fails plain
  | refusing speaks cause plain => exact .refusing (spoken?_of_isPrefix hmore speaks) cause plain
  | rejecting cause plain => exact .rejecting cause plain
  | unreached asks cause plain => exact .unreached (asks.mono hmore) cause plain
  | announcing asks plain => exact .announcing (asks.mono hmore) plain
  | relaying asks ended told => exact .relaying (asks.mono hmore) ended told
  | silent untold plain => exact .silent untold plain
  | served speaks plain => exact .served (spoken?_of_isPrefix hmore speaks) plain
  | named asks tells told => exact .named (asks.mono hmore) tells told

/-- What is told does not depend on what the streams of a connection hold. -/
theorem Tells.of_streams {phase : Phase} {client : Lookahead} {outbound : Option Outbound}
    {log : List LogLine} (h : Tells g phase client outbound log) (f : Outbound → Outbound) :
    Tells g phase client (outbound.map f) log := by
  cases h with
  | peeking follows untold plain => exact .peeking follows untold plain
  | readingHead speaks plain => exact .readingHead speaks plain
  | negotiating stood flaws plain => exact .negotiating stood flaws plain
  | dialling asks fails plain => exact .dialling asks fails plain
  | refusing speaks cause plain => exact .refusing speaks cause plain
  | rejecting cause plain => exact .rejecting cause plain
  | unreached asks cause plain => exact .unreached asks cause plain
  | announcing asks plain => exact .announcing asks plain
  | relaying asks ended told => exact .relaying asks ended told
  | silent untold plain => exact .silent (by rwa [Option.isSome_map]) plain
  | served speaks plain => exact .served speaks plain
  | named asks tells told => exact .named asks (by rwa [Option.isSome_map]) told

/-- **Whatever happens on a connection**, the operator is not told of it. -/
theorem Worded.applyPeer (hw : s.Worded g) (number : Nat) {e : Channel.Event}
    (he : e.Raises Fault.Plain) : (s.applyPeer number e).Worded g := by
  obtain ⟨hmeets, htells⟩ := hw
  refine ⟨⟨hmeets.entry_eq, hmeets.client, fun o ho => ?_⟩, htells.of_streams _⟩
  obtain ⟨o', ho', rfl⟩ := Option.map_eq_some_iff.1 ho
  split
  · exact (hmeets.target o' ho').apply (Fault.plain_bare _) he
  · exact hmeets.target o' ho'

/-- The order of the halves is told to nobody. -/
theorem Worded.reorder (hw : s.Worded g) (turn : Turn) : (s.reorder turn).Worded g := by
  obtain ⟨settings, peer, entry, turn', client, outbound, phase, log, lookups, dials⟩ := s
  obtain ⟨hmeets, htells⟩ := hw
  refine ⟨⟨hmeets.entry_eq, hmeets.client, hmeets.target⟩, ?_⟩
  cases phase with
  | relaying protocol target tunnel =>
    cases htells with
    | relaying asks ended told => exact .relaying asks ended told
  | _ => exact htells

end Session

end ForwardProxy
