import ForwardProxy.Response
import ForwardProxy.RequestHead.Parser
import ForwardProxy.Session.Basic

namespace ForwardProxy.Session

/-!
# The progress of a session

At an instant, a session goes on as far as it can.  Each function below does the work of one or two
phases and leaves a session in any other phase as it is; `settle` puts them one after the other, in
the order in which a session goes through its phases.

The protocol is found out by `dispatch`.  From then on an HTTP session goes the way of
`handle_http_connect`, up to its tunnel in `establish`, and a SOCKS5 session the way of
`FastSocks5Engine`.

* `peek` — the first octet tells the protocol.
* `readHead`, `negotiate` — what the client asks for.
* `dial` — the connection to the target.
* `tell` — the answer to the client.
* `relay` — the tunnel.
-/

/-! ### Endings -/

/-- Ends a session; both its connections are closed. -/
def finish (failure : Option SessionFailure) (s : Session) : Session :=
  { s with
    phase := .finished failure
    client := s.client.close
    outbound := s.outbound.map Outbound.close }

/-- Ends a session by a failure, which goes into the log if the session was entered by its first
    octet. -/
def fail (protocol : Protocol) (failure : SessionFailure) (s : Session) : Session :=
  let s :=
    match s.entry, protocol with
    | .speaking _, _ => s
    | .detecting, .socks5 =>
      s.note .debug s!"socks5 session for {s.peerText} failed: {failure.withCause}"
    | .detecting, .httpConnect =>
      s.note .debug s!"http connect for {s.peerText} failed: {failure.message}"
  s.finish (some failure)

/-- Answers an HTTP failure, if it has an answer, and ends the session. -/
def refuse (failure : Failure) (s : Session) : Session :=
  match Response.ofFailure? failure with
  | some answer => { s with phase := .refusing failure answer }
  | none => s.fail .httpConnect (.proxy failure)

/-- Tells a SOCKS5 client that its request fails, and ends the session. -/
def reject (code : Socks5.ReplyCode) (failure : SessionFailure) (s : Session) : Session :=
  { s with phase := .rejecting failure (Socks5.errorReply code) }

/-! ### The request -/

/-- Waits for the first octet. -/
def peek (now : Nat) (s : Session) : Session :=
  match s.phase with
  | .peeking deadline =>
    match s.client.peek with
    | (.ready (some b), l) =>
      let protocol := Protocol.detect b
      let s := { s with client := l }.note .debug s!"routing {s.peerText} as {protocol.name}"
      { s with phase := opening s.settings now protocol }
    | (.ready none, l) =>
      ({ s with client := l }.note .debug
        s!"{s.peerText} closed before sending anything").finish none
    | (.failed f, l) =>
      ({ s with client := l }.note .debug s!"peek failed for {s.peerText}: {f.message}").finish none
    | (.blocked, l) =>
      if deadline ≤ now then
        let limit := Duration.describe s.settings.peekTimeout
        ({ s with client := l }.note .debug
          s!"no data from {s.peerText} within {limit}").finish none
      else { s with client := l }
  | _ => s

/-- Begins to dial. -/
def beginDial (net : Network) (now : Nat) (protocol : Protocol) (target : Text) (s : Session) :
    Session :=
  let d := Dial.start net target s.settings.dialTimeout now
  { s with
    phase := .dialling protocol d
    lookups := s.lookups ++ d.attempt.lookups
    dials := s.dials ++ d.attempt.connects }

/-- The target that a request head asks for. -/
def requested (head : Bytes) (cap : Nat) : Except Failure Target := do
  let request ← RequestHead.parse head cap
  if request.method = text "CONNECT" then
    Target.ofAuthority request.authority
  else .error (.unsupportedMethod request.method)

/-- Reads a request head and acts on it. -/
def readHead (net : Network) (now : Nat) (s : Session) : Session :=
  match s.phase with
  | .readingHead reader deadline =>
    match reader.attempt s.settings.headTerms deadline now s.client with
    | (.pending r, l) => { s with client := l, phase := .readingHead r deadline }
    | (.over (.error failure), l) => { s with client := l }.refuse failure
    | (.over (.ok head), l) =>
      match requested head s.settings.maxRequestBytes with
      | .error failure => { s with client := l }.refuse failure
      | .ok target => { s with client := l }.beginDial net now .httpConnect target.render
  | _ => s

/-- Goes on with a SOCKS5 handshake and acts on the request. -/
def negotiate (net : Network) (now : Nat) (s : Session) : Session :=
  match s.phase with
  | .negotiating handshake deadline =>
    match handshake.run s.client with
    | (.understood request, l) =>
      if request.command = .connect then
        { s with client := l }.beginDial net now .socks5 request.destination.render
      else
        { s with client := l }.reject .commandNotSupported (.socks (.unsupported request.command))
    | (.failed failure, l) => { s with client := l }.fail .socks5 (.socks failure)
    | (h, l) =>
      if deadline ≤ now then
        { s with client := l }.fail .socks5 (.socks (.late s.settings.requestReadTimeout))
      else { s with client := l, phase := .negotiating h deadline }
  | _ => s

/-! ### The target -/

/-- The SOCKS5 reply to a failed dial. -/
def dialReply : Failure → Socks5.ReplyCode
  | .dialFailure _ fault =>
    if fault.kind = .connectionRefused then .connectionRefused else .hostUnreachable
  | _ => .hostUnreachable

/-- Begins to tell a client that its target is reached. -/
def announce (protocol : Protocol) (target : Text) (outbound : Outbound) (s : Session) : Session :=
  let s := { s with outbound := some outbound }
  match protocol with
  | .httpConnect => { s with phase := .announcing .httpConnect target Response.established }
  | .socks5 =>
    match outbound.localAddress with
    | .ok address =>
      { s with phase := .announcing .socks5 target (Socks5.reply .succeeded address) }
    | .error fault => s.fail .socks5 (.socks (.localAddress fault))

/-- Waits for the connection to the target, which gets the number `next`. -/
def dial (next now : Nat) (s : Session) : Session :=
  match s.phase with
  | .dialling protocol d =>
    match d.outcome? now with
    | none => s
    | some (.ok c) =>
      s.announce protocol d.target (.connect next c.address c.greeting c.localKnown c.room)
    | some (.error failure) =>
      match protocol with
      | .httpConnect => s.refuse failure
      | .socks5 => s.reject (dialReply failure) (.proxy failure)
  | _ => s

/-! ### The answer -/

/-- Begins to relay. -/
def beginRelay (now : Nat) (protocol : Protocol) (target : Text) (s : Session) : Session :=
  let s := s.note .info s!"Connection established to {String.ofList target} by {s.peerText}"
  { s with phase := .relaying protocol target (.start s.settings.idleTimeout now s.turn) }

/-- Writes what the client is to be told.  An HTTP answer is written to its end, a SOCKS5 reply by
    a single write, however little of it that takes. -/
def tell (now : Nat) (s : Session) : Session :=
  match s.phase with
  | .refusing failure left =>
    match s.client.writeAll left with
    | (.ready _, _, l) => { s with client := l }.fail .httpConnect (.proxy failure)
    | (.blocked, left, l) => { s with client := l, phase := .refusing failure left }
    | (.failed f, _, l) =>
      let code := (failure.httpStatus?.map Prod.fst).getD 0
      ({ s with client := l }.note .debug
        s!"failed to send {code} to {s.peerText}: {f.message}").fail .httpConnect (.proxy failure)
  | .rejecting failure reply =>
    match s.client.write reply with
    | (.blocked, l) => { s with client := l }
    | (_, l) => { s with client := l }.fail .socks5 failure
  | .announcing .httpConnect target left =>
    match s.client.writeAll left with
    | (.ready _, _, l) => { s with client := l }.beginRelay now .httpConnect target
    | (.blocked, left, l) =>
      { s with client := l, phase := .announcing .httpConnect target left }
    | (.failed f, _, l) => { s with client := l }.fail .httpConnect (.proxy (.io f))
  | .announcing .socks5 target reply =>
    match s.client.write reply with
    | (.ready _, l) => { s with client := l }.beginRelay now .socks5 target
    | (.blocked, l) => { s with client := l }
    | (.failed f, l) => { s with client := l }.fail .socks5 (.socks (.reply f))
  | _ => s

/-! ### The tunnel -/

/-- Ends a session whose tunnel has ended. -/
def conclude (protocol : Protocol) (target : Text) (stats : TunnelStats) (s : Session) : Session :=
  let between := s!"{s.peerText} <-> {String.ofList target}"
  let moved := s!"(sent: {stats.clientToTarget}, received: {stats.targetToClient})"
  let s := s.note .info s!"Closed tunnel {between} {moved}"
  match stats.failure with
  | none => s.finish none
  | some (.idleTimeout span) =>
    (s.note .debug s!"tunnel {between} idle for {Duration.describe span}").finish none
  | some failure => s.fail protocol (.proxy failure)

/-- Lets the tunnel move what it can. -/
def relay (now : Nat) (s : Session) : Session :=
  match s.phase, s.outbound with
  | .relaying protocol target tunnel, some outbound =>
    let (tunnel, ends) := tunnel.settle now ⟨s.client, outbound.stream⟩
    let s :=
      { s with
        client := ends.client
        outbound := some { outbound with stream := ends.target }
        phase := .relaying protocol target tunnel }
    match tunnel.stats? with
    | none => s
    | some stats => s.conclude protocol target stats
  | _, _ => s

/-- Everything that a session can do at an instant; a connection that it brings about gets the
    number `next`. -/
def settle (net : Network) (next now : Nat) (s : Session) : Session :=
  ((((((s.peek now).readHead net now).negotiate net now).dial next now).tell now).relay now)

end ForwardProxy.Session
