import ForwardProxy.Proofs.Socks5.Ask

namespace ForwardProxy

/-!
# What a handshake has taken and told

Whatever a client sends, and however little it takes of what it is told: the octets that a
handshake has taken are the front of a request, field by field, and a handshake that has understood
a request has taken the octets of that request and none behind them.

* `Socks5.Offers` — the octets by which a client offers "no authentication".
* `Socks5.Stands` — what has been taken and told in each state of a handshake.
* `Socks5.stood_run` — no progress of a handshake spoils that.
* `Socks5.Ask.octets_eq_of_isPrefix` — no request goes on as another one.
-/

namespace Bytes

/-- A number that was read is written back as it was. -/
theorem bigEndian16_ofBigEndian16 (hi lo : UInt8) :
    bigEndian16 (ofBigEndian16 hi lo) = [hi, lo] := by
  have hhigh : hi.toNat < 256 := hi.toNat_lt
  have hlow : lo.toNat < 256 := lo.toNat_lt
  -- The low octet fits under the shifted one, so joining them adds them.
  have hshift : hi.toNat <<< 8 = hi.toNat * 256 := Nat.shiftLeft_eq _ 8
  have hor : hi.toNat <<< 8 ||| lo.toNat = hi.toNat * 256 + lo.toNat := by
    rw [← Nat.shiftLeft_add_eq_or_of_lt hlow, hshift]
  have hvalue : (ofBigEndian16 hi lo).toNat = hi.toNat * 256 + lo.toNat := by
    simp only [ofBigEndian16, UInt16.toNat_or, UInt16.toNat_shiftLeft, UInt8.toNat_toUInt16]
    show (hi.toNat <<< 8) % 65536 ||| lo.toNat = _
    rw [Nat.mod_eq_of_lt (by omega), hor]
  have hback : (hi.toNat * 256 + lo.toNat) >>> 8 = (hi.toNat * 256 + lo.toNat) / 256 :=
    Nat.shiftRight_eq_div_pow _ 8
  rw [bigEndian16, List.cons.injEq, List.cons.injEq, ← UInt8.toNat_inj, ← UInt8.toNat_inj]
  simp only [UInt16.toNat_toUInt8, UInt16.toNat_shiftRight, hvalue, and_true]
  show ((hi.toNat * 256 + lo.toNat) >>> 8) % 256 = hi.toNat ∧ _
  rw [hback]
  omega

/-- Two octets are a pair. -/
theorem eq_pair (bs : Bytes) (h : bs.length = 2) : ∃ a b, bs = [a, b] := by
  obtain _ | ⟨a, _ | ⟨b, _ | ⟨c, r⟩⟩⟩ := bs
  · cases h
  · cases h
  · exact ⟨a, b, rfl⟩
  · simp at h

/-- Four octets are known one by one. -/
theorem eq_four (bs : Bytes) (h : bs.length = 4) : ∃ a b c d, bs = [a, b, c, d] := by
  obtain ⟨a, b, hab⟩ := eq_pair (bs.take 2) (by simp [h])
  obtain ⟨c, d, hcd⟩ := eq_pair (bs.drop 2) (by simp [h])
  exact ⟨a, b, c, d, by rw [← List.take_append_drop 2 bs, hab, hcd]; rfl⟩

end Bytes

namespace Socks5

open Handshake (field)

/-- A command has the code by which it was found. -/
theorem Command.code_of_ofCode? {code : UInt8} {c : Command} (h : ofCode? code = some c) :
    c.code = code := by
  unfold ofCode? at h
  split at h
  · rename_i hcode
    cases h
    exact hcode.symm
  · split at h
    · rename_i hcode
      cases h
      exact hcode.symm
    · split at h
      · rename_i hcode
        cases h
        exact hcode.symm
      · cases h

/-- Octets that were read two at a time are written back as they were. -/
theorem flatMap_pairs (n : Nat) {bs : Bytes} (h : bs.length = 2 * n) :
    (Handshake.pairs bs).flatMap Bytes.bigEndian16 = bs := by
  induction n generalizing bs with
  | zero =>
    rw [List.length_eq_zero_iff.1 h]
    rfl
  | succ n ih =>
    obtain ⟨hi, lo, hpair⟩ := Bytes.eq_pair (bs.take 2) (by rw [List.length_take]; omega)
    have hrest : (bs.drop 2).length = 2 * n := by
      rw [List.length_drop]
      omega
    rw [← List.take_append_drop 2 bs, hpair]
    show Bytes.bigEndian16 (Bytes.ofBigEndian16 hi lo) ++
      (Handshake.pairs (bs.drop 2)).flatMap Bytes.bigEndian16 = _
    rw [ih hrest, Bytes.bigEndian16_ofBigEndian16]

/-! ### The states of a handshake -/

/-- The octets by which a client offers methods, "no authentication" among them. -/
def Offers (offer : Bytes) : Prop :=
  ∃ methods : Bytes, Handshake.noAuthentication ∈ methods ∧ methods.length < 256 ∧
    offer = [version, UInt8.ofNat methods.length] ++ methods

/-- The answer to an offer in which nothing will do. -/
def refusal : Bytes := [version, Handshake.noMethod]

/-- The front of what a client is told that is not served: that no method will do, or the choice of
    one and a reply that tells a failure. -/
def Denies (told : Bytes) : Prop :=
  told <+: refusal ∨ ∃ code : ReplyCode, code ≠ .succeeded ∧ told <+: choice ++ errorReply code

/-- How a handshake stands once it has taken some octets and told some. -/
inductive Stands : Bytes → Bytes → Handshake → Prop where
  | greeting {got : Bytes} (short : got.length ≤ 2) : Stands got [] (.greeting got)
  | methods {count : Nat} {got : Bytes} (few : count < 256) (short : got.length ≤ count) :
      Stands ([version, UInt8.ofNat count] ++ got) [] (.methods count got)
  | choosing {taken told left : Bytes} (offers : Offers taken) (cut : told ++ left = choice) :
      Stands taken told (.choosing left none)
  | declining {taken told left offered : Bytes} (cut : told ++ left = refusal) :
      Stands taken told (.choosing left (some offered))
  | request {offer got : Bytes} (offers : Offers offer) (short : got.length ≤ 4) :
      Stands (offer ++ got) choice (.request got)
  | domainLength {offer got : Bytes} {command reserved : UInt8} (offers : Offers offer)
      (short : got.length ≤ 1) :
      Stands (offer ++ [version, command, reserved, 3] ++ got) choice (.domainLength command got)
  | ipv4 {offer got : Bytes} {command reserved : UInt8} (offers : Offers offer)
      (short : got.length ≤ 4) :
      Stands (offer ++ [version, command, reserved, 1] ++ got) choice (.ipv4 command got)
  | ipv6 {offer got : Bytes} {command reserved : UInt8} (offers : Offers offer)
      (short : got.length ≤ 16) :
      Stands (offer ++ [version, command, reserved, 4] ++ got) choice (.ipv6 command got)
  | domain {offer got : Bytes} {command reserved : UInt8} {length : Nat} (offers : Offers offer)
      (few : length < 256) (short : got.length ≤ length) :
      Stands (offer ++ [version, command, reserved, 3] ++ [UInt8.ofNat length] ++ got) choice
        (.domain command length got)
  | port {offer got : Bytes} {command reserved : UInt8} {host : Host} (offers : Offers offer)
      (fits : ∀ name, host = .domain name → (Utf8.encode name).length < 256)
      (short : got.length ≤ 2) :
      Stands (offer ++ [version, command, reserved, host.type] ++ host.octets ++ got) choice
        (.port command host got)
  | refusing {taken : Bytes} {code : ReplyCode} {flaw : Flaw} (failing : code ≠ .succeeded) :
      Stands taken choice (.refusing code flaw)
  | understood (a : Ask) : Stands a.octets choice (.understood a.request)
  | failed {taken told : Bytes} {failure : SocksFailure} (denies : Denies told) :
      Stands taken told (.failed failure)

/-- A handshake stands so that has taken its octets from the stream `g`, of which nobody else has
    read anything. -/
def Stood (g : Lookahead) (r : Handshake × Lookahead) : Prop :=
  ∃ taken, g.Follows taken r.2 ∧ Stands taken r.2.channel.written r.1

variable {g l : Lookahead} {taken told offer got : Bytes} {command reserved : UInt8} {n : Nat}

/-- A client that was told nothing was not served. -/
theorem denies_nil : Denies [] := .inl List.nil_prefix

/-- The choice of a method is the front of a reply that tells a failure. -/
theorem denies_choice : Denies choice :=
  .inr ⟨.connectionRefused, by decide, List.prefix_append _ _⟩

/-- Nothing more has been told to a client that is not served. -/
theorem Stands.denies {h : Handshake} (hstands : Stands taken told h) : Denies told := by
  cases hstands with
  | greeting short => exact denies_nil
  | methods few short => exact denies_nil
  | choosing offers cut =>
    exact .inr ⟨.connectionRefused, by decide,
      List.IsPrefix.trans ⟨_, cut⟩ (List.prefix_append _ _)⟩
  | declining cut => exact .inl ⟨_, cut⟩
  | failed denies => exact denies
  | _ => exact denies_choice

/-- A handshake that failed stands if what it has told serves nobody. -/
theorem Stood.of_failed {failure : SocksFailure} (hfollows : g.Follows taken l)
    (hdenies : Denies l.channel.written) : Stood g (.failed failure, l) :=
  ⟨taken, hfollows, .failed hdenies⟩

/-! ### One field -/

/-- **A field:** `wait` is the state in which a part of it is there.  Reading on in a field takes
    octets of the field, and tells nothing. -/
theorem stood_field {r : Handshake × Lookahead} (wait : Bytes → Handshake)
    (hshort : got.length ≤ n) (hfollows : g.Follows (taken ++ got) l)
    (hsaid : l.channel.written = told)
    (hpartly : ∀ octets l', field n got l = (.partly octets, l') → r = (wait octets, l'))
    (hwait : ∀ octets, octets.length ≤ n → Stands (taken ++ octets) told (wait octets))
    (hfailed : ∀ f l' more, field n got l = (.failed f, l') → g.Follows more l' →
      l'.channel.written = told → Stood g r)
    (hcomplete : ∀ octets l', field n got l = (.complete octets, l') → octets.length = n →
      g.Follows (taken ++ octets) l' → l'.channel.written = told → Stood g r) : Stood g r := by
  -- What is taken joins what the field had, whether it completes the field, stops short or fails.
  obtain ⟨htook, hle, hready⟩ := l.took_readExact (n - got.length)
  unfold field at hpartly hfailed hcomplete
  rcases hread : l.readExact (n - got.length) with ⟨a, more, l'⟩
  rw [hread] at htook hle hready hpartly hfailed hcomplete
  have hfollows' := hfollows.took htook
  rw [List.append_assoc] at hfollows'
  have hsaid' : l'.channel.written = told := htook.written_eq.trans hsaid
  cases a with
  | ready u =>
    have hlength : more.length = n - got.length := hready rfl
    refine hcomplete (got ++ more) l' rfl ?_ hfollows' hsaid'
    rw [List.length_append, hlength]
    omega
  | blocked =>
    replace hle : more.length ≤ n - got.length := hle
    rw [hpartly (got ++ more) l' rfl]
    refine ⟨_, hfollows', ?_⟩
    rw [show (wait (got ++ more), l').2.channel.written = told from hsaid']
    refine hwait (got ++ more) ?_
    rw [List.length_append]
    omega
  | failed f => exact hfailed f l' _ rfl hfollows' hsaid'

/-! ### From the last field to the first -/

/-- A reply that tells a flaw is the last thing that is told. -/
theorem stood_refuse {code : ReplyCode} (hfailing : code ≠ .succeeded) (flaw : Flaw)
    (hfollows : g.Follows taken l) (hsaid : l.channel.written = choice) :
    Stood g (Handshake.refuse code flaw l) := by
  have hwrote := l.wrote_write (errorReply code)
  have hfront := Attempt.wrote_isPrefix (errorReply code) (l.write (errorReply code)).1
  unfold Handshake.refuse
  rcases hwrite : l.write (errorReply code) with ⟨a, l'⟩
  rw [hwrite] at hwrote hfront
  have hfollows' := hfollows.wrote hwrote
  have hwritten := hwrote.written_eq
  rw [hsaid] at hwritten
  -- A single write takes the front of the reply.
  have hdenies : Denies l'.channel.written := by
    rw [show l'.channel.written = _ from hwritten]
    exact .inr ⟨code, hfailing, (List.prefix_append_right_inj _).2 hfront⟩
  cases a with
  | ready k => exact .of_failed hfollows' hdenies
  | failed f => exact .of_failed hfollows' hdenies
  | blocked =>
    refine ⟨taken, hfollows', ?_⟩
    rw [show l'.channel.written = choice ++ [] from hwritten, List.append_nil]
    exact .refusing hfailing

/-- A handshake that has read a whole request stands: it has understood it, or refuses it. -/
theorem stood_finish {host : Host} {port : UInt16} (hoffers : Offers offer)
    (hfits : ∀ name, host = .domain name → (Utf8.encode name).length < 256)
    (hfollows : g.Follows
      (offer ++ [version, command, reserved, host.type] ++ host.octets ++ Bytes.bigEndian16 port) l)
    (hsaid : l.channel.written = choice) : Stood g (Handshake.finish command host port l) := by
  unfold Handshake.finish
  cases hcode : Command.ofCode? command with
  | none => exact stood_refuse (by decide) _ hfollows hsaid
  | some c =>
    -- The fields that were read one by one make up a request.
    obtain ⟨methods, hoffered, hfew, rfl⟩ := hoffers
    let a : Ask := ⟨methods, hoffered, hfew, c, reserved, host, port, hfits⟩
    have hoctets : a.octets = [version, UInt8.ofNat methods.length] ++ methods ++
        [version, command, reserved, host.type] ++ host.octets ++ Bytes.bigEndian16 port := by
      simp only [Ask.octets, Ask.opening, Ask.head, Ask.destination, a,
        Command.code_of_ofCode? hcode, List.append_assoc]
    refine ⟨a.octets, ?_, ?_⟩
    · rw [hoctets]
      exact hfollows
    · rw [show l.channel.written = choice from hsaid]
      exact .understood a

/-- A handshake that reads the port stands. -/
theorem stood_readPort (host : Host) (hoffers : Offers offer)
    (hfits : ∀ name, host = .domain name → (Utf8.encode name).length < 256)
    (hshort : got.length ≤ 2)
    (hfollows : g.Follows
      (offer ++ [version, command, reserved, host.type] ++ host.octets ++ got) l)
    (hsaid : l.channel.written = choice) : Stood g (Handshake.readPort command host got l) := by
  refine stood_field (.port command host) hshort hfollows hsaid ?_ (fun _ => .port hoffers hfits)
    ?_ ?_
  · intro octets l' hfield
    rw [Handshake.readPort, hfield]
  · intro f l' more hfield hfollows' hsaid'
    rw [Handshake.readPort, hfield]
    exact stood_refuse (by decide) _ hfollows' hsaid'
  · intro octets l' hfield hlength hfollows' hsaid'
    obtain ⟨hi, lo, rfl⟩ := Bytes.eq_pair octets hlength
    rw [Handshake.readPort, hfield]
    rw [← Bytes.bigEndian16_ofBigEndian16 hi lo] at hfollows'
    exact stood_finish hoffers hfits hfollows' hsaid'

/-- A handshake that reads an IPv4 address stands. -/
theorem stood_readIpv4 (hoffers : Offers offer) (hshort : got.length ≤ 4)
    (hfollows : g.Follows (offer ++ [version, command, reserved, 1] ++ got) l)
    (hsaid : l.channel.written = choice) : Stood g (Handshake.readIpv4 command got l) := by
  refine stood_field (.ipv4 command) hshort hfollows hsaid ?_ (fun _ => .ipv4 hoffers) ?_ ?_
  · intro octets l' hfield
    rw [Handshake.readIpv4, hfield]
  · intro f l' more hfield hfollows' hsaid'
    rw [Handshake.readIpv4, hfield]
    exact stood_refuse (by decide) _ hfollows' hsaid'
  · intro octets l' hfield hlength hfollows' hsaid'
    obtain ⟨a, b, c, d, rfl⟩ := Bytes.eq_four octets hlength
    rw [Handshake.readIpv4, hfield]
    rw [← List.append_nil (offer ++ _ ++ _)] at hfollows'
    exact stood_readPort (.ip (.v4 ⟨a, b, c, d⟩)) hoffers (fun _ h => by cases h) (Nat.zero_le 2)
      hfollows' hsaid'

/-- A handshake that reads an IPv6 address stands. -/
theorem stood_readIpv6 (hoffers : Offers offer) (hshort : got.length ≤ 16)
    (hfollows : g.Follows (offer ++ [version, command, reserved, 4] ++ got) l)
    (hsaid : l.channel.written = choice) : Stood g (Handshake.readIpv6 command got l) := by
  refine stood_field (.ipv6 command) hshort hfollows hsaid ?_ (fun _ => .ipv6 hoffers) ?_ ?_
  · intro octets l' hfield
    rw [Handshake.readIpv6, hfield]
  · intro f l' more hfield hfollows' hsaid'
    rw [Handshake.readIpv6, hfield]
    exact stood_refuse (by decide) _ hfollows' hsaid'
  · intro octets l' hfield hlength hfollows' hsaid'
    rw [Handshake.readIpv6, hfield]
    dsimp only
    -- Sixteen octets make up the eight groups of an address.
    cases hip : Ipv6.ofGroups? (Handshake.pairs octets) with
    | none =>
      refine ⟨_, hfollows', ?_⟩
      rw [show l'.channel.written = choice from hsaid']
      exact .ipv6 hoffers (Nat.le_of_eq hlength)
    | some ip =>
      have hgroups : ip.groups = Handshake.pairs octets := by
        unfold Ipv6.ofGroups? at hip
        split at hip
        · cases hip
          rfl
        · cases hip
      have hoctets : (Host.ip (.v6 ip)).octets = octets := by
        rw [Host.octets, hgroups, flatMap_pairs 8 hlength]
      rw [← hoctets, ← List.append_nil (offer ++ _ ++ _)] at hfollows'
      exact stood_readPort (.ip (.v6 ip)) hoffers (fun _ h => by cases h) (Nat.zero_le 2)
        hfollows' hsaid'

/-- A handshake that reads a domain stands. -/
theorem stood_readDomain {length : Nat} (hoffers : Offers offer) (hfew : length < 256)
    (hshort : got.length ≤ length)
    (hfollows : g.Follows
      (offer ++ [version, command, reserved, 3] ++ [UInt8.ofNat length] ++ got) l)
    (hsaid : l.channel.written = choice) :
    Stood g (Handshake.readDomain command length got l) := by
  refine stood_field (.domain command length) hshort hfollows hsaid ?_
    (fun _ => .domain hoffers hfew) ?_ ?_
  · intro octets l' hfield
    rw [Handshake.readDomain, hfield]
  · intro f l' more hfield hfollows' hsaid'
    rw [Handshake.readDomain, hfield]
    exact stood_refuse (by decide) _ hfollows' hsaid'
  · intro octets l' hfield hlength hfollows' hsaid'
    rw [Handshake.readDomain, hfield]
    dsimp only
    cases hname : Utf8.decode? octets with
    | none => exact stood_refuse (by decide) _ hfollows' hsaid'
    | some name =>
      have hencode : Utf8.encode name = octets := Utf8.encode_eq_of_decode? hname
      -- The octet in front of the name is its length.
      have hoctets : (Host.domain name).octets = [UInt8.ofNat length] ++ octets := by
        rw [Host.octets, hencode, hlength]
        rfl
      rw [List.append_assoc _ [_] octets, ← hoctets, ← List.append_nil (offer ++ _ ++ _)]
        at hfollows'
      refine stood_readPort (.domain name) hoffers (fun name' h => ?_) (Nat.zero_le 2) hfollows'
        hsaid'
      cases h
      rw [hencode, hlength]
      exact hfew

/-- A handshake that reads the length of a domain stands. -/
theorem stood_readDomainLength (hoffers : Offers offer) (hshort : got.length ≤ 1)
    (hfollows : g.Follows (offer ++ [version, command, reserved, 3] ++ got) l)
    (hsaid : l.channel.written = choice) :
    Stood g (Handshake.readDomainLength command got l) := by
  refine stood_field (.domainLength command) hshort hfollows hsaid ?_
    (fun _ => .domainLength hoffers) ?_ ?_
  · intro octets l' hfield
    rw [Handshake.readDomainLength, hfield]
  · intro f l' more hfield hfollows' hsaid'
    rw [Handshake.readDomainLength, hfield]
    exact stood_refuse (by decide) _ hfollows' hsaid'
  · intro octets l' hfield hlength hfollows' hsaid'
    obtain ⟨k, rfl⟩ := List.length_eq_one_iff.1 hlength
    rw [Handshake.readDomainLength, hfield]
    have hlength : [k] = [UInt8.ofNat k.toNat] := by rw [UInt8.ofNat_toNat]
    rw [hlength, ← List.append_nil (offer ++ _ ++ _)] at hfollows'
    exact stood_readDomain hoffers k.toNat_lt (Nat.zero_le _) hfollows' hsaid'

/-- A handshake that reads an address of any type stands. -/
theorem stood_readAddress {addressType : UInt8} (hoffers : Offers offer)
    (hfollows : g.Follows (offer ++ [version, command, reserved, addressType]) l)
    (hsaid : l.channel.written = choice) :
    Stood g (Handshake.readAddress command addressType l) := by
  unfold Handshake.readAddress
  rw [← List.append_nil (offer ++ _)] at hfollows
  split
  · rename_i htype
    subst htype
    exact stood_readIpv4 hoffers (Nat.zero_le 4) hfollows hsaid
  · split
    · rename_i htype
      subst htype
      exact stood_readDomainLength hoffers (Nat.zero_le 1) hfollows hsaid
    · split
      · rename_i htype
        subst htype
        exact stood_readIpv6 hoffers (Nat.zero_le 16) hfollows hsaid
      · exact stood_refuse (by decide) _ hfollows hsaid

/-- A handshake that reads the head of a request stands. -/
theorem stood_readRequest (hoffers : Offers offer) (hshort : got.length ≤ 4)
    (hfollows : g.Follows (offer ++ got) l) (hsaid : l.channel.written = choice) :
    Stood g (Handshake.readRequest got l) := by
  refine stood_field .request hshort hfollows hsaid ?_ (fun _ => .request hoffers) ?_ ?_
  · intro octets l' hfield
    rw [Handshake.readRequest, hfield]
  · intro f l' more hfield hfollows' hsaid'
    rw [Handshake.readRequest, hfield]
    exact .of_failed hfollows' (hsaid' ▸ denies_choice)
  · intro octets l' hfield hlength hfollows' hsaid'
    obtain ⟨v, command, reserved, addressType, rfl⟩ := Bytes.eq_four octets hlength
    rw [Handshake.readRequest, hfield]
    dsimp only
    split
    · rename_i hversion
      subst hversion
      exact stood_readAddress hoffers hfollows' hsaid'
    · exact .of_failed hfollows' (hsaid' ▸ denies_choice)

/-- The choice is told in front of the request, a refusal as the last thing. -/
theorem stood_choose {left told : Bytes} {refused : Option Bytes}
    (hstands : Stands taken told (.choosing left refused)) (hfollows : g.Follows taken l)
    (hsaid : l.channel.written = told) : Stood g (Handshake.choose left refused l) := by
  obtain ⟨w, hcut, hwrote, hready⟩ := l.wrote_writeAll left
  unfold Handshake.choose
  rcases hwrite : l.writeAll left with ⟨a, rest, l'⟩
  rw [hwrite] at hcut hwrote hready
  have hfollows' := hfollows.wrote hwrote
  have hwritten := hwrote.written_eq
  rw [hsaid] at hwritten
  replace hwritten : l'.channel.written = told ++ w := hwritten
  -- What is written of the choice moves from what is left to what was told; the two still make it
  -- up.
  replace hcut : left = w ++ rest := hcut
  cases hstands with
  | choosing offers cut =>
    rw [hcut, ← List.append_assoc, ← hwritten] at cut
    cases a with
    | ready u =>
      have hrest : rest = [] := hready rfl
      rw [hrest, List.append_nil] at cut
      refine stood_readRequest offers (Nat.zero_le 4) ?_ cut
      rw [List.append_nil]
      exact hfollows'
    | blocked => exact ⟨taken, hfollows', .choosing offers cut⟩
    | failed f => exact .of_failed hfollows' (Stands.choosing offers cut).denies
  | declining cut =>
    rw [hcut, ← List.append_assoc, ← hwritten] at cut
    cases a with
    | blocked => exact ⟨taken, hfollows', .declining cut⟩
    | _ => exact .of_failed hfollows' (.inl ⟨rest, cut⟩)

/-- A handshake that reads the methods stands. -/
theorem stood_readMethods {count : Nat} (hfew : count < 256) (hshort : got.length ≤ count)
    (hfollows : g.Follows ([version, UInt8.ofNat count] ++ got) l)
    (hsaid : l.channel.written = []) : Stood g (Handshake.readMethods count got l) := by
  refine stood_field (.methods count) hshort hfollows hsaid ?_ (fun _ => .methods hfew) ?_ ?_
  · intro octets l' hfield
    rw [Handshake.readMethods, hfield]
  · intro f l' more hfield hfollows' hsaid'
    rw [Handshake.readMethods, hfield]
    exact .of_failed hfollows' (hsaid' ▸ denies_nil)
  · intro octets l' hfield hlength hfollows' hsaid'
    rw [Handshake.readMethods, hfield]
    dsimp only
    split
    · rename_i hoffered
      have hoffers : Offers ([version, UInt8.ofNat count] ++ octets) :=
        ⟨octets, List.contains_iff_mem.1 hoffered, hlength ▸ hfew, by rw [hlength]⟩
      exact stood_choose (.choosing hoffers rfl) hfollows' hsaid'
    · exact stood_choose (.declining rfl) hfollows' hsaid'

/-- A handshake that reads the greeting stands. -/
theorem stood_readGreeting (hshort : got.length ≤ 2) (hfollows : g.Follows got l)
    (hsaid : l.channel.written = []) : Stood g (Handshake.readGreeting got l) := by
  rw [← List.nil_append got] at hfollows
  refine stood_field .greeting hshort hfollows hsaid ?_ (fun _ => .greeting) ?_ ?_
  · intro octets l' hfield
    rw [Handshake.readGreeting, hfield]
  · intro f l' more hfield hfollows' hsaid'
    rw [Handshake.readGreeting, hfield]
    exact .of_failed hfollows' (hsaid' ▸ denies_nil)
  · intro octets l' hfield hlength hfollows' hsaid'
    obtain ⟨v, count, rfl⟩ := Bytes.eq_pair octets hlength
    rw [Handshake.readGreeting, hfield]
    dsimp only
    split
    · rename_i hversion
      subst hversion
      refine stood_readMethods count.toNat_lt (Nat.zero_le _) ?_ hsaid'
      rw [List.append_nil, UInt8.ofNat_toNat]
      exact hfollows'
    · exact .of_failed hfollows' (hsaid' ▸ denies_nil)

/-- A handshake stands before it has read anything. -/
theorem stands_start : Stands [] [] Handshake.start := .greeting (Nat.zero_le 2)

/-- **A handshake that goes on** takes the octets of a request, in whatever state it goes on. -/
theorem stood_run {h : Handshake} (hstood : Stood g (h, l)) : Stood g (h.run l) := by
  obtain ⟨taken, hfollows, hstands⟩ := hstood
  -- One case for each state: the reader of its field goes on from where the handshake stands.
  generalize htold : (h, l).2.channel.written = told at hstands
  cases hstands with
  | greeting short => exact stood_readGreeting short hfollows htold
  | methods few short => exact stood_readMethods few short hfollows htold
  | choosing offers cut => exact stood_choose (.choosing offers cut) hfollows htold
  | declining cut => exact stood_choose (.declining cut) hfollows htold
  | request offers short => exact stood_readRequest offers short hfollows htold
  | domainLength offers short => exact stood_readDomainLength offers short hfollows htold
  | ipv4 offers short => exact stood_readIpv4 offers short hfollows htold
  | ipv6 offers short => exact stood_readIpv6 offers short hfollows htold
  | domain offers few short => exact stood_readDomain offers few short hfollows htold
  | port offers fits short => exact stood_readPort _ offers fits short hfollows htold
  | refusing failing => exact stood_refuse failing _ hfollows htold
  | understood a =>
    refine ⟨a.octets, hfollows, ?_⟩
    rw [show ((Handshake.understood a.request).run l).2.channel.written = choice from htold]
    exact .understood a
  | failed denies =>
    rw [← htold] at denies
    exact .of_failed hfollows denies

/-! ### One request only -/

/-- A stream on which some octets have arrived, with room for whatever is told. -/
def streamOf (bs : Bytes) : Lookahead := (Lookahead.ofChannel (.idle none)).apply (.send bs)

/-- Requests that begin the same octets are one request. -/
theorem Ask.eq_of_isPrefix {a b : Ask} {bs : Bytes} (ha : a.octets <+: bs)
    (hb : b.octets <+: bs) : a.octets = b.octets ∧ a.request = b.request := by
  -- A handshake with a client that sends all this understands both.
  have hquiet : (Lookahead.ofChannel (.idle none)).Quiet := ⟨rfl, rfl⟩
  have hclear : (streamOf bs).clear = bs := hquiet.clear_apply (.send bs)
  have hproper : (streamOf bs).Proper := Channel.Proper.apply (Channel.proper_idle none) _
  have hidle : (Lookahead.ofChannel (.idle none)).Accepts choice.length := by
    refine ⟨fun r hr => ?_, rfl, rfl⟩
    have hnone : none = some r := hr
    cases hnone
  have haccepts : (streamOf bs).Accepts choice.length := by
    refine hidle.apply (g := .ofChannel (.idle none)) ?_
    simp only [Lookahead.apply, Channel.apply, Channel.arrive]
    split <;> rfl
  rw [← hclear] at ha hb
  obtain ⟨l, hrun, hcleared⟩ :=
    (reads_run (awaits_start a)).whole (streamOf bs) hproper haccepts ha
  obtain ⟨l', hrun', hcleared'⟩ :=
    (reads_run (awaits_start b)).whole (streamOf bs) hproper haccepts hb
  obtain ⟨hrequest, rfl⟩ := Prod.mk.inj (hrun.symm.trans hrun')
  exact ⟨List.append_cancel_right (hcleared.clear_eq.symm.trans hcleared'.clear_eq),
    Handshake.understood.inj hrequest⟩

/-- **No request goes on as another one:** a stream opens with one request at most. -/
theorem Ask.octets_eq_of_isPrefix {a b : Ask} {bs : Bytes} (ha : a.octets <+: bs)
    (hb : b.octets <+: bs) : a.octets = b.octets := (eq_of_isPrefix ha hb).1

/-- A stream that opens with a request asks for nothing else. -/
theorem Ask.request_eq_of_isPrefix {a b : Ask} {bs : Bytes} (ha : a.octets <+: bs)
    (hb : b.octets <+: bs) : a.request = b.request := (eq_of_isPrefix ha hb).2

end Socks5

end ForwardProxy
