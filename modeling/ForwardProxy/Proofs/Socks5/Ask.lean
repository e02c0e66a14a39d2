import ForwardProxy.Proofs.Stream.Exact
import ForwardProxy.Proofs.Text.Utf8
import ForwardProxy.Socks5.Handshake

namespace ForwardProxy

/-!
# A request and its handshake

A client that offers to go without authentication and asks for a command on a destination is
understood, however its octets were cut into chunks and whenever they come: a handshake with a
client that takes what it is told is, at any moment, waiting for the rest of these octets.

* `Socks5.Ask` — what a client offers and asks for, and `Ask.octets` how it says so.
* `Socks5.Awaits` — the states of a handshake, with the octets that they wait for.
* `Socks5.Reads` — a reader of the rest of a request, and what it makes of octets.
* `Socks5.reads_field` — the reader of a field, in front of a reader of the fields behind it.
* `Socks5.reads_run` — every state reads what it waits for.
-/

/-! ### Clients that take what they are told -/

namespace Lookahead

variable {l l' : Lookahead} {bs taken : Bytes} {m n : Nat}

/-- The next `n` octets that are written to the stream are taken. -/
structure Accepts (l : Lookahead) (n : Nat) : Prop where
  room_le : ∀ r, l.channel.room = some r → n ≤ r
  faultless : l.channel.writeFault = none
  open_eq : l.channel.shut = false

/-- The stream with some more octets written to it. -/
def say (bs : Bytes) (l : Lookahead) : Lookahead :=
  { l with
    channel := { l.channel with
      written := l.channel.written ++ bs
      room := l.channel.room.map (· - bs.length) } }

/-- What is said to a stream is written behind what was written before. -/
@[simp] theorem written_say (bs : Bytes) (l : Lookahead) :
    (l.say bs).channel.written = l.channel.written ++ bs := rfl

/-- Telling the other side something does not change what is clear of its input. -/
@[simp] theorem clear_say (bs : Bytes) (l : Lookahead) : (l.say bs).clear = l.clear := rfl

/-- Telling the other side something does not end its silence. -/
@[simp] theorem quiet_say (bs : Bytes) (l : Lookahead) : (l.say bs).Quiet ↔ l.Quiet :=
  quiet_congr rfl rfl

/-- Saying nothing leaves a stream as it is. -/
theorem say_nil (l : Lookahead) : l.say [] = l := by
  obtain ⟨⟨inbox, ended, room, fault, shut, written⟩, ahead⟩ := l
  cases room <;> simp [say]

/-- A stream that takes some octets takes fewer. -/
theorem Accepts.mono (h : l.Accepts n) (hle : m ≤ n) : l.Accepts m :=
  ⟨fun r hr => Nat.le_trans hle (h.room_le r hr), h.faultless, h.open_eq⟩

/-- A stream that takes some octets and more takes the rest when the first were said. -/
theorem Accepts.say (bs : Bytes) (h : l.Accepts (bs.length + n)) : (l.say bs).Accepts n := by
  refine ⟨fun r hr => ?_, h.faultless, h.open_eq⟩
  obtain ⟨r', hroom, rfl⟩ := Option.map_eq_some_iff.1 hr
  have hle := h.room_le r' hroom
  omega

/-- Reading from a stream leaves the room for what is written to it. -/
theorem Accepts.took (h : l.Accepts n) (ht : l.Took taken l') : l'.Accepts n := by
  obtain ⟨hroom, hfault, hopen⟩ := h
  constructor <;> rw [ht.channel_eq] <;> assumption

/-- A client goes on taking what it is told unless it makes writes fail. -/
theorem Accepts.apply (h : l.Accepts n) {g : Lookahead} {e : Channel.Event}
    (hfault : (g.apply e).channel.writeFault = none) : (l.apply e).Accepts n := by
  have harrive : ∀ a, Accepts ⟨l.channel.arrive a, l.ahead⟩ n := by
    intro a
    unfold Channel.arrive
    split
    · exact h
    · exact ⟨h.room_le, h.faultless, h.open_eq⟩
  cases e with
  | send bs =>
    simp only [Lookahead.apply, Channel.apply]
    split
    · exact h
    · exact harrive _
  | failRead f => exact harrive _
  | finish => exact ⟨h.room_le, h.faultless, h.open_eq⟩
  | widen amount =>
    cases amount with
    | none =>
      refine ⟨fun r hr => ?_, h.faultless, h.open_eq⟩
      have hnone : none = some r := hr
      cases hnone
    | some more =>
      -- Room only grows by what the client does.
      refine ⟨fun r hr => ?_, h.faultless, h.open_eq⟩
      obtain ⟨r', hroom, rfl⟩ := Option.map_eq_some_iff.1 hr
      exact Nat.le_trans (h.room_le r' hroom) (Nat.le_add_right r' more)
  | failWrite f => cases hfault
  | hangUp => cases hfault

/-- A write that a stream accepts is taken whole. -/
theorem Accepts.write_eq (h : l.Accepts n) (hle : bs.length ≤ n) :
    l.write bs = (.ready bs.length, l.say bs) := by
  obtain ⟨⟨inbox, ended, room, fault, shut, written⟩, ahead⟩ := l
  obtain ⟨hroom, rfl, rfl⟩ := h
  cases room with
  | none => rfl
  | some r =>
    have hfits : bs.length ≤ r := Nat.le_trans hle (hroom r rfl)
    have hfree : (r = 0 && !bs.isEmpty) = false := by
      cases bs with
      | nil => simp
      | cons b bs => simpa using fun h : r = 0 => absurd hfits (by simp [h])
    rw [write, Channel.write]
    dsimp only
    rw [hfree, if_neg Bool.false_ne_true, if_neg Bool.false_ne_true, Nat.min_eq_right hfits,
      List.take_length]
    rfl

/-- A write of a whole that a stream accepts is done at once. -/
theorem Accepts.writeAll_eq (h : l.Accepts n) (hle : bs.length ≤ n) :
    l.writeAll bs = (.ready (), [], l.say bs) := by
  rw [write_writeAll, h.write_eq hle]
  cases bs with
  | nil => rw [say_nil]; rfl
  | cons b bs => simp

/-- Saying octets writes them. -/
theorem wrote_say (bs : Bytes) (l : Lookahead) : l.Wrote bs (l.say bs) := ⟨rfl, rfl⟩

/-- What is told does not show in what is read. -/
theorem Cleared.say (h : l.Cleared taken l') (bs : Bytes) :
    (l.say bs).Cleared taken (l'.say bs) where
  took := ⟨h.took.unread_eq, by rw [Lookahead.say, h.took.channel_eq]; rfl, h.took.proper⟩
  clear_eq := h.clear_eq
  quiet_iff := by rw [quiet_say, quiet_say, h.quiet_iff]

end Lookahead

namespace Socks5

/-! ### Requests -/

/-- The number of a command. -/
def Command.code : Command → UInt8
  | connect => 1
  | bind => 2
  | associate => 3

/-- A command is found by its code. -/
theorem Command.ofCode?_code (c : Command) : ofCode? c.code = some c := by
  cases c <;> rfl

namespace Host

/-- The number of the type of an address. -/
def type : Host → UInt8
  | ip (.v4 _) => 1
  | ip (.v6 _) => 4
  | domain _ => 3

/-- The octets of a host, as its type has them. -/
def octets : Host → Bytes
  | ip (.v4 a) => ipv4Octets a
  | ip (.v6 a) => a.groups.flatMap Bytes.bigEndian16
  | domain name => UInt8.ofNat (Utf8.encode name).length :: Utf8.encode name

end Host

/-- What a client offers, "no authentication" among it, and what it asks for. -/
structure Ask where
  methods : Bytes
  offered : Handshake.noAuthentication ∈ methods
  few : methods.length < 256
  command : Command
  /-- The octet that means nothing. -/
  reserved : UInt8
  host : Host
  port : UInt16
  short : ∀ name, host = .domain name → (Utf8.encode name).length < 256

/-- The answer to an offer of "no authentication". -/
def choice : Bytes := [version, Handshake.noAuthentication]

/-- The length of the longest replies, which hold an IPv6 address. -/
def replyRoom : Nat := 22

/-- Numbers of two octets each take twice as many octets. -/
theorem length_flatMap_bigEndian16 (gs : List UInt16) :
    (gs.flatMap Bytes.bigEndian16).length = 2 * gs.length := by
  induction gs with
  | nil => rfl
  | cons g gs ih =>
    rw [List.flatMap_cons, List.length_append, ih, List.length_cons]
    show 2 + 2 * gs.length = _
    omega

/-- No reply is longer than the room that is kept for one. -/
theorem length_reply_le (code : ReplyCode) (address : SocketAddress) :
    (reply code address).length ≤ replyRoom := by
  cases address with
  | v4 ip port => exact Nat.le_of_ble_eq_true rfl
  | v6 ip port scope =>
    have hport : (Bytes.bigEndian16 port).length = 2 := rfl
    have hgroups := length_flatMap_bigEndian16 ip.groups
    rw [ip.length_groups] at hgroups
    simp [reply, addressOctets, replyRoom, hgroups, hport]

namespace Ask

variable (a : Ask)

/-- What is asked for. -/
def request : Request := ⟨a.command, a.host, a.port⟩

/-- The octets in front of the methods. -/
def opening : Bytes := [version, UInt8.ofNat a.methods.length]

/-- The octets in front of the host. -/
def head : Bytes := [version, a.command.code, a.reserved, a.host.type]

/-- The octets of the host and the port. -/
def destination : Bytes := a.host.octets ++ Bytes.bigEndian16 a.port

/-- The octets by which a client offers and asks. -/
def octets : Bytes := a.opening ++ (a.methods ++ (a.head ++ a.destination))

end Ask

/-- A handshake in a state waits for octets, and has octets to tell before it has understood:
    `need` are those of the field that it is at. -/
inductive Awaits (a : Ask) : Handshake → Bytes → Bytes → Prop where
  | greeting {got need : Bytes} (cut : got ++ need = a.opening) :
      Awaits a (.greeting got) (need ++ (a.methods ++ (a.head ++ a.destination))) choice
  | methods {got need : Bytes} (cut : got ++ need = a.methods) :
      Awaits a (.methods a.methods.length got) (need ++ (a.head ++ a.destination)) choice
  | request {got need : Bytes} (cut : got ++ need = a.head) :
      Awaits a (.request got) (need ++ a.destination) []
  | domainLength {name : Text} {got need : Bytes} (host : a.host = .domain name)
      (cut : got ++ need = [UInt8.ofNat (Utf8.encode name).length]) :
      Awaits a (.domainLength a.command.code got)
        (need ++ (Utf8.encode name ++ Bytes.bigEndian16 a.port)) []
  | ipv4 {ip : Ipv4} {got need : Bytes} (host : a.host = .ip (.v4 ip))
      (cut : got ++ need = ipv4Octets ip) :
      Awaits a (.ipv4 a.command.code got) (need ++ Bytes.bigEndian16 a.port) []
  | ipv6 {ip : Ipv6} {got need : Bytes} (host : a.host = .ip (.v6 ip))
      (cut : got ++ need = ip.groups.flatMap Bytes.bigEndian16) :
      Awaits a (.ipv6 a.command.code got) (need ++ Bytes.bigEndian16 a.port) []
  | domain {name : Text} {got need : Bytes} (host : a.host = .domain name)
      (cut : got ++ need = Utf8.encode name) :
      Awaits a (.domain a.command.code (Utf8.encode name).length got)
        (need ++ Bytes.bigEndian16 a.port) []
  | port {got need : Bytes} (cut : got ++ need = Bytes.bigEndian16 a.port) :
      Awaits a (.port a.command.code a.host got) need []

/-- A reader of the rest of a request, which tells a client on the way what it is to be told:
    `rest` is what it takes until it has understood, `told` what it tells. -/
structure Reads (a : Ask) (read : Lookahead → Handshake × Lookahead) (rest told : Bytes) :
    Prop where
  /-- It understands a request that is there. -/
  whole : ∀ l : Lookahead, l.Proper → l.Accepts told.length → rest <+: l.clear →
    ∃ l', read l = (.understood a.request, l') ∧ (l.say told).Cleared rest l'
  /-- It takes the part of a request that is there, and waits for the rest. -/
  part : ∀ l : Lookahead, l.Proper → l.Accepts told.length → l.Quiet → l.clear <+: rest →
    l.clear ≠ rest → ∃ h l' more said left, read l = (h, l') ∧ rest = l.clear ++ more ∧
      told = said ++ left ∧ Awaits a h more left ∧ (l.say said).Cleared l.clear l'

variable {a : Ask} {read : Lookahead → Handshake × Lookahead}
  {n : Nat} {got need whole rest told : Bytes}

/-! ### Fields -/

open Handshake (FieldProgress field)

/-- The rest of a field that is there is taken. -/
theorem field_of_isPrefix {l : Lookahead} (hproper : l.Proper) (hcut : got ++ need = whole)
    (hlength : whole.length = n) (hneed : need <+: l.clear) :
    ∃ l', field n got l = (.complete whole, l') ∧ l.Cleared need l' := by
  have hlengths : got.length + need.length = n := by
    rw [← hlength, ← hcut, List.length_append]
  have htake : l.clear.take (n - got.length) = need := by
    rw [List.prefix_iff_eq_take.1 hneed]
    congr 1
    omega
  obtain ⟨l', hread, hcleared⟩ := Lookahead.readExact_of_le (n := n - got.length) hproper (by
    have := hneed.length_le
    omega)
  rw [htake] at hread hcleared
  refine ⟨l', ?_, hcleared⟩
  rw [field, hread, ← hcut]

/-- A part of the rest of a field is taken. -/
theorem field_of_quiet {l : Lookahead} (hproper : l.Proper) (hquiet : l.Quiet)
    (hcut : got ++ need = whole) (hlength : whole.length = n) (hpart : l.clear <+: need)
    (hne : l.clear ≠ need) :
    ∃ l', field n got l = (.partly (got ++ l.clear), l') ∧ l.Cleared l.clear l' := by
  have hlt : l.clear.length < n - got.length := by
    have hlengths : got.length + need.length = n := by
      rw [← hlength, ← hcut, List.length_append]
    have := hpart.length_le
    have : l.clear.length ≠ need.length := fun h => hne (hpart.eq_of_length h)
    omega
  obtain ⟨l', hread, hcleared⟩ := Lookahead.readExact_of_quiet hproper hquiet hlt
  refine ⟨l', ?_, hcleared⟩
  rw [field, hread]

/-- **A field** and the fields behind it: `next` reads on when the field is there, and `wait` is the
    state in which a part of the field is there. -/
theorem reads_field (next : Lookahead → Handshake × Lookahead) (wait : Bytes → Handshake)
    (hcut : got ++ need = whole) (hlength : whole.length = n)
    (hcomplete : ∀ l l', field n got l = (.complete whole, l') → read l = next l')
    (hpartly : ∀ l l' some, field n got l = (.partly some, l') → read l = (wait some, l'))
    (hwait : ∀ there more, there ++ more = whole → Awaits a (wait there) (more ++ rest) told)
    (hnext : Reads a next rest told) : Reads a read (need ++ rest) told := by
  constructor
  · -- The field is there with everything behind it, and `next` reads on from where it ends.
    intro l hproper haccepts hthere
    obtain ⟨l₁, hfield, hcleared⟩ :=
      field_of_isPrefix hproper hcut hlength ((List.prefix_append need rest).trans hthere)
    rw [hcleared.clear_eq, List.prefix_append_right_inj] at hthere
    obtain ⟨l₂, hread, hcleared₂⟩ :=
      hnext.whole l₁ (hcleared.took.proper hproper) (haccepts.took hcleared.took) hthere
    exact ⟨l₂, (hcomplete l l₁ hfield).trans hread, (hcleared.say told).trans hcleared₂⟩
  · intro l hproper haccepts hquiet hpart hne
    by_cases hthere : need <+: l.clear
    · -- The field is there, and a part of what is behind it.
      obtain ⟨l₁, hfield, hcleared⟩ := field_of_isPrefix hproper hcut hlength hthere
      rw [hcleared.clear_eq] at hpart hne ⊢
      rw [List.prefix_append_right_inj] at hpart
      obtain ⟨h, l₂, more, said, left, hread, hrest, htold, hawaits, hcleared₂⟩ :=
        hnext.part l₁ (hcleared.took.proper hproper) (haccepts.took hcleared.took)
          (hcleared.quiet_iff.2 hquiet) hpart fun h => hne (by rw [h])
      refine ⟨h, l₂, more, said, left, (hcomplete l l₁ hfield).trans hread, ?_, htold, hawaits,
        (hcleared.say said).trans hcleared₂⟩
      rw [List.append_assoc, ← hrest]
    · -- The field itself is not whole yet: what there is of it is kept in the state.
      have hle : l.clear <+: need :=
        (List.prefix_or_prefix_of_prefix hpart (List.prefix_append need rest)).resolve_right hthere
      have hpart' : l.clear ≠ need := by
        intro h
        rw [h] at hthere
        exact hthere (List.prefix_refl need)
      obtain ⟨l₁, hfield, hcleared⟩ := field_of_quiet hproper hquiet hcut hlength hle hpart'
      obtain ⟨more, hmore⟩ := hle
      have hstill : got ++ l.clear ++ more = whole := by
        rw [List.append_assoc, hmore, hcut]
      refine ⟨_, l₁, more ++ rest, [], told, hpartly l l₁ _ hfield, ?_, rfl, hwait _ _ hstill, ?_⟩
      · rw [← List.append_assoc, hmore]
      · rw [Lookahead.say_nil]
        exact hcleared

/-! ### From the last field to the first -/

/-- A request that was read to its end is understood. -/
theorem reads_finish : Reads a (Handshake.finish a.command.code a.host a.port) [] [] := by
  constructor
  · intro l _ _ _
    refine ⟨l, ?_, ?_⟩
    · rw [Handshake.finish, Command.ofCode?_code]
      rfl
    · rw [Lookahead.say_nil]
      exact .refl l
  · intro l _ _ _ hpart hne
    exact absurd (List.prefix_nil.1 hpart) hne

/-- The port is read behind the address. -/
theorem reads_port (hcut : got ++ need = Bytes.bigEndian16 a.port) :
    Reads a (Handshake.readPort a.command.code a.host got) need [] := by
  have hport : Reads a (Handshake.readPort a.command.code a.host got) (need ++ []) [] := by
    refine reads_field (Handshake.finish a.command.code a.host a.port)
      (.port a.command.code a.host) hcut rfl ?_ ?_ ?_ reads_finish
    · intro l l' hfield
      rw [Handshake.readPort, show field 2 got l = _ from hfield]
      exact congrArg (Handshake.finish _ _ · l') (Bytes.ofBigEndian16_bigEndian16 a.port)
    · intro l l' some hfield
      rw [Handshake.readPort, show field 2 got l = _ from hfield]
    · intro there more hmore
      rw [List.append_nil]
      exact .port hmore
  rwa [List.append_nil] at hport

/-- The four octets of an IPv4 address are read, and then the port. -/
theorem reads_ipv4 {ip : Ipv4} (host : a.host = .ip (.v4 ip))
    (hcut : got ++ need = ipv4Octets ip) :
    Reads a (Handshake.readIpv4 a.command.code got) (need ++ Bytes.bigEndian16 a.port) [] := by
  refine reads_field (Handshake.readPort a.command.code a.host []) (.ipv4 a.command.code) hcut rfl
    ?_ ?_ (fun there more => .ipv4 host) (reads_port rfl)
  · intro l l' hfield
    rw [Handshake.readIpv4, show field 4 got l = _ from hfield, host]
    rfl
  · intro l l' some hfield
    rw [Handshake.readIpv4, show field 4 got l = _ from hfield]

/-- Numbers that were written one behind the other are read back. -/
theorem pairs_flatMap (gs : List UInt16) :
    Handshake.pairs (gs.flatMap Bytes.bigEndian16) = gs := by
  induction gs with
  | nil => rfl
  | cons g gs ih =>
    show Bytes.ofBigEndian16 _ _ :: Handshake.pairs (gs.flatMap Bytes.bigEndian16) = _
    rw [Bytes.ofBigEndian16_bigEndian16, ih]

/-- The sixteen octets of an IPv6 address are read, and then the port. -/
theorem reads_ipv6 {ip : Ipv6} (host : a.host = .ip (.v6 ip))
    (hcut : got ++ need = ip.groups.flatMap Bytes.bigEndian16) :
    Reads a (Handshake.readIpv6 a.command.code got) (need ++ Bytes.bigEndian16 a.port) [] := by
  have hlength : (ip.groups.flatMap Bytes.bigEndian16).length = 16 := by
    rw [length_flatMap_bigEndian16, ip.length_groups]
  refine reads_field (Handshake.readPort a.command.code a.host []) (.ipv6 a.command.code) hcut
    hlength ?_ ?_ (fun there more => .ipv6 host) (reads_port rfl)
  · intro l l' hfield
    rw [Handshake.readIpv6, hfield]
    dsimp only
    rw [pairs_flatMap, Ipv6.ofGroups?, dif_pos ip.length_groups, host]
  · intro l l' some hfield
    rw [Handshake.readIpv6, hfield]

/-- The octets of a domain are read, and then the port. -/
theorem reads_domain {name : Text} (host : a.host = .domain name)
    (hcut : got ++ need = Utf8.encode name) :
    Reads a (Handshake.readDomain a.command.code (Utf8.encode name).length got)
      (need ++ Bytes.bigEndian16 a.port) [] := by
  refine reads_field (Handshake.readPort a.command.code a.host [])
    (.domain a.command.code (Utf8.encode name).length) hcut rfl ?_ ?_
    (fun there more => .domain host) (reads_port rfl)
  · intro l l' hfield
    rw [Handshake.readDomain, hfield]
    dsimp only
    rw [Utf8.decode?_encode, host]
  · intro l l' some hfield
    rw [Handshake.readDomain, hfield]

/-- The length of a domain is read, and then the domain. -/
theorem reads_domainLength {name : Text} (host : a.host = .domain name)
    (hcut : got ++ need = [UInt8.ofNat (Utf8.encode name).length]) :
    Reads a (Handshake.readDomainLength a.command.code got)
      (need ++ (Utf8.encode name ++ Bytes.bigEndian16 a.port)) [] := by
  refine reads_field (Handshake.readDomain a.command.code (Utf8.encode name).length [])
    (.domainLength a.command.code) hcut rfl ?_ ?_ (fun there more => .domainLength host)
    (reads_domain host rfl)
  · intro l l' hfield
    rw [Handshake.readDomainLength, show field 1 got l = _ from hfield]
    dsimp only
    -- The length fits into its octet, so that it is the length of the field behind it.
    rw [UInt8.toNat_ofNat_of_lt' (a.short name host)]
  · intro l l' some hfield
    rw [Handshake.readDomainLength, show field 1 got l = _ from hfield]

/-- The address is read as its type says. -/
theorem reads_address :
    Reads a (Handshake.readAddress a.command.code a.host.type) a.destination [] := by
  rw [Ask.destination]
  cases hhost : a.host with
  | ip address =>
    cases address with
    | v4 ip => exact reads_ipv4 hhost rfl
    | v6 ip => exact reads_ipv6 hhost rfl
  | domain name =>
    have hdomain : Reads a (Handshake.readDomainLength a.command.code [])
        ([UInt8.ofNat (Utf8.encode name).length] ++
          (Utf8.encode name ++ Bytes.bigEndian16 a.port)) [] := reads_domainLength hhost rfl
    exact hdomain

/-- The head of the request is read, and then its address. -/
theorem reads_request (hcut : got ++ need = a.head) :
    Reads a (Handshake.readRequest got) (need ++ a.destination) [] := by
  refine reads_field (Handshake.readAddress a.command.code a.host.type) .request hcut rfl ?_ ?_
    (fun there more => .request) reads_address
  · intro l l' hfield
    rw [Handshake.readRequest, show field 4 got l = _ from hfield]
    rfl
  · intro l l' some hfield
    rw [Handshake.readRequest, show field 4 got l = _ from hfield]

/-- The choice is told in front of the request. -/
theorem reads_choose : Reads a (Handshake.choose choice none) (a.head ++ a.destination) choice := by
  have hchoose : ∀ l : Lookahead, l.Accepts choice.length →
      Handshake.choose choice none l = Handshake.readRequest [] (l.say choice) := by
    intro l haccepts
    unfold Handshake.choose
    rw [haccepts.writeAll_eq (Nat.le_refl _)]
  have hroom : ∀ l : Lookahead, l.Accepts choice.length → (l.say choice).Accepts 0 :=
    fun _ haccepts => .say choice haccepts
  have hrequest : Reads a (Handshake.readRequest []) (a.head ++ a.destination) [] :=
    reads_request rfl
  constructor
  · intro l hproper haccepts hthere
    obtain ⟨l', hread, hcleared⟩ :=
      hrequest.whole (l.say choice) hproper (hroom l haccepts) hthere
    rw [Lookahead.say_nil] at hcleared
    exact ⟨l', (hchoose l haccepts).trans hread, hcleared⟩
  · intro l hproper haccepts hquiet hpart hne
    obtain ⟨h, l', more, said, left, hread, hrest, htold, hawaits, hcleared⟩ :=
      hrequest.part (l.say choice) hproper (hroom l haccepts)
        ((Lookahead.quiet_say _ _).2 hquiet) hpart hne
    -- Behind the choice nothing more is told before the request is understood.
    obtain ⟨rfl, rfl⟩ := List.append_eq_nil_iff.1 htold.symm
    rw [Lookahead.say_nil] at hcleared
    exact ⟨h, l', more, choice, [], (hchoose l haccepts).trans hread, hrest,
      (List.append_nil _).symm, hawaits, hcleared⟩

/-- The methods are read, one of them is chosen, and then the request is read. -/
theorem reads_methods (hcut : got ++ need = a.methods) :
    Reads a (Handshake.readMethods a.methods.length got) (need ++ (a.head ++ a.destination))
      choice := by
  refine reads_field (Handshake.choose choice none) (.methods a.methods.length) hcut rfl ?_ ?_
    (fun there more => .methods) reads_choose
  · intro l l' hfield
    have hoffered : a.methods.contains Handshake.noAuthentication = true :=
      List.contains_iff_mem.2 a.offered
    -- Of what is offered, only that "no authentication" is among it counts.
    rw [Handshake.readMethods, hfield]
    dsimp only
    rw [if_pos hoffered]
    rfl
  · intro l l' some hfield
    rw [Handshake.readMethods, hfield]

/-- The greeting is read, and then the methods. -/
theorem reads_greeting (hcut : got ++ need = a.opening) :
    Reads a (Handshake.readGreeting got) (need ++ (a.methods ++ (a.head ++ a.destination)))
      choice := by
  refine reads_field (Handshake.readMethods a.methods.length []) .greeting hcut rfl ?_ ?_
    (fun there more => .greeting) (reads_methods rfl)
  · intro l l' hfield
    rw [Handshake.readGreeting, show field 2 got l = _ from hfield]
    show (if version = version then Handshake.readMethods _ [] l' else _) = _
    rw [if_pos rfl, UInt8.toNat_ofNat_of_lt' a.few]
  · intro l l' some hfield
    rw [Handshake.readGreeting, show field 2 got l = _ from hfield]

/-- A handshake that has begun waits for everything. -/
theorem awaits_start (a : Ask) : Awaits a .start a.octets choice := .greeting (List.nil_append _)

/-- **Every state of a handshake** reads what it waits for. -/
theorem reads_run {h : Handshake} (hawaits : Awaits a h rest told) : Reads a h.run rest told := by
  cases hawaits with
  | greeting hcut => exact reads_greeting hcut
  | methods hcut => exact reads_methods hcut
  | request hcut => exact reads_request hcut
  | domainLength host hcut => exact reads_domainLength host hcut
  | ipv4 host hcut => exact reads_ipv4 host hcut
  | ipv6 host hcut => exact reads_ipv6 host hcut
  | domain host hcut => exact reads_domain host hcut
  | port hcut => exact reads_port hcut

end Socks5

end ForwardProxy
