import ForwardProxy.Network.Basic
import ForwardProxy.Proofs.Address.Rendered
import ForwardProxy.Proofs.Text.Cutting
import ForwardProxy.Socks5.Message

namespace ForwardProxy

/-!
# Dialling a destination

A destination is dialled by its text, which is taken apart again: what is dialled is the address and
the port that were asked for, or what the name that was asked for stands for at that port.

* `Network.Tried` — addresses that were connected to in order, up to one that does not refuse.
* `Network.Dialled` — what dialling a destination looks up and connects to.
* `Network.dialled_attempt` — dialling the text of a destination does that.
* `Network.getLast?_connects` — a connection leads to the last address that was connected to.
* `Network.accepted`, `Network.accepted_connects` — a dial brings about one connection at most.
-/

/-- The address that was reached. -/
def Reach.address? : Reach → Option SocketAddress
  | .connected address _ _ _ => some address
  | _ => none

namespace Network

open Socks5 (Destination)

variable {net : Network} {last : Fault} {cs : List SocketAddress} {a : SocketAddress}

/-! ### Addresses in order -/

/-- Whoever connects to the address fails. -/
def Refuses (net : Network) (a : SocketAddress) : Prop := ∃ code, net.peer a = .refuses code

/-- Addresses were connected to in order: all of them failed but perhaps the last one, and if any
    were left out, that one did not fail. -/
structure Tried (net : Network) (candidates tried : List SocketAddress) : Prop where
  in_order : tried <+: candidates
  failed : ∀ a ∈ tried.dropLast, net.Refuses a
  stopped : tried ≠ candidates → ∃ a, tried.getLast? = some a ∧ ¬net.Refuses a

/-- **Addresses are tried in order**, up to the first that does not fail. -/
theorem tried_connectFirst (net : Network) (last : Fault) (cs : List SocketAddress) :
    net.Tried cs (net.connectFirst last cs).1 := by
  induction cs generalizing last with
  | nil => exact ⟨List.prefix_refl _, nofun, fun h => absurd rfl h⟩
  | cons a cs ih =>
    rw [connectFirst]
    cases hpeer : net.peer a with
    | refuses code =>
      obtain ⟨horder, hfailed, hstopped⟩ := ih (.system code)
      dsimp only
      generalize (net.connectFirst (.system code) cs).1 = tried at horder hfailed hstopped
      -- This address has failed; whether trying stopped is told by those behind it.
      refine ⟨List.cons_prefix_cons.2 ⟨rfl, horder⟩, ?_, fun hne => ?_⟩
      · cases tried with
        | nil => exact nofun
        | cons b tried =>
          rw [List.dropLast_cons_cons]
          exact List.forall_mem_cons.2 ⟨⟨code, hpeer⟩, hfailed⟩
      · obtain ⟨b, hlast, hnot⟩ := hstopped fun h => hne (congrArg (a :: ·) h)
        exact ⟨b, by rw [List.getLast?_cons, hlast]; rfl, hnot⟩
    | _ =>
      have hnot : ¬net.Refuses a := by
        rintro ⟨code, hrefuses⟩
        rw [hpeer] at hrefuses
        cases hrefuses
      exact ⟨List.cons_prefix_cons.2 ⟨rfl, List.nil_prefix⟩, nofun, fun _ => ⟨a, rfl, hnot⟩⟩

/-- Whoever accepts is the last one that was connected to. -/
theorem getLast?_connectFirst {address : SocketAddress} {greeting : Bytes} {known : Bool}
    {room : Option Nat}
    (h : (net.connectFirst last cs).2 = .connected address greeting known room) :
    (net.connectFirst last cs).1.getLast? = some address := by
  induction cs generalizing last with
  | nil => cases h
  | cons a cs ih =>
    rw [connectFirst] at h ⊢
    cases hpeer : net.peer a with
    | refuses code =>
      rw [hpeer] at h
      dsimp only at h ⊢
      rw [List.getLast?_cons, ih h]
      rfl
    | accepts greeting' known' room' =>
      rw [hpeer] at h
      cases h
      rfl
    | hangs =>
      rw [hpeer] at h
      cases h

/-- A single address is tried, however that ends. -/
theorem connectFirst_single (net : Network) (last : Fault) (a : SocketAddress) :
    (net.connectFirst last [a]).1 = [a] := by
  rw [connectFirst]
  cases net.peer a <;> rfl

/-! ### Destinations -/

/-- The addresses that a name stands for. -/
def addresses (net : Network) (name : Text) : List IpAddress :=
  ((net.hosts.find? fun h => h.1 == name).map Prod.snd).getD []

/-- What dialling a destination looks up and connects to: an address at its port as it stands; the
    address that a name and a port write together, its scope apart; and of every other name, which
    alone is looked up, the addresses at that port in order. -/
def Dialled (net : Network) (d : Destination) (lookups : List Text)
    (dials : List SocketAddress) : Prop :=
  match d.host with
  | .ip a => lookups = [] ∧ dials = [.ofIp a d.port]
  | .domain name =>
    match SocketAddress.parse? (name ++ ':' :: Decimal.write d.port.toNat) with
    | some a => lookups = [] ∧ dials = [a.unscoped]
    | none =>
      lookups = [name] ∧
        net.Tried ((net.addresses name).map (SocketAddress.ofIp · d.port)) dials

/-- An address without a scope has none to lose. -/
theorem unscoped_ofIp (ip : IpAddress) (port : UInt16) :
    (SocketAddress.ofIp ip port).unscoped = .ofIp ip port := by
  cases ip <;> rfl

/-- A text that is a socket address is connected to as it stands, and no name is looked up. -/
theorem attempt_of_parse? (net : Network) {s : Text} (h : SocketAddress.parse? s = some a) :
    (net.attempt s).lookups = [] ∧ (net.attempt s).connects = [a.unscoped] := by
  rw [attempt, h]
  exact ⟨rfl, net.connectFirst_single _ _⟩

/-- A name is looked up once, and its addresses are tried in order. -/
theorem attemptName_spec (net : Network) (name : Text) (port : UInt16) :
    (net.attemptName name port).lookups = [name] ∧
      net.Tried ((net.addresses name).map (SocketAddress.ofIp · port))
        (net.attemptName name port).connects := by
  unfold attemptName addresses
  cases net.hosts.find? fun h => h.1 == name with
  | none => exact ⟨rfl, net.tried_connectFirst unknownName []⟩
  | some host => exact ⟨rfl, net.tried_connectFirst noAddress _⟩

/-- A name and a port behind the last colon, which are no socket address together. -/
theorem attempt_eq {name : Text} {port : UInt16}
    (h : SocketAddress.parse? (name ++ ':' :: Decimal.write port.toNat) = none) :
    net.attempt (name ++ ':' :: Decimal.write port.toNat) =
      if name.contains '\x00' then
        ⟨[], [], .failed (.described .invalidInput "file name contained an unexpected NUL byte")⟩
      else net.attemptName name port := by
  -- The last colon is the one in front of the port, whatever colons the name holds.
  have hcolon : ':' ∉ Decimal.write port.toNat := fun hmem =>
    absurd (Decimal.isDigit_of_mem_write hmem) (by decide)
  rw [attempt, h]
  dsimp only
  rw [Text.splitLast?_append_cons name hcolon]
  dsimp only
  rw [Decimal.readBelow_write port.toNat_lt]
  dsimp only
  rw [UInt16.ofNat_toNat]

/-- A text that is no socket address is taken as a name and a port. -/
theorem attempt_of_name {name : Text} {port : UInt16} (hnul : '\x00' ∉ name)
    (h : SocketAddress.parse? (name ++ ':' :: Decimal.write port.toNat) = none) :
    net.attempt (name ++ ':' :: Decimal.write port.toNat) = net.attemptName name port := by
  rw [attempt_eq h, if_neg (mt List.contains_iff_mem.1 hnul)]

/-- **Dialling a destination** by its text: no name that holds a NUL is asked for. -/
theorem dialled_attempt (net : Network) (d : Destination)
    (hnul : ∀ name, d.host = .domain name → '\x00' ∉ name) :
    net.Dialled d (net.attempt d.render).lookups (net.attempt d.render).connects := by
  obtain ⟨host, port⟩ := d
  cases host with
  | ip ip =>
    have hparse := SocketAddress.parse?_render (.ofIp ip port)
    obtain ⟨hlookups, hconnects⟩ := net.attempt_of_parse? hparse
    rw [unscoped_ofIp] at hconnects
    exact ⟨hlookups, hconnects⟩
  | domain name =>
    have hrender : Destination.render ⟨.domain name, port⟩ =
        name ++ ':' :: Decimal.write port.toNat := by simp [Destination.render]
    rw [hrender]
    unfold Dialled
    dsimp only
    -- A name may read as an address, and is not looked up then.
    cases hparse : SocketAddress.parse? (name ++ ':' :: Decimal.write port.toNat) with
    | some a => exact net.attempt_of_parse? hparse
    | none =>
      dsimp only
      rw [attempt_of_name (hnul name rfl) hparse]
      exact net.attemptName_spec name port

/-- Dialling fails before anything is connected to, or connects to addresses in order. -/
theorem attempt_cases (net : Network) (s : Text) :
    ((net.attempt s).connects = [] ∧ ∃ fault, (net.attempt s).reach = .failed fault) ∨
      ∃ last cs, (net.attempt s).connects = (net.connectFirst last cs).1 ∧
        (net.attempt s).reach = (net.connectFirst last cs).2 := by
  unfold attempt
  split
  · exact .inr ⟨_, _, rfl, rfl⟩
  · split
    · exact .inl ⟨rfl, _, rfl⟩
    · split
      · exact .inl ⟨rfl, _, rfl⟩
      · split
        · exact .inl ⟨rfl, _, rfl⟩
        · unfold attemptName
          split
          · exact .inl ⟨rfl, _, rfl⟩
          · exact .inr ⟨_, _, rfl, rfl⟩

/-- **A connection** leads to the last address that was connected to. -/
theorem getLast?_connects {s : Text} {address : SocketAddress} {greeting : Bytes} {known : Bool}
    {room : Option Nat} (h : (net.attempt s).reach = .connected address greeting known room) :
    (net.attempt s).connects.getLast? = some address := by
  rcases net.attempt_cases s with ⟨-, fault, hfailed⟩ | ⟨last, cs, hconnects, hreach⟩
  · rw [hfailed] at h
    cases h
  · rw [hconnects]
    exact getLast?_connectFirst (hreach.symm.trans h)

/-! ### Connections -/

/-- Whoever connects to the address gets a connection. -/
def accepts (net : Network) (a : SocketAddress) : Bool :=
  match net.peer a with
  | .accepts _ _ _ => true
  | _ => false

/-- Those among some addresses to which a connection comes about. -/
def accepted (net : Network) (addresses : List SocketAddress) : List SocketAddress :=
  addresses.filter net.accepts

/-- Of the addresses that were tried, only the one that was reached accepts. -/
theorem accepted_connectFirst (net : Network) (last : Fault) (cs : List SocketAddress) :
    net.accepted (net.connectFirst last cs).1 = (net.connectFirst last cs).2.address?.toList := by
  induction cs generalizing last with
  | nil => rfl
  | cons a cs ih =>
    rw [connectFirst]
    cases hpeer : net.peer a with
    | refuses code =>
      have hnot : net.accepts a = false := by rw [accepts, hpeer]
      dsimp only
      rw [← ih (.system code), accepted, List.filter_cons, hnot, if_neg Bool.false_ne_true]
      rfl
    | _ => simp [accepted, accepts, hpeer, Reach.address?]

/-- **A dial brings about one connection at most**, the one that it reaches. -/
theorem accepted_connects (net : Network) (s : Text) :
    net.accepted (net.attempt s).connects = (net.attempt s).reach.address?.toList := by
  rcases net.attempt_cases s with ⟨hnone, fault, hfailed⟩ | ⟨last, cs, hconnects, hreach⟩
  · rw [hnone, hfailed]
    rfl
  · rw [hconnects, hreach]
    exact net.accepted_connectFirst last cs

end Network

end ForwardProxy
