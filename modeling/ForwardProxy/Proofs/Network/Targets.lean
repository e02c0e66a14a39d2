import ForwardProxy.Failure
import ForwardProxy.Proofs.Address.Brackets
import ForwardProxy.Proofs.Network.Destinations

namespace ForwardProxy

/-!
# Dialling a target

A target is dialled by its text, which is taken apart again.  The port always is the one that was
asked for.  The name that is looked up is the host as it is shown: a host with a colon stands in
brackets there, and unless it is an address, it is looked up with them.

* `Target.shownHost` — the host as it is shown.
* `Network.Reached` — what dialling a target looks up and connects to.
* `Network.reached_attempt` — dialling the text of a target does that.
* `Network.lookup_of_another_name` — a target of which another name is looked up.
-/

namespace Target

/-- The host of a target as it is shown, in brackets if it has a colon. -/
def shownHost (t : Target) : Text :=
  if t.host.contains ':' then '[' :: t.host ++ [']'] else t.host

/-- A target is shown as its host, a colon and its port. -/
theorem render_eq (t : Target) : t.render = t.shownHost ++ ':' :: Decimal.write t.port.toNat := by
  unfold render shownHost
  split <;> simp

/-- Nothing but brackets is shown beside the host. -/
theorem mem_shownHost_iff {t : Target} {c : Char} (hopening : c ≠ '[') (hclosing : c ≠ ']') :
    c ∈ t.shownHost ↔ c ∈ t.host := by
  unfold shownHost
  split <;> simp [hopening, hclosing]

/-- A host is shown as it is just if it has no colon. -/
theorem shownHost_eq_host_iff (t : Target) : t.shownHost = t.host ↔ ':' ∉ t.host := by
  unfold shownHost
  split
  · rename_i hcolon
    refine ⟨fun h => ?_, fun h => absurd (List.contains_iff_mem.1 hcolon) h⟩
    have hlength := congrArg List.length h
    rw [List.length_append, List.length_cons] at hlength
    omega
  · rename_i hcolon
    exact ⟨fun _ => mt List.contains_iff_mem.2 hcolon, fun _ => rfl⟩

end Target

namespace Network

open Target (shownHost)

/-- What dialling a target by its text looks up and connects to. -/
structure Reached (net : Network) (t : Target) (lookups : List Text)
    (connects : List SocketAddress) : Prop where
  /-- A socket address is connected to as it stands, its scope apart. -/
  literal : ∀ a, SocketAddress.parse? t.render = some a → lookups = [] ∧ connects = [a.unscoped]
  /-- A host with a colon is part of one just if it is an IPv6 address itself. -/
  address : ':' ∈ t.host → SocketAddress.parse? t.render =
    (Address.literal? t.host).map fun r => .v6 r.1 t.port r.2
  /-- Every other host is looked up as it is shown. -/
  named : SocketAddress.parse? t.render = none → '\x00' ∉ t.host →
    lookups = [t.shownHost] ∧
      net.Tried ((net.addresses t.shownHost).map (SocketAddress.ofIp · t.port)) connects
  /-- A host that holds a NUL is not even looked up. -/
  unasked : SocketAddress.parse? t.render = none → '\x00' ∈ t.host → lookups = [] ∧ connects = []
  /-- The port is always the one that was asked for. -/
  ports : ∀ a ∈ connects, a.port = t.port
  /-- No other name than the host is looked up just if the host has no colon, is an IPv6 address or
      holds a NUL. -/
  faithful : (∀ name ∈ lookups, name = t.host) ↔
    (':' ∈ t.host → (Address.literal? t.host).isSome = true ∨ '\x00' ∈ t.host)

variable {net : Network}

/-- Dropping a scope leaves the port. -/
theorem port_unscoped (a : SocketAddress) : a.unscoped.port = a.port := by
  cases a <;> rfl

/-- All addresses of a name are tried with the same port. -/
theorem port_of_tried {ips : List IpAddress} {port : UInt16} {tried : List SocketAddress}
    (h : net.Tried (ips.map (SocketAddress.ofIp · port)) tried) : ∀ a ∈ tried, a.port = port := by
  intro a ha
  obtain ⟨ip, -, rfl⟩ := List.mem_map.1 (h.in_order.subset ha)
  cases ip <;> rfl

/-- A host with a colon, as it is shown, is part of a socket address just if it is an IPv6 address
    itself. -/
theorem parse?_render_of_colon {t : Target} (hcolon : ':' ∈ t.host) :
    SocketAddress.parse? t.render =
      (Address.literal? t.host).map fun r => .v6 r.1 t.port r.2 := by
  have hrender : t.render = '[' :: t.host ++ ']' :: ':' :: Decimal.write t.port.toNat := by
    rw [t.render_eq, shownHost, if_pos (List.contains_iff_mem.2 hcolon)]
    simp
  rw [hrender, SocketAddress.parse?_bracketed]

/-- **Dialling a target** by its text. -/
theorem reached_attempt (net : Network) (t : Target) :
    net.Reached t (net.attempt t.render).lookups (net.attempt t.render).connects := by
  have haddress := parse?_render_of_colon (t := t)
  cases hparse : SocketAddress.parse? t.render with
  | some a =>
    obtain ⟨hlookups, hconnects⟩ := net.attempt_of_parse? hparse
    have hport : a.port = t.port := SocketAddress.port_of_parse? (t.render_eq ▸ hparse)
    have hsome (hnone : SocketAddress.parse? t.render = none) : False := by
      rw [hparse] at hnone
      cases hnone
    rw [hlookups, hconnects]
    refine ⟨fun b hb => ?_, haddress, fun hnone => (hsome hnone).elim,
      fun hnone => (hsome hnone).elim, fun b hb => ?_, fun _ hcolon => .inl ?_, fun _ => nofun⟩
    · obtain rfl : a = b := Option.some.inj (hparse.symm.trans hb)
      exact ⟨rfl, rfl⟩
    · rw [List.mem_singleton.1 hb, port_unscoped, hport]
    · have hmap := congrArg Option.isSome (haddress hcolon)
      rw [hparse, Option.isSome_map] at hmap
      exact hmap.symm
  | none =>
    have hattempt := net.attempt_eq (t.render_eq ▸ hparse)
    have hliteral (a : SocketAddress) (ha : SocketAddress.parse? t.render = some a) : False := by
      rw [hparse] at ha
      cases ha
    rw [← t.render_eq] at hattempt
    by_cases hnul : '\x00' ∈ t.host
    · have hshown := (Target.mem_shownHost_iff (by decide) (by decide)).2 hnul
      rw [hattempt, if_pos (List.contains_iff_mem.2 hshown)]
      exact ⟨fun a ha => (hliteral a ha).elim, haddress, fun _ hnot => absurd hnul hnot,
        fun _ _ => ⟨rfl, rfl⟩, nofun, fun _ _ => .inr hnul, fun _ => nofun⟩
    · have hshown := mt (Target.mem_shownHost_iff (by decide) (by decide)).1 hnul
      obtain ⟨hlookups, htried⟩ := net.attemptName_spec t.shownHost t.port
      rw [hattempt, if_neg (mt List.contains_iff_mem.1 hshown), hlookups]
      refine ⟨fun a ha => (hliteral a ha).elim, haddress, fun _ _ => ⟨rfl, htried⟩,
        fun _ h => absurd h hnul, port_of_tried htried, ?_⟩
      -- The one name that is looked up is the host just if this is shown without brackets.
      rw [List.forall_mem_singleton, t.shownHost_eq_host_iff]
      refine ⟨fun hnot hcolon => absurd hcolon hnot, fun h hcolon => (h hcolon).elim ?_ hnul⟩
      have hmap := congrArg Option.isSome (haddress hcolon)
      rw [hparse, Option.isSome_map] at hmap
      rw [← hmap]
      exact Bool.false_ne_true

/-- **A target of which another name is looked up.**  Several colons without brackets are taken for
    an address without a port, also where they are none. -/
theorem lookup_of_another_name :
    ¬∀ (net : Network) (s : Text) (t : Target), Target.ofAuthority s = .ok t →
      (∀ name ∈ (net.attempt t.render).lookups, name = t.host) ∧
        ∀ a ∈ (net.attempt t.render).connects, a.port = t.port := by
  intro hall
  obtain ⟨hnames, -⟩ := hall empty (text "a:b:c") ⟨text "a:b:c", 443⟩ rfl
  have hlookups : (empty.attempt (Target.render ⟨text "a:b:c", 443⟩)).lookups =
      [text "[a:b:c]"] := by rfl
  rw [hlookups] at hnames
  exact absurd (hnames _ List.mem_cons_self) (by decide)

end Network

end ForwardProxy
