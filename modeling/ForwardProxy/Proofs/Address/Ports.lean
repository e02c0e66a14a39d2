import ForwardProxy.Proofs.Address.Rendered
import ForwardProxy.Proofs.Text.Cutting

namespace ForwardProxy

/-!
# The port of a socket address

What stands behind the last colon of a socket address is its port, whatever stands in front of it.

* `Address.Leaves` — a reader that leaves the end of what it is given.
* `Address.leaves_ipv4?`, `Address.leaves_ipv6?` — the readers of addresses do.
* `Address.Ported` — a text with a port behind its last colon.
* `SocketAddress.port_of_parse?` — the port of a socket address is that.
-/

namespace Address

variable {α β : Type} {s rest : Text}

/-! ### What a reader leaves -/

/-- A reader that takes something off the front of a text and leaves the rest of it. -/
def Leaves (p : Text → Option (α × Text)) : Prop := ∀ s a rest, p s = some (a, rest) → rest <:+ s

/-- What is made of the result does not change what a reader leaves. -/
theorem Leaves.map {p : Text → Option (α × Text)} (hp : Leaves p) (f : α → β) :
    Leaves fun s => (p s).map fun r => (f r.1, r.2) := by
  intro s b rest h
  obtain ⟨⟨a, rest'⟩, hread, heq⟩ := Option.map_eq_some_iff.1 h
  cases heq
  exact hp s a rest' hread

/-- A number leaves what is behind its digits. -/
theorem leaves_number? (base : Nat) (most : Option Nat) (zeros : Bool) (bound : Nat) :
    Leaves (number? base most zeros bound) := by
  intro s n rest h
  obtain ⟨ds, rfl, -⟩ := append_of_number? h
  exact List.suffix_append ds rest

/-- A reader of one character takes that character. -/
theorem eq_cons_of_char? {c : Char} (h : char? c s = some rest) : s = c :: rest := by
  cases s with
  | nil => cases h
  | cons x s =>
    dsimp only [char?] at h
    split at h
    · rename_i hx
      cases h
      rw [hx]
    · cases h

/-- A separator in front is taken as well. -/
theorem Leaves.separated {p : Text → Option (α × Text)} (hp : Leaves p) (sep : Char)
    (first : Bool) : Leaves (separated? sep first p) := by
  intro s a rest h
  cases first with
  | true => exact hp s a rest h
  | false =>
    obtain ⟨more, hchar, hread⟩ := Option.bind_eq_some_iff.1 h
    rw [eq_cons_of_char? hchar]
    exact (hp more a rest hread).trans (List.suffix_cons sep more)

/-- The number of an IPv4 address leaves an end of the text. -/
theorem leaves_octet? : Leaves octet? := (leaves_number? 10 (some 3) false 256).map UInt8.ofNat

/-- A group of an IPv6 address leaves an end of the text. -/
theorem leaves_group? : Leaves group? := (leaves_number? 16 (some 4) true 65536).map UInt16.ofNat

/-- An IPv4 address leaves an end of the text. -/
theorem leaves_ipv4? : Leaves ipv4? := by
  intro s ip rest h
  have hnext := leaves_octet?.separated '.' false
  obtain ⟨⟨a, s₁⟩, ha, h⟩ := Option.bind_eq_some_iff.1 h
  obtain ⟨⟨b, s₂⟩, hb, h⟩ := Option.bind_eq_some_iff.1 h
  obtain ⟨⟨c, s₃⟩, hc, h⟩ := Option.bind_eq_some_iff.1 h
  obtain ⟨⟨d, s₄⟩, hd, h⟩ := Option.bind_eq_some_iff.1 h
  cases h
  exact (hnext _ _ _ hd).trans ((hnext _ _ _ hc).trans ((hnext _ _ _ hb).trans
    (leaves_octet? _ _ _ ha)))

/-- A row of groups leaves the rest of the text. -/
theorem groups_suffix (limit : Nat) (first : Bool) (s : Text) :
    (groups limit first s).2.2 <:+ s := by
  induction limit generalizing first s with
  | zero => exact List.suffix_refl s
  | succ n ih =>
    -- Either no group could be read, or one was and others follow it.
    rw [groups]
    split
    · rename_i ip rest hipv4
      split at hipv4
      · exact leaves_ipv4?.separated ':' first s ip rest hipv4
      · cases hipv4
    · split
      · exact List.suffix_refl s
      · rename_i g rest hgroup
        exact (ih false rest).trans (leaves_group?.separated ':' first s g rest hgroup)

/-- An IPv6 address leaves an end of the text. -/
theorem leaves_ipv6? : Leaves ipv6? := by
  intro s ip rest h
  have hhead := groups_suffix 8 true s
  unfold ipv6? at h
  rcases hgroups : groups 8 true s with ⟨head, v4, left⟩
  rw [hgroups] at h hhead
  dsimp only at h hhead
  split at h
  · obtain ⟨_, -, heq⟩ := Option.map_eq_some_iff.1 h
    cases heq
    exact hhead
  · split at h
    · cases h
    · split at h
      · -- Behind two colons stands another row of groups.
        rename_i more
        have htail := groups_suffix (8 - (head.length + 1)) true more
        obtain ⟨_, -, heq⟩ := Option.map_eq_some_iff.1 h
        cases heq
        exact htail.trans (((List.suffix_cons ':' more).trans (List.suffix_cons ':' _)).trans hhead)
      · cases h

/-- A scope leaves an end of the text. -/
theorem scope_suffix (s : Text) : (scope s).2 <:+ s := by
  unfold scope
  split
  · rename_i n rest h
    obtain ⟨more, hchar, hnumber⟩ := Option.bind_eq_some_iff.1 h
    rw [eq_cons_of_char? hchar]
    exact (leaves_number? _ _ _ _ _ _ _ hnumber).trans (List.suffix_cons _ _)
  · exact List.suffix_refl s

/-! ### What stands behind the last colon -/

/-- A number that is a text as a whole. -/
theorem eq_numberOf_of_number? {base bound n : Nat} {most : Option Nat} {zeros : Bool}
    (h : number? base most zeros bound s = some (n, [])) :
    n = numberOf base s ∧ ∀ c ∈ s, (digit? base c).isSome = true := by
  obtain ⟨ds, hs, hdigits, hn⟩ := append_of_number? h
  rw [List.append_nil] at hs
  subst hs
  exact ⟨hn, hdigits⟩

/-- A port that is a text as a whole: a colon and digits. -/
theorem digits_of_port? {p : UInt16} (h : port? s = some (p, [])) :
    ∃ ds, s = ':' :: ds ∧ (∀ c ∈ ds, (digit? 10 c).isSome = true) ∧
      p = UInt16.ofNat (numberOf 10 ds) := by
  obtain ⟨ds, hchar, hnumber⟩ := Option.bind_eq_some_iff.1 h
  obtain ⟨⟨n, rest⟩, hread, heq⟩ := Option.map_eq_some_iff.1 hnumber
  cases heq
  obtain ⟨rfl, hdigits⟩ := eq_numberOf_of_number? hread
  exact ⟨ds, eq_cons_of_char? hchar, hdigits, rfl⟩

/-- A text with a port behind its last colon. -/
def Ported (s : Text) (p : UInt16) : Prop :=
  ∃ front ds, s = front ++ ':' :: ds ∧ ':' ∉ ds ∧ p = UInt16.ofNat (numberOf 10 ds)

/-- A port that is read to the end of a text is written behind a colon there. -/
theorem ported_of_port? {p : UInt16} (h : port? rest = some (p, [])) (hrest : rest <:+ s) :
    Ported s p := by
  obtain ⟨front, rfl⟩ := hrest
  obtain ⟨ds, rfl, hdigits, hport⟩ := digits_of_port? h
  exact ⟨front, ds, rfl, fun hcolon => absurd (hdigits ':' hcolon) (by decide), hport⟩

/-- The port of an IPv4 socket address is written behind a colon. -/
theorem ported_of_socketV4? {a : SocketAddress} (h : socketV4? s = some (a, [])) :
    Ported s a.port := by
  obtain ⟨⟨ip, s₁⟩, hip, h⟩ := Option.bind_eq_some_iff.1 h
  obtain ⟨⟨p, s₂⟩, hport, h⟩ := Option.bind_eq_some_iff.1 h
  cases h
  exact ported_of_port? hport (leaves_ipv4? _ _ _ hip)

/-- The port of an IPv6 socket address is written behind a colon. -/
theorem ported_of_socketV6? {a : SocketAddress} (h : socketV6? s = some (a, [])) :
    Ported s a.port := by
  obtain ⟨s₁, hopen, h⟩ := Option.bind_eq_some_iff.1 h
  obtain ⟨⟨ip, s₂⟩, hip, h⟩ := Option.bind_eq_some_iff.1 h
  obtain ⟨s₄, hclose, h⟩ := Option.bind_eq_some_iff.1 h
  obtain ⟨⟨p, s₅⟩, hport, h⟩ := Option.bind_eq_some_iff.1 h
  have hzone : ']' :: s₄ <:+ s₂ := eq_cons_of_char? hclose ▸ scope_suffix s₂
  cases h
  refine ported_of_port? hport ?_
  rw [eq_cons_of_char? hopen]
  exact (List.suffix_cons _ _).trans (hzone.trans
    ((leaves_ipv6? _ _ _ hip).trans (List.suffix_cons _ _)))

end Address

namespace SocketAddress

/-- **The port of a socket address** is written at the end of its text, behind a colon. -/
theorem ported_of_parse? {s : Text} {a : SocketAddress} (h : parse? s = some a) :
    Address.Ported s a.port := by
  unfold parse? at h
  split at h
  · rename_i a' rest hv4
    split at h
    · rename_i hnil
      cases h
      rw [List.isEmpty_iff.1 hnil] at hv4
      exact Address.ported_of_socketV4? hv4
    · cases h
  · unfold Address.whole? at h
    split at h
    · rename_i a' hv6
      cases h
      exact Address.ported_of_socketV6? hv6
    · cases h

/-- **The port of a socket address** is the one that was written behind the last colon. -/
theorem port_of_parse? {front : Text} {p : UInt16} {a : SocketAddress}
    (h : parse? (front ++ ':' :: Decimal.write p.toNat) = some a) : a.port = p := by
  obtain ⟨front', ds, hcut, hds, hport⟩ := ported_of_parse? h
  have hcolon : ':' ∉ Decimal.write p.toNat := fun hmem =>
    absurd (Decimal.isDigit_of_mem_write hmem) (by decide)
  obtain ⟨-, rfl⟩ := Text.append_cons_inj_last hcolon hds hcut
  rw [hport, Decimal.write, Address.numberOf_toDigits (.inl rfl), UInt16.ofNat_toNat]

end SocketAddress

end ForwardProxy
