import ForwardProxy.Proofs.Address.Ports

namespace ForwardProxy

/-!
# Addresses in brackets

A text in brackets with a port behind them is a socket address just if the text alone is an IPv6
address, a scope allowed behind it: no reader looks past a closing bracket.

* `Address.Steady` — a reader for which a text ends in front of a character.
* `Address.steady_ipv4?`, `Address.steady_ipv6?` — the readers of addresses are so.
* `Address.literal?` — the address and the scope that a text is as a whole.
* `SocketAddress.parse?_bracketed` — what stands between brackets alone decides.
-/

namespace Address

variable {α β : Type} {c : Char} {s : Text}

/-! ### Readers that stop -/

/-- A reader for which a text ends in front of a character: with it and anything behind it, the
    reader takes what it takes without. -/
def Steady (c : Char) (p : Text → Option (α × Text)) : Prop :=
  ∀ s r, p (s ++ c :: r) = (p s).map fun x => (x.1, x.2 ++ c :: r)

/-- A reader that reads nothing stops anywhere. -/
theorem steady_pure (c : Char) (a : α) : Steady c fun s => some (a, s) := fun _ _ => rfl

/-- Of two readers in a row, both have to stop. -/
theorem Steady.bind {p : Text → Option (α × Text)} {q : α → Text → Option (β × Text)}
    (hp : Steady c p) (hq : ∀ a, Steady c (q a)) :
    Steady c fun s => (p s).bind fun x => q x.1 x.2 := by
  intro s r
  dsimp only
  rw [hp s r]
  cases p s with
  | none => rfl
  | some x => exact hq x.1 x.2 r

/-- What is made of the result does not matter for where a reader stops. -/
theorem Steady.map {p : Text → Option (α × Text)} (hp : Steady c p) (f : α → β) :
    Steady c fun s => (p s).map fun x => (f x.1, x.2) := by
  intro s r
  dsimp only
  rw [hp s r]
  cases p s <;> rfl

/-- A row ends in front of a character that does not belong to it. -/
theorem takeWhile_append_cons {p : Char → Bool} (hc : p c = false) (s r : Text) :
    (s ++ c :: r).takeWhile p = s.takeWhile p := by
  induction s with
  | nil => exact List.takeWhile_cons_of_neg (by simp [hc])
  | cons x s ih =>
    rw [List.cons_append, List.takeWhile_cons, List.takeWhile_cons, ih]

/-- A number ends in front of what is no digit. -/
theorem steady_number? {base : Nat} (hc : digit? base c = none) (most : Option Nat) (zeros : Bool)
    (bound : Nat) : Steady c (number? base most zeros bound) := by
  intro s r
  have hdigits : (s ++ c :: r).takeWhile (fun c => (digit? base c).isSome) =
      s.takeWhile fun c => (digit? base c).isSome :=
    takeWhile_append_cons (by simp [hc]) s r
  have hlength := (List.takeWhile_prefix (l := s) fun c => (digit? base c).isSome).length_le
  unfold number?
  rw [hdigits]
  dsimp only
  rw [List.drop_append_of_le_length hlength]
  split
  · rfl
  · split
    · rfl
    · split
      · rfl
      · split <;> rfl

/-- A reader of one character does not see another one behind it. -/
theorem char?_append_cons {d : Char} (hd : d ≠ c) (s r : Text) :
    char? d (s ++ c :: r) = (char? d s).map (· ++ c :: r) := by
  cases s with
  | nil => exact if_neg (Ne.symm hd)
  | cons x s =>
    dsimp only [List.cons_append, char?]
    split <;> rfl

/-- A separator in front makes no difference, unless it is that very character. -/
theorem Steady.separated {p : Text → Option (α × Text)} (hp : Steady c p) {sep : Char}
    (hsep : sep ≠ c) (first : Bool) : Steady c (separated? sep first p) := by
  intro s r
  cases first with
  | true => exact hp s r
  | false =>
    show (char? sep (s ++ c :: r)).bind p = ((char? sep s).bind p).map _
    rw [char?_append_cons hsep]
    cases char? sep s with
    | none => rfl
    | some more => exact hp more r

/-! ### The readers of addresses -/

/-- A character that is no part of an address. -/
structure Outside (c : Char) : Prop where
  decimal : digit? 10 c = none
  hexadecimal : digit? 16 c = none
  dot : '.' ≠ c
  colon : ':' ≠ c
  percent : '%' ≠ c

/-- A closing bracket is no part of an address. -/
theorem outside_closing : Outside ']' := by
  refine ⟨?_, ?_, ?_, ?_, ?_⟩ <;> decide

/-- The number of an IPv4 address stops in front of such a character. -/
theorem steady_octet? (hc : Outside c) : Steady c octet? :=
  (steady_number? hc.decimal (some 3) false 256).map UInt8.ofNat

/-- A group of an IPv6 address stops in front of such a character. -/
theorem steady_group? (hc : Outside c) : Steady c group? :=
  (steady_number? hc.hexadecimal (some 4) true 65536).map UInt16.ofNat

/-- An IPv4 address stops in front of such a character. -/
theorem steady_ipv4? (hc : Outside c) : Steady c ipv4? := by
  have hfirst := steady_octet? hc
  have hnext := hfirst.separated hc.dot false
  exact hfirst.bind fun a => hnext.bind fun b => hnext.bind fun c' => hnext.bind fun d =>
    steady_pure c (Ipv4.mk a b c' d)

/-- A row of groups ends where the text ends. -/
theorem groups_append_cons (hc : Outside c) (limit : Nat) (first : Bool) (s r : Text) :
    groups limit first (s ++ c :: r) =
      ((groups limit first s).1, (groups limit first s).2.1,
        (groups limit first s).2.2 ++ c :: r) := by
  -- By induction on how many groups may still come: each one stops, and so do those behind it.
  induction limit generalizing first s with
  | zero => rfl
  | succ n ih =>
    have hipv4 : (if 0 < n then separated? ':' first ipv4? (s ++ c :: r) else none) =
        (if 0 < n then separated? ':' first ipv4? s else none).map
          fun x => (x.1, x.2 ++ c :: r) := by
      rw [(steady_ipv4? hc).separated hc.colon first s r]
      split <;> rfl
    rw [groups, groups, hipv4, (steady_group? hc).separated hc.colon first s r]
    cases (if 0 < n then separated? ':' first ipv4? s else none) with
    | some x => rfl
    | none =>
      cases separated? ':' first group? s with
      | none => rfl
      | some x =>
        dsimp only [Option.map]
        rw [ih false x.2]

/-- An IPv6 address stops in front of such a character. -/
theorem steady_ipv6? (hc : Outside c) : Steady c ipv6? := by
  intro s r
  unfold ipv6?
  rw [groups_append_cons hc]
  rcases groups 8 true s with ⟨head, v4, left⟩
  dsimp only
  split
  · cases Ipv6.ofGroups? head <;> rfl
  · split
    · rfl
    · -- Two colons are there with the character just if they are there without it.
      split
      · rename_i more hmore
        rcases left with _ | ⟨x, _ | ⟨y, left⟩⟩
        · exact absurd (List.head_eq_of_cons_eq hmore).symm hc.colon
        · obtain ⟨-, hnext⟩ := List.cons.inj hmore
          exact absurd (List.head_eq_of_cons_eq hnext).symm hc.colon
        · obtain ⟨rfl, hnext⟩ := List.cons.inj hmore
          obtain ⟨rfl, rfl⟩ := List.cons.inj hnext
          dsimp only [List.append_eq]
          rw [groups_append_cons hc]
          show _ = Option.map _ (Option.map _ (Ipv6.ofGroups? _))
          rw [Option.map_map]
          rfl
      · rename_i hnot
        split
        · rename_i more
          exact absurd rfl (hnot (more ++ c :: r))
        · rfl

/-- A scope stops in front of such a character. -/
theorem scope_append_cons (hc : Outside c) (s r : Text) :
    scope (s ++ c :: r) = ((scope s).1, (scope s).2 ++ c :: r) := by
  unfold scope
  rw [char?_append_cons hc.percent]
  cases char? '%' s with
  | none => rfl
  | some more =>
    have hnumber := steady_number? hc.decimal none true 0x100000000 more r
    dsimp only [Option.map, Option.bind]
    rw [hnumber]
    cases number? 10 none true 0x100000000 more <;> rfl

/-! ### What stands between brackets -/

/-- The IPv6 address and the scope that a text is as a whole. -/
def literal? (s : Text) : Option (Ipv6 × UInt32) :=
  (ipv6? s).bind fun r => if (scope r.2).2.isEmpty then some (r.1, (scope r.2).1) else none

/-- Behind an opening bracket there are an address, a scope, the closing bracket and a port, in this
    order. -/
theorem socketV6?_bracketed (s : Text) :
    socketV6? ('[' :: s) =
      (ipv6? s).bind fun x => (char? ']' (scope x.2).2).bind fun s =>
        (port? s).bind fun y => some (.v6 x.1 y.1 (scope x.2).1, y.2) := by
  rfl

end Address

namespace SocketAddress

open Address

/-- **A text in brackets** with a port behind them is a socket address just if the text alone is an
    address. -/
theorem parse?_bracketed (host : Text) (port : UInt16) :
    parse? ('[' :: host ++ ']' :: ':' :: Decimal.write port.toNat) =
      (literal? host).map fun r => .v6 r.1 port r.2 := by
  have hv4 : socketV4? ('[' :: host ++ ']' :: ':' :: Decimal.write port.toNat) = none := by
    rw [List.cons_append, socketV4?, ipv4?_of_bounded (bounded_cons (by decide) _)]
    rfl
  rw [parse?, hv4]
  dsimp only
  rw [whole?, List.cons_append, socketV6?_bracketed, steady_ipv6? outside_closing, literal?]
  cases hip : ipv6? host with
  | none => rfl
  | some r =>
    obtain ⟨ip, left⟩ := r
    dsimp only [Option.map, Option.bind]
    rw [scope_append_cons outside_closing]
    rcases scope left with ⟨zone, left⟩
    dsimp only
    cases left with
    | nil =>
      have hport := port?_write port (bounded_nil 10)
      rw [List.append_nil] at hport
      rw [List.nil_append, char?, if_pos rfl]
      dsimp only
      rw [hport]
      rfl
    | cons c left =>
      dsimp only [List.cons_append, char?]
      by_cases hclosing : c = ']'
      · rw [if_pos hclosing]
        dsimp only
        rcases hport : port? (left ++ ']' :: ':' :: Decimal.write port.toNat) with
          _ | ⟨p, _ | ⟨x, more⟩⟩
        · rfl
        · -- The bracket behind the text would stand in a port.
          obtain ⟨ds, hcut, hdigits, -⟩ := digits_of_port? hport
          have hmem : ']' ∈ ':' :: ds := by simp [← hcut]
          rcases List.mem_cons.1 hmem with h | h
          · exact absurd h (by decide)
          · exact absurd (hdigits _ h) (by decide)
        · rfl
      · rw [if_neg hclosing]
        rfl

end SocketAddress

end ForwardProxy
