import ForwardProxy.Proofs.Address.Digits
import Mathlib.Data.List.TakeWhile

namespace ForwardProxy

/-!
# Addresses that were shown

The text of a socket address is read back as that address, whichever run of zero groups was left
out of it.

* `Address.ipv4?_render`, `Address.ipv6?_render` — the addresses of hosts.
* `Address.groups_render` — groups with colons between them.
* `Ipv6.zeros_longestZeros` — what is left out of an IPv6 address are zeros.
* `SocketAddress.parse?_render` — socket addresses.
-/

namespace Address

variable {rest : Text}

/-! ### IPv4 addresses -/

/-- **An IPv4 address** that was written is read back, whatever follows, unless it is a digit. -/
theorem ipv4?_render (ip : Ipv4) (hrest : Bounded 10 rest) :
    ipv4? (ip.render ++ rest) = some (ip, rest) := by
  have hdot : ∀ r, Bounded 10 ('.' :: r) := bounded_cons (by decide)
  have hnext : ∀ (b : UInt8) (r : Text), Bounded 10 r →
      separated? '.' false octet? ('.' :: (Decimal.write b.toNat ++ r)) = some (b, r) :=
    fun b r hr => octet?_write b hr
  have hshape : ip.render ++ rest =
      Decimal.write ip.a.toNat ++ '.' :: (Decimal.write ip.b.toNat ++ '.' ::
        (Decimal.write ip.c.toNat ++ '.' :: (Decimal.write ip.d.toNat ++ rest))) := by
    simp [Ipv4.render]
  -- Each of the four numbers stops at the dot behind it, and the last one where the address ends.
  rw [hshape, ipv4?, octet?_write _ (hdot _)]
  show (separated? '.' false octet? ('.' :: _) >>= _) = _
  rw [hnext _ _ (hdot _)]
  show (separated? '.' false octet? ('.' :: _) >>= _) = _
  rw [hnext _ _ (hdot _)]
  show (separated? '.' false octet? ('.' :: _) >>= _) = _
  rw [hnext _ _ hrest]
  rfl

/-- A number is that of the digits in front, and what it left stands behind them. -/
theorem append_of_number? {base bound n : Nat} {most : Option Nat} {zeros : Bool} {s rest : Text}
    (h : number? base most zeros bound s = some (n, rest)) :
    ∃ ds, s = ds ++ rest ∧ (∀ c ∈ ds, (digit? base c).isSome = true) ∧ n = numberOf base ds := by
  unfold number? at h
  dsimp only at h
  split at h
  · cases h
  · split at h
    · cases h
    · split at h
      · cases h
      · split at h
        · cases h
          refine ⟨s.takeWhile fun c => (digit? base c).isSome, ?_, fun c hc => ?_, rfl⟩
          · exact (List.prefix_iff_eq_append.1 (List.takeWhile_prefix _)).symm
          · exact List.mem_takeWhile_imp (p := fun c => (digit? base c).isSome) hc
        · cases h

/-- An IPv4 address has a dot behind its first number. -/
theorem dot_of_ipv4? {s : Text} {r : Ipv4 × Text} (h : ipv4? s = some r) :
    ∃ ds more, s = ds ++ '.' :: more ∧ ∀ c ∈ ds, (digit? 10 c).isSome = true := by
  obtain ⟨⟨a, s₁⟩, hoctet, h⟩ := Option.bind_eq_some_iff.1 h
  obtain ⟨⟨b, s₂⟩, hnext, -⟩ := Option.bind_eq_some_iff.1 h
  obtain ⟨⟨n, s₃⟩, hnumber, heq⟩ := Option.map_eq_some_iff.1 hoctet
  obtain rfl : s₃ = s₁ := congrArg Prod.snd heq
  obtain ⟨ds, hds, hdigits, -⟩ := append_of_number? hnumber
  obtain ⟨more, hchar, -⟩ := Option.bind_eq_some_iff.1 hnext
  cases s₃ with
  | nil => cases hchar
  | cons x s₃ =>
    dsimp only [char?] at hchar
    split at hchar
    · rename_i hx
      exact ⟨ds, s₃, by rw [hds, hx], hdigits⟩
    · cases hchar

/-! ### Groups -/

/-- The text is at its end, or goes on with a character that may stand behind a group. -/
def Broken (rest : Text) : Prop := ∀ c, rest.head? = some c → c ∈ [':', ']', '%']

/-- A row of groups is broken by a colon, a bracket or a percent sign. -/
theorem broken_cons {c : Char} (h : c ∈ [':', ']', '%']) (rest : Text) : Broken (c :: rest) := by
  intro c' hc'
  cases hc'
  exact h

/-- No digit of either base breaks a row of groups. -/
theorem Broken.bounded {base : Nat} (hbase : base = 10 ∨ base = 16) (h : Broken rest) :
    Bounded base rest := by
  intro c hc
  have hbreak := h c hc
  rw [List.mem_cons, List.mem_cons, List.mem_singleton] at hbreak
  rcases hbase with rfl | rfl <;> rcases hbreak with rfl | rfl | rfl <;> decide

/-- No IPv4 address begins where no digit is. -/
theorem ipv4?_of_bounded (h : Bounded 10 rest) : ipv4? rest = none := by
  rw [ipv4?, octet?, number?_of_bounded h]
  rfl

/-- No group begins where no digit is. -/
theorem group?_of_bounded (h : Bounded 16 rest) : group? rest = none := by
  rw [group?, number?_of_bounded h]
  rfl

/-- What ends without a dot is no IPv4 address. -/
theorem ipv4?_of_broken {ds : Text} (hds : '.' ∉ ds) (hrest : Broken rest) :
    ipv4? (ds ++ rest) = none := by
  cases h : ipv4? (ds ++ rest) with
  | none => rfl
  | some r =>
    obtain ⟨ds', more, hcut, hdigits⟩ := dot_of_ipv4? h
    have hhead : rest.head? ≠ some '.' := fun h => absurd (hrest '.' h) (by decide)
    rcases List.append_eq_append_iff.1 hcut with ⟨as, rfl, has⟩ | ⟨as, rfl, has⟩
    · -- The dot would stand behind what ends the number.
      cases as with
      | nil => exact absurd (by rw [has]; rfl) hhead
      | cons c as =>
        have hc := hdigits c (List.mem_append_right _ List.mem_cons_self)
        rw [hrest.bounded (.inl rfl) c (by rw [has]; rfl)] at hc
        cases hc
    · cases as with
      | nil => exact absurd (by rw [← List.nil_append rest, ← has]; rfl) hhead
      | cons c as =>
        cases has
        exact absurd (List.mem_append_right _ List.mem_cons_self) hds

/-- Groups are written without dots, so that none of them is taken for an IPv4 address. -/
theorem dot_not_mem_hexDigits (n : Nat) : '.' ∉ Text.hexDigits n := by
  intro h
  have hsome := isSome_digit?_of_mem (.inr rfl) h
  have hnone : digit? 16 '.' = none := by decide
  rw [hnone] at hsome
  cases hsome

/-- Groups, each with a colon in front of it. -/
def behind (gs : List UInt16) : Text := gs.flatMap fun g => ':' :: Text.hexDigits g.toNat

/-- Groups are written with a colon in front of all but the first. -/
theorem renderGroups_cons (g : UInt16) (gs : List UInt16) :
    Ipv6.renderGroups (g :: gs) = Text.hexDigits g.toNat ++ behind gs := by
  induction gs generalizing g with
  | nil => simp [Ipv6.renderGroups, behind]
  | cons g' gs ih =>
    have hfirst : Ipv6.renderGroups (g :: g' :: gs) =
        Text.hexDigits g.toNat ++ ':' :: Ipv6.renderGroups (g' :: gs) := by
      simp [Ipv6.renderGroups, List.intercalate]
    rw [hfirst, ih]
    rfl

/-- More groups, which begin with a colon, break a row as well. -/
theorem Broken.behind_append (h : Broken rest) (gs : List UInt16) : Broken (behind gs ++ rest) := by
  cases gs with
  | nil => exact h
  | cons g gs => exact broken_cons (by decide) _

/-- A row of groups ends where none can be read. -/
theorem groups_nil {limit : Nat} {first : Bool} {s : Text}
    (hipv4 : separated? ':' first ipv4? s = none) (hgroup : separated? ':' first group? s = none) :
    groups limit first s = ([], false, s) := by
  cases limit with
  | zero => rfl
  | succ n =>
    rw [groups, hgroup, hipv4, ite_self]

/-- Nothing more of a row of groups can be read. -/
structure Ends (rest : Text) : Prop where
  ipv4 : separated? ':' false ipv4? rest = none
  group : separated? ':' false group? rest = none

/-- A row of groups ends where no colon comes. -/
theorem ends_of_ne_colon (h : rest.head? ≠ some ':') : Ends rest := by
  have hchar : char? ':' rest = none := by
    cases rest with
    | nil => rfl
    | cons c rest => exact if_neg fun hc => h (congrArg some hc)
  constructor <;> rw [separated?, hchar] <;> rfl

/-- A row of groups ends at two colons, since no group begins with one. -/
theorem ends_of_colons (rest : Text) : Ends (':' :: ':' :: rest) := by
  constructor
  · show ipv4? (':' :: rest) = none
    exact ipv4?_of_bounded (bounded_cons (by decide) rest)
  · show group? (':' :: rest) = none
    exact group?_of_bounded (bounded_cons (by decide) rest)

/-- One group is read back, in front of others. -/
theorem groups_step {n : Nat} {first : Bool} {s : Text} (g : UInt16) (gs : List UInt16)
    (hbroken : Broken rest)
    (hs : ∀ {α : Type} (p : Text → Option (α × Text)),
      separated? ':' first p s = p (Text.hexDigits g.toNat ++ (behind gs ++ rest))) :
    groups (n + 1) first s =
      (g :: (groups n false (behind gs ++ rest)).1, (groups n false (behind gs ++ rest)).2) := by
  have hnext := hbroken.behind_append gs
  have hipv4 : ipv4? (Text.hexDigits g.toNat ++ (behind gs ++ rest)) = none :=
    ipv4?_of_broken (dot_not_mem_hexDigits _) hnext
  have hgroup : group? (Text.hexDigits g.toNat ++ (behind gs ++ rest)) =
      some (g, behind gs ++ rest) := group?_write g (hnext.bounded (.inr rfl))
  -- An IPv4 address is looked for first where there is room, and none is there for want of a dot.
  rw [groups, hs, hs, hipv4, hgroup, ite_self]

/-- The groups behind the first one are read back. -/
theorem groups_behind {gs : List UInt16} {limit : Nat} (hlength : gs.length ≤ limit)
    (hbroken : Broken rest) (hends : gs.length = limit ∨ Ends rest) :
    groups limit false (behind gs ++ rest) = (gs, false, rest) := by
  -- By induction on the groups; that the limit is reached, or that no group follows, ends the row.
  induction gs generalizing limit with
  | nil =>
    rcases hends with rfl | hends
    · rfl
    · exact groups_nil hends.ipv4 hends.group
  | cons g gs ih =>
    cases limit with
    | zero => cases hlength
    | succ n =>
      have hshape : behind (g :: gs) ++ rest =
          ':' :: (Text.hexDigits g.toNat ++ (behind gs ++ rest)) := by simp [behind]
      rw [hshape, groups_step g gs hbroken fun _ => rfl, ih (Nat.le_of_succ_le_succ hlength)
        (hends.imp_left Nat.succ.inj)]

/-- **Groups** with colons between them are read back. -/
theorem groups_render {gs : List UInt16} {limit : Nat} (hlength : gs.length ≤ limit)
    (hbroken : Broken rest) (hends : gs.length = limit ∨ Ends rest) :
    groups limit true (Ipv6.renderGroups gs ++ rest) = (gs, false, rest) := by
  cases gs with
  | nil =>
    exact groups_nil (ipv4?_of_bounded (hbroken.bounded (.inl rfl)))
      (group?_of_bounded (hbroken.bounded (.inr rfl)))
  | cons g gs =>
    cases limit with
    | zero => cases hlength
    | succ n =>
      rw [renderGroups_cons, List.append_assoc, groups_step g gs hbroken fun _ => rfl,
        groups_behind (Nat.le_of_succ_le_succ hlength) hbroken (hends.imp_left Nat.succ.inj)]

end Address

/-! ### IPv6 addresses -/

/-- The run that is left out of an address is one of zeros. -/
theorem Ipv6.zeros_longestZeros (gs : List UInt16) :
    gs = gs.take (longestZeros gs).1 ++ List.replicate (longestZeros gs).2 0 ++
      gs.drop ((longestZeros gs).1 + (longestZeros gs).2) := by
  induction gs with
  | nil => rfl
  | cons g gs ih =>
    rw [longestZeros]
    split
    · -- The run begins here.
      have hzeros : (g :: gs).takeWhile (· == 0) =
          List.replicate ((g :: gs).takeWhile (· == 0)).length 0 :=
        List.eq_replicate_iff.2 ⟨rfl, fun x hx =>
          eq_of_beq (List.mem_takeWhile_imp (p := (· == 0)) hx)⟩
      dsimp only
      rw [← hzeros, List.take_zero, List.nil_append, Nat.zero_add]
      exact (List.prefix_iff_eq_append.1 (List.takeWhile_prefix _)).symm
    · have hshift : (longestZeros gs).1 + 1 + (longestZeros gs).2 =
          (longestZeros gs).1 + (longestZeros gs).2 + 1 := by omega
      rw [hshift, List.take_succ_cons, List.drop_succ_cons, List.cons_append, List.cons_append,
        ← ih]

/-- An address that embeds an IPv4 address is written as that address behind six groups. -/
theorem Ipv6.embedded?_eq_some {ip : Ipv6} {v : Ipv4} (h : ip.embedded? = some v) :
    ip.groups = [0, 0, 0, 0, 0, 0xFFFF] ++ v.groups := by
  unfold embedded? at h
  split at h
  · rename_i hi lo hgroups
    cases h
    rw [hgroups, Ipv4.groups, Bytes.ofBigEndian16_bigEndian16, Bytes.ofBigEndian16_bigEndian16]
    rfl
  · cases h

namespace Address

variable {rest : Text}

/-- The eight groups of an address make up that address. -/
theorem ofGroups?_groups (ip : Ipv6) : Ipv6.ofGroups? ip.groups = some ip :=
  dif_pos ip.length_groups

/-- An address whose text has all its groups. -/
theorem ipv6?_of_groups {s : Text} {ip : Ipv6} {v : Bool}
    (h : groups 8 true s = (ip.groups, v, rest)) : ipv6? s = some (ip, rest) := by
  rw [ipv6?, h]
  dsimp only
  rw [if_pos ip.length_groups, ofGroups?_groups]
  rfl

/-- An address in whose text groups are left out. -/
theorem ipv6?_of_colons {s more : Text} {ip : Ipv6} {head tail : List UInt16} {v : Bool}
    (hlength : head.length ≠ 8) (hhead : groups 8 true s = (head, false, ':' :: ':' :: more))
    (htail : groups (8 - (head.length + 1)) true more = (tail, v, rest))
    (hgroups : head ++ List.replicate (8 - head.length - tail.length) 0 ++ tail = ip.groups) :
    ipv6? s = some (ip, rest) := by
  rw [ipv6?, hhead]
  dsimp only
  rw [if_neg hlength, if_neg Bool.false_ne_true]
  show (Ipv6.ofGroups? (head ++ List.replicate (8 - head.length -
    (groups (8 - (head.length + 1)) true more).1.length) 0 ++
      (groups (8 - (head.length + 1)) true more).1)).map _ = _
  rw [htail, hgroups, ofGroups?_groups]
  rfl

/-- An IPv6 address that ends in an IPv4 address. -/
theorem ipv6?_embedded {ip : Ipv6} {v : Ipv4} (hembedded : ip.embedded? = some v)
    (hrest : Bounded 10 rest) : ipv6? (text "::ffff:" ++ v.render ++ rest) = some (ip, rest) := by
  have hfront : text "::ffff:" =
      ':' :: ':' :: (Text.hexDigits (0xFFFF : UInt16).toNat ++ [':']) := by decide
  have hshape : text "::ffff:" ++ v.render ++ rest =
      ':' :: ':' :: (Text.hexDigits (0xFFFF : UInt16).toNat ++
        (behind [] ++ (':' :: (v.render ++ rest)))) := by
    rw [hfront]
    simp [behind]
  -- Nothing stands in front of the zeros, and one group between them and the IPv4 address.
  have hnone : ([] : List UInt16).length ≤ 8 := Nat.zero_le 8
  have hhead : ∀ more, groups 8 true (':' :: ':' :: more) = ([], false, ':' :: ':' :: more) :=
    fun more => groups_render hnone (broken_cons (by decide) (':' :: more))
      (.inr (ends_of_colons more))
  have hipv4 : separated? ':' false ipv4? (':' :: (v.render ++ rest)) = some (v, rest) :=
    ipv4?_render v hrest
  have hlast : groups (5 + 1) false (':' :: (v.render ++ rest)) = (v.groups, true, rest) := by
    rw [groups, if_pos (by decide), hipv4]
  have htail : groups (6 + 1) true (Text.hexDigits (0xFFFF : UInt16).toNat ++
      (behind [] ++ (':' :: (v.render ++ rest)))) = (0xFFFF :: v.groups, true, rest) := by
    rw [groups_step 0xFFFF [] (broken_cons (by decide) _) fun _ => rfl]
    show (_ :: (groups (5 + 1) false (':' :: (v.render ++ rest))).1,
      (groups (5 + 1) false (':' :: (v.render ++ rest))).2) = _
    rw [hlast]
  rw [hshape]
  refine ipv6?_of_colons (by decide) (hhead _) htail ?_
  rw [Ipv6.embedded?_eq_some hembedded]
  rfl

/-- An IPv6 address in whose text some zeros are left out. -/
theorem ipv6?_shortened {ip : Ipv6} {start count : Nat} (hcount : 0 < count)
    (hzeros : ip.groups = ip.groups.take start ++ List.replicate count 0 ++
      ip.groups.drop (start + count)) (hbroken : Broken rest) (hends : Ends rest) :
    ipv6? (Ipv6.renderGroups (ip.groups.take start) ++ text "::" ++
      Ipv6.renderGroups (ip.groups.drop (start + count)) ++ rest) = some (ip, rest) := by
  have hsum := congrArg List.length hzeros
  rw [List.length_append, List.length_append, List.length_replicate, ip.length_groups] at hsum
  have hshort : text "::" = [':', ':'] := by decide
  rw [hshort, List.append_assoc, List.append_assoc]
  -- Neither row of groups is as long as an address: both end at what stands behind them.
  refine ipv6?_of_colons (by omega)
    (groups_render (by omega) (broken_cons (by decide) _) (.inr (ends_of_colons _)))
    (groups_render (by omega) hbroken (.inr hends)) ?_
  have hmissing : 8 - (ip.groups.take start).length -
      (ip.groups.drop (start + count)).length = count := by omega
  rw [hmissing]
  exact hzeros.symm

/-- **An IPv6 address** that was shown is read back. -/
theorem ipv6?_render (ip : Ipv6) (hbroken : Broken rest) (hcolon : rest.head? ≠ some ':') :
    ipv6? (ip.render ++ rest) = some (ip, rest) := by
  unfold Ipv6.render
  cases hembedded : ip.embedded? with
  | some v => exact ipv6?_embedded hembedded (hbroken.bounded (.inl rfl))
  | none =>
    dsimp only
    split
    · rename_i hrun
      exact ipv6?_shortened (Nat.lt_of_succ_lt hrun) (Ipv6.zeros_longestZeros ip.groups) hbroken
        (ends_of_ne_colon hcolon)
    · have hlength := ip.length_groups
      exact ipv6?_of_groups (groups_render (Nat.le_of_eq hlength) hbroken (.inl hlength))

/-! ### Socket addresses -/

/-- **An IPv4 socket address** that was written is read back. -/
theorem socketV4?_render (ip : Ipv4) (p : UInt16) :
    socketV4? (SocketAddress.v4 ip p).render = some (.v4 ip p, []) := by
  have hshape : (SocketAddress.v4 ip p).render =
      ip.render ++ ':' :: (Decimal.write p.toNat ++ []) := by simp [SocketAddress.render]
  rw [hshape, socketV4?, ipv4?_render ip (bounded_cons (by decide) _)]
  show (port? (':' :: _) >>= _) = _
  rw [port?_write p (bounded_nil 10)]
  rfl

/-- A scope stands between an address and a bracket, unless it is zero. -/
theorem scope_render (z : UInt32) (rest : Text) :
    scope ((if z = 0 then [] else ['%'] ++ Decimal.write z.toNat) ++ ']' :: rest) =
      (z, ']' :: rest) := by
  by_cases hzero : z = 0
  · rw [if_pos hzero, hzero]
    rfl
  · rw [if_neg hzero, List.append_assoc]
    exact scope_write z (bounded_cons (by decide) rest)

/-- The scope of an address and the bracket behind it break a row of groups. -/
theorem broken_zone (z : UInt32) (rest : Text) :
    Broken ((if z = 0 then [] else ['%'] ++ Decimal.write z.toNat) ++ ']' :: rest) ∧
      ((if z = 0 then [] else ['%'] ++ Decimal.write z.toNat) ++ ']' :: rest).head? ≠ some ':' := by
  by_cases hzero : z = 0
  · rw [if_pos hzero]
    exact ⟨broken_cons (by decide) rest, by simp⟩
  · rw [if_neg hzero]
    exact ⟨broken_cons (by decide) _, by simp⟩

/-- **An IPv6 socket address** that was written is read back, with its scope. -/
theorem socketV6?_render (ip : Ipv6) (p : UInt16) (z : UInt32) :
    socketV6? (SocketAddress.v6 ip p z).render = some (.v6 ip p z, []) := by
  have hshape : (SocketAddress.v6 ip p z).render =
      '[' :: (ip.render ++ ((if z = 0 then [] else ['%'] ++ Decimal.write z.toNat) ++
        ']' :: ':' :: (Decimal.write p.toNat ++ []))) := by simp [SocketAddress.render]
  obtain ⟨hbroken, hcolon⟩ := broken_zone z (':' :: (Decimal.write p.toNat ++ []))
  rw [hshape, socketV6?]
  show (ipv6? _ >>= _) = _
  rw [ipv6?_render ip hbroken hcolon]
  dsimp only [Option.bind_eq_bind, Option.bind_some]
  rw [scope_render]
  show (port? (':' :: _) >>= _) = _
  rw [port?_write p (bounded_nil 10)]
  rfl

end Address

/-- **A socket address** that was shown is read back. -/
theorem SocketAddress.parse?_render (a : SocketAddress) : parse? a.render = some a := by
  cases a with
  | v4 ip p =>
    rw [parse?, Address.socketV4?_render]
    rfl
  | v6 ip p z =>
    -- No IPv4 address begins with a bracket.
    have hnone : Address.socketV4? (SocketAddress.v6 ip p z).render = none := by
      have hshape : (SocketAddress.v6 ip p z).render =
          '[' :: ((SocketAddress.v6 ip p z).render).tail := rfl
      rw [hshape, Address.socketV4?, Address.ipv4?_of_bounded (Address.bounded_cons (by decide) _)]
      rfl
    rw [parse?, hnone]
    dsimp only
    rw [Address.whole?, Address.socketV6?_render]

end ForwardProxy
