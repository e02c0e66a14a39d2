import ForwardProxy.Address.Parser
import ForwardProxy.Proofs.Text.Cutting

namespace ForwardProxy

/-!
# Reading numbers that were written

A number that was written in decimal or in hexadecimal is read back, whatever stands behind it that
is no digit.

* `Address.Bounded` — a text that does not go on with a digit.
* `Address.number?_write` — a number that was written is read back.
* `Address.octet?_write`, `Address.group?_write`, `Address.port?_write`, `Address.scope_write` —
  the numbers of an address.
* `Decimal.readBelow_write` — a number on its own.
-/

namespace Address

variable {base n d bound : Nat} {rest : Text}

/-! ### Digits -/

/-- A digit that was written is read as what it is. -/
theorem digit?_digitChar (hbase : base = 10 ∨ base = 16) (hd : d < base) :
    digit? base d.digitChar = some d := by
  rcases hbase with rfl | rfl
  · have hall : ∀ d : Fin 10, digit? 10 d.val.digitChar = some d.val := by decide
    exact hall ⟨d, hd⟩
  · have hall : ∀ d : Fin 16, digit? 16 d.val.digitChar = some d.val := by decide
    exact hall ⟨d, hd⟩

/-- Every character of a number that was written is a digit. -/
theorem isSome_digit?_of_mem (hbase : base = 10 ∨ base = 16) {c : Char}
    (hc : c ∈ Nat.toDigits base n) : (digit? base c).isSome = true := by
  -- By induction on the number: its last digit is written behind those of its quotient.
  induction n using Nat.strongRecOn with
  | ind n ih =>
    rw [Nat.toDigits_eq_if (by omega)] at hc
    split at hc
    · rename_i hlt
      rw [List.mem_singleton.1 hc, digit?_digitChar hbase hlt]
      rfl
    · rename_i hge
      rcases List.mem_append.1 hc with hc | hc
      · exact ih (n / base) (Nat.div_lt_self (by omega) (by omega)) hc
      · rw [List.mem_singleton.1 hc, digit?_digitChar hbase (Nat.mod_lt n (by omega))]
        rfl

/-- One more digit behind a number. -/
theorem numberOf_concat (ds : Text) (c : Char) :
    numberOf base (ds ++ [c]) = numberOf base ds * base + (digit? base c).getD 0 := by
  rw [numberOf, List.foldl_append]
  rfl

/-- A number that was written is read as what it is. -/
theorem numberOf_toDigits (hbase : base = 10 ∨ base = 16) (n : Nat) :
    numberOf base (Nat.toDigits base n) = n := by
  induction n using Nat.strongRecOn with
  | ind n ih =>
    rw [Nat.toDigits_eq_if (by omega)]
    split
    · rename_i hlt
      show 0 * base + (digit? base n.digitChar).getD 0 = n
      rw [digit?_digitChar hbase hlt, Option.getD_some]
      omega
    · rename_i hge
      -- The last digit counts once, and what is in front of it ten or sixteen times.
      rw [numberOf_concat, ih (n / base) (Nat.div_lt_self (by omega) (by omega)),
        digit?_digitChar hbase (Nat.mod_lt n (by omega)), Option.getD_some, Nat.mul_comm]
      exact Nat.div_add_mod n base

/-- Only zero is written with a zero in front. -/
theorem eq_zero_of_head?_toDigits (hbase : base = 10 ∨ base = 16)
    (h : (Nat.toDigits base n).head? = some '0') : n = 0 := by
  induction n using Nat.strongRecOn with
  | ind n ih =>
    rw [Nat.toDigits_eq_if (by omega)] at h
    split at h
    · rename_i hlt
      have hall : ∀ d : Fin 16, d.val.digitChar = '0' → d.val = 0 := by decide
      exact hall ⟨n, by omega⟩ (Option.some.inj h)
    · rename_i hge
      rw [List.head?_append, List.head?_eq_some_head Nat.toDigits_ne_nil, Option.some_or,
        ← List.head?_eq_some_head] at h
      -- The first digit is that of what stands in front of the last one.
      have hzero := ih (n / base) (Nat.div_lt_self (by omega) (by omega)) h
      have hpos : 0 < n / base := Nat.div_pos (by omega) (by omega)
      omega

/-! ### Numbers -/

/-- The text does not go on with a digit. -/
def Bounded (base : Nat) (rest : Text) : Prop :=
  ∀ c, rest.head? = some c → digit? base c = none

/-- No digit comes at the end of a text. -/
theorem bounded_nil (base : Nat) : Bounded base [] := nofun

/-- No digit comes where another character does. -/
theorem bounded_cons {c : Char} (h : digit? base c = none) (rest : Text) :
    Bounded base (c :: rest) := by
  intro c' hc'
  cases hc'
  exact h

/-- The digits of a number that was written are read, and none behind it. -/
theorem takeWhile_write (hbase : base = 10 ∨ base = 16) (n : Nat) (hrest : Bounded base rest) :
    (Nat.toDigits base n ++ rest).takeWhile (fun c => (digit? base c).isSome) =
      Nat.toDigits base n := by
  have hends : ∀ c, rest.head? = some c → (digit? base c).isSome = false := fun c hc => by
    rw [hrest c hc]
    rfl
  exact (Text.row_append (fun c hc => isSome_digit?_of_mem hbase hc) hends).1

/-- **A number** that was written is read back. -/
theorem number?_write (hbase : base = 10 ∨ base = 16) {most : Option Nat} {zeros : Bool}
    (hlength : ∀ k, most = some k → (Nat.toDigits base n).length ≤ k) (hbound : n < bound)
    (hrest : Bounded base rest) :
    number? base most zeros bound (Nat.toDigits base n ++ rest) = some (n, rest) := by
  have hne : (Nat.toDigits base n).isEmpty = false := by
    rw [List.isEmpty_eq_false_iff]
    exact Nat.toDigits_ne_nil
  have hshort : most.any (· < (Nat.toDigits base n).length) = false := by
    cases most with
    | none => rfl
    | some k =>
      simpa using hlength k rfl
  have hlead : (!zeros && (Nat.toDigits base n).head? == some '0' &&
      decide (1 < (Nat.toDigits base n).length)) = false := by
    by_cases hhead : (Nat.toDigits base n).head? = some '0'
    · -- Zero is written with one digit.
      have hzero := eq_zero_of_head?_toDigits hbase hhead
      rw [hzero, Nat.toDigits_of_lt_base (by omega)]
      simp
    · simp [hhead]
  unfold number?
  simp only [takeWhile_write hbase n hrest, numberOf_toDigits hbase, hne, hshort, hlead,
    Bool.false_eq_true, if_false]
  rw [if_pos hbound, List.drop_left]

/-- A text that does not begin with a digit begins with no number. -/
theorem number?_of_bounded (hrest : Bounded base rest) (most : Option Nat) (zeros : Bool)
    (bound : Nat) : number? base most zeros bound rest = none := by
  have hnil : rest.takeWhile (fun c => (digit? base c).isSome) = [] := by
    cases rest with
    | nil => rfl
    | cons c rest => rw [List.takeWhile_cons_of_neg (by simp [hrest c rfl])]
  unfold number?
  rw [hnil]
  rfl

/-! ### The numbers of an address -/

/-- A number of an IPv4 address that was written is read back. -/
theorem octet?_write (b : UInt8) (hrest : Bounded 10 rest) :
    octet? (Decimal.write b.toNat ++ rest) = some (b, rest) := by
  have hlt : b.toNat < 256 := b.toNat_lt
  have hlength : ∀ k, some 3 = some k → (Nat.toDigits 10 b.toNat).length ≤ k := by
    intro k hk
    cases hk
    exact (Nat.length_toDigits_le_iff (by decide) (by decide)).2 (by omega)
  rw [octet?, Decimal.write, number?_write (.inl rfl) hlength hlt hrest, Option.map_some,
    UInt8.ofNat_toNat]

/-- A group of an IPv6 address that was written is read back. -/
theorem group?_write (g : UInt16) (hrest : Bounded 16 rest) :
    group? (Text.hexDigits g.toNat ++ rest) = some (g, rest) := by
  have hlt : g.toNat < 65536 := g.toNat_lt
  have hlength : ∀ k, some 4 = some k → (Nat.toDigits 16 g.toNat).length ≤ k := by
    intro k hk
    cases hk
    exact (Nat.length_toDigits_le_iff (by decide) (by decide)).2 (by omega)
  rw [group?, Text.hexDigits, number?_write (.inr rfl) hlength hlt hrest, Option.map_some,
    UInt16.ofNat_toNat]

/-- A port that was written behind a colon is read back. -/
theorem port?_write (p : UInt16) (hrest : Bounded 10 rest) :
    port? (':' :: (Decimal.write p.toNat ++ rest)) = some (p, rest) := by
  have hlt : p.toNat < 65536 := p.toNat_lt
  rw [port?, char?, if_pos rfl, Option.bind_some, Decimal.write,
    number?_write (.inl rfl) (fun k hk => by cases hk) hlt hrest, Option.map_some,
    UInt16.ofNat_toNat]

/-- A scope that was written behind a percent sign. -/
theorem scope_write (z : UInt32) (hrest : Bounded 10 rest) :
    scope ('%' :: (Decimal.write z.toNat ++ rest)) = (z, rest) := by
  have hlt : z.toNat < 0x100000000 := z.toNat_lt
  rw [scope, char?, if_pos rfl, Option.bind_some, Decimal.write,
    number?_write (.inl rfl) (fun k hk => by cases hk) hlt hrest]
  show (UInt32.ofNat z.toNat, rest) = _
  rw [UInt32.ofNat_toNat]

end Address

/-! ### Numbers on their own -/

namespace Decimal

variable {n bound : Nat}

/-- A decimal digit that was written is one, and is worth what it is. -/
theorem isDigit_digitChar (h : n < 10) :
    n.digitChar.isDigit = true ∧ digitValue n.digitChar = n := by
  have hall : ∀ d : Fin 10,
      d.val.digitChar.isDigit = true ∧ digitValue d.val.digitChar = d.val := by decide
  exact hall ⟨n, h⟩

/-- A number with one more digit is reckoned from the number without it. -/
theorem extend_concat (bound acc : Nat) (ds : Text) (c : Char) :
    extend bound acc (ds ++ [c]) = (extend bound acc ds).bind fun m => extend bound m [c] := by
  induction ds generalizing acc with
  | nil => rfl
  | cons d ds ih =>
    rw [List.cons_append, extend, extend]
    split
    · rfl
    · split
      · exact ih _
      · rfl

/-- A number below the bound is reckoned without passing it. -/
theorem extend_write (h : n < bound) : extend bound 0 (write n) = .ok n := by
  induction n using Nat.strongRecOn with
  | ind n ih =>
    -- The last digit comes behind those of a smaller number.
    have hlast : ∀ m d, d < 10 → m * 10 + d = n → extend bound m [d.digitChar] = .ok n := by
      intro m d hd hn
      obtain ⟨hdigit, hvalue⟩ := isDigit_digitChar hd
      rw [extend, hdigit, hvalue, hn, Bool.not_true, if_neg Bool.false_ne_true, if_pos h, extend]
    rw [write, Nat.toDigits_eq_if (by omega)]
    split
    · rename_i hlt
      exact hlast 0 n hlt (by omega)
    · rename_i hge
      have hfront : extend bound 0 (Nat.toDigits 10 (n / 10)) = .ok (n / 10) :=
        ih (n / 10) (by omega) (by omega)
      rw [extend_concat, hfront]
      exact hlast (n / 10) (n % 10) (by omega) (by omega)

/-- A number is written in digits only. -/
theorem isDigit_of_mem_write {c : Char} (h : c ∈ write n) : c.isDigit = true :=
  Nat.isDigit_of_mem_toDigits (Nat.succ_pos 9) (Nat.le_refl 10) h

/-- A number that was written is read back where one below a bound is read. -/
theorem readBelow_write (h : n < bound) : readBelow bound (write n) = .ok n := by
  have hdigit : ∀ c ∈ write n, c.isDigit = true := fun c => isDigit_of_mem_write
  have hextend := extend_write h
  have hne : write n ≠ [] := Nat.toDigits_ne_nil
  generalize write n = s at hdigit hextend hne
  unfold readBelow
  split
  · exact absurd rfl hne
  · exact absurd (hdigit '+' List.mem_cons_self) (by decide)
  · exact absurd (hdigit '+' List.mem_cons_self) (by decide)
  · exact hextend

end Decimal

end ForwardProxy
