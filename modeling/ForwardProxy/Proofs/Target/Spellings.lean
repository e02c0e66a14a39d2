import Mathlib.Data.List.Basic
import ForwardProxy.Proofs.Target.Rendered

namespace ForwardProxy

/-!
# The spellings of a target

A target can be spelled with or without brackets, with or without its port, with zeros in front of
the port and blanks around the whole.  For a host without brackets and without blanks at its ends,
every spelling is read as that target.

* `Text.trim_eq_self_iff`, `Text.trim_append` — which texts have no blanks at their ends, and what
  becomes of blanks around them.
* `Target.Regular` — a target with such a host.
* `Target.Spelling` — the spellings of a target; what is shown of it is one of them.
* `Target.Spelling.denotes` — each of them, blanks around it, is in the grammar.
* `Target.spellings_agree` — each of them is read as the target.
-/

/-! ### Blanks at the ends -/

namespace Text

variable {l r s : Text}

/-- Trimming the end changes nothing exactly if the last character is not blank. -/
theorem trimEnd_eq_self_iff : trimEnd s = s ↔ ∀ c, s.getLast? = some c → isBlank c = false := by
  rw [trimEnd, List.reverse_eq_iff, Target.trimStart_eq_self_iff, List.head?_reverse]

/-- A text is left as it is if it neither begins nor ends with a blank. -/
theorem trim_eq_self_iff :
    trim s = s ↔ (∀ c, s.head? = some c → isBlank c = false) ∧
      ∀ c, s.getLast? = some c → isBlank c = false := by
  rw [← Target.trimStart_eq_self_iff, ← trimEnd_eq_self_iff]
  constructor
  · intro h
    -- What is cut off behind cannot make up for what is cut off in front.
    have hend : (trimEnd (trimStart s)).length ≤ (trimStart s).length := by
      simpa [trimEnd, trimStart] using
        (List.dropWhile_suffix isBlank (l := (trimStart s).reverse)).length_le
    have hstart : trimStart s <:+ s := List.dropWhile_suffix isBlank
    have hsame : trimStart s = s := hstart.eq_of_length_le (by rwa [← trim, h] at hend)
    rw [trim, hsame] at h
    exact ⟨hsame, h⟩
  · rintro ⟨hstart, hend⟩
    rw [trim, hstart, hend]

/-- Blanks around a text that has none at its ends are cut off. -/
theorem trim_append (hl : ∀ c ∈ l, isBlank c = true) (hr : ∀ c ∈ r, isBlank c = true)
    (hne : s ≠ []) (hs : trim s = s) : trim (l ++ s ++ r) = s := by
  obtain ⟨hhead, hlast⟩ := trim_eq_self_iff.1 hs
  have hfront : trimStart (l ++ s ++ r) = s ++ r := by
    rw [trimStart, List.append_assoc, List.dropWhile_append_of_pos hl]
    refine Target.trimStart_eq_self_iff.2 fun c hc => hhead c ?_
    rwa [List.head?_append_of_ne_nil _ hne] at hc
  have hbehind : trimStart (s ++ r).reverse = trimStart s.reverse := by
    rw [trimStart, List.reverse_append,
      List.dropWhile_append_of_pos fun c hc => hr c (List.mem_reverse.1 hc)]
    rfl
  rw [trim, hfront, trimEnd, hbehind]
  exact trimEnd_eq_self_iff.2 hlast

end Text

namespace Target

open Text (isBlank trim)

variable {l r s digits : Text} {port : UInt16} {t t' : Target}

/-! ### Regular targets -/

/-- A target that can be told whatever its spelling: its host is not empty, has no blank at its ends
    and holds no bracket, space or slash, and its port is not 0. -/
structure Regular (t : Target) : Prop where
  host_ne : t.host ≠ []
  trimmed : trim t.host = t.host
  clean : Clean t.host
  opening : '[' ∉ t.host
  closing : ']' ∉ t.host
  port_pos : 0 < t.port.toNat

namespace Regular

/-- A regular target has a host that is not all blank. -/
theorem body (h : Regular t) : ∃ c ∈ t.host, isBlank c = false :=
  trim_ne_nil_iff.1 (by rw [h.trimmed]; exact h.host_ne)

/-- The host of a regular target does not begin with a bracket. -/
theorem head?_host_ne (h : Regular t) : t.host.head? ≠ some '[' := fun hhead =>
  h.opening (List.mem_of_mem_head? hhead)

end Regular

/-! ### Spellings -/

/-- The text of a port, with zeros in front. -/
def padded (zeros : Nat) (port : UInt16) : Text :=
  List.replicate zeros '0' ++ Decimal.write port.toNat

/-- The ways to spell a target. -/
inductive Spelling : Target → Text → Prop where
  | plain {host : Text} {port : UInt16} (zeros : Nat) (colons : ':' ∉ host) :
      Spelling ⟨host, port⟩ (host ++ ':' :: padded zeros port)
  | bracketed {host : Text} {port : UInt16} (zeros : Nat) :
      Spelling ⟨host, port⟩ ('[' :: host ++ ']' :: ':' :: padded zeros port)
  /-- A single colon would be taken for that in front of a port. -/
  | alone {host : Text} (colons : ':' ∉ host ∨ 2 ≤ host.count ':') :
      Spelling ⟨host, defaultPort⟩ host
  | enclosed {host : Text} : Spelling ⟨host, defaultPort⟩ ('[' :: host ++ [']'])

/-- What is shown of a target is one of its spellings. -/
theorem spelling_render (t : Target) : Spelling t t.render := by
  obtain ⟨host, port⟩ := t
  unfold render
  split
  · have h : Spelling ⟨host, port⟩ ('[' :: host ++ ']' :: ':' :: padded 0 port) := .bracketed 0
    simpa [padded] using h
  · rename_i hcolon
    have h : Spelling ⟨host, port⟩ (host ++ ':' :: padded 0 port) :=
      .plain 0 (mt List.contains_iff_mem.2 hcolon)
    simpa [padded] using h

/-- Zeros in front do not change the value of digits. -/
theorem ofDigitChars_replicate (zeros : Nat) (digits : Text) :
    Nat.ofDigitChars 10 (List.replicate zeros '0' ++ digits) 0 = Nat.ofDigitChars 10 digits 0 := by
  induction zeros with
  | zero => rfl
  | succ zeros ih =>
    rw [List.replicate_succ, List.cons_append, Nat.ofDigitChars_cons]
    exact ih

/-- Zeros in front of a port do not change it. -/
theorem portText_padded (zeros : Nat) (hpos : 0 < port.toNat) :
    PortText (padded zeros port) port := by
  have hwrite := portText_write hpos
  refine ⟨by simp [padded, hwrite.ne_nil], fun c hc => ?_, ?_, hpos⟩
  · rcases List.mem_append.1 hc with hzero | hdigit
    · rw [List.eq_of_mem_replicate hzero]
      decide
    · exact hwrite.digits c hdigit
  · rw [padded, ofDigitChars_replicate, hwrite.value_eq]

/-- Each spelling has one of the shapes of the grammar. -/
theorem Spelling.names (h : Spelling t s) (ht : Regular t) : Names s t := by
  cases h with
  | plain zeros colons =>
    exact .hostPort colons ht.opening ht.closing ht.body (portText_padded zeros ht.port_pos)
  | bracketed zeros =>
    exact .bracketedPort ht.opening ht.closing ht.body (portText_padded zeros ht.port_pos)
  | alone colons =>
    rcases colons with hnone | hmany
    · exact .host ht.head?_host_ne hnone
    · exact .address ht.head?_host_ne hmany
  | @enclosed host =>
    refine .bracketed ht.host_ne fun a b hcut => ?_
    -- The only closing bracket is the last character.
    refine Classical.not_not.1 fun ha => ?_
    have hhost : ']' ∉ '[' :: host := by simpa using ht.closing
    cases (Text.append_cons_inj hhost ha hcut).2

/-- A spelling of a regular target is a clean text. -/
theorem Spelling.clean (h : Spelling t s) (ht : Regular t) : Clean s := by
  have hdigits (zeros : Nat) : Clean (':' :: padded zeros t.port) :=
    (portText_padded zeros ht.port_pos).clean.cons (by decide)
  have hopen : Clean ('[' :: t.host) := ht.clean.cons (by decide)
  cases h with
  | plain zeros => exact ht.clean.append (hdigits zeros)
  | bracketed zeros => exact hopen.append ((hdigits zeros).cons (by decide))
  | alone => exact ht.clean
  | enclosed => exact hopen.append (by simp [Clean])

/-- A spelling has no blanks at its ends. -/
theorem Spelling.trimmed (h : Spelling t s) (ht : Regular t) : trim s = s := by
  obtain ⟨hhead, hlast⟩ := Text.trim_eq_self_iff.1 ht.trimmed
  have hdigit (zeros : Nat) (a : Text) (c : Char)
      (hc : (a ++ padded zeros t.port).getLast? = some c) : isBlank c = false := by
    have hport := portText_padded zeros ht.port_pos
    rw [List.getLast?_append_of_ne_nil a hport.ne_nil] at hc
    exact isBlank_of_isDigit (hport.digits c (List.mem_of_getLast? hc))
  -- A spelling begins with its host or a bracket, and ends with a digit, its host or a bracket.
  rw [Text.trim_eq_self_iff]
  cases h with
  | @plain host port zeros =>
    refine ⟨fun c hc => hhead c ?_, fun c hc => hdigit zeros (host ++ [':']) c ?_⟩
    · rwa [List.head?_append_of_ne_nil _ ht.host_ne] at hc
    · rwa [← List.append_cons]
  | @bracketed host port zeros =>
    refine ⟨fun c hc => ?_, fun c hc => hdigit zeros ('[' :: host ++ [']', ':']) c ?_⟩
    · cases hc
      decide
    · simpa using hc
  | alone => exact ⟨hhead, hlast⟩
  | enclosed =>
    refine ⟨fun c hc => ?_, fun c hc => ?_⟩
    · cases hc
      decide
    · rw [List.getLast?_concat] at hc
      cases hc
      decide

/-- **Each spelling,** blanks around it, denotes the target. -/
theorem Spelling.denotes (h : Spelling t s) (ht : Regular t) (hl : ∀ c ∈ l, isBlank c = true)
    (hr : ∀ c ∈ r, isBlank c = true) : Denotes (l ++ s ++ r) t := by
  have hne : s ≠ [] := by
    cases h with
    | alone => exact ht.host_ne
    | _ => simp
  have htrim := Text.trim_append hl hr hne (h.trimmed ht)
  exact (denotes_iff_names htrim hne (h.clean ht)).2 (h.names ht)

/-- **All spellings of a target agree,** whatever blanks are around them; what is shown of the
    target is one of them, and is shown of no other. -/
theorem spellings_agree (ht : Regular t) :
    Spelling t t.render ∧
      (∀ s, Spelling t s → ∀ l r, (∀ c ∈ l, isBlank c = true) → (∀ c ∈ r, isBlank c = true) →
        ofAuthority (l ++ s ++ r) = .ok t) ∧
      ∀ t', Regular t' → t'.render = t.render → t' = t := by
  have hread {t : Target} (ht : Regular t) : ofAuthority t.render = .ok t := by
    have hdenotes := (spelling_render t).denotes (l := []) (r := []) ht nofun nofun
    rw [List.nil_append, List.append_nil] at hdenotes
    exact ofAuthority_eq_ok_iff.2 hdenotes
  refine ⟨spelling_render t, fun s hs l r hl hr => ?_, fun t' ht' hsame => ?_⟩
  · exact ofAuthority_eq_ok_iff.2 (hs.denotes ht hl hr)
  · have hback := hread ht'
    rw [hsame, hread ht] at hback
    exact (Except.ok.inj hback).symm

/-- An address with zeros in front of its port and blanks around the whole. -/
theorem spellings_agree_for_an_address :
    Regular ⟨text "2001:db8::1", 443⟩ ∧
      Spelling ⟨text "2001:db8::1", 443⟩ (text "[2001:db8::1]:00443") ∧
      ofAuthority (text "\u3000" ++ text "[2001:db8::1]:00443" ++ text "\t") =
        .ok ⟨text "2001:db8::1", 443⟩ := by
  have hregular : Regular ⟨text "2001:db8::1", 443⟩ :=
    ⟨by decide, by decide, clean_iff.2 (by decide), by decide, by decide, by decide⟩
  have hspelling : Spelling ⟨text "2001:db8::1", 443⟩ (text "[2001:db8::1]:00443") := .bracketed 2
  exact ⟨hregular, hspelling, (spellings_agree hregular).2.1 _ hspelling (text "\u3000") (text "\t")
    (List.all_eq_true.1 (by decide)) (List.all_eq_true.1 (by decide))⟩

end Target

end ForwardProxy
