import ForwardProxy.Failure
import ForwardProxy.Proofs.Target.Splitter

namespace ForwardProxy.Target

/-!
# The grammar of authorities

An authority names a target in one of five ways.  The reader takes just these, and tells every
other authority back as it was given.

* `PortText` — the text of a port.
* `Names` — an authority without blanks around it, and the target that it names.
* `Denotes` — an authority as it is given, and the target that it names.
* `ofAuthority_exact` — the reader takes just the grammar.
-/

open Text (isBlank splitLast? trim)

variable {s host digits rest tail : Text} {port : UInt16} {t : Target}

/-! ### Ports -/

/-- The text of a port: a row of digits, leading zeros allowed, with a value from 1 to 65535. -/
structure PortText (s : Text) (port : UInt16) : Prop where
  ne_nil : s ≠ []
  digits : ∀ c ∈ s, c.isDigit = true
  value_eq : Nat.ofDigitChars 10 s 0 = port.toNat
  port_pos : 0 < port.toNat

/-- The value of digits is that of the library's decimal digits. -/
theorem digitsValue_eq (s : Text) : Decimal.digitsValue s = Nat.ofDigitChars 10 s 0 := by
  rw [Decimal.digitsValue, Nat.ofDigitChars_eq_foldl]
  congr 1
  funext acc c
  rw [Nat.mul_comm, Decimal.digitValue]

/-- A text is read as a port exactly if it writes one. -/
theorem parsePort?_eq_some_iff : parsePort? s = some port ↔ PortText s port := by
  unfold parsePort? Decimal.read?
  by_cases hdigits : s ≠ [] ∧ ∀ c ∈ s, c.isDigit = true
  · obtain ⟨hne, hall⟩ := hdigits
    have hread : (s.isEmpty || !s.all Char.isDigit) = false := by
      simpa [hne] using hall
    rw [hread, if_neg Bool.false_ne_true, digitsValue_eq]
    dsimp only
    constructor
    · intro h
      split at h
      · rename_i hrange
        simp only [Bool.and_eq_true, decide_eq_true_eq] at hrange
        cases h
        have hvalue : (UInt16.ofNat (Nat.ofDigitChars 10 s 0)).toNat = Nat.ofDigitChars 10 s 0 :=
          UInt16.toNat_ofNat_of_lt' hrange.2
        exact ⟨hne, hall, hvalue.symm, by omega⟩
      · cases h
    · intro h
      have hlt := port.toNat_lt
      rw [h.value_eq, if_pos (by simpa using ⟨h.port_pos, hlt⟩), UInt16.ofNat_toNat]
  · have hread : (s.isEmpty || !s.all Char.isDigit) = true := by
      refine (Bool.not_eq_false _).mp fun h => hdigits ?_
      simpa using h
    rw [hread, if_pos rfl]
    exact ⟨nofun, fun h => absurd ⟨h.ne_nil, h.digits⟩ hdigits⟩

namespace PortText

/-- What is no digit does not stand in the text of a port. -/
theorem not_mem (h : PortText digits port) {c : Char} (hc : c.isDigit = false) : c ∉ digits := by
  intro hmem
  rw [h.digits c hmem] at hc
  cases hc

end PortText

/-! ### The grammar -/

/-- An authority without blanks around it, and the target that it names. -/
inductive Names : Text → Target → Prop where
  /-- A host alone. -/
  | host {s : Text} (plain : s.head? ≠ some '[') (colons : ':' ∉ s) : Names s ⟨s, defaultPort⟩
  /-- An address with colons of its own. -/
  | address {s : Text} (plain : s.head? ≠ some '[') (colons : 2 ≤ s.count ':') :
      Names s ⟨s, defaultPort⟩
  | hostPort {host digits : Text} {port : UInt16} (colons : ':' ∉ host) (opening : '[' ∉ host)
      (closing : ']' ∉ host) (body : ∃ c ∈ host, isBlank c = false)
      (port_text : PortText digits port) : Names (host ++ ':' :: digits) ⟨host, port⟩
  | bracketedPort {host digits : Text} {port : UInt16} (opening : '[' ∉ host)
      (closing : ']' ∉ host) (body : ∃ c ∈ host, isBlank c = false)
      (port_text : PortText digits port) :
      Names ('[' :: host ++ ']' :: ':' :: digits) ⟨host, port⟩
  /-- Brackets around the whole; the first closing one has no colon behind it. -/
  | bracketed {host : Text} (host_ne : host ≠ [])
      (first : ∀ a b, '[' :: host ++ [']'] = a ++ ']' :: ':' :: b → ']' ∈ a) :
      Names ('[' :: host ++ [']']) ⟨host, defaultPort⟩

/-! ### The reader -/

/-- A text without spaces and slashes. -/
def Clean (s : Text) : Prop := ∀ c ∈ s, c ≠ ' ' ∧ c ≠ '/' ∧ c ≠ '\\'

/-- What the reader makes of what the splitter found. -/
def answer (s : Text) : Except SplitFlaw (Text × Text) → Except TargetFlaw Target
  | .ok (host, digits) =>
    if trim host = [] then .error .emptyHost
    else
      match parsePort? digits with
      | some port => .ok ⟨host, port⟩
      | none => .error .invalidPort
  | .error .missingPort =>
    match s with
    | '[' :: rest =>
      match unbracket? rest with
      | none => .error .missingPort
      | some host => if host = [] then .error .emptyHost else .ok ⟨host, defaultPort⟩
    | _ => .ok ⟨s, defaultPort⟩
  | .error .tooManyColons =>
    if s.head? = some '[' then .error .tooManyColons else .ok ⟨s, defaultPort⟩
  | .error (.malformed flaw) => .error flaw

/-- How a trimmed text is resolved: by what may not be in it first, and then by where it splits. -/
theorem resolveTrimmed_eq (s : Text) :
    resolveTrimmed s =
      if s = [] then .error .emptyHost
      else if (s.any fun c => c == ' ' || c == '/' || c == '\\') = true then .error .invalidHost
      else answer s (splitHostPort s) := by
  simp only [resolveTrimmed, List.isEmpty_iff]
  rfl

/-- A text is clean exactly if none of the refused characters is found in it. -/
theorem clean_iff : Clean s ↔ ¬(s.any fun c => c == ' ' || c == '/' || c == '\\') = true := by
  simp [Clean, not_or, and_assoc]

/-- The reader refuses nothing but the empty text, spaces and slashes before it splits. -/
theorem resolveTrimmed_eq_ok_iff_answer :
    resolveTrimmed s = .ok t ↔ s ≠ [] ∧ Clean s ∧ answer s (splitHostPort s) = .ok t := by
  rw [resolveTrimmed_eq, clean_iff]
  by_cases hne : s = []
  · rw [if_pos hne]
    exact ⟨nofun, fun h => absurd hne h.1⟩
  · rw [if_neg hne]
    split
    · rename_i hany
      exact ⟨nofun, fun h => absurd hany h.2.1⟩
    · rename_i hany
      exact ⟨fun h => ⟨hne, hany, h⟩, fun h => h.2.2⟩

/-! ### Each way to name a target -/

/-- A bracket that closes the whole is no sign of a port, unless a colon follows the first one. -/
theorem splitHostPort_of_first
    (hfirst : ∀ a b, '[' :: host ++ [']'] = a ++ ']' :: ':' :: b → ']' ∈ a) :
    splitHostPort ('[' :: host ++ [']']) = .error .missingPort := by
  by_cases hcolon : ':' ∈ host ++ [']']
  · -- The first closing bracket ends the host; by the hypothesis no colon stands behind it, so the
    -- port is missing.
    rw [List.cons_append, splitHostPort_bracketed hcolon]
    have hmem : ']' ∈ host ++ [']'] := List.mem_append_right _ List.mem_cons_self
    obtain ⟨a, b, hcut, ha⟩ := List.eq_append_cons_of_mem hmem
    rw [hcut, splitBracketed_append ha]
    cases b with
    | nil => rfl
    | cons c b =>
      refine if_pos fun hc => ?_
      have hopening := hfirst ('[' :: a) b (by rw [List.cons_append, hcut, hc, List.cons_append])
      rcases List.mem_cons.1 hopening with h | h
      · exact absurd h (by decide)
      · exact ha h
  · refine splitHostPort_of_not_mem fun h => hcolon ?_
    rcases List.mem_cons.1 h with h | h
    · exact absurd h (by decide)
    · exact h

/-- What is inside a closing bracket is all but that bracket. -/
theorem unbracket?_eq_some_iff {h : Text} : unbracket? rest = some h ↔ rest = h ++ [']'] := by
  unfold unbracket?
  constructor
  · intro hrest
    split at hrest
    · rename_i hlast
      have hne : rest ≠ [] := by
        rintro rfl
        cases hlast
      rw [← Option.some.inj hrest]
      rw [List.getLast?_eq_some_getLast hne] at hlast
      rw [← Option.some.inj hlast, List.dropLast_concat_getLast]
    · cases hrest
  · rintro rfl
    rw [if_pos List.getLast?_concat, List.dropLast_concat]

/-- Something is left of a trimmed text exactly if not all of it is blank. -/
theorem trim_ne_nil_iff : trim host ≠ [] ↔ ∃ c ∈ host, isBlank c = false := by
  rw [Ne, Text.trim_eq_nil_iff]
  simp

/-- **Completeness:** what the grammar takes, the reader takes. -/
theorem answer_of_names (hnames : Names s t) : answer s (splitHostPort s) = .ok t := by
  cases hnames with
  | host plain colons =>
    rw [splitHostPort_of_not_mem colons, answer]
    rintro rest rfl
    exact plain rfl
  | address plain colons =>
    have hcolon : ':' ∈ s := List.count_pos_iff.1 (by omega)
    obtain ⟨p, hsplit⟩ := Option.ne_none_iff_exists'.1 fun h =>
      Text.splitLast?_eq_none_iff.1 h hcolon
    obtain ⟨hcut, hbehind⟩ := Text.splitLast?_eq_some_iff.1 hsplit
    -- The last colon is one of several, and so another one stands in front of it.
    have hfront : ':' ∈ p.1 := by
      rw [hcut, List.count_append, List.count_cons_self, List.count_eq_zero.2 hbehind] at colons
      exact List.count_pos_iff.1 (by omega)
    rw [hcut] at plain
    rw [hcut, splitHostPort_plain plain hbehind, if_pos hfront, answer, if_neg plain]
  | @hostPort host digits port colons opening closing body port_text =>
    have hplain : (host ++ ':' :: digits).head? ≠ some '[' := by
      intro h
      cases host with
      | nil => simp at h
      | cons c host => exact opening (by rw [← Option.some.inj h]; exact List.mem_cons_self)
    have hopening : '[' ∉ host ++ ':' :: digits := by
      simp [opening, port_text.not_mem (c := '[') (by decide)]
    have hclosing : ']' ∉ host ++ ':' :: digits := by
      simp [closing, port_text.not_mem (c := ']') (by decide)]
    rw [splitHostPort_plain hplain (port_text.not_mem (by decide)), if_neg colons,
      if_neg hopening, if_neg hclosing, answer, if_neg (trim_ne_nil_iff.2 body),
      parsePort?_eq_some_iff.2 port_text]
  | @bracketedPort host digits port opening closing body port_text =>
    have hcolon : ':' ∈ host ++ ']' :: ':' :: digits := by simp
    have hopening : '[' ∉ host ++ ']' :: ':' :: digits := by
      simp [opening, port_text.not_mem (c := '[') (by decide)]
    rw [List.cons_append, splitHostPort_bracketed hcolon, splitBracketed_append closing]
    dsimp only
    rw [if_neg fun h => h rfl, if_neg (port_text.not_mem (by decide)), if_neg hopening,
      if_neg (port_text.not_mem (by decide)), answer, if_neg (trim_ne_nil_iff.2 body),
      parsePort?_eq_some_iff.2 port_text]
  | bracketed host_ne first =>
    rw [splitHostPort_of_first first, List.cons_append, answer, unbracket?_eq_some_iff.2 rfl]
    exact if_neg host_ne

/-- A text in brackets of which no port was split off. -/
theorem names_of_missingPort
    (hfirst : ∀ a b, '[' :: rest = a ++ ']' :: ':' :: b → ']' ∈ a)
    (h : answer ('[' :: rest) (.error .missingPort) = .ok t) : Names ('[' :: rest) t := by
  rw [answer] at h
  -- Without a port the brackets must enclose the whole text, and something must stand in them.
  cases hhost : unbracket? rest with
  | none =>
    rw [hhost] at h
    cases h
  | some host =>
    rw [hhost] at h
    dsimp only at h
    obtain rfl := unbracket?_eq_some_iff.1 hhost
    by_cases hne : host = []
    · rw [if_pos hne] at h
      cases h
    · rw [if_neg hne] at h
      cases h
      exact .bracketed hne hfirst

/-- Host and port that were split off each other. -/
theorem names_of_split (h : answer s (.ok (host, digits)) = .ok t)
    (hnames : ∀ port, (∃ c ∈ host, isBlank c = false) → PortText digits port →
      Names s ⟨host, port⟩) : Names s t := by
  rw [answer] at h
  by_cases hbody : trim host = []
  · rw [if_pos hbody] at h
    cases h
  · rw [if_neg hbody] at h
    cases hport : parsePort? digits with
    | none =>
      rw [hport] at h
      cases h
    | some port =>
      rw [hport] at h
      cases h
      exact hnames port (trim_ne_nil_iff.1 hbody) (parsePort?_eq_some_iff.1 hport)

/-- A text without an opening bracket in front names what it is resolved to. -/
theorem names_of_plain (hplain : s.head? ≠ some '[')
    (h : answer s (splitHostPort s) = .ok t) : Names s t := by
  by_cases hcolon : ':' ∈ s
  · obtain ⟨⟨host, digits⟩, hsplit⟩ := Option.ne_none_iff_exists'.1 fun hnone =>
      Text.splitLast?_eq_none_iff.1 hnone hcolon
    obtain ⟨rfl, hdigits⟩ := Text.splitLast?_eq_some_iff.1 hsplit
    rw [splitHostPort_plain hplain hdigits] at h
    split at h
    · rename_i hfront
      rw [answer, if_neg hplain] at h
      cases h
      refine .address hplain ?_
      have hpos : 0 < host.count ':' := List.count_pos_iff.2 hfront
      rw [List.count_append, List.count_cons_self]
      omega
    · rename_i hfront
      split at h
      · cases h
      · rename_i hopening
        split at h
        · cases h
        · rename_i hclosing
          rw [List.mem_append, not_or] at hopening hclosing
          exact names_of_split h fun port hbody hport =>
            .hostPort hfront hopening.1 hclosing.1 hbody hport
  · rw [splitHostPort_of_not_mem hcolon, answer] at h
    · cases h
      exact .host hplain hcolon
    · rintro rest rfl
      exact hplain rfl

/-- A text with an opening bracket in front names what it is resolved to. -/
theorem names_of_bracket (h : answer ('[' :: rest) (splitHostPort ('[' :: rest)) = .ok t) :
    Names ('[' :: rest) t := by
  by_cases hcolon : ':' ∈ rest
  · rw [splitHostPort_bracketed hcolon] at h
    by_cases hclosing : ']' ∈ rest
    · obtain ⟨host, tail, rfl, hhost⟩ := List.eq_append_cons_of_mem hclosing
      rw [splitBracketed_append hhost] at h
      -- Two closing brackets with none in front of them are one.
      have hfirst (hnone : ∀ b, tail ≠ ':' :: b) (a b : Text)
          (hcut : '[' :: (host ++ ']' :: tail) = a ++ ']' :: ':' :: b) : ']' ∈ a := by
        refine Classical.not_not.1 fun ha => ?_
        have hhost' : ']' ∉ '[' :: host := by simp [hhost]
        exact hnone b (Text.append_cons_inj hhost' ha hcut).2
      cases tail with
      | nil => exact names_of_missingPort (hfirst fun b => by simp) h
      | cons c digits =>
        dsimp only at h
        split at h
        · rename_i hc
          exact names_of_missingPort (hfirst fun b hb => hc (List.head_eq_of_cons_eq hb)) h
        · rename_i hc
          obtain rfl := Classical.not_not.1 hc
          split at h
          · cases h
          · split at h
            · cases h
            · rename_i hopening
              split at h
              · cases h
              · rw [List.mem_append, not_or] at hopening
                exact names_of_split h fun port hbody hport =>
                  .bracketedPort hopening.1 hhost hbody hport
    · rw [splitBracketed_of_not_mem hclosing] at h
      cases h
  · have hcolon' : ':' ∉ '[' :: rest := by simp [hcolon]
    rw [splitHostPort_of_not_mem hcolon'] at h
    refine names_of_missingPort (fun a b hcut => absurd ?_ hcolon') h
    rw [hcut]
    simp

/-- A trimmed text is resolved to a target exactly if it is clean, not empty, and names it. -/
theorem resolveTrimmed_eq_ok_iff : resolveTrimmed s = .ok t ↔ s ≠ [] ∧ Clean s ∧ Names s t := by
  rw [resolveTrimmed_eq_ok_iff_answer]
  refine and_congr_right fun hne => and_congr_right fun _ => ⟨fun h => ?_, answer_of_names⟩
  by_cases hplain : s.head? = some '['
  · cases s with
    | nil => cases hplain
    | cons c rest =>
      obtain rfl := Option.some.inj hplain
      exact names_of_bracket h
  · exact names_of_plain hplain h

/-- An authority as it is given, and the target that it names once the blanks around it are cut
    off. -/
structure Denotes (s : Text) (t : Target) : Prop where
  ne_nil : trim s ≠ []
  clean : Clean (trim s)
  names : Names (trim s) t

/-- An authority is resolved to a target exactly if it denotes it. -/
theorem ofAuthority_eq_ok_iff : ofAuthority s = .ok t ↔ Denotes s t := by
  have hresolve : ofAuthority s = .ok t ↔ resolveTrimmed (trim s) = .ok t := by
    rw [ofAuthority, resolve]
    cases resolveTrimmed (trim s) <;> simp
  rw [hresolve, resolveTrimmed_eq_ok_iff]
  exact ⟨fun h => ⟨h.1, h.2.1, h.2.2⟩, fun h => ⟨h.ne_nil, h.clean, h.names⟩⟩

/-- An authority is resolved to a target, or refused with the authority as it was given. -/
theorem ofAuthority_ok_or_error (s : Text) :
    (∃ t, ofAuthority s = .ok t) ∨ ∃ flaw, ofAuthority s = .error (.invalidTarget s flaw) := by
  rw [ofAuthority]
  cases resolve s with
  | ok t => exact .inl ⟨t, rfl⟩
  | error flaw => exact .inr ⟨flaw, rfl⟩

/-- **The reader takes just the grammar.**  An authority names a target just if it has one of the
    five shapes; every other one is told back unchanged, with its flaw.  On the way no place is
    looked for that the text does not have: a splitter that cuts at octet offsets always answers,
    and answers the same. -/
theorem ofAuthority_exact (s : Text) :
    (∀ t, ofAuthority s = .ok t ↔ Denotes s t) ∧
      ((∃ t, Denotes s t) ∨ ∃ flaw, ofAuthority s = .error (.invalidTarget s flaw)) ∧
      splitAtOffsets? (trim s) = some (splitHostPort (trim s)) := by
  refine ⟨fun t => ofAuthority_eq_ok_iff, ?_, splitAtOffsets?_eq _⟩
  rcases ofAuthority_ok_or_error s with ⟨t, ht⟩ | herror
  · exact .inl ⟨t, ofAuthority_eq_ok_iff.1 ht⟩
  · exact .inr herror

end ForwardProxy.Target
