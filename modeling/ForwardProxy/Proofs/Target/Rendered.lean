import ForwardProxy.Proofs.Target.Grammar

namespace ForwardProxy.Target

/-!
# Reading back what was rendered

A target is shown as `host:port`, and that text is an authority itself.  It does not always name
the target it shows: brackets inside a host, and a blank in front of one, come in through the
shapes without a port and through the brackets, but the shape `host:port` has no room for them.

* `portText_write` — a port is shown as the text of a port.
* `names_bracketed_iff`, `names_plain_iff` — when a rendered target names itself.
* `ofAuthority_render_iff` — which targets are read back as they are.
* `not_ofAuthority_render` — one that is not.
-/

open Text (isBlank trim trimStart)

variable {s host : Text} {port : UInt16} {t : Target}

/-! ### The parts of a target -/

/-- A port is shown as the text of a port. -/
theorem portText_write (hpos : 0 < port.toNat) : PortText (Decimal.write port.toNat) port where
  ne_nil := Nat.toDigits_ne_nil
  digits := fun _ hc => Nat.isDigit_of_mem_toDigits (Nat.succ_pos 9) (Nat.le_refl 10) hc
  value_eq := Nat.ofDigitChars_ten_toDigits
  port_pos := hpos

/-- The default port is not zero. -/
theorem defaultPort_pos : 0 < defaultPort.toNat := by decide

namespace Names

/-- A host is made of characters of the authority. -/
theorem mem_of_mem_host (hnames : Names s t) {c : Char} (hc : c ∈ t.host) : c ∈ s := by
  cases hnames with
  | host => exact hc
  | address => exact hc
  | hostPort => exact List.mem_append_left _ hc
  | bracketedPort => exact List.mem_append_left _ (List.mem_cons_of_mem _ hc)
  | bracketed => exact List.mem_append_left _ (List.mem_cons_of_mem _ hc)

/-- A text that is not empty names a host that is not empty. -/
theorem host_ne_nil (hnames : Names s t) (hs : s ≠ []) : t.host ≠ [] := by
  cases hnames with
  | host => exact hs
  | address => exact hs
  | hostPort _ _ _ body =>
    obtain ⟨c, hc, -⟩ := body
    exact List.ne_nil_of_mem hc
  | bracketedPort _ _ body =>
    obtain ⟨c, hc, -⟩ := body
    exact List.ne_nil_of_mem hc
  | bracketed host_ne => exact host_ne

/-- The port of a named target is not zero. -/
theorem port_pos (hnames : Names s t) : 0 < t.port.toNat := by
  cases hnames with
  | host => exact defaultPort_pos
  | address => exact defaultPort_pos
  | hostPort _ _ _ _ port_text => exact port_text.port_pos
  | bracketedPort _ _ _ port_text => exact port_text.port_pos
  | bracketed => exact defaultPort_pos

end Names

/-! ### Blanks around it -/

/-- A digit is not blank. -/
theorem isBlank_of_isDigit {c : Char} (hc : c.isDigit = true) : isBlank c = false := by
  simp only [Char.isDigit, Bool.and_eq_true, decide_eq_true_eq, ge_iff_le,
    UInt32.le_iff_toNat_le] at hc
  obtain ⟨hfirst, hlast⟩ : 48 ≤ c.toNat ∧ c.toNat ≤ 57 := hc
  have hblanks : ∀ n ∈ Text.blanks, n < 48 ∨ 57 < n := by decide
  refine Bool.eq_false_iff.2 fun hblank => ?_
  have hout := hblanks c.toNat (List.contains_iff_mem.1 hblank)
  omega

/-- Of a text with a port at its end, only blanks in front are cut off. -/
theorem trim_append_portText {a b digits : Text} {c : Char} (hc : isBlank c = false)
    (hdigits : PortText digits port) :
    trim (a ++ c :: b ++ digits) = trimStart a ++ c :: b ++ digits := by
  obtain ⟨front, d, rfl⟩ := (List.eq_nil_or_concat digits).resolve_left hdigits.ne_nil
  have hd := isBlank_of_isDigit (hdigits.digits d (by simp))
  have h := Text.trim_append_cons_concat a (b ++ front) hc hd
  simpa [List.concat_eq_append] using h

/-- Trimming the start changes nothing exactly if the first character is not blank. -/
theorem trimStart_eq_self_iff :
    trimStart host = host ↔ ∀ c, host.head? = some c → isBlank c = false := by
  rw [trimStart]
  cases host with
  | nil => simp
  | cons c host =>
    simp only [List.head?_cons, Option.some.injEq, forall_eq']
    constructor
    · intro h
      refine Bool.eq_false_iff.2 fun hc => ?_
      rw [List.dropWhile_cons_of_pos hc] at h
      have hle := (List.dropWhile_suffix isBlank (l := host)).length_le
      rw [h, List.length_cons] at hle
      omega
    · intro hc
      exact List.dropWhile_cons_of_neg (by simp [hc])

/-! ### What a rendered target names -/

/-- A rendered address in brackets names itself just if it holds no other bracket. -/
theorem names_bracketed_iff {digits : Text} (hcolon : ':' ∈ host) (hport : PortText digits port) :
    Names ('[' :: host ++ ']' :: ':' :: digits) ⟨host, port⟩ ↔ '[' ∉ host ∧ ']' ∉ host := by
  constructor
  · -- The text and the target are generalised so that each way of naming can be compared with both.
    generalize htext : '[' :: host ++ ']' :: ':' :: digits = s
    generalize htarget : Target.mk host port = t
    intro hnames
    cases hnames with
    | host plain => exact absurd (by rw [← htext]; rfl) plain
    | address plain => exact absurd (by rw [← htext]; rfl) plain
    | hostPort _ opening closing =>
      cases htarget
      exact ⟨opening, closing⟩
    | bracketedPort opening closing =>
      cases htarget
      exact ⟨opening, closing⟩
    | bracketed =>
      cases htarget
      simp at htext
  · rintro ⟨hopening, hclosing⟩
    exact .bracketedPort hopening hclosing ⟨':', hcolon, by decide⟩ hport

/-- A rendered host without colons names itself just if it holds no bracket and no blank was cut
    off in front. -/
theorem names_plain_iff {digits : Text} (hcolon : ':' ∉ host) (hne : host ≠ [])
    (hport : PortText digits port) :
    Names (trimStart host ++ ':' :: digits) ⟨host, port⟩ ↔
      ('[' ∉ host ∧ ']' ∉ host) ∧ ∀ c, host.head? = some c → isBlank c = false := by
  have hstart : ':' ∉ trimStart host := fun h => hcolon ((List.dropWhile_suffix _).subset h)
  rw [← trimStart_eq_self_iff]
  constructor
  · -- Without a colon in the host, the last colon of the text is the one in front of the port.
    generalize htext : trimStart host ++ ':' :: digits = s
    generalize htarget : Target.mk host port = t
    intro hnames
    cases hnames with
    | host _ colons => exact absurd (by rw [← htext]; simp) colons
    | address _ colons =>
      cases htarget
      exact absurd (by rw [← htext]; simp) hcolon
    | hostPort _ opening closing =>
      cases htarget
      exact ⟨⟨opening, closing⟩, (Text.append_cons_inj hstart hcolon htext).1⟩
    | @bracketedPort host digits' _ _ _ _ _ =>
      cases htarget
      have hcut :
          '[' :: host ++ ']' :: ':' :: digits' = '[' :: host ++ [']'] ++ ':' :: digits' := by
        simp
      have hfront : ':' ∉ '[' :: host ++ [']'] := by simp [hcolon]
      have hlong := (Text.append_cons_inj hstart hfront (htext.trans hcut)).1
      have hle := (List.dropWhile_suffix isBlank (l := host)).length_le
      rw [trimStart] at hlong
      rw [hlong, List.length_append, List.length_cons] at hle
      omega
    | bracketed =>
      cases htarget
      have hmem : ':' ∈ '[' :: host ++ [']'] := by rw [← htext]; simp
      simp [hcolon] at hmem
  · rintro ⟨⟨hopening, hclosing⟩, hhead⟩
    rw [hhead]
    refine .hostPort hcolon hopening hclosing ?_ hport
    cases host with
    | nil => exact absurd rfl hne
    | cons c host => exact ⟨c, List.mem_cons_self, trimStart_eq_self_iff.1 hhead c rfl⟩

/-! ### Which targets are read back -/

/-- Two clean texts make a clean one. -/
theorem Clean.append {a b : Text} (ha : Clean a) (hb : Clean b) : Clean (a ++ b) := fun c hc =>
  (List.mem_append.1 hc).elim (ha c) (hb c)

/-- A clean text stays so behind a character that is not refused. -/
theorem Clean.cons {c : Char} (hc : c ≠ ' ' ∧ c ≠ '/' ∧ c ≠ '\\') (hs : Clean s) : Clean (c :: s) :=
  List.forall_mem_cons.2 ⟨hc, hs⟩

/-- A port is a clean text. -/
theorem PortText.clean {digits : Text} (h : PortText digits port) : Clean digits := by
  intro c hc
  refine ⟨?_, ?_, ?_⟩ <;>
  · rintro rfl
    exact h.not_mem (by decide) hc

/-- An authority denotes what its trimmed text names, if that is clean and not empty. -/
theorem denotes_iff_names {a : Text} (htrim : trim s = a) (hne : a ≠ []) (hclean : Clean a) :
    Denotes s t ↔ Names a t := by
  subst htrim
  exact ⟨Denotes.names, fun hnames => ⟨hne, hclean, hnames⟩⟩

/-- **Which targets are read back as they are:** those whose host holds no bracket and, unless it
    is shown in brackets for its colons, does not begin with a blank. -/
theorem ofAuthority_render_iff (h : ofAuthority s = .ok t) :
    ofAuthority t.render = .ok t ↔
      ('[' ∉ t.host ∧ ']' ∉ t.host) ∧
        (':' ∈ t.host ∨ ∀ c, t.host.head? = some c → isBlank c = false) := by
  have hdenotes := ofAuthority_eq_ok_iff.1 h
  have hport := portText_write hdenotes.names.port_pos
  have hhost : Clean t.host := fun c hc => hdenotes.clean c (hdenotes.names.mem_of_mem_host hc)
  have hne := hdenotes.names.host_ne_nil hdenotes.ne_nil
  have hdigits : Clean (':' :: Decimal.write t.port.toNat) := hport.clean.cons (by decide)
  rw [ofAuthority_eq_ok_iff]
  -- A host with a colon is rendered in brackets, so blanks in front of it are kept; any other is
  -- trimmed.
  by_cases hcolon : ':' ∈ t.host
  · have htrim : trim t.render = '[' :: t.host ++ ']' :: ':' :: Decimal.write t.port.toNat := by
      have hcut := trim_append_portText (a := []) (b := t.host ++ [']', ':']) (c := '[')
        (by decide) hport
      rw [render, if_pos (List.contains_iff_mem.2 hcolon)]
      simpa [trimStart] using hcut
    have hclean := (hhost.cons (c := '[') (by decide)).append (hdigits.cons (c := ']') (by decide))
    rw [denotes_iff_names htrim (List.cons_ne_nil _ _) hclean, names_bracketed_iff hcolon hport]
    exact (and_iff_left (.inl hcolon)).symm
  · have htrim : trim t.render = trimStart t.host ++ ':' :: Decimal.write t.port.toNat := by
      have hcut := trim_append_portText (a := t.host) (b := []) (c := ':') (by decide) hport
      rw [render, if_neg (mt List.contains_iff_mem.1 hcolon)]
      simpa using hcut
    have hstart : Clean (trimStart t.host) := fun c hc =>
      hhost c ((List.dropWhile_suffix _).subset hc)
    rw [denotes_iff_names htrim (by simp) (hstart.append hdigits), names_plain_iff hcolon hne hport,
      or_iff_right hcolon]

/-- A port with leading zeros and an address in brackets: what is shown is read back. -/
theorem ofAuthority_render_of_address :
    ofAuthority (text "[2001:db8::1]:0443") = .ok ⟨text "2001:db8::1", 443⟩ ∧
      ofAuthority (render ⟨text "2001:db8::1", 443⟩) = .ok ⟨text "2001:db8::1", 443⟩ := by
  have h : ofAuthority (text "[2001:db8::1]:0443") = .ok ⟨text "2001:db8::1", 443⟩ := by rfl
  exact ⟨h, (ofAuthority_render_iff h).2 (by decide)⟩

/-- **A target that is not read back.**  A host with a bracket inside is taken while it stands
    alone; shown with its port, it is refused for that bracket. -/
theorem not_ofAuthority_render :
    ¬∀ s t, ofAuthority s = .ok t → ofAuthority t.render = .ok t := by
  intro hall
  have hback := hall (text "ex]ample.com") ⟨text "ex]ample.com", 443⟩ rfl
  have hrefused : ofAuthority (render ⟨text "ex]ample.com", 443⟩) =
      .error (.invalidTarget (text "ex]ample.com:443") .strayClosing) := by rfl
  rw [hrefused] at hback
  cases hback

end ForwardProxy.Target
