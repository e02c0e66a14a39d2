import ForwardProxy.Proofs.Stream.Exact
import ForwardProxy.Proofs.Tunnel.Waits
import ForwardProxy.RequestHead.Reader
import ForwardProxy.Socks5.Handshake

namespace ForwardProxy

/-!
# Readers that wait

A reader that has to wait for its client has read all that there was.  If the client does nothing,
to read on changes nothing, and the same goes for what is being written.

* `Lookahead.peek_of_blocked`, `Lookahead.write_of_blocked`, `Lookahead.writeAll_of_blocked` — single
  operations.
* `HeadReader.run_of_waiting` — a request head.
* `Socks5.Handshake.Paused`, `Socks5.Handshake.paused_run` — a handshake.
-/

/-! ### Streams -/

/-- A write that is held up leaves the channel as it is. -/
theorem Channel.write_of_blocked {c c' : Channel} {bs : Bytes} (h : c.write bs = (.blocked, c')) :
    c' = c := by
  unfold write at h
  split at h
  · cases h
  · split at h
    · cases h
    · cases h
    · split at h <;> cases h
      rfl

namespace Lookahead

variable {l l' : Lookahead} {bs left : Bytes} {n : Nat}

/-- There is nothing to fill the buffer of a dry stream with. -/
theorem Dry.fill (h : l.Dry) : l.fill = (.blocked, l) := by
  obtain ⟨channel, ahead⟩ := l
  obtain rfl : ahead = [] := h.ahead_eq
  have hread : channel.read capacity = (.blocked, channel) := by
    rw [Channel.read, h.inbox_eq, h.ended_eq]
    rfl
  simp [Lookahead.fill, hread]

/-- A stream is dry if nothing can be seen of it yet. -/
theorem dry_of_peek (h : l.peek.1 = .blocked) : l.Dry := by
  refine dry_of_fill ?_
  unfold peek at h
  rcases hfill : l.fill with ⟨a, l'⟩
  rw [hfill] at h
  cases a with
  | blocked => rfl
  | _ => cases h

/-- Who looks for the next octet and has to wait has changed nothing. -/
theorem peek_of_blocked (h : l.peek = (.blocked, l')) : l' = l := by
  have hdry := dry_of_peek (congrArg Prod.fst h)
  rw [peek, hdry.fill] at h
  exact (congrArg Prod.snd h).symm

/-- A write that is held up leaves the stream as it is. -/
theorem write_of_blocked (h : l.write bs = (.blocked, l')) : l' = l := by
  unfold write at h
  rcases hwrite : l.channel.write bs with ⟨a, c⟩
  rw [hwrite] at h
  cases h
  obtain rfl := Channel.write_of_blocked hwrite
  rfl

/-- What is left over of a write has no room either when it is tried again. -/
theorem writeAll_of_blocked (h : l.writeAll bs = (.blocked, left, l')) :
    l'.writeAll left = (.blocked, left, l') := by
  -- A write falls short of the whole only when the room is used up, and no room is no room a second
  -- time.
  have hagain (c c' : Channel) (h : c.writeAll bs = (.blocked, left, c')) :
      c'.writeAll left = (.blocked, left, c') := by
    unfold Channel.writeAll at h
    split at h
    · cases h
    · rename_i hne
      rcases hwrite : c.write bs with ⟨a, c₁⟩
      rw [hwrite] at h
      cases a with
      | ready k =>
        dsimp only at h
        split at h
        · rename_i hk
          cases h
          have hmore : (bs.drop k).isEmpty = false := by
            rw [List.isEmpty_eq_false_iff, Ne, List.drop_eq_nil_iff]
            omega
          rw [Channel.writeAll, hmore, Channel.write_drop_of_short hwrite hk]
          rfl
        · cases h
      | blocked =>
        cases h
        obtain rfl := Channel.write_of_blocked hwrite
        rw [Channel.writeAll, if_neg hne, hwrite]
      | failed f => cases h
  unfold writeAll at h
  rcases hwrite : l.channel.writeAll bs with ⟨a, rest, c⟩
  rw [hwrite] at h
  cases h
  rw [writeAll, hagain _ _ hwrite]

/-- A dry stream gives a reader nothing. -/
theorem readExact_of_dry (h : l.Dry) (hpos : 0 < n) : l.readExact n = (.blocked, [], l) := by
  rw [readExact, if_neg (Nat.ne_of_gt hpos), h.read]

/-- A longer read that has to wait has taken all that there was, which was too little. -/
theorem dry_of_readExact (n : Nat) (l : Lookahead) (h : (l.readExact n).1 = .blocked) :
    (l.readExact n).2.2.Dry ∧ (l.readExact n).2.1.length < n := by
  -- Along the reads: only the last one can have had to wait.
  induction n, l using readExact.induct with
  | case1 l =>
    rw [readExact, if_pos rfl] at h
    cases h
  | case2 n l hn l' hread =>
    have hdry := dry_of_read (congrArg Prod.fst hread)
    rw [readExact_of_dry hdry (Nat.pos_of_ne_zero hn)]
    exact ⟨hdry, Nat.pos_of_ne_zero hn⟩
  | case3 n l hn f l' hread =>
    rw [readExact, if_neg hn, hread] at h
    cases h
  | case4 n l hn l' hread =>
    rw [readExact, if_neg hn, hread] at h
    cases h
  | case5 n l hn b bs l' hread result more l'' hmore ih =>
    have hlength := l.length_read_le n
    rw [hread] at hlength
    replace hlength : (b :: bs).length ≤ n := hlength
    rw [hmore] at ih
    rw [readExact, if_neg hn, hread] at h ⊢
    dsimp only at h ⊢
    rw [hmore] at h ⊢
    obtain ⟨hdry, hless⟩ := ih h
    refine ⟨hdry, ?_⟩
    dsimp only at hless ⊢
    rw [List.length_append]
    omega

section Scanning

variable {σ : Type} {step : σ → UInt8 → σ × Bool} {s s' : σ}

/-- A dry stream gives a scan nothing. -/
theorem scan_of_dry (h : l.Dry) (s : σ) : l.scan step s = (.blocked s, l) := by
  rw [scan, h.fill]

/-- A scanner that goes on is where it was, or has gone on behind some octet. -/
theorem scanList_cases (h : scanList step s bs = (s', false, left)) :
    s' = s ∨ ∃ s₀ b, step s₀ b = (s', false) := by
  induction bs generalizing s with
  | nil =>
    cases h
    exact .inl rfl
  | cons b bs ih =>
    unfold scanList at h
    split at h
    · cases h
    · rename_i s₁ hstep
      rcases ih h with rfl | hgone
      · exact .inr ⟨s, b, hstep⟩
      · exact .inr hgone

/-- A scan that is held up has left the stream dry, and stands where it was or behind an octet that
    does not end it. -/
theorem scan_cases (s : σ) (l : Lookahead) (h : l.scan step s = (.blocked s', l')) :
    l'.Dry ∧ (s' = s ∨ ∃ s₀ b, step s₀ b = (s', false)) := by
  -- Along the refills of the buffer: the scanner waits only when one of them finds nothing.
  induction s, l using scan.induct step with
  | case1 s l m hf =>
    have hdry := dry_of_fill (congrArg Prod.fst hf)
    rw [scan_of_dry hdry] at h
    cases h
    exact ⟨hdry, .inl rfl⟩
  | case2 s l f m hf hk ih =>
    rw [scan, hf] at h
    simp only [hk, if_true] at h
    exact ih h
  | case3 s l f m hf hk =>
    rw [scan, hf] at h
    simp only [hk, if_false] at h
    cases h
  | case4 s l m hf =>
    rw [scan, hf] at h
    cases h
  | case5 s l b bs m hf s₁ rest hs =>
    rw [scan, hf] at h
    simp only [hs] at h
    cases h
  | case6 s l b bs m hf s₁ rest hs ih =>
    rw [scan, hf] at h
    simp only [hs] at h
    obtain ⟨hdry, rfl | hgone⟩ := ih h
    · exact ⟨hdry, scanList_cases hs⟩
    · exact ⟨hdry, .inr hgone⟩

end Scanning

end Lookahead

/-- A reader of a request head that waits has taken all that there was. -/
theorem HeadReader.run_of_waiting {r r' : HeadReader} {l l' : Lookahead}
    (h : r.run l = (.waiting r', l')) : r'.run l' = (.waiting r', l') := by
  have hends (r : HeadReader) : r.conclude ≠ .waiting r' := by
    unfold conclude
    split <;> exact nofun
  unfold run at h
  split at h
  · exact absurd (congrArg Prod.fst h) (hends r)
  · rename_i hopen
    split at h
    · rename_i r₁ l₁ _
      exact absurd (congrArg Prod.fst h) (hends r₁)
    · cases h
    · rename_i r₁ l₁ hscan
      cases h
      -- The stream is dry now, and the reader is still open, as the last octet has not ended the
      -- head.
      obtain ⟨hdry, hwent⟩ := Lookahead.scan_cases r l hscan
      have hstill : r'.isDone = false := by
        rcases hwent with rfl | ⟨r₀, b, hstep⟩
        · exact Bool.eq_false_iff.2 hopen
        · obtain ⟨rfl, hfed⟩ := Prod.mk.inj hstep
          exact hfed
      rw [run, hstill, if_neg Bool.false_ne_true, Lookahead.scan_of_dry hdry]
    · cases h

/-! ### Handshakes -/

namespace Socks5.Handshake

variable {l l' : Lookahead} {n : Nat} {got octets : Bytes} {command : UInt8} {host : Host}

/-- A handshake that would change nothing if it went on. -/
def Paused (r : Handshake × Lookahead) : Prop := r.1.run r.2 = r

/-- A field of which a part is there, or all of it, looks the same when it is read again. -/
theorem field_again {octets : Bytes}
    (h : field n got l = (.partly octets, l') ∨ field n got l = (.complete octets, l')) :
    field n octets l' = field n got l := by
  have hwaits := Lookahead.dry_of_readExact (n - got.length) l
  obtain ⟨-, -, hlength⟩ := l.took_readExact (n - got.length)
  unfold field at h ⊢
  rcases hread : l.readExact (n - got.length) with ⟨a, more, m⟩
  rw [hread] at h hwaits hlength
  cases a with
  | blocked =>
    -- All that there was is taken, and it was too little.
    obtain ⟨hdry, hless⟩ := hwaits rfl
    obtain h | h := h
    · cases h
      have hpos : 0 < n - (got ++ more).length := by
        dsimp only at hless
        rw [List.length_append]
        omega
      rw [Lookahead.readExact_of_dry hdry hpos]
      dsimp only
      rw [List.append_nil]
    · cases h
  | ready u =>
    -- Nothing more is asked for.
    have hmore : more.length = n - got.length := hlength rfl
    obtain h | h := h
    · cases h
    · cases h
      have hnone : n - (got ++ more).length = 0 := by rw [List.length_append]; omega
      rw [hnone, Lookahead.readExact, if_pos rfl]
      dsimp only
      rw [List.append_nil]
  | failed f => obtain h | h := h <;> cases h

/-- A reader of a field waits with what it has of the field. -/
def Waits (n : Nat) (wait : Bytes → Handshake) (read : Bytes → Lookahead → Handshake × Lookahead)
    (got : Bytes) (l : Lookahead) : Prop :=
  ∃ octets l', (field n got l = (.partly octets, l') ∨ field n got l = (.complete octets, l')) ∧
    read got l = (wait octets, l')

/-- **A field:** `wait` is the state in which a part of it is there.  A reader that looks at nothing
    but the field, and waits or comes to a state in which nothing is left to do, leaves nothing to
    do. -/
theorem paused_field (n : Nat) (wait : Bytes → Handshake)
    {read : Bytes → Lookahead → Handshake × Lookahead}
    (hrun : ∀ octets l, (wait octets).run l = read octets l)
    (hsame : ∀ {got l got' l'}, field n got l = field n got' l' → read got l = read got' l')
    (hread : Waits n wait read got l ∨ Paused (read got l)) : Paused (read got l) := by
  rcases hread with ⟨octets, l', hfield, hwaits⟩ | hpaused
  · rw [hwaits]
    show (wait octets).run l' = _
    rw [hrun, hsame (field_again hfield), hwaits]
  · exact hpaused

/-- A handshake that refuses has nothing more to do. -/
theorem paused_refuse (code : ReplyCode) (flaw : Flaw) (l : Lookahead) :
    Paused (refuse code flaw l) := by
  unfold refuse
  rcases hwrite : l.write (errorReply code) with ⟨a, l'⟩
  cases a with
  | blocked =>
    obtain rfl := Lookahead.write_of_blocked hwrite
    show refuse code flaw l' = _
    rw [refuse, hwrite]
  | ready k => rfl
  | failed f => rfl

/-- A handshake whose request is understood or refused has nothing more to do. -/
theorem paused_finish (command : UInt8) (host : Host) (port : UInt16) (l : Lookahead) :
    Paused (finish command host port l) := by
  unfold finish
  split
  · rfl
  · exact paused_refuse _ _ l

/-! ### From the last field to the first -/

/-- Reading the port pauses for octets only. -/
theorem paused_readPort (command : UInt8) (host : Host) (got : Bytes) (l : Lookahead) :
    Paused (readPort command host got l) := by
  refine paused_field 2 (.port command host) (fun _ _ => rfl)
    (fun h => by simp only [readPort, h]) ?_
  unfold Waits readPort
  split
  · exact .inl ⟨_, _, .inl ‹_›, rfl⟩
  · exact .inr (paused_refuse _ _ _)
  · exact .inr (paused_finish _ _ _ _)
  · exact .inl ⟨_, _, .inr ‹_›, rfl⟩

/-- Reading an IPv4 address pauses for octets only. -/
theorem paused_readIpv4 (command : UInt8) (got : Bytes) (l : Lookahead) :
    Paused (readIpv4 command got l) := by
  refine paused_field 4 (.ipv4 command) (fun _ _ => rfl) (fun h => by simp only [readIpv4, h]) ?_
  unfold Waits readIpv4
  split
  · exact .inl ⟨_, _, .inl ‹_›, rfl⟩
  · exact .inr (paused_refuse _ _ _)
  · exact .inr (paused_readPort _ _ _ _)
  · exact .inl ⟨_, _, .inr ‹_›, rfl⟩

/-- Reading an IPv6 address pauses for octets only. -/
theorem paused_readIpv6 (command : UInt8) (got : Bytes) (l : Lookahead) :
    Paused (readIpv6 command got l) := by
  refine paused_field 16 (.ipv6 command) (fun _ _ => rfl) (fun h => by simp only [readIpv6, h]) ?_
  unfold Waits readIpv6
  split
  · exact .inl ⟨_, _, .inl ‹_›, rfl⟩
  · exact .inr (paused_refuse _ _ _)
  · split
    · exact .inr (paused_readPort _ _ _ _)
    · exact .inl ⟨_, _, .inr ‹_›, rfl⟩

/-- Reading a domain pauses for octets only. -/
theorem paused_readDomain (command : UInt8) (length : Nat) (got : Bytes) (l : Lookahead) :
    Paused (readDomain command length got l) := by
  refine paused_field length (.domain command length) (fun _ _ => rfl)
    (fun h => by simp only [readDomain, h]) ?_
  unfold Waits readDomain
  split
  · exact .inl ⟨_, _, .inl ‹_›, rfl⟩
  · exact .inr (paused_refuse _ _ _)
  · split
    · exact .inr (paused_readPort _ _ _ _)
    · exact .inr (paused_refuse _ _ _)

/-- Reading the length of a domain pauses for octets only. -/
theorem paused_readDomainLength (command : UInt8) (got : Bytes) (l : Lookahead) :
    Paused (readDomainLength command got l) := by
  refine paused_field 1 (.domainLength command) (fun _ _ => rfl)
    (fun h => by simp only [readDomainLength, h]) ?_
  unfold Waits readDomainLength
  split
  · exact .inl ⟨_, _, .inl ‹_›, rfl⟩
  · exact .inr (paused_refuse _ _ _)
  · exact .inr (paused_readDomain _ _ _ _)
  · exact .inl ⟨_, _, .inr ‹_›, rfl⟩

/-- Reading an address of any type pauses for octets only. -/
theorem paused_readAddress (command addressType : UInt8) (l : Lookahead) :
    Paused (readAddress command addressType l) := by
  unfold readAddress
  split
  · exact paused_readIpv4 command [] l
  · split
    · exact paused_readDomainLength command [] l
    · split
      · exact paused_readIpv6 command [] l
      · exact paused_refuse _ _ l

/-- Reading a request pauses for octets only. -/
theorem paused_readRequest (got : Bytes) (l : Lookahead) : Paused (readRequest got l) := by
  refine paused_field 4 .request (fun _ _ => rfl) (fun h => by simp only [readRequest, h]) ?_
  unfold Waits readRequest
  split
  · exact .inl ⟨_, _, .inl ‹_›, rfl⟩
  · exact .inr rfl
  · split
    · exact .inr (paused_readAddress _ _ _)
    · exact .inr rfl
  · exact .inl ⟨_, _, .inr ‹_›, rfl⟩

/-- Choosing a method pauses for room or for octets only. -/
theorem paused_choose (left : Bytes) (refused : Option Bytes) (l : Lookahead) :
    Paused (choose left refused l) := by
  unfold choose
  rcases hwrite : l.writeAll left with ⟨a, rest, l'⟩
  cases a with
  | blocked =>
    show choose rest refused l' = (.choosing rest refused, l')
    unfold choose
    rw [Lookahead.writeAll_of_blocked hwrite]
  | failed f => cases refused <;> rfl
  | ready u =>
    cases refused with
    | none => exact paused_readRequest [] l'
    | some offered => rfl

/-- Reading the offered methods pauses for room or for octets only. -/
theorem paused_readMethods (count : Nat) (got : Bytes) (l : Lookahead) :
    Paused (readMethods count got l) := by
  refine paused_field count (.methods count) (fun _ _ => rfl)
    (fun h => by simp only [readMethods, h]) ?_
  unfold Waits readMethods
  split
  · exact .inl ⟨_, _, .inl ‹_›, rfl⟩
  · exact .inr rfl
  · split
    · exact .inr (paused_choose _ _ _)
    · exact .inr (paused_choose _ _ _)

/-- Reading the greeting pauses for room or for octets only. -/
theorem paused_readGreeting (got : Bytes) (l : Lookahead) : Paused (readGreeting got l) := by
  refine paused_field 2 .greeting (fun _ _ => rfl) (fun h => by simp only [readGreeting, h]) ?_
  unfold Waits readGreeting
  split
  · exact .inl ⟨_, _, .inl ‹_›, rfl⟩
  · exact .inr rfl
  · split
    · exact .inr (paused_readMethods _ _ _)
    · exact .inr rfl
  · exact .inl ⟨_, _, .inr ‹_›, rfl⟩

/-- **A handshake that has gone on as far as it could** would change nothing if it went on. -/
theorem paused_run (h : Handshake) (l : Lookahead) : Paused (h.run l) := by
  cases h with
  | greeting got => exact paused_readGreeting got l
  | methods count got => exact paused_readMethods count got l
  | choosing left refused => exact paused_choose left refused l
  | request got => exact paused_readRequest got l
  | domainLength command got => exact paused_readDomainLength command got l
  | ipv4 command got => exact paused_readIpv4 command got l
  | ipv6 command got => exact paused_readIpv6 command got l
  | domain command length got => exact paused_readDomain command length got l
  | port command host got => exact paused_readPort command host got l
  | refusing code flaw => exact paused_refuse code flaw l
  | understood request => rfl
  | failed failure => rfl

end Socks5.Handshake

end ForwardProxy
