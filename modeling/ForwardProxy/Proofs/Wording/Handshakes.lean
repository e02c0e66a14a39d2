import ForwardProxy.Proofs.Wording.Faults
import ForwardProxy.Socks5.Handshake

namespace ForwardProxy.Socks5

/-!
# The wording of a handshake

What a handshake puts into the messages about it is a number, a list of numbers, or a fault.  The
domain that a client asks for is in none of them.

* `Flaw.plain_of_fault`, `SocksFailure.plain_of_flaw` — what goes wrong is told on one line.
* `Handshake.Told` — a handshake all whose flaws are told on one line, and its stream.
* `Handshake.told_run` — no progress of a handshake spoils that.
-/

open Text (OneLine oneLine_concat oneLine_literal oneLine_message oneLine_toString)

/-! ### Flaws -/

/-- A list of octets is one line. -/
theorem oneLine_listed (bs : Bytes) : OneLine (text (listed bs)) := by
  have hrow : OneLine (text (", ".intercalate (bs.map fun b => toString b.toNat))) := by
    rw [text, String.toList_intercalate]
    refine Text.oneLine_intercalate (by decide) fun l hl => ?_
    simp only [List.map_map, List.mem_map, Function.comp] at hl
    obtain ⟨b, -, rfl⟩ := hl
    exact oneLine_toString b.toNat
  show OneLine (text ("[" ++ ", ".intercalate (bs.map fun b => toString b.toNat) ++ "]"))
  simp only [oneLine_concat, hrow, and_true]
  exact ⟨oneLine_literal rfl, oneLine_literal rfl⟩

namespace Flaw

/-- The fault behind a flaw. -/
def fault? : Flaw → Option Fault
  | unreadable _ fault => some fault
  | methodUnsent fault => some fault
  | refusalUnsent fault => some fault
  | _ => none

/-- A flaw is told on one line. -/
def Plain (flaw : Flaw) : Prop := OneLine (text flaw.message)

/-- **A flaw** is told on one line if the fault behind it is. -/
theorem plain_of_fault {flaw : Flaw} (h : ∀ f, flaw.fault? = some f → f.Plain) : flaw.Plain := by
  -- The only text of others in a flaw is that of its fault; everything else is a literal or a
  -- number.
  cases flaw with
  | unreadable field fault =>
    have hfault : OneLine (text fault.message) := h fault rfl
    have hfield : OneLine (text field.message) := by
      cases field <;> exact oneLine_literal rfl
    show OneLine (text s!"{field.message}: {fault.message}")
    simp only [oneLine_concat, oneLine_message, hfault, hfield, true_and, and_true]
    exact oneLine_literal rfl
  | methodUnsent fault =>
    have hfault : OneLine (text fault.message) := h fault rfl
    show OneLine (text s!"i/o error when replying with auth method: {fault.message}")
    simp only [oneLine_concat, oneLine_message, hfault, and_true]
    exact oneLine_literal rfl
  | refusalUnsent fault =>
    have hfault : OneLine (text fault.message) := h fault rfl
    show OneLine (text s!"i/o error when replying with method not acceptable: {fault.message}")
    simp only [oneLine_concat, oneLine_message, hfault, and_true]
    exact oneLine_literal rfl
  | version v =>
    show OneLine (text s!"Unsupported SOCKS version `{v.toNat}`.")
    simp only [oneLine_concat, oneLine_message, oneLine_toString, and_true]
    exact ⟨oneLine_literal rfl, oneLine_literal rfl⟩
  | methods offered =>
    show OneLine (text s!"Auth method unacceptable `{listed offered}`.")
    simp only [oneLine_concat, oneLine_message, oneLine_listed, and_true]
    exact ⟨oneLine_literal rfl, oneLine_literal rfl⟩
  | addressType =>
    show OneLine (text "Unknown address type")
    exact oneLine_literal rfl
  | domain =>
    show OneLine (text "Malformed UTF-8")
    exact oneLine_literal rfl
  | command code =>
    show OneLine (text s!"Unsupported SOCKS command `{code.toNat}`.")
    simp only [oneLine_concat, oneLine_message, oneLine_toString, and_true]
    exact ⟨oneLine_literal rfl, oneLine_literal rfl⟩

theorem plain_of_none {flaw : Flaw} (h : flaw.fault? = none) : flaw.Plain :=
  plain_of_fault fun f hf => by rw [h] at hf; cases hf

theorem plain_unreadable (field : Field) {fault : Fault} (h : fault.Plain) :
    (unreadable field fault).Plain :=
  plain_of_fault fun _ hf => Option.some.inj hf ▸ h

end Flaw

namespace SocksFailure

/-- The flaw behind a failure. -/
def flaw? : SocksFailure → Option Flaw
  | greeting flaw => some flaw
  | request flaw => some flaw
  | _ => none

/-- The fault behind a failure, if no flaw is. -/
def fault? : SocksFailure → Option Fault
  | localAddress fault => some fault
  | reply fault => some fault
  | _ => none

/-- A failure is told on one line. -/
def Plain (failure : SocksFailure) : Prop := OneLine (text failure.message)

/-- **A failure** is told on one line if what is behind it is. -/
theorem plain_of_flaw {failure : SocksFailure} (hflaw : ∀ w, failure.flaw? = some w → w.Plain)
    (hfault : ∀ f, failure.fault? = some f → f.Plain) : failure.Plain := by
  cases failure with
  | greeting flaw =>
    have hplain : OneLine (text flaw.message) := hflaw flaw rfl
    show OneLine (text s!"socks5 greeting: {flaw.message}")
    simp only [oneLine_concat, oneLine_message, hplain, and_true]
    exact oneLine_literal rfl
  | request flaw =>
    have hplain : OneLine (text flaw.message) := hflaw flaw rfl
    show OneLine (text s!"socks5 request: {flaw.message}")
    simp only [oneLine_concat, oneLine_message, hplain, and_true]
    exact oneLine_literal rfl
  | late limit =>
    show OneLine (text s!"socks5 handshake not completed within {Duration.describe limit}")
    simp only [oneLine_concat, oneLine_message, Text.oneLine_describe, and_true]
    exact oneLine_literal rfl
  | unsupported command =>
    have hname : OneLine (text command.name) := by
      cases command <;> exact oneLine_literal rfl
    show OneLine (text s!"unsupported socks5 command {command.name}")
    simp only [oneLine_concat, oneLine_message, hname, and_true]
    exact oneLine_literal rfl
  | localAddress fault =>
    have hplain : OneLine (text fault.message) := hfault fault rfl
    show OneLine (text s!"reading outbound local address: {fault.message}")
    simp only [oneLine_concat, oneLine_message, hplain, and_true]
    exact oneLine_literal rfl
  | reply fault =>
    have hplain : OneLine (text fault.message) := hfault fault rfl
    show OneLine (text
      s!"socks5 reply: i/o error when writing successful reply: {fault.message}")
    simp only [oneLine_concat, oneLine_message, hplain, and_true]
    exact oneLine_literal rfl

theorem plain_greeting {flaw : Flaw} (h : flaw.Plain) : (greeting flaw).Plain :=
  plain_of_flaw (fun _ hw => Option.some.inj hw ▸ h) fun _ hf => by cases hf

theorem plain_request {flaw : Flaw} (h : flaw.Plain) : (request flaw).Plain :=
  plain_of_flaw (fun _ hw => Option.some.inj hw ▸ h) fun _ hf => by cases hf

theorem plain_late (limit : Nat) : (late limit).Plain :=
  plain_of_flaw (fun _ hw => by cases hw) fun _ hf => by cases hf

theorem plain_unsupported (command : Command) : (unsupported command).Plain :=
  plain_of_flaw (fun _ hw => by cases hw) fun _ hf => by cases hf

theorem plain_localAddress {fault : Fault} (h : fault.Plain) : (localAddress fault).Plain :=
  plain_of_flaw (fun _ hw => by cases hw) fun _ hf => Option.some.inj hf ▸ h

theorem plain_reply {fault : Fault} (h : fault.Plain) : (reply fault).Plain :=
  plain_of_flaw (fun _ hw => by cases hw) fun _ hf => Option.some.inj hf ▸ h

end SocksFailure

/-! ### The handshake -/

namespace Handshake

/-- A handshake that has met a flaw tells it on one line. -/
def Plain : Handshake → Prop
  | refusing _ flaw => flaw.Plain
  | failed failure => failure.Plain
  | _ => True

/-- A handshake all whose flaws are told on one line, and its stream. -/
structure Told (r : Handshake × Lookahead) : Prop where
  plain : r.1.Plain
  raises : r.2.Raises Fault.Plain

section

variable {P : Fault → Prop} {n : Nat} {got : Bytes} {l m : Lookahead} {x : FieldProgress}
  {f : Fault}

/-- Reading a field raises no fault that the stream does not, or that of an early end. -/
theorem raises_field (hearly : P Fault.earlyEnd) (h : l.Raises P) (n : Nat) (got : Bytes) :
    (field n got l).2.Raises P ∧ ∀ f, (field n got l).1 = .failed f → P f := by
  have hread := Lookahead.raises_readExact hearly h (n - got.length)
  unfold field
  rcases hr : l.readExact (n - got.length) with ⟨a, more, m⟩
  rw [hr] at hread
  cases a with
  | ready u => exact ⟨hread.1, nofun⟩
  | blocked => exact ⟨hread.1, nofun⟩
  | failed f => exact ⟨hread.1, fun f' hf => by cases hf; exact hread.2 f rfl⟩

/-- The stream behind a field. -/
theorem raises_of_field (hfield : field n got l = (x, m)) (h : l.Raises Fault.Plain) :
    m.Raises Fault.Plain := by
  have hraises := (raises_field Fault.plain_earlyEnd h n got).1
  rwa [hfield] at hraises

/-- A field that fails does so by a plain fault, if the stream raises no other. -/
theorem plain_of_field (hfield : field n got l = (.failed f, m)) (h : l.Raises Fault.Plain) :
    f.Plain := by
  have hraises := (raises_field Fault.plain_earlyEnd h n got).2 f
  rw [hfield] at hraises
  exact hraises rfl

end

variable {l m : Lookahead} {flaw : Flaw} {n : Nat} {got : Bytes} {f : Fault}

/-! ### From the last field to the first -/

/-- A handshake that refuses tells a plain flaw. -/
theorem told_refuse (code : ReplyCode) (hflaw : flaw.Plain) (h : l.Raises Fault.Plain) :
    Told (refuse code flaw l) := by
  have hwrite := (Lookahead.raises_write (Fault.plain_bare _) h (errorReply code)).1
  unfold refuse
  rcases hw : l.write (errorReply code) with ⟨a, m⟩
  rw [hw] at hwrite
  cases a with
  | blocked => exact ⟨hflaw, hwrite⟩
  | ready k => exact ⟨SocksFailure.plain_request hflaw, hwrite⟩
  | failed f => exact ⟨SocksFailure.plain_request hflaw, hwrite⟩

/-- A field that could not be read is told by a reply. -/
theorem told_unread (code : ReplyCode) (name : Field) (hfield : field n got l = (.failed f, m))
    (h : l.Raises Fault.Plain) : Told (refuse code (.unreadable name f) m) :=
  told_refuse code (Flaw.plain_unreadable name (plain_of_field hfield h)) (raises_of_field hfield h)

/-- A handshake that has read a whole request tells nothing but plain flaws. -/
theorem told_finish (command : UInt8) (host : Host) (port : UInt16) (h : l.Raises Fault.Plain) :
    Told (finish command host port l) := by
  unfold finish
  split
  · exact ⟨trivial, h⟩
  · exact told_refuse _ (Flaw.plain_of_none rfl) h

theorem told_readPort (command : UInt8) (host : Host) (got : Bytes) (h : l.Raises Fault.Plain) :
    Told (readPort command host got l) := by
  unfold readPort
  split <;> rename_i hfield
  · exact ⟨trivial, raises_of_field hfield h⟩
  · exact told_unread _ .port hfield h
  · exact told_finish _ _ _ (raises_of_field hfield h)
  · exact ⟨trivial, raises_of_field hfield h⟩

theorem told_readIpv4 (command : UInt8) (got : Bytes) (h : l.Raises Fault.Plain) :
    Told (readIpv4 command got l) := by
  unfold readIpv4
  split <;> rename_i hfield
  · exact ⟨trivial, raises_of_field hfield h⟩
  · exact told_unread _ .ipv4 hfield h
  · exact told_readPort _ _ _ (raises_of_field hfield h)
  · exact ⟨trivial, raises_of_field hfield h⟩

theorem told_readIpv6 (command : UInt8) (got : Bytes) (h : l.Raises Fault.Plain) :
    Told (readIpv6 command got l) := by
  unfold readIpv6
  split <;> rename_i hfield
  · exact ⟨trivial, raises_of_field hfield h⟩
  · exact told_unread _ .ipv6 hfield h
  · split
    · exact told_readPort _ _ _ (raises_of_field hfield h)
    · exact ⟨trivial, raises_of_field hfield h⟩

/-- A domain that is no text is told without its octets. -/
theorem told_readDomain (command : UInt8) (length : Nat) (got : Bytes) (h : l.Raises Fault.Plain) :
    Told (readDomain command length got l) := by
  unfold readDomain
  split <;> rename_i hfield
  · exact ⟨trivial, raises_of_field hfield h⟩
  · exact told_unread _ .domain hfield h
  · split
    · exact told_readPort _ _ _ (raises_of_field hfield h)
    · exact told_refuse _ (Flaw.plain_of_none rfl) (raises_of_field hfield h)

theorem told_readDomainLength (command : UInt8) (got : Bytes) (h : l.Raises Fault.Plain) :
    Told (readDomainLength command got l) := by
  unfold readDomainLength
  split <;> rename_i hfield
  · exact ⟨trivial, raises_of_field hfield h⟩
  · exact told_unread _ .domainLength hfield h
  · exact told_readDomain _ _ _ (raises_of_field hfield h)
  · exact ⟨trivial, raises_of_field hfield h⟩

theorem told_readAddress (command addressType : UInt8) (h : l.Raises Fault.Plain) :
    Told (readAddress command addressType l) := by
  unfold readAddress
  split
  · exact told_readIpv4 command [] h
  · split
    · exact told_readDomainLength command [] h
    · split
      · exact told_readIpv6 command [] h
      · exact told_refuse _ (Flaw.plain_of_none rfl) h

theorem told_readRequest (got : Bytes) (h : l.Raises Fault.Plain) : Told (readRequest got l) := by
  unfold readRequest
  split <;> rename_i hfield
  · exact ⟨trivial, raises_of_field hfield h⟩
  · exact ⟨SocksFailure.plain_request (Flaw.plain_unreadable _ (plain_of_field hfield h)),
      raises_of_field hfield h⟩
  · split
    · exact told_readAddress _ _ (raises_of_field hfield h)
    · exact ⟨SocksFailure.plain_request (Flaw.plain_of_none rfl), raises_of_field hfield h⟩
  · exact ⟨trivial, raises_of_field hfield h⟩

/-- A handshake that chooses a method tells nothing but plain flaws. -/
theorem told_choose (left : Bytes) (refused : Option Bytes) (h : l.Raises Fault.Plain) :
    Told (choose left refused l) := by
  have hwrite := Lookahead.raises_writeAll (Fault.plain_bare _) h left
  unfold choose
  rcases hw : l.writeAll left with ⟨a, rest, m⟩
  rw [hw] at hwrite
  cases a with
  | blocked => exact ⟨trivial, hwrite.1⟩
  | failed f =>
    -- Whichever answer could not be told, the fault is that of the write.
    cases refused with
    | none =>
      exact ⟨SocksFailure.plain_greeting (Flaw.plain_of_fault fun f' hf =>
        Option.some.inj hf ▸ hwrite.2 f rfl), hwrite.1⟩
    | some offered =>
      exact ⟨SocksFailure.plain_greeting (Flaw.plain_of_fault fun f' hf =>
        Option.some.inj hf ▸ hwrite.2 f rfl), hwrite.1⟩
  | ready u =>
    cases refused with
    | none => exact told_readRequest [] hwrite.1
    | some offered => exact ⟨SocksFailure.plain_greeting (Flaw.plain_of_none rfl), hwrite.1⟩

theorem told_readMethods (count : Nat) (got : Bytes) (h : l.Raises Fault.Plain) :
    Told (readMethods count got l) := by
  unfold readMethods
  split <;> rename_i hfield
  · exact ⟨trivial, raises_of_field hfield h⟩
  · exact ⟨SocksFailure.plain_greeting (Flaw.plain_unreadable _ (plain_of_field hfield h)),
      raises_of_field hfield h⟩
  · split
    · exact told_choose _ _ (raises_of_field hfield h)
    · exact told_choose _ _ (raises_of_field hfield h)

theorem told_readGreeting (got : Bytes) (h : l.Raises Fault.Plain) : Told (readGreeting got l) := by
  unfold readGreeting
  split <;> rename_i hfield
  · exact ⟨trivial, raises_of_field hfield h⟩
  · exact ⟨SocksFailure.plain_greeting (Flaw.plain_unreadable _ (plain_of_field hfield h)),
      raises_of_field hfield h⟩
  · split
    · exact told_readMethods _ _ (raises_of_field hfield h)
    · exact ⟨SocksFailure.plain_greeting (Flaw.plain_of_none rfl), raises_of_field hfield h⟩
  · exact ⟨trivial, raises_of_field hfield h⟩

/-- **A handshake that goes on** tells its flaws on one line, whatever the client sends. -/
theorem told_run {h : Handshake} (htold : Told (h, l)) : Told (h.run l) := by
  obtain ⟨hplain, hl⟩ := htold
  cases h with
  | greeting got => exact told_readGreeting got hl
  | methods count got => exact told_readMethods count got hl
  | choosing left refused => exact told_choose left refused hl
  | request got => exact told_readRequest got hl
  | domainLength command got => exact told_readDomainLength command got hl
  | ipv4 command got => exact told_readIpv4 command got hl
  | ipv6 command got => exact told_readIpv6 command got hl
  | domain command length got => exact told_readDomain command length got hl
  | port command host got => exact told_readPort command host got hl
  | refusing code flaw => exact told_refuse code hplain hl
  | understood r => exact ⟨trivial, hl⟩
  | failed failure => exact ⟨hplain, hl⟩

end Handshake

end ForwardProxy.Socks5
