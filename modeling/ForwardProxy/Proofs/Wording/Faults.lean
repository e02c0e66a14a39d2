import ForwardProxy.Failure
import ForwardProxy.Network.Dial
import ForwardProxy.Proofs.Stream.Faults
import ForwardProxy.Proofs.Text.OneLine

namespace ForwardProxy

/-!
# The wording of faults

A fault is told in the words of its kind, of the operating system, or in words of its own.  Only the
last can hold a line break, and none of the faults that the program itself knows does.

* `Fault.Plain` — a fault is told on one line.
* `Fault.plain_bare`, `Fault.plain_system`, `Fault.plain_idle` — every fault without words of its
  own.
* `SocketAddress.oneLine_render` — addresses are on one line.
* `Failure.Plain` — a failure is told on one line.
* `Network.plain_attempt`, `Dial.dialFailure_of_outcome` — why a dial fails is told on one line.
-/

open Text (OneLine oneLine_append oneLine_concat oneLine_literal oneLine_message
  oneLine_of_octets oneLine_ofList oneLine_toString oneLine_write)

/-! ### Faults -/

namespace SystemError

/-- The description of an unknown error is one line, whatever its number. -/
theorem oneLine_unknown (n : Nat) : OneLine (text s!"Unknown error {n}") := by
  simp only [oneLine_concat, oneLine_message, oneLine_toString, and_true]
  exact oneLine_literal rfl

/-- Every description in the table of system errors is one line. -/
theorem oneLine_descriptions : ∀ d ∈ descriptions, OneLine (text d) := by
  have hall : (descriptions.toList.all fun d =>
      d.toByteArray.data.toList.all fun b => b != lf && b != cr) = true := by
    decide +kernel
  exact fun d hd => oneLine_of_octets (List.all_eq_true.1 hall d (Array.mem_toList_iff.2 hd))

/-- A system error is described in one line. -/
theorem oneLine_description (code : Int) : OneLine (text (description code)) := by
  unfold description
  split
  · split
    · rename_i n _ d hd
      split
      · exact oneLine_unknown n
      · exact oneLine_descriptions d (Array.mem_of_getElem? hd)
    · exact oneLine_unknown _
  · simp only [oneLine_concat, oneLine_message, oneLine_toString, and_true]
    exact oneLine_literal rfl

end SystemError

namespace FaultKind

/-- A kind of fault is described in one line. -/
theorem oneLine_description (k : FaultKind) : OneLine (text k.description) := by
  cases k <;> exact oneLine_literal rfl

end FaultKind

namespace Fault

/-- A fault is told on one line. -/
def Plain (f : Fault) : Prop := OneLine (text f.message)

/-- A fault that is its kind alone is plain. -/
theorem plain_bare (k : FaultKind) : (bare k).Plain := k.oneLine_description

/-- A fault of the system is plain. -/
theorem plain_system (code : Int) : (system code).Plain := by
  have hcode : OneLine (text (toString code)) := by
    cases code with
    | ofNat n => exact oneLine_toString n
    | negSucc n => exact oneLine_concat.2 ⟨by decide, oneLine_toString (n + 1)⟩
  show OneLine (text s!"{SystemError.description code} (os error {code})")
  simp only [oneLine_concat, oneLine_message, SystemError.oneLine_description, hcode, true_and]
  decide

/-- The fault of silence is plain. -/
theorem plain_idle (span : Nat) : (idle span).Plain := by
  show OneLine (text s!"no traffic for {Duration.describe span}")
  simp only [oneLine_concat, oneLine_message, Text.oneLine_describe, and_true]
  exact oneLine_literal rfl

theorem plain_earlyEnd : earlyEnd.Plain := oneLine_literal rfl

end Fault

/-! ### Addresses -/

/-- An IPv4 address is one line. -/
theorem Ipv4.oneLine_render (ip : Ipv4) : OneLine ip.render := by
  simp only [Ipv4.render, oneLine_append, oneLine_write]
  decide

namespace Ipv6

/-- Groups of an IPv6 address are one line. -/
theorem oneLine_renderGroups (gs : List UInt16) : OneLine (renderGroups gs) := by
  refine Text.oneLine_intercalate (by decide) fun l hl => ?_
  obtain ⟨g, -, rfl⟩ := List.mem_map.1 hl
  exact Text.oneLine_hexDigits g.toNat

/-- An IPv6 address is one line. -/
theorem oneLine_render (ip : Ipv6) : OneLine ip.render := by
  unfold render
  split
  · rename_i v4 _
    exact oneLine_append.2 ⟨by decide, v4.oneLine_render⟩
  · dsimp only
    split
    · simp only [oneLine_append, oneLine_renderGroups, true_and, and_true]
      exact oneLine_literal rfl
    · exact oneLine_renderGroups ip.groups

end Ipv6

/-- **An address** is on one line. -/
theorem SocketAddress.oneLine_render (a : SocketAddress) : OneLine a.render := by
  cases a with
  | v4 ip p =>
    simp only [render, oneLine_append, ip.oneLine_render, oneLine_write, true_and, and_true]
    decide
  | v6 ip p scope =>
    have hzone : OneLine (if scope = 0 then [] else ['%'] ++ Decimal.write scope.toNat) := by
      split
      · exact Text.oneLine_nil
      · exact oneLine_append.2 ⟨by decide, oneLine_write _⟩
    simp only [render, oneLine_append, ip.oneLine_render, oneLine_write, hzone, and_true]
    decide

/-! ### Failures -/

namespace Failure

variable {fault : Fault}

/-- A failure is told on one line. -/
def Plain (failure : Failure) : Prop := OneLine (text failure.message)

/-- An authority that names no target is told in quotes, and so it may hold what it likes. -/
theorem plain_invalidTarget (authority : Text) {flaw : TargetFlaw}
    (h : OneLine (text flaw.message)) : (invalidTarget authority flaw).Plain := by
  show OneLine
    (text s!"invalid CONNECT target {String.ofList (Text.quote authority)}: {flaw.message}")
  simp only [oneLine_concat, oneLine_message, oneLine_ofList, Text.oneLine_quote, h, and_true]
  exact ⟨oneLine_literal rfl, oneLine_literal rfl⟩

/-- A request that is too large is told in one line. -/
theorem plain_requestTooLarge (limit : Nat) : (requestTooLarge limit).Plain := by
  show OneLine (text s!"request head exceeds {limit} bytes")
  simp only [oneLine_concat, oneLine_message, oneLine_toString, and_true]
  exact ⟨oneLine_literal rfl, oneLine_literal rfl⟩

/-- A malformed request is told in one line if its flaw is. -/
theorem plain_malformedRequest {flaw : HeadFlaw} (h : OneLine (text flaw.message)) :
    (malformedRequest flaw).Plain := by
  show OneLine (text s!"malformed request: {flaw.message}")
  simp only [oneLine_concat, oneLine_message, h, and_true]
  exact oneLine_literal rfl

/-- An unsupported method is told in one line if it is one. -/
theorem plain_unsupportedMethod {method : Text} (h : OneLine method) :
    (unsupportedMethod method).Plain := by
  show OneLine (text s!"method {String.ofList method} not allowed, CONNECT required")
  simp only [oneLine_concat, oneLine_message, oneLine_ofList, h, and_true]
  exact ⟨oneLine_literal rfl, oneLine_literal rfl⟩

/-- **A target that cannot be reached** is told as it is, and not in quotes. -/
theorem plain_dialFailure_iff {target : Text} (h : fault.Plain) :
    (dialFailure target fault).Plain ↔ OneLine target := by
  have hfault : OneLine (text fault.message) := h
  show OneLine (text s!"failed to dial {String.ofList target}: {fault.message}") ↔ _
  simp only [oneLine_concat, oneLine_message, oneLine_ofList, hfault, and_true]
  exact ⟨fun hall => hall.1.2, fun htarget => ⟨⟨by decide, htarget⟩, by decide⟩⟩

/-- A fault is told as plainly as a failure as on its own. -/
theorem plain_io_iff : (io fault).Plain ↔ fault.Plain := by
  show OneLine (text s!"I/O error: {fault.message}") ↔ OneLine (text fault.message)
  simp only [oneLine_concat, oneLine_message]
  exact and_iff_right (by decide)

end Failure

/-! ### Dialling -/

namespace Network

variable {net : Network} {last f : Fault}

/-- A dial fails by the fault of a peer, or by the one that there was before. -/
theorem plain_connectFirst (hlast : last.Plain) {as : List SocketAddress}
    (hf : (net.connectFirst last as).2 = .failed f) : f.Plain := by
  induction as generalizing last with
  | nil =>
    cases hf
    exact hlast
  | cons a as ih =>
    unfold connectFirst at hf
    split at hf
    · cases hf
    · cases hf
    · rename_i code _
      exact ih (Fault.plain_system code) hf

/-- **Why a dial fails** is told on one line, whatever was dialled. -/
theorem plain_attempt {target : Text} (hf : (net.attempt target).reach = .failed f) : f.Plain := by
  have hnone : noAddress.Plain := oneLine_literal rfl
  unfold attempt at hf
  split at hf
  · exact plain_connectFirst hnone hf
  · split at hf
    · cases hf
      exact oneLine_literal rfl
    · split at hf
      · cases hf
        exact oneLine_literal rfl
      · split at hf
        · cases hf
          exact oneLine_literal rfl
        · unfold attemptName at hf
          split at hf
          · cases hf
            exact oneLine_literal rfl
          · exact plain_connectFirst hnone hf

end Network

/-- A dial fails by a failure of its target, of which the network has told nothing but a fault that
    it met. -/
theorem Dial.dialFailure_of_outcome {d : Dial} {now : Nat} {failure : Failure}
    (hreach : ∀ f, d.attempt.reach = .failed f → f.Plain)
    (h : d.outcome? now = some (.error failure)) :
    ∃ f, failure = .dialFailure d.target f ∧ f.Plain := by
  unfold outcome? at h
  split at h
  · cases h
  · rename_i f hf
    cases h
    exact ⟨f, rfl, hreach f hf⟩
  · split at h
    · cases h
      exact ⟨timedOut, rfl, oneLine_literal rfl⟩
    · cases h

end ForwardProxy
