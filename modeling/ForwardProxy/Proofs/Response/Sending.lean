import ForwardProxy.Proofs.Response.Reading
import ForwardProxy.Proofs.Stream.Timers
import ForwardProxy.Session.Progress

namespace ForwardProxy

/-!
# Sending a response

A client takes a response in whatever portions it likes, and may stop taking it at any point.

* `Lookahead.writeLoop`, `Lookahead.writeLoop_eq` — to write everything is to write again and again.
* `Sending`, `Sending.run` — a response on its way to a client.
* `Sending.Sound`, `Sending.Sound.step`, `Sending.delivers_run` — what of it is written.
* `Response.error_delivered` — an error answer, whatever becomes of it.
* `Session.tell_refusing` — the answers of a session are sent like this.
-/

/-! ### To write everything -/

namespace Lookahead

variable {l l' : Lookahead} {bs : Bytes} {f : Fault}

/-- A stream without room takes nothing. -/
theorem write_of_full (hne : bs ≠ []) (hroom : l.channel.room = some 0)
    (hopen : l.channel.failing? = none) : l.write bs = (.blocked, l) := by
  obtain ⟨hshut, hfault⟩ : l.channel.shut = false ∧ l.channel.writeFault = none := by
    unfold Channel.failing? at hopen
    split at hopen
    · cases hopen
    · rename_i hshut
      exact ⟨Bool.eq_false_iff.2 hshut, hopen⟩
  have hsome : bs.isEmpty = false := List.isEmpty_eq_false_iff.2 hne
  have hwrite : l.channel.write bs = (.blocked, l.channel) := by
    rw [Channel.write, hshut, if_neg Bool.false_ne_true, hfault, hroom]
    simp [hsome]
  rw [write, hwrite]

/-- Writes octets again and again, each time those that are left, until there are none. -/
def writeLoop (bs : Bytes) (l : Lookahead) : Attempt Unit × Bytes × Lookahead :=
  if bs.isEmpty then (.ready (), [], l)
  else
    match l.write bs with
    | (.ready k, l) =>
      if k = 0 then (.failed (.bare .writeZero), bs, l) else writeLoop (bs.drop k) l
    | (.blocked, l) => (.blocked, bs, l)
    | (.failed f, l) => (.failed f, bs, l)
termination_by bs.length
decreasing_by
  have : 0 < bs.length := List.length_pos_iff.2 (by simp_all)
  simp only [List.length_drop]
  omega

/-- **To write everything** is to write again and again: a write that leaves something over leaves
    no room for another. -/
theorem writeLoop_eq (bs : Bytes) (l : Lookahead) : l.writeLoop bs = l.writeAll bs := by
  rw [writeLoop, write_writeAll]
  by_cases hnil : bs.isEmpty
  · rw [if_pos hnil, if_pos hnil]
  · rw [if_neg hnil, if_neg hnil]
    have hpos : ∀ k, (l.write bs).1 = .ready k → 0 < k := fun k =>
      Channel.pos_of_write_ready (c := l.channel) fun h => hnil (List.isEmpty_iff.2 h)
    have hshort : ∀ k, (l.write bs).1 = .ready k → k < bs.length →
        (l.write bs).2.channel.room = some 0 := fun _ => Channel.room_write_of_short
    have hopen : ∀ k, (l.write bs).1 = .ready k → (l.write bs).2.channel.failing? = none := by
      intro k hk
      rw [(l.wrote_write bs).failing?_eq]
      exact Channel.failing?_of_ready hk
    rcases hw : l.write bs with ⟨a, l'⟩
    rw [hw] at hpos hshort hopen
    cases a with
    | ready k =>
      dsimp only
      rw [if_neg (Nat.ne_of_gt (hpos k rfl))]
      -- A write that leaves something over leaves no room, so that another one would have to wait.
      by_cases hk : k < bs.length
      · have hleft : bs.drop k ≠ [] := List.ne_nil_of_length_pos (by rw [List.length_drop]; omega)
        have hsome : ¬ (bs.drop k).isEmpty = true := mt List.isEmpty_iff.1 hleft
        rw [if_pos hk, writeLoop, if_neg hsome, write_of_full hleft (hshort k rfl hk) (hopen k rfl)]
      · rw [if_neg hk, List.drop_eq_nil_of_le (Nat.le_of_not_lt hk), writeLoop]
        rfl
    | blocked => rfl
    | failed f => rfl

/-- **To write everything** comes to what the stream allows: it fails as the stream does, and has to
    wait for nothing but room. -/
theorem writeAll_outcome (hne : bs ≠ []) :
    ((l.writeAll bs).1 = .ready () ↔ (l.writeAll bs).2.1 = []) ∧
      ((l.writeAll bs).1 = .blocked →
        l.channel.failing? = none ∧ (l.writeAll bs).2.2.channel.room = some 0) ∧
      ∀ f, (l.writeAll bs).1 = .failed f → l.channel.failing? = some f := by
  have hfull : (l.writeAll bs).1 = .blocked → (l.writeAll bs).2.2.channel.room = some 0 :=
    room_writeAll_of_blocked
  have hfailed f : (l.write bs).1 = .failed f ↔ l.channel.failing? = some f :=
    Channel.write_failed_iff
  have hopen : (∀ f, (l.write bs).1 ≠ .failed f) → l.channel.failing? = none :=
    Channel.failing?_eq_none
  have hsome : ¬ bs.isEmpty = true := mt List.isEmpty_iff.1 hne
  rw [write_writeAll, if_neg hsome] at hfull ⊢
  rcases hw : l.write bs with ⟨a, l'⟩
  rw [hw] at hfull hfailed hopen
  cases a with
  | ready k =>
    by_cases hk : k < bs.length
    · have hleft : bs.drop k ≠ [] := List.ne_nil_of_length_pos (by rw [List.length_drop]; omega)
      simp only [hk, if_true] at hfull ⊢
      exact ⟨⟨nofun, fun h => absurd h hleft⟩, fun _ => ⟨hopen nofun, hfull trivial⟩, nofun⟩
    · simp only [hk, if_false]
      exact ⟨trivial, nofun, nofun⟩
  | blocked => exact ⟨⟨nofun, fun h => absurd h hne⟩, fun _ => ⟨hopen nofun, hfull rfl⟩, nofun⟩
  | failed f =>
    refine ⟨⟨nofun, fun h => absurd h hne⟩, nofun, fun f' hf => ?_⟩
    cases hf
    exact (hfailed f).1 rfl

end Lookahead

/-! ### A response on its way -/

/-- A response that is being sent. -/
structure Sending where
  stream : Lookahead
  /-- What is not written yet. -/
  left : Bytes
  /-- How it ended; none while it goes on. -/
  result : Option (Except Fault Unit)

namespace Sending

/-- Writes what is left, or as much of it as there is room for. -/
def attempt (left : Bytes) (l : Lookahead) : Sending :=
  match l.writeAll left with
  | (.ready _, left, l) => ⟨l, left, some (.ok ())⟩
  | (.blocked, left, l) => ⟨l, left, none⟩
  | (.failed f, left, l) => ⟨l, left, some (.error f)⟩

/-- The sending after its client did something, tried again.  One that has ended stays as it is. -/
def step (s : Sending) (es : List Channel.Event) : Sending :=
  match s.result with
  | some _ => s
  | none => attempt s.left (s.stream.applyAll es)

/-- The sending after everything that its client did, tried again after each part of it. -/
def run (s : Sending) (moments : List (List Channel.Event)) : Sending := moments.foldl step s

/-- A sending of `response`, in front of which `before` was written. -/
structure Sound (before response : Bytes) (s : Sending) : Prop where
  /-- What is written of the response and what is left make it up. -/
  cut : ∃ sent, response = sent ++ s.left ∧ s.stream.channel.written = before ++ sent
  done_iff : s.result = some (.ok ()) ↔ s.left = []
  waits : s.result = none → s.stream.channel.failing? = none ∧ s.stream.channel.room = some 0
  fails : ∀ f, s.result = some (.error f) → s.stream.channel.failing? = some f

variable {before response sent left : Bytes} {l : Lookahead} {s : Sending}

/-- Each attempt writes the front of what is left. -/
theorem sound_attempt (hcut : response = sent ++ left) (hne : left ≠ [])
    (hwritten : l.channel.written = before ++ sent) : (attempt left l).Sound before response := by
  obtain ⟨w, hleft, hwrote, -⟩ := l.wrote_writeAll left
  obtain ⟨hdone, hwaits, hfails⟩ := Lookahead.writeAll_outcome (l := l) hne
  rw [← hwrote.failing?_eq] at hwaits hfails
  unfold attempt
  generalize l.writeAll left = r at hleft hwrote hdone hwaits hfails ⊢
  obtain ⟨a, rest, l'⟩ := r
  have hsent : ∃ sent, response = sent ++ rest ∧ l'.channel.written = before ++ sent :=
    ⟨sent ++ w, by rw [hcut, hleft, List.append_assoc], by
      rw [hwrote.written_eq, hwritten, List.append_assoc]⟩
  cases a with
  | ready u => exact ⟨hsent, ⟨fun _ => hdone.1 rfl, fun _ => rfl⟩, nofun, nofun⟩
  | blocked => exact ⟨hsent, ⟨nofun, fun h => nomatch hdone.2 h⟩, fun _ => hwaits rfl, nofun⟩
  | failed f =>
    refine ⟨hsent, ⟨nofun, fun h => nomatch hdone.2 h⟩, nofun, fun f' hf => ?_⟩
    cases hf
    exact hfails f rfl

/-- **Whatever the client does**, the next attempt goes on where the one before stopped. -/
theorem Sound.step (h : s.Sound before response) (es : List Channel.Event) :
    (s.step es).Sound before response := by
  unfold Sending.step
  cases hresult : s.result with
  | some result => exact h
  | none =>
    obtain ⟨sent, hcut, hwritten⟩ := h.cut
    have hleft : s.left ≠ [] := fun hnil => by
      rw [h.done_iff.2 hnil] at hresult
      cases hresult
    exact sound_attempt hcut hleft ((Lookahead.written_applyAll es s.stream).trans hwritten)

/-- **Any number of attempts** send the response from the front, each going on where the last one
    stopped. -/
theorem Sound.run (h : s.Sound before response) (moments : List (List Channel.Event)) :
    (s.run moments).Sound before response := by
  induction moments generalizing s with
  | nil => exact h
  | cons es moments ih => exact ih (h.step es)

/-- What a client gets of `response`, `before` having been written in front of it, and how the
    sending ends. -/
structure Delivers (before response : Bytes) (s : Sending) : Prop where
  /-- It gets the front of the response. -/
  front : ∃ sent, sent <+: response ∧ s.stream.channel.written = before ++ sent
  /-- The sending ends well just if the client has got all of it. -/
  done_iff : s.result = some (.ok ()) ↔ s.stream.channel.written = before ++ response
  /-- It goes on only where writes do not fail but there is no room. -/
  waits : s.result = none → s.stream.channel.failing? = none ∧ s.stream.channel.room = some 0
  /-- It fails only as writes do. -/
  fails : ∀ f, s.result = some (.error f) → s.stream.channel.failing? = some f

/-- What is known of a response on its way says how much of it is delivered. -/
theorem Sound.delivers (h : s.Sound before response) : s.Delivers before response where
  front := by
    obtain ⟨sent, hcut, hwritten⟩ := h.cut
    exact ⟨sent, ⟨s.left, hcut.symm⟩, hwritten⟩
  done_iff := by
    obtain ⟨sent, hcut, hwritten⟩ := h.cut
    rw [h.done_iff, hwritten, hcut, List.append_cancel_left_eq]
    exact ⟨fun hnil => by rw [hnil, List.append_nil], List.self_eq_append_right.1⟩
  waits := h.waits
  fails := h.fails

/-- **A response that is sent** is written in front of nothing, up to where the client stops taking
    it. -/
theorem delivers_run (hne : response ≠ []) (l : Lookahead) (moments : List (List Channel.Event)) :
    ((attempt response l).run moments).Delivers l.channel.written response := by
  have hcut : response = [] ++ response := rfl
  exact ((sound_attempt hcut hne (List.append_nil _).symm).run moments).delivers

end Sending

namespace Response

/-- An error is never without octets. -/
theorem error_ne_nil (code : Nat) (reason body : String) : error code reason body ≠ [] := by
  rw [error, octets_errorHead, List.append_assoc]
  exact List.append_ne_nil_of_right_ne_nil _ (List.cons_ne_nil _ _)

/-- **An error answer is delivered as far as the client takes it.**  It tells by itself where it
    ends, with any reason on one line and any body.  Its sending, tried again after whatever the
    client does, writes the front of it and nothing else; it ends well just if all of it is written,
    waits for nothing but room, and fails as the stream does. -/
theorem error_delivered (code : Nat) (reason body : String) (hreason : Text.OneLine (text reason))
    (l : Lookahead) (moments : List (List Channel.Event)) :
    SelfDelimited (error code reason body) (octets body) ∧
      ((Sending.attempt (error code reason body) l).run moments).Delivers l.channel.written
        (error code reason body) :=
  ⟨selfDelimited_error code reason body hreason,
    Sending.delivers_run (error_ne_nil code reason body) l moments⟩

/-- An answer with an empty line and a letter of two octets in its body, to a client that takes
    forty octets, then twenty more, and then goes away. -/
theorem error_delivered_in_part :
    let answer := error 502 "Bad Gateway" "\r\n\r\né"
    let client := Lookahead.ofChannel (.idle (some 40))
    let s := (Sending.attempt answer client).run [[.widen (some 20)], [.hangUp]]
    SelfDelimited answer (octets "\r\n\r\né") ∧ s.Delivers [] answer ∧
      s.stream.channel.written = answer.take 60 ∧ s.result = some (.error (.bare .brokenPipe)) ∧
      (octets "\r\n\r\né").length = 6 := by
  have h := error_delivered 502 "Bad Gateway" "\r\n\r\né" (by decide) (.ofChannel (.idle (some 40)))
    [[.widen (some 20)], [.hangUp]]
  exact ⟨h.1, h.2, by decide +kernel, by decide +kernel, by decide +kernel⟩

end Response

/-! ### Answers of a session -/

/-- A session answers a failure by attempts of this kind: it goes on as long as the sending does,
    and is over with it. -/
theorem Session.tell_refusing {s : Session} {failure : Failure} {left : Bytes}
    (hphase : s.phase = .refusing failure left) (now : Nat) :
    ((Sending.attempt left s.client).result = none → s.tell now =
        { s with
          client := (Sending.attempt left s.client).stream
          phase := .refusing failure (Sending.attempt left s.client).left }) ∧
      ((Sending.attempt left s.client).result ≠ none →
        (s.tell now).client = (Sending.attempt left s.client).stream.close ∧
          (s.tell now).isOver = true) := by
  have hfail : ∀ s' : Session, (s'.fail .httpConnect (.proxy failure)).client = s'.client.close ∧
      (s'.fail .httpConnect (.proxy failure)).isOver = true := by
    intro s'
    unfold Session.fail
    split <;> exact ⟨rfl, rfl⟩
  unfold Session.tell Sending.attempt
  rw [hphase]
  dsimp only
  rcases s.client.writeAll left with ⟨a, rest, l⟩
  cases a with
  | ready u =>
    dsimp only
    exact ⟨nofun, fun _ => hfail _⟩
  | blocked => exact ⟨fun _ => rfl, fun h => absurd rfl h⟩
  | failed f =>
    dsimp only
    exact ⟨nofun, fun _ => hfail _⟩

end ForwardProxy
