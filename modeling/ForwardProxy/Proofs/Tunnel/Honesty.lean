import ForwardProxy.Proofs.Tunnel.Operations

namespace ForwardProxy

/-!
# What a tunnel knows about itself

A half that ends by itself has met the end of the stream that it reads, after everything was written
and counted, or a fault that something explains.  The other half is stopped then, and has nothing to
tell.  All this holds at every moment, whatever the tunnel does next.

* `Half.Carries` — what a half has taken, written and counted.
* `TunnelRun.Drained` — a side read to its end, everything it sent delivered and counted.
* `TunnelRun.EndedFirst` — a half that has ended by itself.
* `TunnelRun.Honest` — what a tunnel knows about itself.
* `TunnelRun.Honest.act`, `TunnelRun.Honest.move`, `TunnelRun.Honest.moves` — no move spoils it.
-/

/-! ### The end of a stream -/

/-- A channel with an end in it has ended. -/
theorem Channel.ended_of_finish_mem {c : Channel} (h : Item.ending .finish ∈ c.items) :
    c.ended = true := by
  rcases List.mem_append.1 h with h | h
  · obtain ⟨a, -, ha⟩ := List.mem_flatMap.1 h
    cases a with
    | data bs =>
      obtain ⟨b, -, hb⟩ := List.mem_map.1 ha
      cases hb
    | fault f =>
      by_cases hk : f.kind = .interrupted <;> simp [Arrival.items, hk] at ha
  · split at h
    · assumption
    · cases h

/-- A read that could take octets and takes none has met the end of the stream. -/
theorem Lookahead.of_read_end {l : Lookahead} {n : Nat} (hp : l.Proper) (hn : 0 < n)
    (h : (l.read n).1 = .ready []) : l.channel.ended = true ∧ l.unread = [] := by
  have hitems : l.items = [.ending .finish] := by
    unfold read at h
    split at h
    · rename_i he
      have hahead : l.ahead = [] := List.isEmpty_iff.1 (Bool.and_eq_true_iff.1 he).1
      rcases hr : l.channel.read n with ⟨a, c⟩
      rw [hr] at h
      have hend := Channel.items_read_of_end hp hn (hr.trans (Prod.ext h rfl))
      rw [items, hahead, hend.1]
      rfl
    · rcases hf : l.fill with ⟨a, m⟩
      rw [hf] at h
      cases a with
      | ready bs =>
        have hnil : bs = [] := by
          rcases List.take_eq_nil_iff.1 (Attempt.ready.inj h) with h0 | h0
          · omega
          · exact h0
        rw [hnil] at hf
        exact items_fill_of_end hp hf
      | blocked => cases h
      | failed f => cases h
  refine ⟨Channel.ended_of_finish_mem ?_, by rw [unread, hitems]; rfl⟩
  have hmem : Item.ending .finish ∈ l.items := by
    rw [hitems]
    exact List.mem_cons_self
  -- The end is in the channel: what was read ahead are octets.
  rcases List.mem_append.1 hmem with hmem | hmem
  · obtain ⟨b, -, hb⟩ := List.mem_map.1 hmem
    cases hb
  · exact hmem

/-! ### One half -/

/-- The size of the chunk that a half is writing. -/
def Half.chunk (h : Half) : Nat :=
  match h.state with
  | .writing _ size => size
  | _ => 0

/-- What a half has done: it has taken octets of `g`.  Until it ends, what it has not written yet is
    what it holds, and what it has not counted yet is the chunk that it is writing. -/
def Half.Carries (g : Lookahead) (base : Bytes) (h : Half) (src dst : Lookahead) : Prop :=
  ∃ taken, g.Follows taken src ∧ (h.hasEnded = false →
    base ++ taken = dst.channel.written ++ h.inflight ∧ taken.length = h.moved + h.chunk)

namespace Half

variable {g src src' dst dst' : Lookahead} {base : Bytes} {h : Half} {f : Fault}

/-- A fault that ends a half which was reading is what the read came to. -/
theorem eq_failed_of_afterRead {a : Attempt Bytes} (hreading : h.state = .reading)
    (hf : (h.afterRead a).fault? = some f) : a = .failed f := by
  cases a with
  | ready bs =>
    cases bs with
    | nil => cases hf
    | cons b bs => cases hf
  | blocked =>
    rw [show h.afterRead .blocked = h from rfl, fault?_of_open (by rw [hasEnded, hreading])] at hf
    cases hf
  | failed f' => rw [Option.some.inj hf]

/-- A half that was reading ends without a fault only at the end of the stream. -/
theorem eq_ready_of_afterRead {a : Attempt Bytes} (hreading : h.state = .reading)
    (hended : (h.afterRead a).hasEnded = true) (hf : (h.afterRead a).fault? = none) :
    a = .ready [] := by
  cases a with
  | ready bs =>
    cases bs with
    | nil => rfl
    | cons b bs => cases hended
  | blocked => exact absurd hreading (ne_reading_of_hasEnded hended)
  | failed f => cases hf

/-- A fault that ends a half which was writing is what the write came to. -/
theorem eq_failed_of_afterWrite {left : Bytes} {size : Nat} {a : Attempt Nat}
    (hwriting : h.state = .writing left size) (hf : (h.afterWrite left size a).fault? = some f) :
    a = .failed f := by
  cases a with
  | ready k =>
    simp only [afterWrite] at hf
    split at hf <;> cases hf
  | blocked =>
    rw [show h.afterWrite left size .blocked = h from rfl,
      fault?_of_open (by rw [hasEnded, hwriting])] at hf
    cases hf
  | failed f' => rw [Option.some.inj hf]

/-- A half that was writing ends only for a fault. -/
theorem isSome_of_afterWrite {left : Bytes} {size : Nat} {a : Attempt Nat}
    (hwriting : h.state = .writing left size)
    (hended : (h.afterWrite left size a).hasEnded = true) :
    (h.afterWrite left size a).fault?.isSome = true := by
  cases a with
  | ready k =>
    simp only [afterWrite] at hended
    split at hended <;> cases hended
  | blocked =>
    rw [show h.afterWrite left size .blocked = h from rfl, hasEnded, hwriting] at hended
    cases hended
  | failed f => rfl

/-- A half that is stopped has nothing to tell. -/
theorem fault?_stop (h : Half) : h.stop.fault? = h.fault? := by
  unfold stop
  split
  · rfl
  · rename_i hopen
    exact (fault?_of_open (Bool.eq_false_iff.2 hopen)).symm

namespace Carries

/-- What a half has done that reads again. -/
theorem of_reading (hc : h.Carries g base src dst) (hreading : h.state = .reading) :
    ∃ taken, g.Follows taken src ∧ base ++ taken = dst.channel.written ∧
      taken.length = h.moved := by
  obtain ⟨taken, hfollows, hopen⟩ := hc
  obtain ⟨hcut, hcount⟩ := hopen (by rw [hasEnded, hreading])
  rw [inflight, hreading, List.append_nil] at hcut
  rw [chunk, hreading] at hcount
  exact ⟨taken, hfollows, hcut, hcount⟩

/-- What a half has done that writes a chunk. -/
theorem of_writing {left : Bytes} {size : Nat} (hc : h.Carries g base src dst)
    (hwriting : h.state = .writing left size) :
    ∃ taken, g.Follows taken src ∧ base ++ taken = dst.channel.written ++ left ∧
      taken.length = h.moved + size := by
  obtain ⟨taken, hfollows, hopen⟩ := hc
  obtain ⟨hcut, hcount⟩ := hopen (by rw [hasEnded, hwriting])
  rw [inflight, hwriting] at hcut
  rw [chunk, hwriting] at hcount
  exact ⟨taken, hfollows, hcut, hcount⟩

/-- A half that has read carries what it took. -/
theorem afterRead {a : Attempt Bytes} (hc : h.Carries g base src dst)
    (hreading : h.state = .reading) (ht : src.Took a.taken src') :
    (h.afterRead a).Carries g base src' dst := by
  obtain ⟨taken, hfollows, hcut, hcount⟩ := hc.of_reading hreading
  refine ⟨taken ++ a.taken, hfollows.took ht, fun hopen => ?_⟩
  cases a with
  | ready bs =>
    cases bs with
    | nil => cases hopen
    | cons b bs =>
      rw [← List.append_assoc, hcut, List.length_append, hcount]
      exact ⟨rfl, rfl⟩
  | blocked =>
    show base ++ (taken ++ []) = _ ++ h.inflight ∧ (taken ++ []).length = h.moved + h.chunk
    rw [List.append_nil, inflight_of_reading h hreading, chunk, hreading, List.append_nil]
    exact ⟨hcut, hcount⟩
  | failed f => cases hopen

/-- A half that has written carries what is left. -/
theorem afterWrite {left : Bytes} {size : Nat} {a : Attempt Nat} (hc : h.Carries g base src dst)
    (hwriting : h.state = .writing left size) (hw : dst.Wrote (a.wrote left) dst') :
    (h.afterWrite left size a).Carries g base src dst' := by
  obtain ⟨taken, hfollows, hcut, hcount⟩ := hc.of_writing hwriting
  refine ⟨taken, hfollows, fun hopen => ?_⟩
  rw [hw.written_eq, hcut, hcount, List.append_assoc]
  cases a with
  | ready k =>
    have hleft := Lookahead.take_append_left k left
    unfold Half.afterWrite
    by_cases hk : k < left.length
    · simp only [hk, if_true] at hleft ⊢
      exact ⟨congrArg _ hleft, rfl⟩
    · simp only [hk, if_false] at hleft ⊢
      exact ⟨congrArg _ hleft, rfl⟩
  | blocked =>
    show _ ++ left = _ ++ ([] ++ h.inflight) ∧ h.moved + size = h.moved + h.chunk
    rw [inflight, chunk, hwriting]
    exact ⟨rfl, rfl⟩
  | failed f => cases hopen

/-- A chunk that is written is counted. -/
theorem counted {size : Nat} (hc : h.Carries g base src dst)
    (hwritten : h.state = .writing [] size) :
    (⟨h.moved + size, .reading⟩ : Half).Carries g base src dst := by
  obtain ⟨taken, hfollows, hcut, hcount⟩ := hc.of_writing hwritten
  exact ⟨taken, hfollows, fun _ => ⟨hcut, hcount⟩⟩

/-- Stopping a half leaves what it has carried. -/
theorem stop (hc : h.Carries g base src dst) : h.stop.Carries g base src dst := by
  obtain ⟨taken, hfollows, -⟩ := hc
  refine ⟨taken, hfollows, fun hopen => ?_⟩
  rw [h.stop_spec.1] at hopen
  cases hopen

/-- The other half reads where this one writes. -/
theorem took {bs : Bytes} (hc : h.Carries g base src dst) (ht : dst.Took bs dst') :
    h.Carries g base src dst' := by
  obtain ⟨taken, hfollows, hopen⟩ := hc
  exact ⟨taken, hfollows, by rw [ht.written_eq]; exact hopen⟩

/-- The other half writes where this one reads. -/
theorem wrote {bs : Bytes} (hc : h.Carries g base src dst) (hw : src.Wrote bs src') :
    h.Carries g base src' dst := by
  obtain ⟨taken, hfollows, hopen⟩ := hc
  exact ⟨taken, hfollows.wrote hw, hopen⟩

/-- Closing the stream that is read leaves what was carried. -/
theorem close_src (hc : h.Carries g base src dst) : h.Carries g base src.close dst := by
  obtain ⟨taken, hfollows, hopen⟩ := hc
  exact ⟨taken, hfollows.close, hopen⟩

/-- Closing the stream that is written to leaves what was carried. -/
theorem close_dst (hc : h.Carries g base src dst) : h.Carries g base src dst.close := hc

/-- A half carries on while its source goes on. -/
theorem apply_src (hc : h.Carries g base src dst) (e : Channel.Event) :
    h.Carries (g.apply e) base (src.apply e) dst := by
  obtain ⟨taken, hfollows, hopen⟩ := hc
  exact ⟨taken, hfollows.apply e, hopen⟩

/-- What the reader of a half does leaves what was carried. -/
theorem apply_dst (hc : h.Carries g base src dst) (e : Channel.Event) :
    h.Carries g base src (dst.apply e) := by
  obtain ⟨taken, hfollows, hopen⟩ := hc
  exact ⟨taken, hfollows, by rw [Lookahead.written_apply]; exact hopen⟩

end Carries

end Half

/-! ### Both halves -/

namespace TunnelRun

/-- A side has been read to its end: `g` is its stream as nobody has read anything of it.  The
    stream across, on which `base` stood before, has got everything, and it was counted. -/
structure Drained (g : Lookahead) (base : Bytes) (side : Side) (ops : List Operation) (moved : Nat)
    (dst : Lookahead) : Prop where
  metEnd : ∃ o ∈ ops, o.side = side ∧ o.metEnd = true
  ended : g.channel.ended = true
  delivered : dst.channel.written = base ++ g.unread
  counted : moved = g.unread.length

/-- A side that has been read to its end stays so whatever is tried later. -/
theorem Drained.append {g dst : Lookahead} {base : Bytes} {side : Side} {ops : List Operation}
    {moved : Nat} (h : Drained g base side ops moved dst) (more : List Operation) :
    Drained g base side (ops ++ more) moved dst := by
  obtain ⟨o, ho, hend⟩ := h.metEnd
  exact ⟨⟨o, List.mem_append_left _ ho, hend⟩, h.ended, h.delivered, h.counted⟩

/-- Behind the end of a stream nothing counts. -/
theorem Drained.apply_src {g dst : Lookahead} {base : Bytes} {side : Side} {ops : List Operation}
    {moved : Nat} (h : Drained g base side ops moved dst) (e : Channel.Event) :
    Drained (g.apply e) base side ops moved dst := by
  obtain ⟨hitems, hended⟩ := Lookahead.items_apply_of_ended h.ended e
  have hunread : (g.apply e).unread = g.unread := congrArg Item.octets hitems
  exact ⟨h.metEnd, hended, by rw [hunread, h.delivered], by rw [hunread, h.counted]⟩

/-- A side that has been read to its end stays so whatever the other one does. -/
theorem Drained.apply_dst {g dst : Lookahead} {base : Bytes} {side : Side} {ops : List Operation}
    {moved : Nat} (h : Drained g base side ops moved dst) (e : Channel.Event) :
    Drained g base side ops moved (dst.apply e) :=
  ⟨h.metEnd, h.ended, by rw [Lookahead.written_apply, h.delivered], h.counted⟩

/-- The half that reads a side has ended by itself: for a fault, or as it has drained the side. -/
def EndedFirst (g : Side → Lookahead) (base : Side → Bytes) (ops : List Operation) (r : TunnelRun)
    (side : Side) : Prop :=
  (r.half side).hasEnded = true ∧ ((r.half side).fault?.isSome = true ∨
    Drained (g side) (base side.other) side ops (r.half side).moved (r.on side.other).stream)

/-- What a tunnel tells about itself at every moment, if each side has sent what `g` tells, and
    `base` stood on the streams before. -/
structure Honest (span begun : Nat) (g : Side → Lookahead) (base : Side → Bytes)
    (ops : List Operation) (r : TunnelRun) : Prop where
  carries : ∀ side,
    (r.half side).Carries (g side) (base side.other) (r.on side).stream (r.on side.other).stream
  proper : ∀ side, (r.on side).stream.Proper
  genuine : ∀ side, (r.on side).stream.channel.Genuine
  dated : ∀ side, Dated span begun r.now side ops (r.on side).timer
  /-- The streams themselves raise no idle faults. -/
  real : ∀ o ∈ ops, ∀ f, o.fault? = some f → f.isIdle = false
  explained : ∀ side f, (r.half side).fault? = some f → Explained span begun ops f
  /-- The first half to end has not been stopped. -/
  first : ∀ side, (r.half side).hasEnded = true → ∃ side, EndedFirst g base ops r side

variable {span begun : Nat} {side : Side} {ops : List Operation}

section

variable {g : Side → Lookahead} {base : Side → Bytes} {r : TunnelRun}
  {p : Half × IdleStream Lookahead × IdleStream Lookahead} {more : List Operation}

/-- What the half across does changes nothing about it. -/
theorem EndedFirst.put (h : EndedFirst g base ops r side.other)
    (hwritten : p.2.1.stream.channel.written = (r.on side).stream.channel.written) :
    EndedFirst g base (ops ++ more) (r.put side p) side.other := by
  obtain ⟨hended, hwhy⟩ := h
  rw [Side.other_other] at hwhy
  rw [EndedFirst, half_other_put, Side.other_other, on_put]
  refine ⟨hended, hwhy.imp_right fun hd => ?_⟩
  have hmore := hd.append more
  exact ⟨hmore.metEnd, hmore.ended, hwritten.trans hmore.delivered, hmore.counted⟩

namespace Honest

/-- What the half that writes to a side has done. -/
theorem carries_other (hh : Honest span begun g base ops r) (side : Side) :
    (r.half side.other).Carries (g side.other) (base side) (r.on side.other).stream
      (r.on side).stream := by
  have hother := hh.carries side.other
  rw [Side.other_other] at hother
  exact hother

/-- A half has changed, and its two streams. -/
theorem put (hh : Honest span begun g base ops r)
    (hcarries : p.1.Carries (g side) (base side.other) p.2.1.stream p.2.2.stream)
    (hcarries' : (r.half side.other).Carries (g side.other) (base side) p.2.2.stream p.2.1.stream)
    (hproper : p.2.1.stream.Proper ∧ p.2.2.stream.Proper)
    (hgenuine : p.2.1.stream.channel.Genuine ∧ p.2.2.stream.channel.Genuine)
    (hdated : Dated span begun r.now side (ops ++ more) p.2.1.timer ∧
      Dated span begun r.now side.other (ops ++ more) p.2.2.timer)
    (hreal : ∀ o ∈ more, ∀ f, o.fault? = some f → f.isIdle = false)
    (hexplained : ∀ f, p.1.fault? = some f → Explained span begun (ops ++ more) f)
    (hfirst : ∀ s, ((r.put side p).half s).hasEnded = true →
      ∃ s, EndedFirst g base (ops ++ more) (r.put side p) s) :
    Honest span begun g base (ops ++ more) (r.put side p) where
  -- Each clause is about both sides: this one has moved, and the other has been left or written to.
  carries := by
    refine Side.all side ?_ ?_
    · simpa only [half_put, on_put, on_other_put] using hcarries
    · simpa only [half_other_put, on_other_put, Side.other_other, on_put] using hcarries'
  proper := Side.all side (by simpa only [on_put] using hproper.1)
    (by simpa only [on_other_put] using hproper.2)
  genuine := Side.all side (by simpa only [on_put] using hgenuine.1)
    (by simpa only [on_other_put] using hgenuine.2)
  dated := Side.all side (by simpa only [on_put, now_put] using hdated.1)
    (by simpa only [on_other_put, now_put] using hdated.2)
  real o ho := (List.mem_append.1 ho).elim (hh.real o) (hreal o)
  explained := by
    refine Side.all side ?_ fun f hf => ?_
    · simpa only [half_put] using hexplained
    · rw [half_other_put] at hf
      exact (hh.explained _ f hf).append more
  first := hfirst

/-- A half that was running has moved.  If it has ended now, it has done so by itself; if not, the
    half that was first to end is the other one. -/
theorem first_put (hh : Honest span begun g base ops r) (hopen : (r.half side).hasEnded = false)
    (hwritten : p.2.1.stream.channel.written = (r.on side).stream.channel.written)
    (hended : p.1.hasEnded = true → p.1.fault?.isSome = true ∨
      Drained (g side) (base side.other) side (ops ++ more) p.1.moved p.2.2.stream) (s : Side)
    (hs : ((r.put side p).half s).hasEnded = true) :
    ∃ s, EndedFirst g base (ops ++ more) (r.put side p) s := by
  cases hnow : p.1.hasEnded with
  | true =>
    refine ⟨side, ?_⟩
    simpa only [EndedFirst, half_put, on_other_put] using And.intro hnow (hended hnow)
  | false =>
    rcases side.eq_or_eq_other s with rfl | rfl
    · rw [half_put, hnow] at hs
      cases hs
    · -- Had the half that moves been the first to end, it would not have moved.
      rw [half_other_put] at hs
      obtain ⟨first, hfirst⟩ := hh.first _ hs
      rcases side.eq_or_eq_other first with rfl | rfl
      · rw [EndedFirst, hopen] at hfirst
        cases hfirst.1
      · exact ⟨side.other, hfirst.put hwritten⟩

/-- A half that meets the end of the stream has drained the side. -/
theorem drained (hh : Honest span begun g base ops r) (hreading : (r.half side).state = .reading)
    (hend : ((r.on side).stream.read Half.chunkSize).1 = .ready []) {dst : Lookahead}
    (hdst : dst.channel.written = (r.on side.other).stream.channel.written) :
    Drained (g side) (base side.other) side
      (ops ++ [⟨r.now, side, .read ((r.on side).stream.read Half.chunkSize).1⟩])
      (r.half side).moved dst := by
  obtain ⟨taken, hfollows, hcut, hcount⟩ := (hh.carries side).of_reading hreading
  obtain ⟨hended, hunread⟩ := Lookahead.of_read_end (hh.proper side) (by decide) hend
  have hall : (g side).unread = taken := by rw [hfollows.unread_eq, hunread, List.append_nil]
  refine ⟨⟨_, List.mem_append_right _ List.mem_cons_self, rfl, ?_⟩, ?_, ?_, ?_⟩
  · rw [Operation.metEnd, hend]
  · rw [← hfollows.ended_eq, hended]
  · rw [hdst, hall, hcut]
  · rw [hall, hcount]

/-- A half reads once. -/
theorem read (hh : Honest span begun g base ops r) (hreading : (r.half side).state = .reading) :
    Honest span begun g base (ops ++ r.operation (.act side)) (r.move (.act side)) := by
  have hmove : r.move (.act side) = r.put side _ :=
    congrArg (r.put side) (Half.act_of_reading hreading (r.on side) (r.on side.other))
  have hoperation : r.operation (.act side) =
      [⟨r.now, side, .read ((r.on side).stream.read Half.chunkSize).1⟩] := by
    rw [operation, Half.operation, hreading]
  have hgenuine := Lookahead.genuine_read (hh.genuine side) Half.chunkSize
  have htook := (r.on side).took_read r.now Half.chunkSize
  rw [hmove, hoperation]
  refine hh.put ((hh.carries side).afterRead hreading htook) ((hh.carries_other side).took htook)
    ⟨htook.proper (hh.proper side), hh.proper _⟩ ⟨hgenuine.1, hh.genuine _⟩
    ⟨(hh.dated side).read _, (hh.dated _).rests ?_⟩ ?_ (fun f hf => ?_)
    (hh.first_put (by rw [Half.hasEnded, hreading]) htook.written_eq ?_)
  · intro o ho
    rw [List.mem_singleton.1 ho]
    exact (Side.other_ne side).symm
  · intro o ho f hf
    rw [List.mem_singleton.1 ho] at hf
    exact hgenuine.2 f (((Operation.cameTo_read _ _ _).fault?_iff f).1 hf)
  · exact explained_of_read (hh.dated side) (Half.eq_failed_of_afterRead hreading hf)
  · intro hended
    -- A read that ends the half without a fault has met the end of the stream.
    cases hfault : ((r.half side).afterRead ((r.on side).read r.now Half.chunkSize).1).fault? with
    | some f => exact .inl rfl
    | none =>
      have hend := Half.eq_ready_of_afterRead hreading hended hfault
      rw [hend]
      exact .inr (hh.drained hreading (eq_ready_of_read hend) rfl)

/-- A half writes once. -/
theorem write (hh : Honest span begun g base ops r) {left : Bytes} {size : Nat}
    (hwriting : (r.half side).state = .writing left size) (hne : left ≠ []) :
    Honest span begun g base (ops ++ r.operation (.act side)) (r.move (.act side)) := by
  have hmove : r.move (.act side) = r.put side _ :=
    congrArg (r.put side) (Half.act_of_writing hwriting hne (r.on side) (r.on side.other))
  have hoperation : r.operation (.act side) =
      [⟨r.now, side.other, .write ((r.on side.other).stream.write left).1⟩] := by
    rw [operation, Half.operation, hwriting]
    exact if_neg fun hnil => hne (List.isEmpty_iff.1 hnil)
  have hwrote := (r.on side.other).wrote_write r.now left
  rw [hmove, hoperation]
  -- The stream across was written to and its timer may have been set; the side that is read rests.
  refine hh.put ((hh.carries side).afterWrite hwriting hwrote)
    ((hh.carries_other side).wrote hwrote) ⟨hh.proper side, hwrote.proper (hh.proper _)⟩
    ⟨hh.genuine side, hwrote.genuine (hh.genuine _)⟩
    ⟨(hh.dated side).rests ?_, (hh.dated _).write _⟩ ?_ (fun f hf => ?_)
    (hh.first_put (by rw [Half.hasEnded, hwriting]) rfl ?_)
  · intro o ho
    rw [List.mem_singleton.1 ho]
    exact Side.other_ne side
  · intro o ho f hf
    rw [List.mem_singleton.1 ho] at hf
    exact (hh.genuine side.other).write left (((Operation.cameTo_write _ _ _).fault?_iff f).1 hf)
  · exact explained_of_write (hh.dated _) (Half.eq_failed_of_afterWrite hwriting hf)
  · exact fun hended => .inl (Half.isSome_of_afterWrite hwriting hended)

/-- A half counts a chunk that is written. -/
theorem count (hh : Honest span begun g base ops r) {size : Nat}
    (hwritten : (r.half side).state = .writing [] size) :
    Honest span begun g base (ops ++ r.operation (.act side)) (r.move (.act side)) := by
  have hmove : r.move (.act side) = r.put side _ :=
    congrArg (r.put side) (Half.act_of_written hwritten (r.on side) (r.on side.other))
  have hoperation : r.operation (.act side) = [] := by
    rw [operation, Half.operation, hwritten]
    rfl
  rw [hmove, hoperation]
  exact hh.put ((hh.carries side).counted hwritten) (hh.carries_other side)
    ⟨hh.proper side, hh.proper _⟩ ⟨hh.genuine side, hh.genuine _⟩
    ⟨(hh.dated side).still, (hh.dated _).still⟩ (fun _ ho => absurd ho List.not_mem_nil) nofun
    (hh.first_put (by rw [Half.hasEnded, hwritten]) rfl nofun)

/-- **One operation** of a half. -/
theorem act (hh : Honest span begun g base ops r) (side : Side) :
    Honest span begun g base (ops ++ r.operation (.act side)) (r.move (.act side)) := by
  cases hstate : (r.half side).state with
  | reading => exact hh.read hstate
  | writing left size =>
    cases left with
    | nil => exact hh.count hstate
    | cons b bs => exact hh.write hstate (List.cons_ne_nil b bs)
  | ended fault? =>
    have hended : (r.half side).hasEnded = true := by rw [Half.hasEnded, hstate]
    have hmove : r.move (.act side) = r := by
      rw [move, Half.act_of_hasEnded hended, put_self]
    have hoperation : r.operation (.act side) = [] := by rw [operation, Half.operation, hstate]
    rw [hmove, hoperation, List.append_nil]
    exact hh

/-- A half is stopped, as the other one has ended.  The half that ended first has not been stopped:
    it had ended before. -/
theorem stop (hh : Honest span begun g base ops r) (side : Side)
    (hended : (r.half side.other).hasEnded = true) :
    Honest span begun g base ops
      (r.put side ((r.half side).stop, r.on side, r.on side.other)) := by
  rw [← List.append_nil ops]
  refine hh.put (hh.carries side).stop (hh.carries_other side) ⟨hh.proper side, hh.proper _⟩
    ⟨hh.genuine side, hh.genuine _⟩ ⟨(hh.dated side).still, (hh.dated _).still⟩
    (fun _ ho => absurd ho List.not_mem_nil) (fun f hf => ?_) fun _ _ => ?_
  · rw [Half.fault?_stop] at hf
    exact (hh.explained side f hf).append []
  · obtain ⟨first, hfirst⟩ := hh.first _ hended
    refine ⟨first, ?_⟩
    rcases side.eq_or_eq_other first with rfl | rfl
    · have hsame : (r.half first).stop = r.half first := if_pos hfirst.1
      rw [hsame, put_self, List.append_nil]
      exact hfirst
    · exact hfirst.put rfl

/-- A half shuts the stream that it was writing to. -/
theorem shut (hh : Honest span begun g base ops r) (side : Side) :
    Honest span begun g base ops
      (r.put side (r.half side, r.on side, (r.on side.other).close)) := by
  have hgenuine := hh.genuine side.other
  rw [← List.append_nil ops]
  refine hh.put (hh.carries side).close_dst (hh.carries_other side).close_src
    ⟨hh.proper side, hh.proper side.other⟩ ⟨hh.genuine side, hgenuine.reads, hgenuine.writes⟩
    ⟨(hh.dated side).still, (hh.dated side.other).still⟩ (fun _ ho => absurd ho List.not_mem_nil)
    (fun f hf => (hh.explained side f hf).append []) fun s hs => ?_
  have hs' : (r.half s).hasEnded = true := by
    rcases side.eq_or_eq_other s with rfl | rfl
    · simpa only [half_put] using hs
    · simpa only [half_other_put] using hs
  -- The half that ended first is the same as before, and closing takes nothing back of what it
  -- delivered.
  obtain ⟨first, hfirst⟩ := hh.first s hs'
  refine ⟨first, ?_⟩
  rcases side.eq_or_eq_other first with rfl | rfl
  · obtain ⟨hended, hwhy⟩ := hfirst
    rw [EndedFirst, half_put, on_other_put, List.append_nil]
    exact ⟨hended, hwhy.imp_right fun hd => ⟨hd.metEnd, hd.ended, hd.delivered, hd.counted⟩⟩
  · exact hfirst.put rfl

/-- A side does something, and `g'` is what it has sent by then. -/
theorem apply (hh : Honest span begun g base ops r) {e : Channel.Event} (he : e.Genuine)
    {g' : Side → Lookahead} (hg : g' side = (g side).apply e)
    (hg' : g' side.other = g side.other) :
    Honest span begun g' base ops (r.happen (.stream side e)) := by
  have hon : (r.happen (.stream side e)).on side = (r.on side).apply e := by cases side <;> rfl
  have hon' : (r.happen (.stream side e)).on side.other = r.on side.other := by cases side <;> rfl
  have hhalf s : (r.happen (.stream side e)).half s = r.half s := by cases side <;> cases s <;> rfl
  have hnow : (r.happen (.stream side e)).now = r.now := by cases side <;> rfl
  -- What a side does adds to its own stream; the half across finds the stream that it writes to as
  -- full as before.
  refine ⟨Side.all side ?_ ?_, Side.all side ?_ ?_, Side.all side ?_ ?_, Side.all side ?_ ?_,
    hh.real, fun s f hf => ?_, fun s hs => ?_⟩
  · rw [hon, hon', hhalf, hg]
    exact (hh.carries side).apply_src e
  · rw [Side.other_other, hon, hon', hhalf, hg']
    exact (hh.carries_other side).apply_dst e
  · rw [hon]
    exact (hh.proper side).apply e
  · rw [hon']
    exact hh.proper side.other
  · rw [hon]
    exact (hh.genuine side).apply he
  · rw [hon']
    exact hh.genuine side.other
  · rw [hon, hnow]
    exact hh.dated side
  · rw [hon', hnow]
    exact hh.dated side.other
  · rw [hhalf] at hf
    exact hh.explained s f hf
  · rw [hhalf] at hs
    obtain ⟨first, hended, hwhy⟩ := hh.first s hs
    refine ⟨first, ?_⟩
    rw [EndedFirst, hhalf]
    refine ⟨hended, hwhy.imp_right fun hd => ?_⟩
    rcases side.eq_or_eq_other first with rfl | rfl
    · rw [hg, hon']
      exact hd.apply_src e
    · rw [hg', Side.other_other, hon]
      rw [Side.other_other] at hd
      exact hd.apply_dst e

/-- **One event**, whatever it is. -/
theorem happen (hh : Honest span begun g base ops r) {e : Event}
    (he : ∀ side, ∀ e' ∈ e.sent side, e'.Genuine) :
    Honest span begun (fun side => (g side).applyAll (e.sent side)) base ops (r.happen e) := by
  cases e with
  | stream side e =>
    have hsent : Event.sent side (.stream side e) = [e] := if_pos rfl
    have hsent' : Event.sent side.other (.stream side e) = [] :=
      if_neg fun h => side.other_ne h.symm
    refine hh.apply (he side e ?_) ?_ ?_
    · rw [hsent]
      exact List.mem_cons_self
    · rw [hsent]
      rfl
    · rw [hsent']
      rfl
  | wait time =>
    exact ⟨hh.carries, hh.proper, hh.genuine,
      fun side => (hh.dated side).later (Nat.le_add_right r.now time), hh.real, hh.explained,
      hh.first⟩
  | reorder turn =>
    exact ⟨hh.carries, hh.proper, hh.genuine, hh.dated, hh.real, hh.explained, hh.first⟩

/-- **One move**, whatever it is. -/
theorem move (hh : Honest span begun g base ops r) {m : Move}
    (hm : ∀ side, ∀ e ∈ m.sent side, e.Genuine) :
    Honest span begun (fun side => (g side).applyAll (m.sent side)) base (ops ++ r.operation m)
      (r.move m) := by
  cases m with
  | act side => exact hh.act side
  | stop side =>
    show Honest span begun g base (ops ++ []) (r.move (.stop side))
    rw [List.append_nil, TunnelRun.move]
    split
    · exact hh.stop side ‹_›
    · exact hh
  | shut side =>
    show Honest span begun g base (ops ++ []) (r.move (.shut side))
    rw [List.append_nil, TunnelRun.move]
    split
    · exact hh.shut side
    · exact hh
  | event e =>
    show Honest span begun _ base (ops ++ []) (r.happen e)
    rw [List.append_nil]
    exact hh.happen hm

/-- **Any number of moves**, in any order. -/
theorem moves (hh : Honest span begun g base ops r) {ms : List Move}
    (hms : ∀ side, ∀ e ∈ ms.flatMap (Move.sent side), e.Genuine) :
    Honest span begun (fun side => (g side).applyAll (ms.flatMap (Move.sent side))) base
      (ops ++ r.operations ms) (r.moves ms) := by
  induction ms generalizing g ops r with
  | nil =>
    show Honest span begun g base (ops ++ []) r
    rw [List.append_nil]
    exact hh
  | cons m ms ih =>
    have hmove := hh.move (m := m) fun side e he => hms side e (by
      rw [List.flatMap_cons]
      exact List.mem_append_left _ he)
    have hmoves := ih hmove fun side e he => hms side e (by
      rw [List.flatMap_cons]
      exact List.mem_append_right _ he)
    simp only [← Lookahead.applyAll_append, List.append_assoc] at hmoves
    exact hmoves

end Honest

end

end TunnelRun

end ForwardProxy
