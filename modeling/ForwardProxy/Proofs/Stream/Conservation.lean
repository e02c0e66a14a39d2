import ForwardProxy.Proofs.Stream.Exact

namespace ForwardProxy

/-!
# Nothing is lost by reading ahead

Whatever is done with a stream that is read ahead, in whatever order, and however it comes out: what
was taken from it, what is read ahead and what is left in its channel make up what its other side
has sent.

* `Channel.sent` — what the other side of a channel has sent.
* `Lookahead.Step` — something that is done with a stream, by the program or by its other side.
* `Lookahead.takenBy` — what a step takes from the stream; most steps take nothing.
* `Lookahead.Follows.steps` — one step and a run of them keep account of what is taken.
* `Lookahead.conserved` — the account of every run, and what looking ahead tells in it.
-/

/-! ### What was sent -/

namespace Channel

/-- Whether the stream ends with an event. -/
def Event.isEnd : Event → Bool
  | finish => true
  | hangUp => true
  | _ => false

/-- What the other side has sent before it ended the stream. -/
def sent (es : List Event) : Bytes := (es.takeWhile fun e => !e.isEnd).flatMap Event.octets

/-- The octets that have arrived and are not read yet. -/
def unread (c : Channel) : Bytes := Item.octets c.items

/-- An event that does not end the input brings the octets that it sends. -/
theorem octets_items (e : Event) (h : e.isEnd = false) : Item.octets e.items = e.octets := by
  cases e with
  | send bs => exact Item.octets_map bs
  | failRead f => exact Lookahead.octets_fault_items f
  | finish => cases h
  | hangUp => cases h
  | failWrite f => rfl
  | widen amount => rfl

/-- Nothing that arrives ends the input. -/
theorem ended_arrive (c : Channel) (a : Arrival) : (c.arrive a).ended = c.ended := by
  unfold arrive
  split <;> rfl

/-- The input has ended after an event exactly if it had before, or the event ends it. -/
theorem ended_apply (c : Channel) (e : Event) : (c.apply e).ended = (c.ended || e.isEnd) := by
  cases e with
  | send bs =>
    simp only [apply, Event.isEnd, Bool.or_false]
    split
    · rfl
    · exact c.ended_arrive _
  | failRead f => simpa [apply, Event.isEnd] using c.ended_arrive _
  | widen amount => cases amount <;> simp [apply, Event.isEnd]
  | _ => simp [apply, Event.isEnd]

/-- A channel of which nobody reads anything holds what was sent, and nothing that was sent behind
    the end of the stream. -/
theorem unread_applyAll (c : Channel) (es : List Event) :
    (c.applyAll es).unread = c.unread ++ if c.ended then [] else sent es := by
  induction es generalizing c with
  | nil => simp [applyAll, sent]
  | cons e es ih =>
    show ((c.apply e).applyAll es).unread = _
    rw [ih (c.apply e), ended_apply, unread]
    cases hended : c.ended with
    | true =>
      rw [(items_apply_of_ended hended e).1]
      rfl
    | false =>
      rw [items_apply hended, Item.octets_append, List.append_assoc]
      cases he : e.isEnd with
      | true =>
        -- The end is met as such and brings no octets.
        cases e <;> simp_all [sent, Event.items, Event.isEnd, Item.octets, unread]
      | false =>
        rw [octets_items e he]
        simp [sent, he, unread]

end Channel

namespace Lookahead

variable {g l l' : Lookahead} {b : UInt8} {taken : Bytes}

/-! ### Steps -/

/-- Something that is done with a stream, by the program or by its other side.  What cannot be done
    yet may be given up half done, or be tried again as a step for the rest of it. -/
inductive Step where
  | peek
  | fill
  | read (n : Nat)
  | readExact (n : Nat)
  | readUntil (delimiter : UInt8)
  | consume (n : Nat)
  | write (bs : Bytes)
  | writeAll (bs : Bytes)
  /-- Nothing is held back of what was written. -/
  | flush
  | close
  | event (e : Channel.Event)
  deriving DecidableEq, Repr

/-- The stream after a step. -/
def step (l : Lookahead) : Step → Lookahead
  | .peek => l.peek.2
  | .fill => l.fill.2
  | .read n => (l.read n).2
  | .readExact n => (l.readExact n).2.2
  | .readUntil delimiter => (l.readUntil delimiter).2.2
  | .consume n => l.consume n
  | .write bs => (l.write bs).2
  | .writeAll bs => (l.writeAll bs).2.2
  | .flush => l
  | .close => l.close
  | .event e => l.apply e

/-- The stream after a run of steps. -/
def steps (l : Lookahead) (ss : List Step) : Lookahead := ss.foldl step l

/-- What a step takes from the stream: what a read returns, also one that is given up for want of
    more or fails on the way, and what is consumed of the octets read ahead. -/
def takenBy (l : Lookahead) : Step → Bytes
  | .read n => (l.read n).1.taken
  | .readExact n => (l.readExact n).2.1
  | .readUntil delimiter => (l.readUntil delimiter).2.1
  | .consume n => l.ahead.take n
  | _ => []

/-- What a run of steps takes from the stream, in order. -/
def takenBySteps (l : Lookahead) : List Step → Bytes
  | [] => []
  | s :: ss => l.takenBy s ++ (l.step s).takenBySteps ss

/-- What the other side does in a step. -/
def Step.events : Step → List Channel.Event
  | event e => [e]
  | _ => []

/-- Whether a step is one of reading. -/
def Step.isReading : Step → Bool
  | peek | fill | read _ | readExact _ | readUntil _ | consume _ => true
  | _ => false

/-- Whether a step leaves to the reader what there is to read. -/
def Step.isKeeping : Step → Bool
  | read _ | readExact _ | readUntil _ | consume _ => false
  | _ => true

/-! ### Reading up to an octet -/

/-- The scanner in the end, however the scan has ended. -/
def Scan.state {σ : Type} : Scan σ → σ
  | stopped s | ended s | blocked s | failed _ s => s

/-- A scanner that notes the octets it is given, up to a delimiter. -/
def note (delimiter : UInt8) (noted : Bytes) (b : UInt8) : Bytes × Bool :=
  (b :: noted, b == delimiter)

/-- Reading up to an octet is a scan that notes what it passes. -/
theorem readUntil_snd (delimiter : UInt8) (l : Lookahead) :
    (l.readUntil delimiter).2 =
      ((l.scan (note delimiter) []).1.state.reverse, (l.scan (note delimiter) []).2) := by
  unfold readUntil
  show (match l.scan (note delimiter) [] with
    | (.stopped noted, l) => ((.ready (), noted.reverse, l) : Attempt Unit × Bytes × Lookahead)
    | (.ended noted, l) => (.ready (), noted.reverse, l)
    | (.blocked noted, l) => (.blocked, noted.reverse, l)
    | (.failed f noted, l) => (.failed f, noted.reverse, l)).2 = _
  rcases l.scan (note delimiter) [] with ⟨r, l'⟩
  cases r <;> rfl

/-- Of a row of octets, those in front of what is left are noted. -/
theorem scanList_note (delimiter : UInt8) (noted bs : Bytes) :
    ∃ cs, bs = cs ++ (scanList (note delimiter) noted bs).2.2 ∧
      (scanList (note delimiter) noted bs).1 = cs.reverse ++ noted ∧
      ((scanList (note delimiter) noted bs).2.1 = false →
        (scanList (note delimiter) noted bs).2.2 = []) := by
  induction bs generalizing noted with
  | nil => exact ⟨[], rfl, rfl, fun _ => rfl⟩
  | cons b bs ih =>
    simp only [scanList, note]
    cases b == delimiter with
    | true => exact ⟨[b], rfl, rfl, fun h => absurd h Bool.noConfusion⟩
    | false =>
      obtain ⟨cs, hcut, hnoted, hleft⟩ := ih (b :: noted)
      exact ⟨b :: cs, by rw [List.cons_append, ← hcut], by simpa using hnoted, hleft⟩

/-- A scan that notes the octets it is given takes just these. -/
theorem took_scan_note (delimiter : UInt8) (noted : Bytes) (l : Lookahead) :
    ∃ bs, (l.scan (note delimiter) noted).1.state = bs.reverse ++ noted ∧
      l.Took bs (l.scan (note delimiter) noted).2 := by
  induction noted, l using scan.induct (note delimiter) with
  | case1 noted l m hfill =>
    have htook := l.took_fill
    rw [hfill] at htook
    rw [scan, hfill]
    exact ⟨[], rfl, htook⟩
  | case2 noted l f m hfill hkind ih =>
    have htook := l.took_fill
    rw [hfill] at htook
    obtain ⟨bs, hstate, hmore⟩ := ih
    rw [scan, hfill]
    simp only [hkind, if_true]
    exact ⟨bs, hstate, htook.trans hmore⟩
  | case3 noted l f m hfill hkind =>
    have htook := l.took_fill
    rw [hfill] at htook
    rw [scan, hfill]
    simp only [hkind, if_false]
    exact ⟨[], rfl, htook⟩
  | case4 noted l m hfill =>
    have htook := l.took_fill
    rw [hfill] at htook
    rw [scan, hfill]
    exact ⟨[], rfl, htook⟩
  | case5 noted l b bs m hfill noted' left hscan =>
    -- The delimiter stands in the buffer, and what is behind it stays there.
    have htook := l.took_fill
    have hahead := (items_fill_of_ready hfill).2
    obtain ⟨cs, hcut, hnoted, -⟩ := scanList_note delimiter noted (b :: bs)
    rw [hfill] at htook
    rw [hscan] at hcut hnoted
    rw [scan, hfill]
    simp only [hscan]
    exact ⟨cs, hnoted, htook.trans (took_ahead (hahead.trans hcut))⟩
  | case6 noted l b bs m hfill noted' left hscan ih =>
    have htook := l.took_fill
    have hahead := (items_fill_of_ready hfill).2
    obtain ⟨cs, hcut, hnoted, hleft⟩ := scanList_note delimiter noted (b :: bs)
    rw [hfill] at htook
    rw [hscan] at hcut hnoted hleft
    dsimp only at hnoted
    obtain ⟨more, hstate, hmore⟩ := ih
    have hall : m.ahead = cs ++ [] := by rw [hahead, hcut, hleft rfl]
    rw [scan, hfill]
    simp only [hscan]
    refine ⟨cs ++ more, ?_, (htook.trans (took_ahead hall)).trans hmore⟩
    rw [hstate, hnoted, List.reverse_append, List.append_assoc]

/-- **A read up to a delimiter** takes the octets that come with its result. -/
theorem took_readUntil (delimiter : UInt8) (l : Lookahead) :
    l.Took (l.readUntil delimiter).2.1 (l.readUntil delimiter).2.2 := by
  obtain ⟨bs, hstate, htook⟩ := l.took_scan_note delimiter []
  rw [readUntil_snd, hstate, List.append_nil, List.reverse_reverse]
  exact htook

/-! ### One step and a run of steps -/

/-- **A step of reading** takes what it is said to take and changes nothing else about the stream. -/
theorem took_step {s : Step} (h : s.isReading = true) (l : Lookahead) :
    l.Took (l.takenBy s) (l.step s) := by
  cases s with
  | peek => exact l.took_peek
  | fill => exact l.took_fill
  | read n => exact l.took_read n
  | readExact n => exact (l.took_readExact n).1
  | readUntil delimiter => exact l.took_readUntil delimiter
  | consume n => exact took_ahead (List.take_append_drop n l.ahead).symm
  | _ => cases h

/-- **A step of writing** adds to what was written and takes nothing. -/
theorem wrote_step {bs : Bytes} {s : Step} (h : s = .write bs ∨ s = .writeAll bs) (l : Lookahead) :
    ∃ w, w <+: bs ∧ l.Wrote w (l.step s) := by
  rcases h with rfl | rfl
  · exact ⟨_, (l.write bs).1.wrote_isPrefix bs, l.wrote_write bs⟩
  · obtain ⟨w, hcut, hwrote, -⟩ := l.wrote_writeAll bs
    exact ⟨w, ⟨_, hcut.symm⟩, hwrote⟩

/-- Every step keeps account of what was taken. -/
theorem Follows.step (h : g.Follows taken l) (s : Step) :
    (g.applyAll s.events).Follows (taken ++ l.takenBy s) (l.step s) := by
  -- Only reading takes something, and only in an event does the other side do something.
  have hkept (htaken : l.takenBy s = []) (hevents : s.events = [])
      (h' : g.Follows taken (l.step s)) :
      (g.applyAll s.events).Follows (taken ++ l.takenBy s) (l.step s) := by
    rw [htaken, hevents, List.append_nil]
    exact h'
  cases s with
  | write bs =>
    obtain ⟨w, -, hwrote⟩ := wrote_step (.inl rfl) l
    exact hkept rfl rfl (h.wrote hwrote)
  | writeAll bs =>
    obtain ⟨w, -, hwrote⟩ := wrote_step (.inr rfl) l
    exact hkept rfl rfl (h.wrote hwrote)
  | flush => exact hkept rfl rfl h
  | close => exact hkept rfl rfl h.close
  | event e =>
    show (g.apply e).Follows (taken ++ []) (l.apply e)
    rw [List.append_nil]
    exact h.apply e
  | _ => exact h.took (took_step rfl l)

/-- A stream without empty chunks stays so after a step. -/
theorem Proper.step (h : l.Proper) (s : Step) : (l.step s).Proper := by
  cases s with
  | write bs =>
    obtain ⟨w, -, hwrote⟩ := wrote_step (.inl rfl) l
    exact hwrote.proper h
  | writeAll bs =>
    obtain ⟨w, -, hwrote⟩ := wrote_step (.inr rfl) l
    exact hwrote.proper h
  | flush => exact h
  | close => exact h
  | event e => exact h.apply e
  | _ => exact (took_step rfl l).proper h

/-- **A run of steps** keeps account of what was taken. -/
theorem Follows.steps (h : g.Follows taken l) (ss : List Step) :
    (g.applyAll (ss.flatMap Step.events)).Follows (taken ++ l.takenBySteps ss) (l.steps ss) := by
  induction ss generalizing g l taken with
  | nil =>
    rw [takenBySteps, List.append_nil]
    exact h
  | cons s ss ih =>
    rw [List.flatMap_cons, applyAll_append, takenBySteps, ← List.append_assoc]
    exact ih (h.step s)

/-- A stream without empty chunks stays so after any number of steps. -/
theorem Proper.steps (h : l.Proper) (ss : List Step) : (l.steps ss).Proper := by
  induction ss generalizing l with
  | nil => exact h
  | cons s ss ih => exact ih (h.step s)

/-! ### Looking ahead -/

/-- A buffer that holds something is not filled again. -/
theorem fill_of_ahead (h : l.ahead.head? = some b) : l.fill = (.ready l.ahead, l) := by
  have hne : l.ahead.isEmpty = false := by
    cases hahead : l.ahead with
    | nil =>
      rw [hahead] at h
      cases h
    | cons c bs => rfl
  rw [fill, hne, if_neg Bool.false_ne_true]

/-- What is seen of a stream is the first octet of its buffer. -/
theorem peek_of_ahead (h : l.ahead.head? = some b) : l.peek = (.ready (some b), l) := by
  rw [peek, fill_of_ahead h]
  dsimp only
  rw [h]

/-- What is in the buffer is read first. -/
theorem read_of_ahead (h : l.ahead.head? = some b) {n : Nat} (hn : 0 < n) :
    ∃ bs, (l.read n).1 = .ready (b :: bs) := by
  obtain ⟨c, ahead⟩ := l
  cases ahead with
  | nil => cases h
  | cons a bs =>
    obtain rfl : a = b := Option.some.inj h
    obtain ⟨k, rfl⟩ : ∃ k, n = k + 1 := ⟨n - 1, by omega⟩
    exact ⟨bs.take k, rfl⟩

/-- An octet that was looked at is the first one of the buffer. -/
theorem head?_ahead_of_peek (h : l.peek.1 = .ready (some b)) :
    (l.step .peek).ahead.head? = some b := by
  unfold step peek at *
  rcases hf : l.fill with ⟨a, m⟩
  rw [hf] at h
  cases a with
  | ready bs =>
    rw [(items_fill_of_ready hf).2]
    exact Attempt.ready.inj h
  | blocked => cases h
  | failed f => cases h

/-- Where looking ahead finds nothing, nothing is left and nothing will come. -/
theorem drained_of_peek (hp : l.Proper) (h : l.peek.1 = .ready none) :
    l.ahead = [] ∧ l.channel.inbox = [] ∧ l.channel.ended = true := by
  obtain ⟨c, ahead⟩ := l
  cases ahead with
  | cons b ahead => cases h
  | nil =>
    refine ⟨rfl, ?_⟩
    show c.inbox = [] ∧ c.ended = true
    unfold peek fill Channel.read at h
    cases hinbox : c.inbox with
    | nil =>
      refine ⟨rfl, Bool.not_eq_false _ |>.mp fun hended => ?_⟩
      simp [hinbox, hended] at h
    | cons a rest =>
      cases a with
      | fault f => simp [hinbox] at h
      | data bs =>
        -- No chunk is empty, and so there is an octet to look at.
        have hne : bs ≠ [] := by
          rintro rfl
          exact hp (hinbox ▸ List.mem_cons_self)
        simp [hinbox, hne, capacity] at h

/-- A step that leaves the reading to others leaves the buffer as it is, unless it was empty. -/
theorem ahead_step {s : Step} (hs : s.isKeeping = true) (h : l.ahead.head? = some b) :
    (l.step s).ahead = l.ahead := by
  cases s with
  | peek => rw [step, peek_of_ahead h]
  | fill => rw [step, fill_of_ahead h]
  | write bs =>
    obtain ⟨w, -, hwrote⟩ := wrote_step (.inl rfl) l
    exact hwrote.ahead_eq
  | writeAll bs =>
    obtain ⟨w, -, hwrote⟩ := wrote_step (.inr rfl) l
    exact hwrote.ahead_eq
  | flush => rfl
  | close => rfl
  | event e => rfl
  | _ => cases hs

/-- Steps that only look leave the buffer as it is, once something is in it. -/
theorem ahead_steps {ss : List Step} (hss : ∀ s ∈ ss, s.isKeeping = true)
    (h : l.ahead.head? = some b) : (l.steps ss).ahead = l.ahead := by
  induction ss generalizing l with
  | nil => rfl
  | cons s ss ih =>
    have hstep := ahead_step (hss s List.mem_cons_self) h
    have hrest := ih (fun s' hs' => hss s' (List.mem_cons_of_mem _ hs')) (l := l.step s)
      (by rw [hstep, h])
    exact hrest.trans hstep

/-! ### The account of a run -/

/-- What nobody has read is what was read ahead and what is still in the channel. -/
theorem unread_eq_append (l : Lookahead) : l.unread = l.ahead ++ l.channel.unread := by
  rw [unread, items, Item.octets_append, Item.octets_map, Channel.unread]

/-- A stream of which nobody takes anything holds what was sent. -/
theorem unread_applyAll (l : Lookahead) (es : List Channel.Event) :
    (l.applyAll es).unread = l.unread ++ if l.channel.ended then [] else Channel.sent es := by
  rw [applyAll_eq, unread_eq_append, unread_eq_append, List.append_assoc]
  exact congrArg (l.ahead ++ ·) (Channel.unread_applyAll _ _)

/-- What a step takes comes from the front, unless the other side does something in it. -/
theorem unread_step (l : Lookahead) {s : Step} (hs : s.events = []) :
    l.unread = l.takenBy s ++ (l.step s).unread := by
  have hfollows := (Follows.refl l).step s
  rw [hs] at hfollows
  exact hfollows.unread_eq

/-- What is known of a stream at the end of a run of steps, of which `l` is the stream and `taken`
    what was taken. -/
structure Accounted (ss : List Step) (taken : Bytes) (l : Lookahead) : Prop where
  /-- What was taken, what is read ahead and what is left make up what was sent. -/
  total : taken ++ (l.ahead ++ l.channel.unread) = Channel.sent (ss.flatMap Step.events)
  /-- Looking ahead, filling the buffer and writing take nothing. -/
  kept : ∀ s, s.isKeeping = true → s.events = [] → (l.step s).unread = l.unread
  /-- An octet that is looked at is there when one looks again, and for the next read. -/
  seen : ∀ b, l.peek.1 = .ready (some b) → ∀ later, (∀ s ∈ later, s.isKeeping = true) →
    (((l.step .peek).steps later).peek).1 = .ready (some b) ∧
      ∀ n, 0 < n → ∃ bs, (((l.step .peek).steps later).read n).1 = .ready (b :: bs)
  /-- Looking ahead finds nothing only at the end of the stream, when all has been taken. -/
  drained : l.peek.1 = .ready none →
    l.ahead = [] ∧ l.channel.inbox = [] ∧ l.channel.ended = true ∧
      taken = Channel.sent (ss.flatMap Step.events)
  /-- Reading writes nothing. -/
  silent : ∀ s, s.isReading = true → (l.step s).channel.written = l.channel.written

/-- **Nothing is lost, doubled or reordered** by reading ahead, whatever is done with a stream. -/
theorem conserved (room : Option Nat) (ss : List Step) :
    Accounted ss ((ofChannel (.idle room)).takenBySteps ss)
      ((ofChannel (.idle room)).steps ss) := by
  have hfollows := (Follows.refl (ofChannel (.idle room))).steps ss
  have hproper : ((ofChannel (.idle room)).steps ss).Proper :=
    Proper.steps (l := ofChannel (.idle room)) (Channel.proper_idle room) ss
  -- The run is over: all that matters of it is what was taken and the stream that is left.
  generalize (ofChannel (.idle room)).takenBySteps ss = taken at hfollows
  generalize (ofChannel (.idle room)).steps ss = l at hfollows hproper
  have htotal : taken ++ (l.ahead ++ l.channel.unread) =
      Channel.sent (ss.flatMap Step.events) := by
    rw [← unread_eq_append, ← List.nil_append taken, ← hfollows.unread_eq, unread_applyAll]
    rfl
  refine ⟨htotal, fun s hkeeps hevents => ?_, fun b hb later hlater => ?_, fun hnone => ?_,
    fun s hreads => (took_step hreads l).written_eq⟩
  · have htaken : l.takenBy s = [] := by
      cases s <;> first | rfl | cases hkeeps
    rw [l.unread_step hevents, htaken, List.nil_append]
  · have hhead : ((l.step .peek).steps later).ahead.head? = some b := by
      rw [ahead_steps hlater (head?_ahead_of_peek hb), head?_ahead_of_peek hb]
    exact ⟨by rw [peek_of_ahead hhead], fun n hn => read_of_ahead hhead hn⟩
  · obtain ⟨hahead, hinbox, hended⟩ := drained_of_peek hproper hnone
    refine ⟨hahead, hinbox, hended, ?_⟩
    rw [← htotal, hahead, Channel.unread, Channel.items, hinbox, hended]
    simp [Item.octets]

end Lookahead

end ForwardProxy
