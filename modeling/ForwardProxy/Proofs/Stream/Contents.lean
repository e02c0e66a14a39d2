import ForwardProxy.Stream.Lookahead

namespace ForwardProxy

/-!
# What a stream holds

A reader meets octets and, now and then, something that keeps it from reading on: the end of the
stream or a fault.  How the octets were cut into chunks, and how many of them are read ahead, does
not show.

* `Item`, `Ending` — what a reader meets.
* `Channel.items`, `Lookahead.items` — everything that a reader of a stream is going to meet.
* `Lookahead.unread` — the octets among it.
* `Lookahead.Took` — what a read does: it takes octets from the front and touches nothing else.
* `Lookahead.Follows` — a stream that is read while the other side goes on.
* `Lookahead.scanned` — what a scan comes to, told by the items alone.
-/

/-! ### Items -/

/-- What keeps a reader from reading on. -/
inductive Ending where
  /-- The end of the stream. -/
  | finish
  | fault (fault : Fault)
  deriving DecidableEq, Repr

/-- The fault that an ending is to a reader that needs more octets. -/
def Ending.asFault : Ending → Fault
  | finish => .bare .unexpectedEof
  | fault f => f

/-- What a reader meets next. -/
inductive Item where
  | octet (octet : UInt8)
  | ending (ending : Ending)
  deriving DecidableEq, Repr

namespace Item

/-- The octets in front of the first ending. -/
def leading : List Item → Bytes
  | octet b :: r => b :: leading r
  | _ => []

/-- The first ending. -/
def ending? : List Item → Option Ending
  | [] => none
  | octet _ :: r => ending? r
  | ending e :: _ => some e

/-- All octets. -/
def octets : List Item → Bytes
  | [] => []
  | octet b :: r => b :: octets r
  | ending _ :: r => octets r

@[simp] theorem leading_nil : leading [] = [] := rfl
@[simp] theorem ending?_nil : ending? [] = none := rfl
@[simp] theorem leading_ending (e : Ending) (r : List Item) : leading (ending e :: r) = [] := rfl
@[simp] theorem ending?_ending (e : Ending) (r : List Item) :
    ending? (ending e :: r) = some e := rfl

/-- Octets in front lead what follows them. -/
@[simp] theorem leading_map_append (bs : Bytes) (r : List Item) :
    leading (bs.map octet ++ r) = bs ++ leading r := by
  induction bs with
  | nil => rfl
  | cons b bs ih => simp [leading, ih]

/-- Octets in front do not change how a stream ends. -/
@[simp] theorem ending?_map_append (bs : Bytes) (r : List Item) :
    ending? (bs.map octet ++ r) = ending? r := by
  induction bs with
  | nil => rfl
  | cons b bs ih => simp [ending?, ih]

/-- The octets of two parts are those of the first and then those of the second. -/
@[simp] theorem octets_append (is js : List Item) : octets (is ++ js) = octets is ++ octets js := by
  induction is with
  | nil => rfl
  | cons i is ih => cases i <;> simp [octets, ih]

/-- Items made of octets have those octets. -/
@[simp] theorem octets_map (bs : Bytes) : octets (bs.map octet) = bs := by
  induction bs with
  | nil => rfl
  | cons b bs ih => simp [octets, ih]

/-- A stream ends as its first part does, or else as its second. -/
theorem ending?_append (is js : List Item) :
    ending? (is ++ js) = (ending? is).or (ending? js) := by
  induction is with
  | nil => simp
  | cons i is ih => cases i <;> simp [ending?, ih]

/-- Behind an ending nothing leads. -/
theorem leading_append (is js : List Item) :
    leading (is ++ js) = leading is ++ (ending? is).elim (leading js) fun _ => [] := by
  induction is with
  | nil => rfl
  | cons i is ih => cases i <;> simp [leading, ending?, ih]

/-- The octets in front of the first ending are the first of all. -/
theorem leading_isPrefix_octets (is : List Item) : leading is <+: octets is := by
  induction is with
  | nil => exact List.prefix_refl _
  | cons i is ih =>
    cases i with
    | octet b => exact List.cons_prefix_cons.2 ⟨rfl, ih⟩
    | ending e => exact List.nil_prefix

/-- Of a longer stream, at least as much is in front of the first ending. -/
theorem leading_isPrefix {is js : List Item} (h : is <+: js) : leading is <+: leading js := by
  obtain ⟨rest, rfl⟩ := h
  rw [leading_append]
  exact List.prefix_append _ _

/-- What is met in front of nothing that keeps a reader from reading on is octets. -/
theorem eq_map_leading {is : List Item} (h : ending? is = none) : is = (leading is).map octet := by
  induction is with
  | nil => rfl
  | cons i is ih =>
    cases i with
    | octet b => rw [leading, List.map_cons, ← ih h]
    | ending e => cases h

/-- The leading octets come first among the items. -/
theorem map_leading_append_drop (is : List Item) :
    (leading is).map octet ++ is.drop (leading is).length = is := by
  induction is with
  | nil => rfl
  | cons i is ih => cases i <;> simp [leading, ih]

end Item

/-- What a reader meets of an arrival; an interrupted read is tried again and not met. -/
def Arrival.items : Arrival → List Item
  | data bs => bs.map .octet
  | fault f => if f.kind = .interrupted then [] else [.ending (.fault f)]

/-- What a reader meets because of something that the other side does. -/
def Channel.Event.items : Channel.Event → List Item
  | send bs => bs.map .octet
  | failRead f => (Arrival.fault f).items
  | finish => [.ending .finish]
  | hangUp => [.ending .finish]
  | failWrite _ => []
  | widen _ => []

namespace Channel

/-- Everything that a reader of the channel is going to meet. -/
def items (c : Channel) : List Item :=
  c.inbox.flatMap Arrival.items ++ if c.ended then [.ending .finish] else []

/-- No chunk that has arrived is empty. -/
def Proper (c : Channel) : Prop := Arrival.data [] ∉ c.inbox

/-- A channel in which nothing has happened has no empty chunk. -/
theorem proper_idle (room : Option Nat) : (idle room).Proper := by simp [Proper, idle]

/-- A channel has no empty chunk after anything else has arrived. -/
theorem Proper.arrive {c : Channel} (h : c.Proper) {a : Arrival} (ha : a ≠ .data []) :
    (c.arrive a).Proper := by
  unfold Channel.arrive
  split
  · exact h
  · simp only [Proper, List.mem_append, List.mem_singleton, not_or] at h ⊢
    exact ⟨h, fun he => ha he.symm⟩

/-- Nothing that the other side does brings an empty chunk. -/
theorem Proper.apply {c : Channel} (h : c.Proper) (e : Event) : (c.apply e).Proper := by
  cases e with
  | send bs =>
    simp only [Channel.apply]
    split
    · exact h
    · rename_i hne
      exact h.arrive (by rintro ⟨⟩; exact hne rfl)
  | failRead f => exact h.arrive (by simp)
  | widen amount => cases amount <;> exact h
  | _ => exact h

/-- Nothing that the other side does, one thing after the other, brings an empty chunk. -/
theorem Proper.applyAll {c : Channel} (h : c.Proper) (es : List Event) :
    (c.applyAll es).Proper := by
  induction es generalizing c with
  | nil => exact h
  | cons e es ih => exact ih (h.apply e)

/-- Two rows of events happen one after the other. -/
theorem applyAll_append (c : Channel) (es fs : List Event) :
    c.applyAll (es ++ fs) = (c.applyAll es).applyAll fs := List.foldl_append

/-- What arrives is at the end, as long as the input goes on. -/
theorem items_arrive {c : Channel} (h : c.ended = false) (a : Arrival) :
    (c.arrive a).items = c.items ++ a.items := by simp [items, arrive, h]

/-- What the other side does is met behind everything else. -/
theorem items_apply {c : Channel} (h : c.ended = false) (e : Event) :
    (c.apply e).items = c.items ++ e.items := by
  cases e with
  | send bs =>
    simp only [apply, Event.items]
    split
    · rename_i he
      rw [List.isEmpty_iff.1 he, List.map_nil, List.append_nil]
    · exact items_arrive h _
  | failRead f => exact items_arrive h _
  | finish => simp [items, apply, h, Event.items]
  | hangUp => simp [items, apply, h, Event.items]
  | failWrite f => exact (List.append_nil _).symm
  | widen amount => cases amount <;> exact (List.append_nil _).symm

/-- Nothing is met behind the end of the stream. -/
theorem items_apply_of_ended {c : Channel} (h : c.ended = true) (e : Event) :
    (c.apply e).items = c.items ∧ (c.apply e).ended = true := by
  cases e with
  | send bs => simp [apply, arrive, h]
  | failRead f => simp [apply, arrive, h]
  | finish => simp [items, apply, h]
  | hangUp => simp [items, apply, h]
  | failWrite f => exact ⟨rfl, h⟩
  | widen amount => cases amount <;> exact ⟨rfl, h⟩

/-- A channel whose input has ended has an ending. -/
theorem ending?_isSome_of_ended {c : Channel} (h : c.ended = true) :
    (Item.ending? c.items).isSome = true := by
  rw [items, h, if_pos rfl, Item.ending?_append]
  cases Item.ending? (c.inbox.flatMap Arrival.items) <;> rfl

/-- What is met first does not hang on how the events are put together. -/
theorem heard_applyAll (c : Channel) (es : List Event) :
    Item.leading (c.applyAll es).items = Item.leading (c.items ++ es.flatMap Event.items) ∧
      Item.ending? (c.applyAll es).items = Item.ending? (c.items ++ es.flatMap Event.items) := by
  induction es generalizing c with
  | nil => simp [applyAll]
  | cons e es ih =>
    have hstep := ih (c.apply e)
    rw [show (c.apply e).applyAll es = c.applyAll (e :: es) from rfl] at hstep
    rw [hstep.1, hstep.2, List.flatMap_cons]
    cases he : c.ended with
    | false =>
      rw [items_apply he, List.append_assoc]
      exact ⟨rfl, rfl⟩
    | true =>
      -- Behind the end nothing counts, whether it is dropped or put there.
      obtain ⟨x, hx⟩ := Option.isSome_iff_exists.1 (ending?_isSome_of_ended he)
      rw [(items_apply_of_ended he e).1]
      simp [Item.leading_append, Item.ending?_append, hx]

/-! ### Reading a channel -/

variable {c c' : Channel} {n : Nat}

/-- A read touches nothing but what has arrived. -/
theorem read_channel (c : Channel) (n : Nat) :
    (c.read n).2 = { c with inbox := (c.read n).2.inbox } := by
  unfold read
  split <;> rfl

/-- Reading leaves no empty chunk. -/
theorem Proper.read (h : c.Proper) (n : Nat) : (c.read n).2.Proper := by
  unfold Channel.read
  split
  · exact h
  · rename_i f rest hi
    rw [Proper, hi] at h
    exact fun hm => h (List.mem_cons_of_mem _ hm)
  · rename_i bs rest hi
    rw [Proper, hi, List.mem_cons, not_or] at h
    show Arrival.data [] ∉ (if bs.length ≤ n then rest else .data (bs.drop n) :: rest)
    split
    · exact h.2
    · rename_i hlt
      -- A chunk is cut only if it is longer than `n`, so that its rest is not empty.
      intro hm
      rcases List.mem_cons.1 hm with he | he
      · have hnil : bs.drop n = [] := by simpa using he.symm
        exact hlt (List.drop_eq_nil_iff.1 hnil)
      · exact h.2 he

/-- A read takes octets from the front. -/
theorem items_read_of_ready {bs : Bytes} (h : c.read n = (.ready bs, c')) :
    c.items = bs.map .octet ++ c'.items := by
  unfold read at h
  split at h
  · simp only [Prod.mk.injEq] at h
    obtain ⟨he, rfl⟩ := h
    split at he <;> simp_all
  · simp at h
  · rename_i data rest hi
    simp only [Prod.mk.injEq, Attempt.ready.injEq] at h
    obtain ⟨rfl, rfl⟩ := h
    have hcut : data.map Item.octet = (data.take n).map .octet ++ (data.drop n).map .octet := by
      rw [← List.map_append, List.take_append_drop]
    -- The chunk is used up, or what is left of it is put back in front.
    by_cases hle : data.length ≤ n
    · simp [items, hi, Arrival.items, hle, List.take_of_length_le hle]
    · simp only [items, hi, hle, if_false, List.flatMap_cons, Arrival.items, List.append_assoc]
      rw [hcut, List.append_assoc]

/-- A read that is held up has found nothing, and leaves the channel as it is. -/
theorem items_read_of_blocked (h : c.read n = (.blocked, c')) : c.items = [] ∧ c' = c := by
  unfold read at h
  split at h
  · rename_i hi
    simp only [Prod.mk.injEq] at h
    obtain ⟨he, rfl⟩ := h
    split at he
    · simp at he
    · rename_i hended
      exact ⟨by simp [items, hi, hended], rfl⟩
  · simp at h
  · simp at h

/-- A read that fails uses its fault up. -/
theorem items_read_of_failed {f : Fault} (h : c.read n = (.failed f, c')) :
    c.items = (Arrival.fault f).items ++ c'.items := by
  unfold read at h
  split at h
  · simp only [Prod.mk.injEq] at h
    split at h <;> simp at h
  · rename_i f' rest hi
    simp only [Prod.mk.injEq, Attempt.failed.injEq] at h
    obtain ⟨rfl, rfl⟩ := h
    simp [items, hi]
  · simp at h

/-- A read that could take octets and takes none has met the end. -/
theorem items_read_of_end (hp : c.Proper) (hn : 0 < n) (h : c.read n = (.ready [], c')) :
    c.items = [.ending .finish] ∧ c' = c := by
  unfold read at h
  split at h
  · rename_i hi
    simp only [Prod.mk.injEq] at h
    obtain ⟨he, rfl⟩ := h
    split at he
    · rename_i hended
      exact ⟨by simp [items, hi, hended], rfl⟩
    · simp at he
  · simp at h
  · rename_i data rest hi
    simp only [Prod.mk.injEq, Attempt.ready.injEq, List.take_eq_nil_iff] at h
    -- A chunk is never empty, so reading some of it cannot look like the end.
    have hne : data ≠ [] := by
      rintro rfl
      exact hp (by rw [hi]; exact List.mem_cons_self)
    rcases h.1 with h0 | h0
    · omega
    · exact absurd h0 hne

end Channel

/-- The octets that an attempt to read has taken. -/
def Attempt.taken : Attempt Bytes → Bytes
  | .ready bs => bs
  | _ => []

namespace Lookahead

variable {l l' : Lookahead} {n : Nat}

/-- Everything that a reader is going to meet, what is read ahead first. -/
def items (l : Lookahead) : List Item := l.ahead.map .octet ++ l.channel.items

/-- The octets that nobody has taken yet. -/
def unread (l : Lookahead) : Bytes := Item.octets l.items

/-- No chunk that has arrived is empty. -/
def Proper (l : Lookahead) : Prop := l.channel.Proper

/-- A reader has taken `bs` from the front of `l`, which leaves `l'`; nothing but what is there to
    read has changed. -/
structure Took (l : Lookahead) (bs : Bytes) (l' : Lookahead) : Prop where
  unread_eq : l.unread = bs ++ l'.unread
  channel_eq : l'.channel = { l.channel with inbox := l'.channel.inbox }
  proper : l.Proper → l'.Proper

theorem Took.refl (l : Lookahead) : l.Took [] l := ⟨rfl, rfl, id⟩

theorem Took.trans {m : Lookahead} {bs cs : Bytes} (h : l.Took bs l') (h' : l'.Took cs m) :
    l.Took (bs ++ cs) m where
  unread_eq := by rw [h.unread_eq, h'.unread_eq, List.append_assoc]
  channel_eq := by rw [h'.channel_eq, h.channel_eq]
  proper hp := h'.proper (h.proper hp)

/-! ### What the other side does -/

/-- What the other side does adds to a stream, as long as the input goes on. -/
theorem items_apply (h : l.channel.ended = false) (e : Channel.Event) :
    (l.apply e).items = l.items ++ e.items := by
  show l.ahead.map _ ++ (l.channel.apply e).items = _
  rw [Channel.items_apply h, ← List.append_assoc]
  rfl

/-- What the other side does adds nothing to a stream whose input has ended. -/
theorem items_apply_of_ended (h : l.channel.ended = true) (e : Channel.Event) :
    (l.apply e).items = l.items ∧ (l.apply e).channel.ended = true := by
  obtain ⟨hitems, hended⟩ := Channel.items_apply_of_ended h e
  exact ⟨congrArg (l.ahead.map Item.octet ++ ·) hitems, hended⟩

/-- What the other side does leaves what was read ahead. -/
theorem applyAll_eq (l : Lookahead) (es : List Channel.Event) :
    l.applyAll es = ⟨l.channel.applyAll es, l.ahead⟩ := by
  induction es generalizing l with
  | nil => rfl
  | cons e es ih => exact ih (l.apply e)

/-- Two rows of events happen to a stream one after the other. -/
theorem applyAll_append (l : Lookahead) (es fs : List Channel.Event) :
    l.applyAll (es ++ fs) = (l.applyAll es).applyAll fs := List.foldl_append

/-- Nothing that the other side does brings an empty chunk to a stream. -/
theorem Proper.apply (h : l.Proper) (e : Channel.Event) : (l.apply e).Proper :=
  Channel.Proper.apply h e

/-- Nothing that the other side does in a row brings an empty chunk to a stream. -/
theorem Proper.applyAll (h : l.Proper) (es : List Channel.Event) : (l.applyAll es).Proper := by
  rw [applyAll_eq]
  exact Channel.Proper.applyAll h es

/-- What is met first does not hang on how the events are put together. -/
theorem heard_applyAll (l : Lookahead) (es : List Channel.Event) :
    Item.leading (l.applyAll es).items =
        Item.leading (l.items ++ es.flatMap Channel.Event.items) ∧
      Item.ending? (l.applyAll es).items =
        Item.ending? (l.items ++ es.flatMap Channel.Event.items) := by
  obtain ⟨hlead, hending⟩ := l.channel.heard_applyAll es
  rw [applyAll_eq, items, items, List.append_assoc]
  exact ⟨by simp [hlead], by simp [hending]⟩

/-- `l` is the stream `g`, of which nobody has read anything, after `taken` was taken from it. -/
structure Follows (g : Lookahead) (taken : Bytes) (l : Lookahead) : Prop where
  unread_eq : g.unread = taken ++ l.unread
  ended_eq : l.channel.ended = g.channel.ended

theorem Follows.refl (g : Lookahead) : Follows g [] g := ⟨rfl, rfl⟩

/-- What is taken from a stream is taken from the one that it follows. -/
theorem Follows.took {g : Lookahead} {taken bs : Bytes} (h : Follows g taken l)
    (ht : l.Took bs l') : Follows g (taken ++ bs) l' where
  unread_eq := by rw [h.unread_eq, ht.unread_eq, List.append_assoc]
  ended_eq := by rw [ht.channel_eq, ← h.ended_eq]

/-- What the other side does comes behind everything that is taken. -/
theorem Follows.apply {g : Lookahead} {taken : Bytes} (h : Follows g taken l)
    (e : Channel.Event) : Follows (g.apply e) taken (l.apply e) := by
  -- Both streams have ended or neither has, so both take in what is done or neither does.
  cases hended : l.channel.ended with
  | false =>
    refine ⟨?_, ?_⟩
    · rw [unread, items_apply (h.ended_eq ▸ hended), unread, items_apply hended,
        Item.octets_append, Item.octets_append, ← List.append_assoc]
      exact congrArg (· ++ Item.octets e.items) h.unread_eq
    · have hg : g.channel.ended = false := h.ended_eq ▸ hended
      cases e with
      | send bs =>
        simp only [Lookahead.apply, Channel.apply]
        split <;> simp [Channel.arrive, hended, hg]
      | failRead f => simp [Lookahead.apply, Channel.apply, Channel.arrive, hended, hg]
      | widen amount => cases amount <;> exact h.ended_eq
      | finish => rfl
      | hangUp => rfl
      | failWrite f => exact h.ended_eq
  | true =>
    obtain ⟨hg, hgended⟩ := items_apply_of_ended (h.ended_eq ▸ hended) e
    obtain ⟨hl, hlended⟩ := items_apply_of_ended hended e
    exact ⟨by rw [unread, hg, unread, hl]; exact h.unread_eq, hlended.trans hgended.symm⟩

/-- A stream follows another while the same happens to both. -/
theorem Follows.applyAll {g : Lookahead} {taken : Bytes} (h : Follows g taken l)
    (es : List Channel.Event) : Follows (g.applyAll es) taken (l.applyAll es) := by
  induction es generalizing g l with
  | nil => exact h
  | cons e es ih => exact ih (h.apply e)

/-! ### Filling the buffer -/

/-- Filling the buffer moves octets into it and changes nothing else. -/
theorem items_fill_of_ready {bs : Bytes} (h : l.fill = (.ready bs, l')) :
    l'.items = l.items ∧ l'.ahead = bs := by
  unfold fill at h
  split at h
  · rename_i he
    split at h <;> simp only [Prod.mk.injEq, Attempt.ready.injEq, reduceCtorEq, false_and] at h
    rename_i bs' c hr
    obtain ⟨rfl, rfl⟩ := h
    simp [items, List.isEmpty_iff.1 he, Channel.items_read_of_ready hr]
  · simp only [Prod.mk.injEq, Attempt.ready.injEq] at h
    obtain ⟨rfl, rfl⟩ := h
    exact ⟨rfl, rfl⟩

/-- A buffer that nothing comes into has come to the end of the stream. -/
theorem items_fill_of_end (hp : l.Proper) (h : l.fill = (.ready [], l')) :
    l.items = [.ending .finish] := by
  unfold fill at h
  split at h
  · rename_i he
    split at h <;> simp only [Prod.mk.injEq, Attempt.ready.injEq, reduceCtorEq, false_and] at h
    rename_i bs' c hr
    obtain ⟨rfl, rfl⟩ := h
    have hend := Channel.items_read_of_end hp (by decide) hr
    simp [items, List.isEmpty_iff.1 he, hend.1]
  · rename_i he
    simp only [Prod.mk.injEq, Attempt.ready.injEq] at h
    exact absurd (List.isEmpty_iff.2 h.1) he

/-- A buffer that cannot be filled yet leaves an empty stream as it is. -/
theorem items_fill_of_blocked (h : l.fill = (.blocked, l')) : l.items = [] ∧ l' = l := by
  obtain ⟨c, ahead⟩ := l
  unfold fill at h
  split at h
  · rename_i he
    split at h <;> simp only [Prod.mk.injEq, reduceCtorEq, false_and, true_and] at h
    rename_i c' hr
    obtain ⟨hnil, rfl⟩ := Channel.items_read_of_blocked hr
    have hahead : ahead = [] := List.isEmpty_iff.1 he
    subst h hahead
    exact ⟨by simpa [items] using hnil, rfl⟩
  · simp at h

/-- A buffer that fails to fill has met the fault in front. -/
theorem items_fill_of_failed {f : Fault} (h : l.fill = (.failed f, l')) :
    l.items = (Arrival.fault f).items ++ l'.items := by
  unfold fill at h
  split at h
  · rename_i he
    split at h <;> simp only [Prod.mk.injEq, Attempt.failed.injEq, reduceCtorEq, false_and] at h
    rename_i f' c hr
    obtain ⟨rfl, rfl⟩ := h
    simp [items, List.isEmpty_iff.1 he, Channel.items_read_of_failed hr]
  · simp at h

/-- Filling the buffer changes nothing but what is there to read. -/
theorem fill_channel (l : Lookahead) :
    l.fill.2.channel = { l.channel with inbox := l.fill.2.channel.inbox } := by
  unfold fill
  split
  · rcases hr : l.channel.read capacity with ⟨a, c⟩
    have h : c = { l.channel with inbox := c.inbox } := by
      simpa [hr] using l.channel.read_channel capacity
    cases a <;> exact h
  · rfl

/-- Filling the buffer leaves no empty chunk. -/
theorem Proper.fill (h : l.Proper) : l.fill.2.Proper := by
  unfold Lookahead.fill
  split
  · rcases hr : l.channel.read capacity with ⟨a, c⟩
    have hc : c.Proper := by simpa [hr] using Channel.Proper.read h capacity
    cases a <;> exact hc
  · exact h

/-- A fault has no octets. -/
theorem octets_fault_items (f : Fault) : Item.octets (Arrival.fault f).items = [] := by
  by_cases h : f.kind = .interrupted <;> simp [Arrival.items, h, Item.octets]

/-- Filling the buffer takes nothing. -/
theorem took_fill (l : Lookahead) : l.Took [] l.fill.2 where
  unread_eq := by
    rw [List.nil_append, unread, unread]
    rcases h : l.fill with ⟨a, l'⟩
    cases a with
    | ready bs => rw [(items_fill_of_ready h).1]
    | blocked => rw [(items_fill_of_blocked h).2]
    | failed f =>
      rw [items_fill_of_failed h, Item.octets_append, octets_fault_items, List.nil_append]
  channel_eq := l.fill_channel
  proper hp := hp.fill

/-- Looking at the next octet takes nothing. -/
theorem took_peek (l : Lookahead) : l.Took [] l.peek.2 := by
  have hfill := l.took_fill
  unfold peek
  rcases hf : l.fill with ⟨a, m⟩
  rw [hf] at hfill
  cases a <;> exact hfill

/-- The octet that is seen is the next one. -/
theorem unread_of_peek {b : UInt8} (h : l.peek = (.ready (some b), l')) :
    l.unread.head? = some b := by
  unfold peek at h
  rcases hf : l.fill with ⟨a, m⟩
  rw [hf] at h
  cases a with
  | ready bs =>
    obtain ⟨hitems, hahead⟩ := items_fill_of_ready hf
    simp only [Prod.mk.injEq, Attempt.ready.injEq] at h
    cases bs with
    | nil => simp at h
    | cons c bs =>
      rw [unread, ← hitems, items, hahead, Item.octets_append, Item.octets_map]
      exact h.1
  | blocked => simp at h
  | failed f => simp at h

/-- Octets taken from the front of the buffer. -/
theorem took_ahead {cs left : Bytes} (h : l.ahead = cs ++ left) :
    l.Took cs { l with ahead := left } where
  unread_eq := by simp [unread, items, h]
  channel_eq := rfl
  proper := id

/-! ### Reading -/

/-- A read takes what it returns, and nothing if it is not possible or fails. -/
theorem took_read (l : Lookahead) (n : Nat) : l.Took (l.read n).1.taken (l.read n).2 := by
  unfold read
  split
  · -- The buffer is empty, and the read passes it by.
    rename_i he
    have hahead : l.ahead = [] := List.isEmpty_iff.1 (Bool.and_eq_true_iff.1 he).1
    have hc := l.channel.read_channel n
    rcases hr : l.channel.read n with ⟨a, c⟩
    rw [hr] at hc
    refine ⟨?_, hc, fun hp => ?_⟩
    · show l.unread = a.taken ++ (⟨c, []⟩ : Lookahead).unread
      cases a with
      | ready bs => simp [unread, items, hahead, Channel.items_read_of_ready hr, Attempt.taken]
      | blocked => simp [unread, items, hahead, Channel.items_read_of_blocked hr, Attempt.taken]
      | failed f =>
        simp [unread, items, hahead, Channel.items_read_of_failed hr, octets_fault_items,
          Attempt.taken]
    · have hread := Channel.Proper.read hp n
      rw [hr] at hread
      exact hread
  · -- The buffer is filled first, and what is taken comes from its front.
    have hfill := l.took_fill
    rcases hf : l.fill with ⟨a, m⟩
    rw [hf] at hfill
    cases a with
    | ready bs =>
      have hcut : m.ahead = bs.take n ++ m.ahead.drop n := by
        rw [(items_fill_of_ready hf).2, List.take_append_drop]
      exact hfill.trans (took_ahead hcut)
    | blocked => exact hfill
    | failed f => exact hfill

/-! ### Scanning -/

variable {σ : Type} {step : σ → UInt8 → σ × Bool}

/-- How a scan ends, by the state in which the scanner is, whether it has stopped, and what keeps
    it from going on. -/
def Scan.ofList : σ × Bool × Bytes → Option Ending → Scan σ
  | (s, true, _), _ => .stopped s
  | (s, false, _), none => .blocked s
  | (s, false, _), some .finish => .ended s
  | (s, false, _), some (.fault f) => .failed f s

/-- A scan of two parts goes on in the second if it has not stopped in the first. -/
theorem scanList_append (s : σ) (xs ys : Bytes) :
    scanList step s (xs ++ ys) =
      match scanList step s xs with
      | (s, true, left) => (s, true, left ++ ys)
      | (s, false, _) => scanList step s ys := by
  induction xs generalizing s with
  | nil => rfl
  | cons b xs ih =>
    rw [List.cons_append]
    simp only [scanList]
    split
    · rfl
    · exact ih _

/-- A scanner that does not stop leaves nothing. -/
theorem scanList_left (step : σ → UInt8 → σ × Bool) (s : σ) (xs : Bytes) :
    ∃ cs, xs = cs ++ (scanList step s xs).2.2 ∧
      ((scanList step s xs).2.1 = false → (scanList step s xs).2.2 = []) := by
  induction xs generalizing s with
  | nil => exact ⟨[], rfl, fun _ => rfl⟩
  | cons b xs ih =>
    simp only [scanList]
    split
    · exact ⟨[b], rfl, by simp⟩
    · obtain ⟨cs, hcs, hleft⟩ := ih _
      exact ⟨b :: cs, by rw [List.cons_append, ← hcs], hleft⟩

/-- What a scan comes to, told by what there is to meet: `r` is how it ends and what it leaves. -/
structure Scanned (step : σ → UInt8 → σ × Bool) (s : σ) (l : Lookahead)
    (r : Scan σ × Lookahead) : Prop where
  result : r.1 = Scan.ofList (scanList step s (Item.leading l.items)) (Item.ending? l.items)
  took : ∃ cs, Item.leading l.items = cs ++ (scanList step s (Item.leading l.items)).2.2 ∧
    l.Took cs r.2
  items_of_stopped : (scanList step s (Item.leading l.items)).2.1 = true →
    r.2.items = (scanList step s (Item.leading l.items)).2.2.map .octet ++
      l.items.drop (Item.leading l.items).length
  items_of_blocked : (scanList step s (Item.leading l.items)).2.1 = false →
    Item.ending? l.items = none → r.2.items = []

/-- A scan that begins where `l` has come to after nothing was taken. -/
theorem Scanned.of_items {s : σ} {r : Scan σ × Lookahead} (h : Scanned step s l' r)
    (hi : l'.items = l.items) (ht : l.Took [] l') : Scanned step s l r where
  result := hi ▸ h.result
  took := by
    obtain ⟨cs, hcs, htook⟩ := h.took
    exact ⟨cs, hi ▸ hcs, ht.trans htook⟩
  items_of_stopped := hi ▸ h.items_of_stopped
  items_of_blocked := hi ▸ h.items_of_blocked

/-- A scan that stops within the buffer. -/
theorem Scanned.of_stopped {s s' : σ} {left : Bytes}
    (h : scanList step s l.ahead = (s', true, left)) :
    Scanned step s l (.stopped s', { l with ahead := left }) := by
  -- The octet that stops the scan is in the buffer, so the channel is not touched.
  have hlead : Item.leading l.items = l.ahead ++ Item.leading l.channel.items :=
    Item.leading_map_append _ _
  have hscan : scanList step s (Item.leading l.items) =
      (s', true, left ++ Item.leading l.channel.items) := by
    rw [hlead, scanList_append, h]
  obtain ⟨cs, hcs, -⟩ := scanList_left step s l.ahead
  rw [h] at hcs
  refine ⟨?_, ⟨cs, ?_, took_ahead hcs⟩, fun _ => ?_, fun hf => ?_⟩
  · rw [hscan]; rfl
  · rw [hscan, hlead]
    exact (congrArg (· ++ _) hcs).trans (List.append_assoc _ _ _)
  · have htail := Item.map_leading_append_drop l.channel.items
    have hdrop : (l.ahead.map Item.octet ++ l.channel.items).drop
        (l.ahead.length + (Item.leading l.channel.items).length) =
          l.channel.items.drop (Item.leading l.channel.items).length := by
      simp [List.drop_append]
    rw [hscan, hlead, List.length_append]
    show left.map Item.octet ++ l.channel.items = _ ++ (l.ahead.map _ ++ l.channel.items).drop _
    rw [hdrop, List.map_append, List.append_assoc, htail]
  · rw [hscan] at hf
    simp at hf

/-- A scan that goes on behind the buffer. -/
theorem Scanned.of_ahead {s s' : σ} {left : Bytes} {r : Scan σ × Lookahead}
    (h : scanList step s l.ahead = (s', false, left))
    (hr : Scanned step s' { l with ahead := [] } r) : Scanned step s l r := by
  have hitems : ({ l with ahead := [] } : Lookahead).items = l.channel.items := rfl
  -- The whole buffer is passed over, and the scan goes on with what is in the channel.
  have hlead : Item.leading l.items = l.ahead ++ Item.leading l.channel.items :=
    Item.leading_map_append _ _
  have hending : Item.ending? l.items = Item.ending? l.channel.items :=
    Item.ending?_map_append _ _
  have hscan : scanList step s (Item.leading l.items) =
      scanList step s' (Item.leading l.channel.items) := by
    rw [hlead, scanList_append, h]
  obtain ⟨hresult, ⟨cs, hcs, htook⟩, hstopped, hblocked⟩ := hr
  rw [hitems] at hresult hcs hstopped hblocked
  refine ⟨by rw [hscan, hending, hresult], ⟨l.ahead ++ cs, ?_, ?_⟩, fun ht => ?_, fun hf he => ?_⟩
  · rw [hscan, hlead, List.append_assoc, ← hcs]
  · exact (took_ahead (List.append_nil _).symm).trans htook
  · rw [hscan] at ht ⊢
    rw [hstopped ht, hlead]
    simp [items, List.drop_append]
  · exact hblocked (by rw [← hscan, hf]) (by rw [← hending, he])

/-- A scan comes to what the items tell, however they were cut into chunks. -/
theorem scanned (step : σ → UInt8 → σ × Bool) (hp : l.Proper) (s : σ) :
    Scanned step s l (l.scan step s) := by
  induction s, l using scan.induct step with
  | case1 s l m hf =>
    obtain ⟨hnil, rfl⟩ := items_fill_of_blocked hf
    rw [scan, hf]
    exact ⟨by simp [hnil, scanList, Scan.ofList], ⟨[], by simp [hnil, scanList], .refl _⟩,
      by simp [hnil, scanList], fun _ _ => hnil⟩
  | case2 s l f m hf hk ih =>
    -- An interrupted read is none of the items, and so the scan begins again where it was.
    have hitems : m.items = l.items := by
      simp [items_fill_of_failed hf, Arrival.items, hk]
    have htook := l.took_fill
    rw [hf] at htook
    rw [scan, hf]
    simp only [hk, if_true]
    exact (ih (htook.proper hp)).of_items hitems htook
  | case3 s l f m hf hk =>
    have hitems : l.items = .ending (.fault f) :: m.items := by
      simp [items_fill_of_failed hf, Arrival.items, hk]
    have htook := l.took_fill
    rw [hf] at htook
    rw [scan, hf]
    simp only [hk, if_false]
    exact ⟨by simp [hitems, scanList, Scan.ofList], ⟨[], by simp [hitems, scanList], htook⟩,
      by simp [hitems, scanList], by simp [hitems]⟩
  | case4 s l m hf =>
    have hitems := items_fill_of_end hp hf
    have htook := l.took_fill
    rw [hf] at htook
    rw [scan, hf]
    exact ⟨by simp [hitems, scanList, Scan.ofList], ⟨[], by simp [hitems, scanList], htook⟩,
      by simp [hitems, scanList], by simp [hitems]⟩
  | case5 s l b bs m hf s' left hs =>
    obtain ⟨hitems, hahead⟩ := items_fill_of_ready hf
    have htook := l.took_fill
    rw [hf] at htook
    rw [scan, hf]
    simp only [hs]
    rw [← hahead] at hs
    exact (Scanned.of_stopped hs).of_items hitems htook
  | case6 s l b bs m hf s' left hs ih =>
    obtain ⟨hitems, hahead⟩ := items_fill_of_ready hf
    have htook := l.took_fill
    rw [hf] at htook
    rw [scan, hf]
    simp only [hs]
    rw [← hahead] at hs
    exact (Scanned.of_ahead hs (ih (htook.proper hp))).of_items hitems htook

end Lookahead

end ForwardProxy
