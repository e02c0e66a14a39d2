import ForwardProxy.Proofs.Stream.Writes

namespace ForwardProxy

/-!
# Reading a given number of octets

A reader that needs a given number of octets takes them if they are there in front of the first
fault, whatever the fault is, and takes all there are if they may still come.

* `Lookahead.clear` — the octets in front of the first fault.
* `Lookahead.Quiet` — behind these there is nothing yet: neither a fault nor the end.
* `Lookahead.Cleared` — octets have been taken from these, and nothing else.
* `Lookahead.Trails` — a stream that is read so, while the other side goes on.
* `Lookahead.took_readExact` — what a longer read takes in any case.
* `Lookahead.readExact_of_le`, `Lookahead.readExact_of_quiet` — the two cases.
-/

namespace Arrival

/-- Whether octets have arrived. -/
def isData : Arrival → Bool
  | data _ => true
  | fault _ => false

/-- The octets of a row of arrivals in front of the first fault. -/
def clear : List Arrival → Bytes
  | data bs :: r => bs ++ clear r
  | _ => []

/-- What is clear of two rows goes on into the second if no fault is in the first. -/
theorem clear_append (as bs : List Arrival) :
    clear (as ++ bs) = clear as ++ if as.all isData then clear bs else [] := by
  induction as with
  | nil => simp [clear]
  | cons a as ih => cases a <;> simp [clear, isData, ih]

end Arrival

/-- The octets that an event brings. -/
def Channel.Event.octets : Channel.Event → Bytes
  | send bs => bs
  | _ => []

/-- Whether a quiet stream stays quiet behind an event. -/
def Channel.Event.isQuiet : Channel.Event → Bool
  | send _ => true
  | failWrite _ => true
  | widen _ => true
  | finish => false
  | failRead _ => false
  | hangUp => false

namespace Lookahead

variable {g l l' m : Lookahead} {n : Nat} {bs cs taken : Bytes}

/-- The octets that can be read before anything else is met. -/
def clear (l : Lookahead) : Bytes := l.ahead ++ Arrival.clear l.channel.inbox

/-- Neither a fault nor the end of the stream is there. -/
structure Quiet (l : Lookahead) : Prop where
  lasting : l.channel.ended = false
  faultless : l.channel.inbox.all Arrival.isData = true

/-! ### What the other side does -/

/-- What arrives is clear if no fault is in front of it and the input goes on. -/
theorem clear_arrive (c : Channel) (ahead : Bytes) (a : Arrival) :
    clear ⟨c.arrive a, ahead⟩ = clear ⟨c, ahead⟩ ++
      if c.ended = false ∧ c.inbox.all Arrival.isData = true then Arrival.clear [a] else [] := by
  unfold Channel.arrive clear
  cases hended : c.ended with
  | true => simp
  | false => simp [Arrival.clear_append]

/-- What a quiet stream gets comes behind what is there. -/
theorem Quiet.clear_apply (h : l.Quiet) (e : Channel.Event) :
    (l.apply e).clear = l.clear ++ e.octets := by
  cases e with
  | send bs =>
    simp only [apply, Channel.apply]
    split
    · rename_i hnil
      rw [List.isEmpty_iff.1 hnil]
      exact (List.append_nil _).symm
    · rw [clear_arrive, if_pos ⟨h.lasting, h.faultless⟩]
      simp [Arrival.clear, Channel.Event.octets, clear]
  | failRead f =>
    simp only [apply, Channel.apply, clear_arrive, if_pos (And.intro h.lasting h.faultless)]
    rfl
  | widen amount => cases amount <;> exact (List.append_nil _).symm
  | _ => exact (List.append_nil _).symm

/-- Behind a fault or the end, nothing counts. -/
theorem clear_apply_of_not_quiet (h : ¬l.Quiet) (e : Channel.Event) :
    (l.apply e).clear = l.clear := by
  have hnone : ¬(l.channel.ended = false ∧ l.channel.inbox.all Arrival.isData = true) :=
    fun hq => h ⟨hq.1, hq.2⟩
  cases e with
  | send bs =>
    simp only [apply, Channel.apply]
    split
    · rfl
    · rw [clear_arrive, if_neg hnone]
      exact List.append_nil _
  | failRead f =>
    simp only [apply, Channel.apply]
    rw [clear_arrive, if_neg hnone]
    exact List.append_nil _
  | widen amount => cases amount <;> rfl
  | _ => rfl

/-- A stream is quiet exactly if its input goes on and no fault is in it. -/
theorem quiet_iff : l.Quiet ↔ l.channel.ended = false ∧ l.channel.inbox.all Arrival.isData = true :=
  ⟨fun h => ⟨h.lasting, h.faultless⟩, fun h => ⟨h.1, h.2⟩⟩

/-- Whether a stream is quiet is told by its inbox and by whether its input goes on. -/
theorem quiet_congr (hended : l'.channel.ended = l.channel.ended)
    (hinbox : l'.channel.inbox = l.channel.inbox) : l'.Quiet ↔ l.Quiet := by
  rw [quiet_iff, quiet_iff, hended, hinbox]

/-- A stream is quiet after something has arrived exactly if it was, and that is no fault. -/
theorem quiet_arrive_iff (c : Channel) (ahead : Bytes) (a : Arrival) :
    Quiet ⟨c.arrive a, ahead⟩ ↔ Quiet ⟨c, ahead⟩ ∧ a.isData = true := by
  rw [quiet_iff, quiet_iff]
  unfold Channel.arrive
  cases hended : c.ended with
  | true => simp [hended]
  | false => simp [List.all_append]

/-- A stream is quiet after an event exactly if it was, and the event neither ends nor fails its
    input. -/
theorem quiet_apply_iff (e : Channel.Event) :
    (l.apply e).Quiet ↔ l.Quiet ∧ e.isQuiet = true := by
  cases e with
  | send bs =>
    simp only [apply, Channel.apply]
    split
    · exact ⟨fun h => ⟨h, rfl⟩, fun h => h.1⟩
    · exact quiet_arrive_iff l.channel l.ahead (.data bs)
  | failRead f => exact quiet_arrive_iff l.channel l.ahead (.fault f)
  | failWrite f =>
    rw [Channel.Event.isQuiet, and_iff_left rfl]
    exact quiet_congr rfl rfl
  | widen amount =>
    rw [Channel.Event.isQuiet, and_iff_left rfl]
    cases amount <;> exact quiet_congr rfl rfl
  | finish =>
    exact ⟨fun h => absurd h.lasting Bool.noConfusion, fun h => absurd h.2 Bool.false_ne_true⟩
  | hangUp =>
    exact ⟨fun h => absurd h.lasting Bool.noConfusion, fun h => absurd h.2 Bool.false_ne_true⟩

/-- What is there stays there. -/
theorem clear_isPrefix_applyAll (l : Lookahead) (es : List Channel.Event) :
    l.clear <+: (l.applyAll es).clear := by
  induction es generalizing l with
  | nil => exact List.prefix_refl _
  | cons e es ih =>
    refine List.IsPrefix.trans ?_ (ih (l.apply e))
    by_cases hquiet : l.Quiet
    · rw [hquiet.clear_apply]
      exact List.prefix_append _ _
    · exact ⟨[], by rw [List.append_nil, clear_apply_of_not_quiet hquiet]⟩

/-- Behind a fault or the end nothing more is clear. -/
theorem clear_applyAll_of_not_quiet (h : ¬l.Quiet) (es : List Channel.Event) :
    (l.applyAll es).clear = l.clear := by
  induction es generalizing l with
  | nil => rfl
  | cons e es ih =>
    have hstill : ¬(l.apply e).Quiet := fun hquiet => h ((quiet_apply_iff e).1 hquiet).1
    exact (ih hstill).trans (clear_apply_of_not_quiet h e)

/-- Of a quiet stream, everything can be read. -/
theorem Quiet.unread_eq (h : l.Quiet) : l.unread = l.clear := by
  have hinbox : ∀ as : List Arrival, as.all Arrival.isData = true →
      Item.octets (as.flatMap Arrival.items) = Arrival.clear as := by
    intro as has
    induction as with
    | nil => rfl
    | cons a as ih =>
      rw [List.all_cons, Bool.and_eq_true] at has
      cases a with
      | data bs =>
        rw [List.flatMap_cons, Item.octets_append, ih has.2, Arrival.items, Item.octets_map,
          Arrival.clear]
      | fault f => cases has.1
  rw [unread, items, Item.octets_append, Item.octets_map, Channel.items, h.lasting,
    if_neg Bool.false_ne_true, List.append_nil, hinbox _ h.faultless, clear]

/-! ### One read -/

/-- `bs` has been taken from the octets in front of the first fault. -/
structure Cleared (l : Lookahead) (bs : Bytes) (l' : Lookahead) : Prop where
  took : l.Took bs l'
  clear_eq : l.clear = bs ++ l'.clear
  quiet_iff : l'.Quiet ↔ l.Quiet

theorem Cleared.refl (l : Lookahead) : l.Cleared [] l := ⟨.refl l, rfl, Iff.rfl⟩

theorem Cleared.trans (h : l.Cleared bs l') (h' : l'.Cleared cs m) : l.Cleared (bs ++ cs) m :=
  ⟨h.took.trans h'.took, by rw [h.clear_eq, h'.clear_eq, List.append_assoc],
    h'.quiet_iff.trans h.quiet_iff⟩

/-- A channel is read from its first chunk. -/
theorem read_data {c : Channel} {rest : List Arrival} (n : Nat)
    (hinbox : c.inbox = .data bs :: rest) :
    ∃ c', c.read n = (.ready (bs.take n), c') ∧
      Arrival.clear c.inbox = bs.take n ++ Arrival.clear c'.inbox ∧
      (∀ ahead ahead', Quiet ⟨c', ahead'⟩ ↔ Quiet ⟨c, ahead⟩) := by
  -- A read takes from the first chunk only, the rest of which stays in front.
  have hcut : Arrival.clear (.data bs :: rest) =
      bs.take n ++ Arrival.clear (if bs.length ≤ n then rest else .data (bs.drop n) :: rest) := by
    split
    · rename_i hle
      rw [List.take_of_length_le hle]
      rfl
    · rw [Arrival.clear, Arrival.clear, ← List.append_assoc, List.take_append_drop]
  refine ⟨{ c with inbox := if bs.length ≤ n then rest else .data (bs.drop n) :: rest }, ?_, ?_, ?_⟩
  · rw [Channel.read, hinbox]
  · rw [hinbox]
    exact hcut
  · intro ahead ahead'
    rw [Lookahead.quiet_iff, Lookahead.quiet_iff, hinbox]
    refine and_congr_right fun _ => ?_
    dsimp only
    split <;> simp [Arrival.isData]

/-- Where there are octets, a read takes some. -/
theorem cleared_read (hproper : l.Proper) (hn : 0 < n) (hne : l.clear ≠ []) :
    ∃ bs l', l.read n = (.ready bs, l') ∧ bs ≠ [] ∧ bs.length ≤ n ∧ l.Cleared bs l' := by
  have htook := l.took_read n
  obtain ⟨c, ahead⟩ := l
  cases ahead with
  | cons b ahead =>
    refine ⟨(b :: ahead).take n, ⟨c, (b :: ahead).drop n⟩, rfl, ?_, ?_, htook, ?_,
      quiet_congr rfl rfl⟩
    · simp [Nat.ne_of_gt hn]
    · exact List.length_take_le _ _
    · rw [clear, clear, ← List.append_assoc, List.take_append_drop]
  | nil =>
    obtain ⟨bs, rest, hinbox⟩ : ∃ bs rest, c.inbox = .data bs :: rest := by
      cases hinbox : c.inbox with
      | nil => simp [clear, hinbox, Arrival.clear] at hne
      | cons a rest =>
        cases a with
        | data bs => exact ⟨bs, rest, rfl⟩
        | fault f => simp [clear, hinbox, Arrival.clear] at hne
    have hbs : bs ≠ [] := by
      rintro rfl
      exact hproper (by rw [hinbox]; exact List.mem_cons_self)
    by_cases hpass : capacity ≤ n
    · -- The read passes the empty buffer by.
      obtain ⟨c', hread, hclear, hquiet⟩ := read_data n hinbox
      have hsame : Lookahead.read n ⟨c, []⟩ = (.ready (bs.take n), ⟨c', []⟩) := by
        simp [read, hpass, hread]
      rw [hsame] at htook
      refine ⟨_, _, hsame, ?_, List.length_take_le _ _, htook, ?_, hquiet _ _⟩
      · simp [Nat.ne_of_gt hn, hbs]
      · exact hclear
    · obtain ⟨c', hread, hclear, hquiet⟩ := read_data capacity hinbox
      have hsame : Lookahead.read n ⟨c, []⟩ =
          (.ready ((bs.take capacity).take n), ⟨c', (bs.take capacity).drop n⟩) := by
        simp [read, hpass, fill, hread, consume]
      rw [hsame] at htook
      refine ⟨_, _, hsame, ?_, List.length_take_le _ _, htook, ?_, hquiet _ _⟩
      · simp [Nat.ne_of_gt hn, hbs, capacity]
      · show Arrival.clear c.inbox = _ ++ (_ ++ _)
        rw [hclear, ← List.append_assoc, List.take_append_drop]

/-- Where there are none yet, a read waits. -/
theorem read_of_quiet (hproper : l.Proper) (hquiet : l.Quiet) (hnil : l.clear = []) (n : Nat) :
    l.read n = (.blocked, l) := by
  obtain ⟨⟨inbox, ended, room, fault, shut, written⟩, ahead⟩ := l
  obtain ⟨rfl, hinbox⟩ := List.append_eq_nil_iff.1 hnil
  obtain ⟨rfl, hfaultless⟩ := hquiet
  cases inbox with
  | nil =>
    unfold read
    split <;> rfl
  | cons a rest =>
    cases a with
    | data bs =>
      -- No chunk is empty.
      have hbs : bs = [] := (List.append_eq_nil_iff.1 hinbox).1
      rw [hbs] at hproper
      exact absurd List.mem_cons_self hproper
    | fault f => cases hfaultless

/-! ### Longer reads -/

/-- A read takes no more than was asked for. -/
theorem length_read_le (n : Nat) (l : Lookahead) : (l.read n).1.taken.length ≤ n := by
  unfold read
  split
  · show (l.channel.read n).1.taken.length ≤ n
    unfold Channel.read
    split
    · split <;> exact Nat.zero_le n
    · exact Nat.zero_le n
    · exact List.length_take_le n _
  · split
    · exact List.length_take_le n _
    · exact Nat.zero_le n
    · exact Nat.zero_le n

/-- **A longer read** takes the octets that come with its result, which are as many as it was to
    take if it could. -/
theorem took_readExact (n : Nat) (l : Lookahead) :
    l.Took (l.readExact n).2.1 (l.readExact n).2.2 ∧ (l.readExact n).2.1.length ≤ n ∧
      ((l.readExact n).1 = .ready () → (l.readExact n).2.1.length = n) := by
  -- One case for each way in which a read goes: the last one reads on for what is still wanted.
  induction n, l using readExact.induct with
  | case1 l =>
    rw [readExact, if_pos rfl]
    exact ⟨.refl l, Nat.le_refl 0, fun _ => rfl⟩
  | case2 n l hn l' hread =>
    have htook := l.took_read n
    rw [readExact, if_neg hn]
    rw [hread] at htook ⊢
    exact ⟨htook, Nat.zero_le n, fun h => by cases h⟩
  | case3 n l hn f l' hread =>
    have htook := l.took_read n
    rw [readExact, if_neg hn]
    rw [hread] at htook ⊢
    exact ⟨htook, Nat.zero_le n, fun h => by cases h⟩
  | case4 n l hn l' hread =>
    have htook := l.took_read n
    rw [readExact, if_neg hn]
    rw [hread] at htook ⊢
    exact ⟨htook, Nat.zero_le n, fun h => by cases h⟩
  | case5 n l hn b bs l' hread result more l'' hmore ih =>
    have htook := l.took_read n
    have hlength := l.length_read_le n
    rw [hread] at htook hlength
    rw [hmore] at ih
    rw [readExact, if_neg hn, hread]
    dsimp only
    rw [hmore]
    obtain ⟨hmore, hle, hready⟩ := ih
    replace hlength : (b :: bs).length ≤ n := hlength
    refine ⟨htook.trans hmore, ?_, fun h => ?_⟩
    · dsimp only at hle ⊢
      rw [List.length_append]
      omega
    · have hrest := hready h
      dsimp only at hrest ⊢
      rw [List.length_append]
      omega

/-- Octets that are there are taken. -/
theorem readExact_of_le (hproper : l.Proper) (hle : n ≤ l.clear.length) :
    ∃ l', l.readExact n = (.ready (), l.clear.take n, l') ∧ l.Cleared (l.clear.take n) l' := by
  induction n using Nat.strongRecOn generalizing l with
  | ind n ih =>
    rw [readExact]
    by_cases hn : n = 0
    · rw [if_pos hn, hn]
      exact ⟨l, rfl, .refl l⟩
    · rw [if_neg hn]
      have hne : l.clear ≠ [] := by
        intro hnil
        rw [hnil] at hle
        exact hn (Nat.le_zero.1 hle)
      -- A read takes at least one octet while some are clear, so less is wanted of what is left.
      obtain ⟨bs, l₁, hread, hbs, hlen, hcleared⟩ :=
        cleared_read hproper (Nat.pos_of_ne_zero hn) hne
      have hpos : 0 < bs.length := List.length_pos_iff.2 hbs
      rw [hcleared.clear_eq, List.length_append] at hle
      obtain ⟨l₂, hmore, hcleared₂⟩ := ih (n - bs.length) (by omega)
        (hcleared.took.proper hproper) (by omega)
      refine ⟨l₂, ?_, ?_⟩
      · rw [hread]
        cases bs with
        | nil => exact absurd rfl hbs
        | cons b bs =>
          simp only [hmore, hcleared.clear_eq]
          rw [List.take_append, List.take_of_length_le hlen]
      · rw [hcleared.clear_eq, List.take_append, List.take_of_length_le hlen]
        exact hcleared.trans hcleared₂

/-- Octets that may still come are waited for, behind those that are there. -/
theorem readExact_of_quiet (hproper : l.Proper) (hquiet : l.Quiet) (hlt : l.clear.length < n) :
    ∃ l', l.readExact n = (.blocked, l.clear, l') ∧ l.Cleared l.clear l' := by
  induction n using Nat.strongRecOn generalizing l with
  | ind n ih =>
    rw [readExact, if_neg (by omega)]
    by_cases hnil : l.clear = []
    · rw [read_of_quiet hproper hquiet hnil, hnil]
      exact ⟨l, rfl, .refl l⟩
    · -- As long as something is clear it is read; the wait begins when nothing is.
      obtain ⟨bs, l₁, hread, hbs, hlen, hcleared⟩ :=
        cleared_read hproper (Nat.zero_lt_of_lt hlt) hnil
      have hpos : 0 < bs.length := List.length_pos_iff.2 hbs
      rw [hcleared.clear_eq, List.length_append] at hlt
      obtain ⟨l₂, hmore, hcleared₂⟩ := ih (n - bs.length) (by omega)
        (hcleared.took.proper hproper) (hcleared.quiet_iff.2 hquiet) (by omega)
      refine ⟨l₂, ?_, ?_⟩
      · rw [hread]
        cases bs with
        | nil => exact absurd rfl hbs
        | cons b bs => simp only [hmore, hcleared.clear_eq]
      · rw [hcleared.clear_eq]
        exact hcleared.trans hcleared₂

/-! ### While the other side goes on -/

/-- `l` is the stream `g`, of which nobody has read anything, after `taken` was taken from its
    octets in front of the first fault. -/
structure Trails (g : Lookahead) (taken : Bytes) (l : Lookahead) : Prop where
  follows : g.Follows taken l
  clear_eq : g.clear = taken ++ l.clear
  quiet_iff : g.Quiet ↔ l.Quiet

theorem Trails.refl (g : Lookahead) : g.Trails [] g := ⟨.refl g, rfl, Iff.rfl⟩

/-- What is cleared of a stream is cleared of the one that it trails. -/
theorem Trails.cleared (h : g.Trails taken l) (hc : l.Cleared bs l') :
    g.Trails (taken ++ bs) l' :=
  ⟨h.follows.took hc.took, by rw [h.clear_eq, hc.clear_eq, List.append_assoc],
    h.quiet_iff.trans hc.quiet_iff.symm⟩

/-- What the other side does comes behind everything that is taken. -/
theorem Trails.apply (h : g.Trails taken l) (e : Channel.Event) :
    (g.apply e).Trails taken (l.apply e) := by
  refine ⟨h.follows.apply e, ?_, ?_⟩
  · by_cases hquiet : g.Quiet
    · rw [hquiet.clear_apply, (h.quiet_iff.1 hquiet).clear_apply, h.clear_eq, List.append_assoc]
    · rw [clear_apply_of_not_quiet hquiet,
        clear_apply_of_not_quiet fun hq => hquiet (h.quiet_iff.2 hq), h.clear_eq]
  · rw [quiet_apply_iff, quiet_apply_iff, h.quiet_iff]

/-- Writing does not show in what is read. -/
theorem Trails.wrote (h : g.Trails taken l) (hw : l.Wrote bs l') : g.Trails taken l' := by
  have hinbox : l'.channel.inbox = l.channel.inbox := by rw [hw.channel_eq]
  have hended : l'.channel.ended = l.channel.ended := by rw [hw.channel_eq]
  refine ⟨h.follows.wrote hw, ?_, h.quiet_iff.trans (quiet_congr hended hinbox).symm⟩
  rw [h.clear_eq, clear, clear, hw.ahead_eq, hinbox]

end Lookahead

/-- A read under an idle timer takes no more than was asked for. -/
theorem IdleStream.length_read_le (now n : Nat) (s : IdleStream Lookahead) :
    (s.read now n).1.taken.length ≤ n := by
  show (s.timer.observe now (s.stream.read n).1).1.taken.length ≤ n
  rw [observe_taken]
  exact s.stream.length_read_le n

end ForwardProxy
