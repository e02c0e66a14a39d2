import ForwardProxy.Proofs.Server.Books
import ForwardProxy.Proofs.Settings.Values

namespace ForwardProxy.Server

/-!
# How a server accepts clients

What the listener offers is taken in order: every client begins a session, a fault that passes puts
the next accept off, and one that does not pass ends everything.  Once the server has been told to
stop, nothing is taken any more.

* `Server.Accepting` — the laws that a server keeps to while it accepts, and when that ends.
* `Server.accepting_of_timely` — every server keeps to them, in every run.
-/

variable {settings : Settings} {policy : AcceptPolicy} {h : List Taking} {s : Server}

/-! ### When a server has started -/

/-- A server that begins to accept has started, even one that closes its listener at once. -/
theorem opened_listen (s : Server) : s.listen.gate ≠ .unopened := by
  unfold listen
  split <;> exact nofun

/-- A server that has started stays so when it goes on accepting. -/
theorem opened_wake (hgate : s.gate ≠ .unopened) : s.wake.gate ≠ .unopened := by
  rcases s.wake_cases with ⟨hsame, -⟩ | ⟨hlistens, -⟩
  · rw [hsame]
    exact hgate
  · rw [hlistens]
    exact s.opened_listen

/-- Whatever is taken from the listener, the server has started. -/
theorem opened_take (offer : Offer) (s : Server) : (s.take offer).gate ≠ .unopened := by
  cases offer with
  | client n => exact opened_listen _
  | fault f =>
    show (if s.policy.isPassing f then s.backOff f else s.giveUp f).gate ≠ _
    split
    · exact opened_wake nofun
    · exact nofun

/-- Taking what is offered leaves a server started. -/
theorem opened_takeOffers (offers : List Offer) (hgate : s.gate ≠ .unopened) :
    (takeOffers offers s).gate ≠ .unopened := by
  induction offers generalizing s with
  | nil => exact hgate
  | cons offer rest ih =>
    unfold takeOffers
    split
    · exact ih (opened_take offer s)
    · exact hgate

/-- Attending to the listener does not start a server. -/
theorem unopened_attend (s : Server) : s.attend.gate = .unopened ↔ s.gate = .unopened := by
  cases haccepting : s.isAccepting with
  | false => rw [attend_of_not_isAccepting haccepting]
  | true =>
    have hgate : s.gate ≠ .unopened := fun hgate => by
      rw [isAccepting, hgate] at haccepting
      cases haccepting
    refine iff_of_false ?_ hgate
    rw [attend_of_isAccepting haccepting]
    split
    · intro hdrain
      cases hdrain
    · exact opened_takeOffers _ (opened_wake hgate)

/-- A server that has not started does not stop for want of sessions. -/
theorem unopened_checkDrained (s : Server) :
    s.checkDrained.gate = .unopened ↔ s.gate = .unopened := by
  rcases s.checkDrained_cases with hsame | ⟨_, _, _, hgate, -, hstops⟩
  · rw [hsame]
  · rw [hstops, hgate]
    exact iff_of_false nofun nofun

/-- A server has not started after any number of deeds exactly if it had not before and none of them
    starts it. -/
theorem unopened_changes (ds : List Deed) (s : Server) :
    (s.changes ds).gate = .unopened ↔ s.gate = .unopened ∧ .start ∉ ds := by
  induction ds generalizing s with
  | nil => exact (and_iff_left List.not_mem_nil).symm
  | cons d ds ih =>
    rw [show s.changes (d :: ds) = (s.change d).changes ds from rfl, ih, List.mem_cons, not_or]
    cases d with
    -- A start in the middle of the deeds settles both sides: the gate is open from then on.
    | start =>
      have hopened : (s.change .start).gate ≠ .unopened := by
        show (if s.gate = .unopened then s.listen else s).gate ≠ _
        split
        · exact s.opened_listen
        · assumption
      exact iff_of_false (fun h => hopened h.1) (fun h => h.2.1 rfl)
    | _ => exact and_congr_right fun _ => (and_iff_right nofun).symm

/-- A round leaves a server unstarted exactly if nobody starts it in that round. -/
theorem unopened_round (s : Server) (r : Round) :
    (s.round r).gate = .unopened ↔ s.gate = .unopened ∧ .start ∉ r.deeds := by
  rw [round, settle, unopened_checkDrained]
  exact (unopened_attend _).trans (unopened_changes r.deeds _)

/-- A server has started once somebody has started it. -/
theorem unopened_rounds (rs : List Round) (s : Server) :
    (s.rounds rs).gate = .unopened ↔ s.gate = .unopened ∧ .start ∉ rs.flatMap Round.deeds := by
  induction rs generalizing s with
  | nil => exact (and_iff_left List.not_mem_nil).symm
  | cons r rs ih =>
    rw [show s.rounds (r :: rs) = (s.round r).rounds rs from rfl, ih, unopened_round,
      List.flatMap_cons, List.mem_append, not_or, and_assoc]

/-! ### When a server has been told to stop -/

/-- A server has been told to stop after a round exactly if it had been before, or is told in that
    round. -/
theorem stopping_round (s : Server) (r : Round) :
    (s.round r).stopping = true ↔ s.stopping = true ∨ .shutdown ∈ r.deeds := by
  rw [round, (sameTerms_settle _ _).stopping_eq]
  exact stopping_changes r.deeds _

/-- A server has been told to stop once somebody has told it so. -/
theorem stopping_rounds (rs : List Round) (s : Server) : (s.rounds rs).stopping = true ↔
    s.stopping = true ∨ .shutdown ∈ rs.flatMap Round.deeds := by
  induction rs generalizing s with
  | nil => exact (or_iff_left List.not_mem_nil).symm
  | cons r rs ih =>
    rw [show s.rounds (r :: rs) = (s.round r).rounds rs from rfl, ih, stopping_round,
      List.flatMap_cons, List.mem_append, or_assoc]

/-! ### The laws -/

/-- The laws that a server keeps to when others have done `deeds` and it has taken `h` of what the
    listener has offered. -/
structure Accepting (settings : Settings) (policy : AcceptPolicy) (deeds : List Deed)
    (h : List Taking) (s : Server) : Prop where
  /-- Everything is taken in the order in which it was offered; the rest waits. -/
  in_order : h.map Taking.offer ++ s.queue = offersFrom 0 deeds
  /-- A client that was taken has one session, and no other has one. -/
  handed : ∀ i, (h.map Taking.offer).count (.client i) =
    if s.visitors[i]?.any Visitor.isServed then 1 else 0
  /-- Whenever something was taken, accepting had been begun again after what was taken before. -/
  not_before : ∀ h₁ x, h₁ ++ [x] <+: h → due settings h₁ ≤ x.instant
  /-- Accepting is tried again only after a fault that passes. -/
  passing : Passing policy h.dropLast
  /-- A fault that does not pass ends everything at once. -/
  fatal : ∀ t f, h.getLast? = some ⟨t, .fault f⟩ → ¬policy.Passes f →
    s.gate = .stopped (.failed (.fatalAccept f))
  /-- Without such a fault, and before it is told to stop, a server that has started waits for the
      instant at which accepting is begun again, or has begun it then and taken all that there is.
      Each accept that is begun takes one thing. -/
  serving : .start ∈ deeds → .shutdown ∉ deeds → Passing policy h →
    if due settings h ≤ s.now then
      s.gate = .listening ∧ s.queue = [] ∧ s.accepts = h.length + 1
    else s.gate = .backingOff (due settings h) ∧ s.accepts = h.length
  /-- Once it is told to stop, it waits for the sessions to end or has done so. -/
  draining : .start ∈ deeds → .shutdown ∈ deeds → Passing policy h →
    (∃ deadline, s.gate = .draining deadline) ∨ s.gate = .stopped .drained ∨
      ∃ remaining, s.gate = .stopped (.drainTimedOut remaining)

/-- Settings with nothing wrong have the least delay below the most. -/
theorem backoffMin_le_backoffMax (hvalid : settings.flaw? = none) :
    settings.acceptBackoffMin ≤ settings.acceptBackoffMax :=
  (Settings.flaw?_eq_none_iff.1 hvalid).2

/-- A client is offered as often as its number stands among the clients offered. -/
theorem count_client (i : Nat) (offers : List Offer) :
    offers.count (.client i) = (offers.filterMap Offer.client?).count i := by
  induction offers with
  | nil => rfl
  | cons offer rest ih =>
    cases offer with
    | client n =>
      rw [List.count_cons, List.filterMap_cons, ih]
      show _ = (n :: rest.filterMap Offer.client?).count i
      rw [List.count_cons]
      simp
    | fault f =>
      rw [List.count_cons, ih]
      rfl

/-- Every client that was taken was taken once. -/
theorem Books.count_client {pending : List Offer} (hb : Books settings policy h pending s) (i : Nat) :
    (h.map Taking.offer).count (.client i) =
      if s.visitors[i]?.any Visitor.isServed then 1 else 0 := by
  -- Every client is offered once, so taken once at most.
  have hnodup : ((h.map Taking.offer).filterMap Offer.client?).Nodup := by
    have hall : ((h.map Taking.offer ++ pending).filterMap Offer.client?).Nodup :=
      hb.clients ▸ List.nodup_range
    rw [List.filterMap_append] at hall
    exact hall.of_append_left
  have hserved : (i ∈ (h.map Taking.offer).filterMap Offer.client?) ↔
      s.visitors[i]?.any Visitor.isServed = true := by
    have hmem : (i ∈ (h.map Taking.offer).filterMap Offer.client?) ↔
        .client i ∈ h.map Taking.offer := by
      rw [List.mem_filterMap]
      constructor
      · rintro ⟨offer, hoffer, hclient⟩
        cases offer with
        | client n => cases hclient; exact hoffer
        | fault f => cases hclient
      · exact fun hoffer => ⟨_, hoffer, rfl⟩
    rw [hmem, hb.handed, List.getElem?_map]
    cases s.visitors[i]? <;> simp
  rw [Server.count_client, hnodup.count]
  simp only [hserved]

section Created

variable {rs : List Round}

/-- A server that has not started has taken nothing. -/
theorem books_create (settings : Settings) (policy : AcceptPolicy) (net : Network) (turn : Turn) :
    Books settings policy [] [] (create settings policy net turn) ∧
      Standing settings policy [] (create settings policy net turn) ∧
      (create settings policy net turn).Settled :=
  ⟨⟨rfl, rfl, rfl, fun _ => iff_of_false List.not_mem_nil nofun,
      fun _ _ hx => absurd (List.prefix_nil.1 hx) (List.append_ne_nil_of_right_ne_nil _ nofun)⟩,
    ⟨rfl, rfl, rfl⟩, ⟨awake_of_gate rfl nofun, nofun, nofun⟩⟩

/-- What was taken and what still waits is what the listener has offered. -/
theorem offers_rounds (hle : settings.acceptBackoffMin ≤ settings.acceptBackoffMax)
    (hlargest : settings.acceptBackoffMax ≤ Duration.largest) (hb : Books settings policy h s.queue s)
    (hs : Standing settings policy h s) (ht : s.Timely rs) :
    (history s rs).map Taking.offer ++ (s.rounds rs).queue =
      s.queue ++ offersFrom s.visitors.length (rs.flatMap Round.deeds) := by
  -- By induction on the rounds: what waits after one is where the next one takes from.
  induction rs generalizing s h with
  | nil => exact (List.append_nil _).symm
  | cons r rs ih =>
    obtain ⟨horder, hbooks, hstanding, -, -⟩ := books_round hle hlargest hb hs ht.1.1
    have hoffers : ((s.taken r).map (Taking.mk r.instant)).map Taking.offer = s.taken r := by
      rw [List.map_map]
      exact List.map_id _
    rw [history, List.map_append, hoffers, List.append_assoc, List.flatMap_cons, offersFrom_append,
      ← length_round, ← List.append_assoc s.queue, ← horder, List.append_assoc]
    exact congrArg (s.taken r ++ ·) (ih hbooks hstanding ht.2)

/-! ### One law at a time -/

/-- Only the last fault need not pass: it has ended everything. -/
theorem Standing.passing_dropLast (hs : Standing settings policy h s) :
    Passing policy h.dropLast := by
  rcases hs.passing_or_failed with hp | ⟨h₁, t, f, rfl, hp, -⟩
  · exact hp.subset h.dropLast_subset
  · rwa [List.dropLast_concat]

/-- A server whose last fault does not pass has stopped by it. -/
theorem Standing.failed_of_getLast? {t : Nat} {f : Fault} (hs : Standing settings policy h s)
    (hlast : h.getLast? = some ⟨t, .fault f⟩) (hstays : ¬policy.Passes f) :
    s.gate = .stopped (.failed (.fatalAccept f)) := by
  rcases hs.passing_or_failed with hp | ⟨h₁, t', f', rfl, -, -, hgate⟩
  · exact absurd (hp _ (List.mem_of_getLast? hlast) f rfl) hstays
  · rw [List.getLast?_concat] at hlast
    cases hlast
    exact hgate

/-- A server that has started and is not told to stop accepts, or waits until it may. -/
theorem Standing.serving (hs : Standing settings policy h s) (hsettled : s.Settled)
    (hstarted : s.gate ≠ .unopened) (hstopping : s.stopping = false) (hp : Passing policy h) :
    if due settings h ≤ s.now then
      s.gate = .listening ∧ s.queue = [] ∧ s.accepts = h.length + 1
    else s.gate = .backingOff (due settings h) ∧ s.accepts = h.length := by
  cases hgate : s.gate with
  | unopened => exact absurd hgate hstarted
  | listening =>
    rw [Standing, hgate] at hs
    obtain ⟨-, hdue, haccepts, -⟩ := hs
    rw [if_pos hdue]
    exact ⟨rfl, hsettled.idle hgate, haccepts⟩
  | backingOff instant =>
    rw [Standing, hgate] at hs
    obtain ⟨-, rfl, haccepts, -⟩ := hs
    rw [if_neg (Nat.not_le_of_lt (hsettled.awake _ hgate))]
    exact ⟨rfl, haccepts⟩
  | draining deadline =>
    rw [Standing, hgate, hstopping] at hs
    exact absurd hs.1 Bool.false_ne_true
  | stopped outcome =>
    cases outcome with
    | failed failure => exact absurd hgate (hs.not_failed hp failure)
    | drained | drainTimedOut =>
      rw [Standing, hgate, hstopping] at hs
      exact absurd hs.1 Bool.false_ne_true

/-- A server that has started and is told to stop waits for its sessions, or has done so. -/
theorem Standing.draining (hs : Standing settings policy h s) (hsettled : s.Settled)
    (hstarted : s.gate ≠ .unopened) (hstopping : s.stopping = true) (hp : Passing policy h) :
    (∃ deadline, s.gate = .draining deadline) ∨ s.gate = .stopped .drained ∨
      ∃ remaining, s.gate = .stopped (.drainTimedOut remaining) := by
  have hstopped := hsettled.stopped hstopping
  cases hgate : s.gate with
  | unopened => exact absurd hgate hstarted
  | listening | backingOff =>
    -- Neither of these is left as it is by a server that is told to stop.
    rw [isAccepting, hgate] at hstopped
    cases hstopped
  | draining deadline => exact .inl ⟨deadline, rfl⟩
  | stopped outcome =>
    cases outcome with
    | drained => exact .inr (.inl rfl)
    | drainTimedOut remaining => exact .inr (.inr ⟨remaining, rfl⟩)
    | failed failure => exact absurd hgate (hs.not_failed hp failure)

/-- At a settled point, the books tell that the laws are kept. -/
theorem accepting_of_books {deeds : List Deed} (hb : Books settings policy h s.queue s)
    (hs : Standing settings policy h s) (hsettled : s.Settled)
    (horder : h.map Taking.offer ++ s.queue = offersFrom 0 deeds)
    (hstarted : s.gate = .unopened ↔ .start ∉ deeds)
    (hstopping : s.stopping = true ↔ .shutdown ∈ deeds) :
    Accepting settings policy deeds h s where
  in_order := horder
  handed := hb.count_client
  not_before := hb.not_before
  passing := hs.passing_dropLast
  fatal _ _ hlast hstays := hs.failed_of_getLast? hlast hstays
  serving hstart hshut hp :=
    hs.serving hsettled (fun hgate => hstarted.1 hgate hstart)
      (Bool.eq_false_iff.2 (mt hstopping.1 hshut)) hp
  draining hstart hshut hp :=
    hs.draining hsettled (fun hgate => hstarted.1 hgate hstart) (hstopping.2 hshut) hp

/-- **Every server keeps to the laws of accepting**, whatever the listener offers, whatever the
    policy is, and whenever it is told to stop, be it at the instant at which something is ready or
    a delay ends, or in the middle of a delay: from then on nothing is taken and no accept is begun.
    A server that settles after each thing that happens is one that goes through such rounds. -/
theorem accepting_of_timely (policy : AcceptPolicy) (net : Network) (turn : Turn)
    (hvalid : settings.flaw? = none) (hlargest : settings.acceptBackoffMax ≤ Duration.largest) :
    let begun := create settings policy net turn
    (∀ rs, begun.Timely rs →
      Accepting settings policy (rs.flatMap Round.deeds) (history begun rs) (begun.rounds rs) ∧
      ∀ r, (begun.rounds rs).InTime r → .shutdown ∈ rs.flatMap Round.deeds ++ r.deeds →
        (begun.rounds rs).taken r = [] ∧ (.start ∈ rs.flatMap Round.deeds →
          (begun.rounds (rs ++ [r])).accepts = (begun.rounds rs).accepts)) ∧
    ∀ is, ∃ rs, begun.Timely rs ∧ begun.rounds rs = begun.run is ∧
      rs.flatMap Round.deeds = is.filterMap Input.deed? := by
  intro begun
  have hle := backoffMin_le_backoffMax hvalid
  refine ⟨fun rs ht => ?_, begun.exists_rounds⟩
  obtain ⟨hnone, hunopened, hfirst⟩ := books_create settings policy net turn
  obtain ⟨hbooks, hstanding, hsettled⟩ := books_rounds hle hlargest hnone hunopened hfirst ht
  -- What the laws assume is told by the deeds alone: the gate and the order to stop are read off
  -- them.
  have hstarted : (begun.rounds rs).gate = .unopened ↔ .start ∉ rs.flatMap Round.deeds :=
    (unopened_rounds rs begun).trans (and_iff_right rfl)
  have hstopping : (begun.rounds rs).stopping = true ↔ .shutdown ∈ rs.flatMap Round.deeds :=
    (stopping_rounds rs begun).trans (or_iff_right nofun)
  refine ⟨accepting_of_books hbooks hstanding hsettled ?_ hstarted hstopping, fun r hr hshut => ?_⟩
  · exact offers_rounds hle hlargest hnone hunopened ht
  · obtain ⟨-, -, -, -, hstopped⟩ := books_round hle hlargest hbooks hstanding hr.1
    obtain ⟨hnone, haccepts⟩ := hstopped <| by
      rw [hstopping]
      exact List.mem_append.1 hshut
    refine ⟨hnone, fun hstart => ?_⟩
    rw [rounds_append]
    exact haccepts fun hgate => hstarted.1 hgate hstart

/-- Two faults in a row, the second one at the end of the first delay, and a shutdown at the end of
    the second one, when a client is there to be taken.  And a lack of descriptors, which passes by
    its number, behind which the listener is found closed: that ends everything, though a client
    waits. -/
theorem accepting_of_two_faults :
    let begun := create .standard .standard .empty ⟨true, true⟩
    let client : Deed := .connect (.v4 ⟨127, 0, 0, 1⟩ 40000) none []
    let reset : Fault := .bare .connectionReset
    let rs : List Round := [⟨0, [.start, client]⟩, ⟨7, [.acceptFault reset]⟩,
      ⟨50000007, [.acceptFault reset]⟩]
    let stop : Round := ⟨150000007, [client, .shutdown]⟩
    let full : Fault := .system 24
    let closed : Fault := .system 9
    let ending : List Round := [⟨0, [.start]⟩, ⟨7, [.acceptFault full]⟩,
      ⟨50000007, [.acceptFault closed, client]⟩]
    Settings.standard.flaw? = none ∧ begun.Timely rs ∧ (begun.rounds rs).InTime stop ∧
      history begun rs = [⟨0, .client 0⟩, ⟨7, .fault reset⟩, ⟨50000007, .fault reset⟩] ∧
      due .standard (history begun rs) = 150000007 ∧
      Accepting .standard .standard (rs.flatMap Round.deeds) (history begun rs)
        (begun.rounds rs) ∧
      (begun.rounds rs).taken stop = [] ∧ ((begun.rounds rs).round stop).queue = [.client 1] ∧
      begun.Timely ending ∧
      history begun ending = [⟨7, .fault full⟩, ⟨50000007, .fault closed⟩] ∧
      (begun.rounds ending).gate = .stopped (.failed (.fatalAccept closed)) ∧
      (begun.rounds ending).queue = [.client 0] := by
  intro begun client reset rs stop full closed ending
  have hlaws := (accepting_of_timely .standard .empty ⟨true, true⟩
    (show Settings.standard.flaw? = none by decide) (by decide)).1
  have htimely : begun.Timely rs := by decide +kernel
  have hending : begun.Timely ending := by decide +kernel
  have hhistory : history begun ending = [⟨7, .fault full⟩, ⟨50000007, .fault closed⟩] := by
    decide +kernel
  obtain ⟨haccepting, hstops⟩ := hlaws rs htimely
  -- The second fault is none of the policy's, so the server stops by it and leaves the client in
  -- the queue.
  have hfatal := (hlaws ending hending).1.fatal 50000007 closed (by rw [hhistory]; rfl) (by decide)
  exact ⟨by decide, htimely, by decide +kernel, by decide +kernel, by decide +kernel, haccepting,
    (hstops stop (by decide +kernel) (by decide +kernel)).1, by decide +kernel, hending, hhistory,
    hfatal, by decide +kernel⟩

end Created

end ForwardProxy.Server
