import ForwardProxy.Proofs.RequestHead.Reader
import ForwardProxy.RequestHead.Run

namespace ForwardProxy

/-!
# A request head in its time

Reading a request head by the clock comes to what the octets tell that arrive until the deadline,
however they were cut into chunks and whenever they came.

* `Timeline` — what a reader meets, with the instants at which it arrives.
* `HeadReader.attempt_of_done`, `HeadReader.attempt_of_open` — what reading comes to at an instant.
* `HeadReader.came_of_attempt` — what a reader takes of its stream then.
* `HeadRun.judge` — what a reading comes to, told by a timeline.
* `HeadRun.judged` — a run comes to what is told by the timeline of its client.
* `HeadRun.outcome_of_client` — the outcome of a run, told by the first head in the stream.
-/

/-! ### Timelines -/

/-- What a reader meets, each item with the instant at which it arrives. -/
abbrev Timeline := List (Nat × Item)

namespace Timeline

/-- The octets in front of the first ending. -/
def heard : Timeline → List (Nat × UInt8)
  | (t, .octet b) :: r => (t, b) :: heard r
  | _ => []

/-- The first ending. -/
def stop? : Timeline → Option (Nat × Ending)
  | [] => none
  | (_, .octet _) :: r => stop? r
  | (t, .ending e) :: _ => some (t, e)

/-- Items that arrive at one instant. -/
def sameTime (t : Nat) (is : List Item) : Timeline := is.map (Prod.mk t)

/-- What arrives at one instant is heard up to the first ending in it. -/
theorem heard_sameTime_append (t : Nat) (is : List Item) (r : Timeline) :
    heard (sameTime t is ++ r) = (Item.leading is).map (Prod.mk t) ++
      (Item.ending? is).elim (heard r) fun _ => [] := by
  induction is with
  | nil => rfl
  | cons i is ih =>
    cases i with
    | octet b => exact congrArg ((t, b) :: ·) ih
    | ending e => rfl

/-- Octets stop at the first ending, at its instant. -/
theorem stop?_sameTime_append (t : Nat) (is : List Item) (r : Timeline) :
    stop? (sameTime t is ++ r) = (Item.ending? is).elim (stop? r) fun e => some (t, e) := by
  induction is with
  | nil => rfl
  | cons i is ih =>
    cases i with
    | octet b => exact ih
    | ending e => rfl

/-- The octets of a timeline are those of its items. -/
theorem heard_map_snd (r : Timeline) : r.heard.map Prod.snd = Item.leading (r.map Prod.snd) := by
  induction r with
  | nil => rfl
  | cons i r ih =>
    obtain ⟨t, i⟩ := i
    cases i with
    | octet b => exact congrArg (b :: ·) ih
    | ending e => rfl

end Timeline

/-- The instant at which the last of some octets arrives, `start` if there are none. -/
def lastInstant (start : Nat) (os : List (Nat × UInt8)) : Nat := (os.map Prod.fst).getLastD start

/-- The instant of the last octet does not depend on the start, if there is one. -/
theorem lastInstant_of_ne_nil {os : List (Nat × UInt8)} (h : os ≠ []) (s t : Nat) :
    lastInstant s os = lastInstant t os := by
  cases os with
  | nil => exact absurd rfl h
  | cons o os => rfl

/-- The last of some octets is the last of those that come later. -/
theorem lastInstant_append {ps : List (Nat × UInt8)} (h : ps ≠ []) (s t : Nat)
    (os : List (Nat × UInt8)) : lastInstant s (os ++ ps) = lastInstant t ps := by
  simp [lastInstant, List.getLastD_eq_getLast?, List.getLast?_append,
    List.getLast?_eq_some_getLast h]

/-- Octets of one instant have that instant for their last. -/
theorem lastInstant_sameTime (t : Nat) (bs : Bytes) : lastInstant t (bs.map (Prod.mk t)) = t := by
  induction bs with
  | nil => rfl
  | cons b bs ih =>
    cases bs with
    | nil => rfl
    | cons b' bs => exact ih

/-! ### At an instant -/

namespace HeadReader

/-- What reading came to if the reader is done. -/
def resultOf (terms : HeadTerms) (r : HeadReader) : Except Failure Bytes :=
  if r.complete then .ok r.head else .error (.requestTooLarge terms.cap)

variable (terms : HeadTerms) (deadline now : Nat) {r : HeadReader} {l : Lookahead}

/-- A reader takes octets from the front, and at least one if it gets done. -/
theorem takeFrom_split (r : HeadReader) (bs : Bytes) :
    ∃ d, bs = d ++ (r.takeFrom bs).2 ∧
      (r.isDone = false → (r.takeFrom bs).1.isDone = true → d ≠ []) := by
  induction bs generalizing r with
  | nil => exact ⟨[], rfl, fun h h' => absurd (h.symm.trans h') (by decide)⟩
  | cons b bs ih =>
    by_cases hd : r.isDone = true
    · rw [takeFrom_of_isDone hd]
      exact ⟨[], rfl, fun h => absurd (h.symm.trans hd) (by decide)⟩
    · rw [takeFrom, if_neg hd]
      obtain ⟨d, hsplit, -⟩ := ih (r.feed b)
      exact ⟨b :: d, by rw [List.cons_append, ← hsplit], fun _ _ => by simp⟩

/-- What a reader comes to at the end of what there is, with the stream as it is then. -/
private theorem conclude_eq (r : HeadReader) (l : Lookahead) :
    (match (r.conclude, l) with
      | (.waiting r, l) =>
        if deadline ≤ now then (.over (.error (.malformedRequest (.late terms.limit))), l)
        else (.pending r, l)
      | (.tooLarge, l) => (.over (.error (.requestTooLarge terms.cap)), l)
      | (.failed f, l) => (.over (.error (.malformedRequest (.unreadable f))), l)
      | (.done head, l) => (HeadAttempt.over (.ok head), l)) = (.over (r.resultOf terms), l) := by
  cases h : r.complete <;> simp [conclude, resultOf, h]

/-- A reader that finds enough octets is done at once, even at the deadline. -/
theorem attempt_of_done (hp : l.Proper)
    (hd : (r.takeFrom (Item.leading l.items)).1.isDone = true) :
    ∃ d l', Item.leading l.items = d ++ (r.takeFrom (Item.leading l.items)).2 ∧ l.Took d l' ∧
      r.attempt terms deadline now l =
        (.over ((r.takeFrom (Item.leading l.items)).1.resultOf terms), l') := by
  cases h : r.isDone with
  | true =>
    -- The reader was done before it came to this.
    rw [takeFrom_of_isDone h]
    refine ⟨[], l, rfl, .refl l, ?_⟩
    rw [attempt, run, if_pos h]
    exact conclude_eq terms deadline now r l
  | false =>
    -- The scan stops where the reader is done.
    obtain ⟨hresult, ⟨d, hsplit, htook⟩, -, -⟩ :=
      Lookahead.scanned (fun r b => (r.feed b, (r.feed b).isDone)) hp r
    rw [scanList_feed h, hd] at hresult
    rw [scanList_feed h] at hsplit
    refine ⟨d, _, hsplit, htook, ?_⟩
    rw [attempt, run, h, if_neg (by decide)]
    generalize l.scan _ r = scan at hresult ⊢
    obtain ⟨result, l'⟩ := scan
    obtain rfl : result = .stopped _ := hresult
    exact conclude_eq terms deadline now _ l'

/-- A reader that does not is stopped by what keeps it from reading on, or by the deadline. -/
theorem attempt_of_open (hp : l.Proper)
    (hd : (r.takeFrom (Item.leading l.items)).1.isDone = false) :
    ∃ l', l.Took (Item.leading l.items) l' ∧ (Item.ending? l.items = none → l'.items = []) ∧
      r.attempt terms deadline now l =
        (match Item.ending? l.items with
          | some e => .over (.error (.malformedRequest (.unreadable e.asFault)))
          | none =>
            if deadline ≤ now then .over (.error (.malformedRequest (.late terms.limit)))
            else .pending (r.takeFrom (Item.leading l.items)).1, l') := by
  have hopen : r.isDone = false := by
    cases h : r.isDone with
    | false => rfl
    | true => rw [takeFrom_of_isDone h, h] at hd; exact hd
  obtain ⟨hresult, ⟨d, hsplit, htook⟩, -, hblocked⟩ :=
    Lookahead.scanned (fun r b => (r.feed b, (r.feed b).isDone)) hp r
  rw [scanList_feed hopen, hd] at hresult
  rw [scanList_feed hopen] at hsplit hblocked
  rw [takeFrom_left hd, List.append_nil] at hsplit
  rw [hsplit]
  refine ⟨_, htook, hblocked hd, ?_⟩
  rw [← hsplit, attempt, run, hopen, if_neg (by decide)]
  generalize l.scan _ r = scan at hresult ⊢
  obtain ⟨result, l'⟩ := scan
  dsimp only at hresult
  subst hresult
  cases Item.ending? l.items with
  | none =>
    show (if deadline ≤ now then _ else _) = _
    split <;> rfl
  | some e => cases e <;> rfl

/-- What comes of an attempt to read on, by a reader with a cap that has taken `c` of the stream `l`
    is on. -/
inductive Came (cap : Nat) (c : Bytes) (l : Lookahead) : HeadAttempt × Lookahead → Prop
  | head {d p h : Bytes} {l' : Lookahead} (took : l.Took d l') (split : c ++ d = p ++ h)
      (preamble : IsPreamble p) (head : IsHead h) : Came cap c l (.over (.ok h), l')
  | refused {d : Bytes} {l' : Lookahead} (took : l.Took d l') (failure : Failure) :
      Came cap c l (.over (.error failure), l')
  | pending {d : Bytes} {l' : Lookahead} {r : HeadReader} (took : l.Took d l')
      (reads : Reads cap (c ++ d) r) (fits : (c ++ d).length ≤ cap) : Came cap c l (.pending r, l')

/-- **An attempt to read on** takes a head whole and nothing behind it, or is refused, or waits with
    all taken that there was. -/
theorem came_of_attempt {cap : Nat} {c : Bytes} (hp : l.Proper) (hr : Reads cap c r)
    (hfits : c.length ≤ cap) : Came cap c l (r.attempt terms deadline now l) := by
  obtain ⟨d, hd, hlen, hcases⟩ := hr.takeFrom hfits (Item.leading l.items)
  cases hdone : (r.takeFrom (Item.leading l.items)).1.isDone with
  | true =>
    -- The reader is done, because it has a head or because its cap is used up.
    obtain ⟨d', l', hd', htook, hattempt⟩ := attempt_of_done terms deadline now hp hdone
    obtain rfl : d' = d := List.append_cancel_right (hd'.symm.trans hd)
    rw [hattempt]
    rcases hcases with hr | ⟨p, h, hsplit, hpre, hhead, hr⟩
    · rw [resultOf, hr.quota.2, if_neg Bool.false_ne_true]
      exact .refused htook _
    · rw [resultOf, hr, if_pos rfl, head, List.reverse_reverse]
      exact .head htook hsplit hpre hhead
  | false =>
    -- The reader is not done, and has taken everything there was.
    obtain ⟨l', htook, -, hattempt⟩ := attempt_of_open terms deadline now hp hdone
    rw [takeFrom_left hdone, List.append_nil] at hd
    subst hd
    rw [hattempt]
    cases Item.ending? l.items with
    | some e => exact .refused htook _
    | none =>
      dsimp only
      by_cases hlate : deadline ≤ now
      · rw [if_pos hlate]
        exact .refused htook _
      · rw [if_neg hlate]
        rcases hcases with hr | ⟨p, h, -, -, -, hr⟩
        · exact .pending htook hr hlen
        · rw [hr] at hdone
          cases hdone

/-- How many octets a reader takes out of some. -/
def spent (r : HeadReader) (bs : Bytes) : Nat := bs.length - (r.takeFrom bs).2.length

end HeadReader

/-! ### By the clock -/

namespace HeadRun

/-- What arrives at moments until a deadline has come. -/
def arrivals (deadline : Nat) : Nat → List Moment → Timeline
  | _, [] => []
  | now, m :: ms =>
    if now < deadline ∧ now + m.span ≤ deadline then
      .sameTime (now + m.span) (m.events.flatMap Channel.Event.items) ++
        arrivals deadline (now + m.span) ms
    else []

/-- How long moments take. -/
def elapsed : List Moment → Nat
  | [] => 0
  | m :: ms => m.span + elapsed ms

/-- What a reading comes to that begins at `start` and is watched until `last`, told by what its
    reader meets until the deadline. -/
def judge (terms : HeadTerms) (start deadline last : Nat) (r : HeadReader) (met : Timeline) :
    Option (Nat × Except Failure Bytes) :=
  let octets := met.heard.map Prod.snd
  let r' := (r.takeFrom octets).1
  if r'.isDone then
    some (lastInstant start (met.heard.take (r.spent octets)), r'.resultOf terms)
  else
    match met.stop? with
    | some (t, e) => some (t, .error (.malformedRequest (.unreadable e.asFault)))
    | none =>
      if deadline ≤ last then some (deadline, .error (.malformedRequest (.late terms.limit)))
      else none

/-- The octets that a reader takes out of what it meets. -/
def spend (r : HeadReader) (met : Timeline) : Bytes :=
  (met.heard.map Prod.snd).take (r.spent (met.heard.map Prod.snd))

section

variable (terms : HeadTerms) (deadline last t : Nat) {r : HeadReader} {is : List Item}
  {rest : Timeline}

/-- The octets that are heard, those of one instant and those behind it. -/
theorem octets_sameTime_append (is : List Item) (rest : Timeline) :
    (Timeline.heard (.sameTime t is ++ rest)).map Prod.snd = Item.leading is ++
      (Item.ending? is).elim (rest.heard.map Prod.snd) fun _ => [] := by
  rw [Timeline.heard_sameTime_append]
  cases Item.ending? is <;> simp [Function.comp_def]

/-- A reader that is done with what arrives first takes nothing of the rest. -/
theorem judge_of_done {d : Bytes}
    (hd : Item.leading is = d ++ (r.takeFrom (Item.leading is)).2)
    (hdone : (r.takeFrom (Item.leading is)).1.isDone = true) :
    judge terms t deadline last r (.sameTime t is ++ rest) =
        some (t, (r.takeFrom (Item.leading is)).1.resultOf terms) ∧
      spend r (.sameTime t is ++ rest) = d := by
  -- However much comes behind, as many octets are taken as without it.
  have hspent : ∀ more, r.spent (Item.leading is ++ more) = d.length := by
    intro more
    have hlen := congrArg List.length hd
    rw [List.length_append] at hlen
    rw [HeadReader.spent, HeadReader.takeFrom_append _ _ hdone, List.length_append,
      List.length_append]
    omega
  have htake : (Timeline.heard (.sameTime t is ++ rest)).take d.length = d.map (Prod.mk t) := by
    rw [Timeline.heard_sameTime_append, hd, List.map_append, List.append_assoc]
    exact List.take_left' (List.length_map _)
  refine ⟨?_, ?_⟩
  · simp only [judge, octets_sameTime_append, hspent, htake, HeadReader.takeFrom_append _ _ hdone,
      hdone, if_true, lastInstant_sameTime]
  · rw [spend, octets_sameTime_append, hspent, hd, List.append_assoc, List.take_left]

/-- A reader that is not done meets what comes first. -/
theorem judge_of_ending {e : Ending} (he : Item.ending? is = some e)
    (hopen : (r.takeFrom (Item.leading is)).1.isDone = false) :
    judge terms t deadline last r (.sameTime t is ++ rest) =
        some (t, .error (.malformedRequest (.unreadable e.asFault))) ∧
      spend r (.sameTime t is ++ rest) = Item.leading is := by
  have hoctets : (Timeline.heard (.sameTime t is ++ rest)).map Prod.snd = Item.leading is := by
    rw [octets_sameTime_append, he, Option.elim_some, List.append_nil]
  refine ⟨?_, ?_⟩
  · simp only [judge, hoctets, hopen, Timeline.stop?_sameTime_append, he]
    rfl
  · rw [spend, hoctets, HeadReader.spent, HeadReader.takeFrom_left hopen]
    exact List.take_length

/-- If nothing ends what comes first, the reader goes on from there. -/
theorem judge_of_open (he : Item.ending? is = none)
    (hopen : (r.takeFrom (Item.leading is)).1.isDone = false) (rest : Timeline) :
    judge terms t deadline last r (.sameTime t is ++ rest) =
        judge terms t deadline last (r.takeFrom (Item.leading is)).1 rest ∧
      spend r (.sameTime t is ++ rest) =
        Item.leading is ++ spend (r.takeFrom (Item.leading is)).1 rest := by
  have hoctets : (Timeline.heard (.sameTime t is ++ rest)).map Prod.snd =
      Item.leading is ++ rest.heard.map Prod.snd := by
    rw [octets_sameTime_append, he, Option.elim_none]
  have htake : ∀ n, (Timeline.heard (.sameTime t is ++ rest)).take ((Item.leading is).length + n) =
      (Item.leading is).map (Prod.mk t) ++ rest.heard.take n := by
    intro n
    rw [Timeline.heard_sameTime_append, he, Option.elim_none,
      ← List.length_map (Prod.mk t), List.take_length_add_append]
  have hspent : ∀ more, r.spent (Item.leading is ++ more) =
      (Item.leading is).length + (r.takeFrom (Item.leading is)).1.spent more := by
    intro more
    obtain ⟨d, hd, -⟩ := HeadReader.takeFrom_split (r.takeFrom (Item.leading is)).1 more
    have hlen := congrArg List.length hd
    rw [List.length_append] at hlen
    rw [HeadReader.spent, HeadReader.takeFrom_append_of_not_done _ _ hopen, HeadReader.spent,
      List.length_append]
    omega
  refine ⟨?_, ?_⟩
  · have hlast : ∀ ps : List (Nat × UInt8),
        lastInstant t ((Item.leading is).map (Prod.mk t) ++ ps) = lastInstant t ps := by
      intro ps
      by_cases hps : ps = []
      · rw [hps, List.append_nil, lastInstant_sameTime]
        rfl
      · -- The last octet that is taken comes from the rest, if any of it is taken.
        exact lastInstant_append hps t t _
    simp only [judge, hoctets, hspent, htake, hlast,
      HeadReader.takeFrom_append_of_not_done _ _ hopen, Timeline.stop?_sameTime_append, he,
      Option.elim_none]
  · rw [spend, hoctets, hspent, List.take_length_add_append, spend]

/-- A reader that is not done takes an octet before it is, so that the start does not show. -/
theorem judge_start (hopen : r.isDone = false) (s s' : Nat) (met : Timeline) :
    judge terms s deadline last r met = judge terms s' deadline last r met := by
  obtain ⟨d, hd, hne⟩ := HeadReader.takeFrom_split r (met.heard.map Prod.snd)
  cases hdone : (r.takeFrom (met.heard.map Prod.snd)).1.isDone with
  | false => simp only [judge, hdone, Bool.false_eq_true, if_false]
  | true =>
    have hlen := congrArg List.length hd
    have hpos := List.length_pos_iff.2 (hne hopen hdone)
    rw [List.length_append, List.length_map] at hlen
    have htake : met.heard.take (r.spent (met.heard.map Prod.snd)) ≠ [] := by
      rw [← List.length_pos_iff, List.length_take, HeadReader.spent, List.length_map]
      omega
    simp only [judge, hdone, if_true, lastInstant_of_ne_nil htake s s']

/-- If nothing comes behind what comes first, the reader waits for the deadline. -/
theorem judge_of_waiting (he : Item.ending? is = none)
    (hopen : (r.takeFrom (Item.leading is)).1.isDone = false) :
    judge terms t deadline last r (Timeline.sameTime t is ++ []) =
        (if deadline ≤ last then some (deadline, .error (.malformedRequest (.late terms.limit)))
        else none) ∧
      spend r (Timeline.sameTime t is ++ []) = Item.leading is := by
  obtain ⟨hjudge, hspend⟩ := judge_of_open terms deadline last t he hopen []
  rw [hjudge, hspend]
  refine ⟨?_, List.append_nil _⟩
  simp [judge, Timeline.heard, Timeline.stop?, HeadReader.takeFrom, hopen]

end

/-- A reading judges its client by what arrives first and by what ends it. -/
theorem judge_congr {met met' : Timeline} (hheard : met.heard = met'.heard)
    (hstop : met.stop? = met'.stop?) (terms : HeadTerms) (start deadline last : Nat)
    (r : HeadReader) :
    judge terms start deadline last r met = judge terms start deadline last r met' ∧
      spend r met = spend r met' := by
  simp only [judge, spend, hheard, hstop, and_self]

/-- Nothing arrives from the deadline on. -/
theorem arrivals_of_le {deadline now : Nat} (h : deadline ≤ now) (ms : List Moment) :
    arrivals deadline now ms = [] := by
  cases ms with
  | nil => rfl
  | cons m ms => exact if_neg (by omega)

section

variable {H : HeadRun} {t : Nat} {r : HeadReader} {l : Lookahead} {result : Except Failure Bytes}

/-- A reading whose attempt is over ends at that instant. -/
theorem settle_of_over (hstage : H.stage = .reading r)
    (h : r.attempt H.terms H.deadline t H.client = (.over result, l)) :
    settle t H = { H with now := t, client := l, stage := .over t result } := by
  simp only [settle, hstage, h]

/-- A reading whose attempt is pending goes on. -/
theorem settle_of_pending {r' : HeadReader} (hstage : H.stage = .reading r)
    (h : r.attempt H.terms H.deadline t H.client = (.pending r', l)) :
    settle t H = { H with now := t, client := l, stage := .reading r' } := by
  simp only [settle, hstage, h]

/-- A reading that has ended stays as it is. -/
theorem settle_of_stage_over {i : Nat} (h : H.stage = .over i result) :
    settle t H = { H with now := t } := by
  simp only [settle, h]

/-- What a client does after a reading is over changes nothing but what there is to read. -/
theorem step_of_over {i : Nat} (h : H.stage = .over i result) (m : Moment) :
    (H.step m).stage = .over i result ∧ (H.step m).client = H.client.applyAll m.events := by
  simp only [step, pass]
  split <;> simp [settle, h]

/-- From its end on, a reading leaves what its client sends alone. -/
theorem run_of_over {i : Nat} (h : H.stage = .over i result) (ms : List Moment) :
    (H.run ms).outcome? = some (i, result) ∧
      (H.run ms).client = H.client.applyAll (ms.flatMap Moment.events) := by
  induction ms generalizing H with
  | nil => exact ⟨by simp [run, outcome?, h], rfl⟩
  | cons m ms ih =>
    obtain ⟨hstage, hclient⟩ := step_of_over h m
    obtain ⟨houtcome, hrun⟩ := ih hstage
    refine ⟨houtcome, ?_⟩
    rw [List.flatMap_cons, Lookahead.applyAll_append, ← hclient]
    exact hrun

/-- A reading whose client is heard before the deadline, or at it. -/
theorem step_of_le {m : Moment} (hm : H.instant m ≤ H.deadline) :
    H.step m = settle (H.instant m) { H with client := H.client.applyAll m.events } := by
  simp only [step, pass]
  rw [if_neg (by omega)]

/-- A reading whose client is not heard until the deadline has passed. -/
theorem step_of_late (hnow : H.now < H.deadline) {m : Moment} (hm : H.deadline < H.instant m)
    {i : Nat} (hover : (settle H.deadline H).stage = .over i result) :
    (H.step m).stage = .over i result ∧
      (H.step m).client = (settle H.deadline H).client.applyAll m.events := by
  have hpass : H.pass (H.instant m) = settle H.deadline H := if_pos ⟨hnow, hm⟩
  simp only [step, hpass]
  rw [settle_of_stage_over (H := { settle H.deadline H with
    client := (settle H.deadline H).client.applyAll m.events }) hover]
  exact ⟨hover, rfl⟩

/-- How a run stands whose reader was at `r` when it had taken `taken` of `g`. -/
structure Judged (terms : HeadTerms) (start deadline last : Nat) (r : HeadReader) (met : Timeline)
    (g : Lookahead) (taken : Bytes) (R : HeadRun) : Prop where
  outcome_eq : R.outcome? = judge terms start deadline last r met
  follows : g.Follows (taken ++ spend r met) R.client

/-- A run that is over stays so. -/
theorem Judged.of_over {g : Lookahead} {taken bs : Bytes} {start deadline last i : Nat}
    {met : Timeline} {terms : HeadTerms} (hstage : H.stage = .over i result)
    (hf : g.Follows (taken ++ bs) H.client)
    (hover : judge terms start deadline last r met = some (i, result) ∧ spend r met = bs)
    (ms : List Moment) :
    Judged terms start deadline last r met (g.applyAll (ms.flatMap Moment.events)) taken
      (H.run ms) := by
  obtain ⟨houtcome, hrun⟩ := run_of_over hstage ms
  refine ⟨by rw [houtcome, hover.1], ?_⟩
  rw [hover.2, hrun]
  exact hf.applyAll _

/-- A reading settles by coming to an end, or by waiting with nothing left to read. -/
theorem settle_cases {g : Lookahead} {taken : Bytes} (hstage : H.stage = .reading r)
    (hp : H.client.Proper) (ht : t ≤ H.deadline) (hf : g.Follows taken H.client) :
    (∀ ms last, t ≤ last → Judged H.terms t H.deadline last r
      (.sameTime t H.client.items ++ arrivals H.deadline t ms)
      (g.applyAll (ms.flatMap Moment.events)) taken ((settle t H).run ms)) ∨
    ∃ l, t < H.deadline ∧ Item.ending? H.client.items = none ∧
      (r.takeFrom (Item.leading H.client.items)).1.isDone = false ∧
      H.client.Took (Item.leading H.client.items) l ∧ l.items = [] ∧
      settle t H = { H with
        now := t
        client := l
        stage := .reading (r.takeFrom (Item.leading H.client.items)).1 } := by
  cases hdone : (r.takeFrom (Item.leading H.client.items)).1.isDone with
  | true =>
    obtain ⟨d, l, hd, htook, hattempt⟩ :=
      HeadReader.attempt_of_done H.terms H.deadline t hp hdone
    refine .inl fun ms last _ => ?_
    rw [settle_of_over hstage hattempt]
    refine Judged.of_over rfl ?_ (judge_of_done _ _ last t hd hdone) ms
    exact hf.took htook
  | false =>
    obtain ⟨l, htook, hempty, hattempt⟩ :=
      HeadReader.attempt_of_open H.terms H.deadline t hp hdone
    cases he : Item.ending? H.client.items with
    | some e =>
      rw [he] at hattempt
      refine .inl fun ms last _ => ?_
      rw [settle_of_over hstage hattempt]
      refine Judged.of_over rfl ?_ (judge_of_ending _ _ last t he hdone) ms
      exact hf.took htook
    | none =>
      rw [he] at hattempt
      by_cases hlate : H.deadline ≤ t
      · -- The deadline comes now; what arrives from here on is not met.
        obtain rfl : t = H.deadline := Nat.le_antisymm ht hlate
        refine .inl fun ms last hlast => ?_
        obtain ⟨hwait, hspend⟩ := judge_of_waiting H.terms H.deadline last H.deadline he hdone
        rw [if_pos hlast] at hwait
        rw [if_pos (Nat.le_refl _)] at hattempt
        rw [arrivals_of_le (Nat.le_refl _), settle_of_over hstage hattempt]
        refine Judged.of_over rfl ?_ ⟨hwait, hspend⟩ ms
        exact hf.took htook
      · rw [if_neg hlate] at hattempt
        exact .inr ⟨l, by omega, rfl, rfl, htook, hempty he, settle_of_pending hstage hattempt⟩

/-- **By the clock:** a reading comes to what is told by what arrives until the deadline. -/
theorem judged (ms : List Moment) {g : Lookahead} {taken : Bytes} (hstage : H.stage = .reading r)
    (hp : H.client.Proper) (ht : t ≤ H.deadline) (hf : g.Follows taken H.client) :
    Judged H.terms t H.deadline (t + elapsed ms) r
      (.sameTime t H.client.items ++ arrivals H.deadline t ms)
      (g.applyAll (ms.flatMap Moment.events)) taken ((settle t H).run ms) := by
  induction ms generalizing H t r g taken with
  | nil =>
    rcases settle_cases hstage hp ht hf with hover | ⟨l, hlt, he, hopen, htook, -, hsettle⟩
    · exact hover [] _ (Nat.le_add_right _ _)
    · rw [hsettle]
      obtain ⟨hwait, hspend⟩ := judge_of_waiting H.terms H.deadline t t he hopen
      rw [if_neg (by omega)] at hwait
      exact ⟨hwait.symm, by rw [arrivals, hspend]; exact hf.took htook⟩
  | cons m ms ih =>
    rcases settle_cases hstage hp ht hf with hover | ⟨l, hlt, he, hopen, htook, hempty, hsettle⟩
    · exact hover (m :: ms) _ (Nat.le_add_right _ _)
    · have hl := hf.took htook
      have helapsed : t + elapsed (m :: ms) = t + m.span + elapsed ms := by
        rw [elapsed, ← Nat.add_assoc]
      rw [hsettle, List.flatMap_cons, Lookahead.applyAll_append, helapsed]
      by_cases hm : t + m.span ≤ H.deadline
      · -- The client is heard in time: the reader goes on with what it meets then.
        rw [arrivals, if_pos ⟨hlt, hm⟩]
        obtain ⟨hjudge, hspend⟩ := judge_of_open H.terms H.deadline (t + m.span + elapsed ms) t he
          hopen (.sameTime (t + m.span) (m.events.flatMap Channel.Event.items) ++
            arrivals H.deadline (t + m.span) ms)
        obtain ⟨houtcome, hfollows⟩ := ih (H := { H with
          now := t, client := l.applyAll m.events, stage := .reading _ }) (t := t + m.span)
          (r := (r.takeFrom (Item.leading H.client.items)).1) rfl
          ((htook.proper hp).applyAll _) hm (hl.applyAll m.events)
        -- What is left of the stream is nothing, so what is met is what the client does now.
        obtain ⟨hlead, hend⟩ := l.heard_applyAll m.events
        rw [hempty, List.nil_append] at hlead hend
        have hheard : Timeline.heard (.sameTime (t + m.span) (l.applyAll m.events).items ++
            arrivals H.deadline (t + m.span) ms) = Timeline.heard (.sameTime (t + m.span)
            (m.events.flatMap Channel.Event.items) ++ arrivals H.deadline (t + m.span) ms) := by
          rw [Timeline.heard_sameTime_append, Timeline.heard_sameTime_append, hlead, hend]
        have hstop : Timeline.stop? (.sameTime (t + m.span) (l.applyAll m.events).items ++
            arrivals H.deadline (t + m.span) ms) = Timeline.stop? (.sameTime (t + m.span)
            (m.events.flatMap Channel.Event.items) ++ arrivals H.deadline (t + m.span) ms) := by
          rw [Timeline.stop?_sameTime_append, Timeline.stop?_sameTime_append, hend]
        obtain ⟨hjudge', hspend'⟩ := judge_congr hheard hstop H.terms (t + m.span) H.deadline
          (t + m.span + elapsed ms) (r.takeFrom (Item.leading H.client.items)).1
        rw [hspend', List.append_assoc, ← hspend] at hfollows
        rw [hjudge', judge_start _ _ _ hopen _ t, ← hjudge] at houtcome
        show Judged _ _ _ _ _ _ _ _ ((step _ m).run ms)
        rw [step_of_le (H := { H with now := t, client := l, stage := .reading _ }) hm]
        exact ⟨houtcome, hfollows⟩
      · -- The deadline comes before the client is heard again.
        have hlate : ¬ (t < H.deadline ∧ t + m.span ≤ H.deadline) := fun h => hm h.2
        rw [arrivals, if_neg hlate]
        obtain ⟨hwait, hspend⟩ :=
          judge_of_waiting H.terms H.deadline (t + m.span + elapsed ms) t he hopen
        rw [if_pos (by omega)] at hwait
        -- At the deadline there is nothing to read, and reading ends.
        obtain ⟨l', htook', -, hattempt⟩ := HeadReader.attempt_of_open H.terms H.deadline
          H.deadline (r := (r.takeFrom (Item.leading H.client.items)).1) (htook.proper hp)
          (by rw [hempty]; exact hopen)
        rw [hempty] at htook' hattempt
        rw [if_pos (Nat.le_refl _)] at hattempt
        have hsettled := settle_of_over (H := { H with
          now := t, client := l, stage := .reading _ }) rfl hattempt
        obtain ⟨hstage', hclient⟩ := step_of_late (H := { H with
          now := t, client := l, stage := .reading _ }) (m := m) hlt (Nat.lt_of_not_le hm)
          (by rw [hsettled])
        refine Judged.of_over hstage' ?_ ⟨hwait, hspend⟩ ms
        have hfollows := hl.took htook'
        rw [Item.leading_nil, List.append_nil] at hfollows
        rw [hclient, hsettled]
        exact hfollows.applyAll m.events

end

/-! ### The outcome -/

/-- What arrives in time is among everything that is sent. -/
theorem arrivals_isPrefix (deadline now : Nat) (ms : List Moment) :
    (arrivals deadline now ms).map Prod.snd <+:
      (ms.flatMap Moment.events).flatMap Channel.Event.items := by
  -- By induction on the moments: what comes behind the deadline has not arrived.
  induction ms generalizing now with
  | nil => exact List.prefix_refl _
  | cons m ms ih =>
    rw [arrivals, List.flatMap_cons, List.flatMap_append]
    split
    · have hitems : ∀ is : List Item, (Timeline.sameTime (now + m.span) is).map Prod.snd = is := by
        intro is
        simp [Timeline.sameTime, Function.comp_def]
      rw [List.map_append, hitems, List.prefix_append_right_inj]
      exact ih _
    · exact List.nil_prefix

/-- The octets that are heard come first in the stream. -/
theorem heard_isPrefix (client : Lookahead) (deadline now : Nat) (ms : List Moment) :
    (Timeline.heard (.sameTime now client.items ++ arrivals deadline now ms)).map Prod.snd <+:
      (client.applyAll (ms.flatMap Moment.events)).unread := by
  obtain ⟨hlead, -⟩ := client.heard_applyAll (ms.flatMap Moment.events)
  have hitems : (Timeline.sameTime now client.items).map Prod.snd = client.items := by
    simp [Timeline.sameTime, Function.comp_def]
  refine List.IsPrefix.trans ?_ (Item.leading_isPrefix_octets _)
  rw [Timeline.heard_map_snd, List.map_append, hitems, hlead]
  have harrivals := arrivals_isPrefix deadline now ms
  exact Item.leading_isPrefix ((List.prefix_append_right_inj _).2 harrivals)

section

variable {terms : HeadTerms} {met : Timeline} {s h : Bytes}

/-- **A head that fits** is the result, at the instant of its last octet. -/
theorem judge_of_framed (hf : Framed (met.heard.map Prod.snd) s h)
    (hcap : (s ++ h).length ≤ terms.cap) (start deadline last : Nat) :
    judge terms start deadline last (.start terms.cap) met =
        some (lastInstant start (met.heard.take (s ++ h).length), .ok h) ∧
      (spend (.start terms.cap) met).length = (s ++ h).length := by
  obtain ⟨r, htake, hcomplete, hhead⟩ := HeadReader.takeFrom_of_framed hf hcap
  have hlen := hf.within.length_le
  have hspent : (HeadReader.start terms.cap).spent (met.heard.map Prod.snd) = (s ++ h).length := by
    rw [HeadReader.spent, htake, List.length_drop]
    omega
  refine ⟨?_, by rw [spend, hspent, List.length_take, Nat.min_eq_left hlen]⟩
  simp only [judge, hspent, htake]
  rw [HeadReader.isDone, hcomplete, Bool.true_or, if_pos rfl, HeadReader.resultOf, hcomplete,
    if_pos rfl, hhead]

/-- **Without a head that fits**, the cap, an ending or the deadline decides, whichever comes first.
    -/
theorem judge_of_not_framed
    (hn : ∀ s h, Framed (met.heard.map Prod.snd) s h → terms.cap < (s ++ h).length)
    (start deadline last : Nat) :
    judge terms start deadline last (.start terms.cap) met =
        (if terms.cap ≤ met.heard.length then
          some (lastInstant start (met.heard.take terms.cap), .error (.requestTooLarge terms.cap))
        else
          match met.stop? with
          | some (t, e) => some (t, .error (.malformedRequest (.unreadable e.asFault)))
          | none =>
            if deadline ≤ last then some (deadline, .error (.malformedRequest (.late terms.limit)))
            else none) ∧
      (spend (.start terms.cap) met).length ≤ terms.cap := by
  obtain ⟨r, htake, hcomplete, hdone⟩ := HeadReader.takeFrom_of_not_framed hn
  rw [List.length_map] at hdone
  have hspent : (HeadReader.start terms.cap).spent (met.heard.map Prod.snd) =
      min terms.cap met.heard.length := by
    rw [HeadReader.spent, htake, List.length_drop, List.length_map]
    omega
  refine ⟨?_, ?_⟩
  · simp only [judge, hspent, htake, hdone, decide_eq_true_eq]
    by_cases hcap : terms.cap ≤ met.heard.length
    · rw [if_pos hcap, if_pos hcap, Nat.min_eq_left hcap, HeadReader.resultOf, hcomplete,
        if_neg (by decide)]
    · rw [if_neg hcap, if_neg hcap]
  · rw [spend, hspent, List.length_take]
    omega

end

/-- **A request head by the clock.**  The head is the one that the stream is framed into, if it is
    heard in time and fits the cap.  Otherwise the cap is used up if it can be, and else reading
    ends at what keeps the reader from reading on, or at the deadline.  Nothing behind the head or
    the cap is taken. -/
theorem outcome_of_client (terms : HeadTerms) (now : Nat) (room : Option Nat)
    (early : List Channel.Event) (ahead : Bytes) (ms : List Moment) :
    let client : Lookahead := ⟨(Channel.idle room).applyAll early, ahead⟩
    let R := (start terms now client).run ms
    let deadline := Time.deadline now terms.limit
    let met : Timeline := .sameTime now client.items ++ arrivals deadline now ms
    let sent := (client.applyAll (ms.flatMap Moment.events)).unread
    let found := fun s h : Bytes => Framed sent s h ∧ (s ++ h).length ≤ terms.cap ∧
      (s ++ h).length ≤ met.heard.length
    (∀ s h, found s h →
      R.outcome? = some (lastInstant now (met.heard.take (s ++ h).length), .ok h) ∧
        R.client.unread = sent.drop (s ++ h).length) ∧
    ((∀ s h, ¬ found s h) →
      (terms.cap ≤ met.heard.length → R.outcome? =
        some (lastInstant now (met.heard.take terms.cap), .error (.requestTooLarge terms.cap))) ∧
      (met.heard.length < terms.cap →
        (∀ t e, met.stop? = some (t, e) →
          R.outcome? = some (t, .error (.malformedRequest (.unreadable e.asFault)))) ∧
        (met.stop? = none → deadline ≤ now + elapsed ms →
          R.outcome? = some (deadline, .error (.malformedRequest (.late terms.limit)))) ∧
        (met.stop? = none → now + elapsed ms < deadline → R.outcome? = none))) ∧
    ∃ n ≤ terms.cap, R.client.unread = sent.drop n := by
  intro client R deadline met sent found
  have hproper : client.Proper := (Channel.proper_idle room).applyAll early
  obtain ⟨houtcome, hfollows⟩ := judged (H := ⟨terms, deadline, now, client, .reading
    (.start terms.cap)⟩) ms rfl hproper (Time.le_deadline now terms.limit) (.refl client)
  have hpre : met.heard.map Prod.snd <+: sent := heard_isPrefix client deadline now ms
  have hsent : sent = HeadRun.spend (.start terms.cap) met ++ R.client.unread := hfollows.unread_eq
  have hunread : ∀ n, (HeadRun.spend (.start terms.cap) met).length = n →
      R.client.unread = sent.drop n := by
    intro n hn
    rw [hsent, List.drop_left' hn]
  have hframed : ∀ s h, Framed (met.heard.map Prod.snd) s h →
      Framed sent s h ∧ (s ++ h).length ≤ met.heard.length := by
    intro s h hf
    have hlen := hf.within.length_le
    rw [List.length_map] at hlen
    exact ⟨framed_iff.2 ⟨hf.within.trans hpre, hf.preamble, hf.isHead⟩, hlen⟩
  refine ⟨?_, ?_, ?_⟩
  · intro s h ⟨hf, hcap, htimely⟩
    -- The head is heard in time, so that the octets that are heard are framed by it too.
    have hwithin : s ++ h <+: met.heard.map Prod.snd :=
      List.prefix_of_prefix_length_le hf.within hpre (by rwa [List.length_map])
    obtain ⟨hjudge, hlen⟩ := judge_of_framed (framed_iff.2 ⟨hwithin, hf.preamble, hf.isHead⟩) hcap
      now deadline (now + elapsed ms)
    exact ⟨houtcome.trans hjudge, hunread _ hlen⟩
  · intro hnone
    -- A head among the octets that are heard is a head of the stream, and does not fit the cap.
    have hn : ∀ s h, Framed (met.heard.map Prod.snd) s h → terms.cap < (s ++ h).length := by
      intro s h hf
      obtain ⟨hs, hlen⟩ := hframed s h hf
      exact Nat.lt_of_not_le fun hcap => hnone s h ⟨hs, hcap, hlen⟩
    obtain ⟨hjudge, -⟩ := judge_of_not_framed hn now deadline (now + elapsed ms)
    have hR : R.outcome? = _ := houtcome.trans hjudge
    refine ⟨fun hcap => by rw [hR, if_pos hcap], fun hcap => ?_⟩
    rw [if_neg (by omega)] at hR
    refine ⟨fun t e hstop => ?_, fun hstop hlast => ?_, fun hstop hlast => ?_⟩
    · rw [hR, hstop]
    · rw [hR, hstop]
      exact if_pos hlast
    · rw [hR, hstop]
      exact if_neg (by omega)
  · -- What is taken is the head with its preamble, or no more than the cap.
    by_cases hfit : ∃ s h, Framed (met.heard.map Prod.snd) s h ∧ (s ++ h).length ≤ terms.cap
    · obtain ⟨s, h, hf, hcap⟩ := hfit
      obtain ⟨-, hlen⟩ := judge_of_framed hf hcap now deadline (now + elapsed ms)
      exact ⟨_, hcap, hunread _ hlen⟩
    · have hn : ∀ s h, Framed (met.heard.map Prod.snd) s h → terms.cap < (s ++ h).length :=
        fun s h hf => Nat.lt_of_not_le fun hcap => hfit ⟨s, h, hf, hcap⟩
      exact ⟨_, (judge_of_not_framed hn now deadline (now + elapsed ms)).2, hunread _ rfl⟩

/-- A read that is interrupted ends nothing: it is tried again, and the head that the client goes on
    to send is found. -/
theorem interrupted_read_goes_on :
    let read := start ⟨8192, 60⟩ 0 (.ofChannel (.idle none))
    let broken : List Moment :=
      [⟨1, [.send (ascii "GET / H")]⟩, ⟨1, [.failRead (.bare .interrupted)]⟩]
    let mended : List Moment := broken ++ [⟨1, [.send (ascii "TTP/1.1\r\n\r\n")]⟩]
    (∀ flaw, (read.run broken).outcome? ≠ some (2, .error (.malformedRequest flaw))) ∧
      (read.run mended).outcome? = some (3, .ok (ascii "GET / HTTP/1.1\r\n\r\n")) := by
  intro read broken mended
  have hrun : ∀ ms, (read.run ms).outcome? = _ := fun ms =>
    (judged (H := ⟨⟨8192, 60⟩, 60, 0, .ofChannel (.idle none), .reading (.start 8192)⟩) (t := 0) ms
      rfl (Channel.proper_idle none) (by decide) (.refl _)).outcome_eq
  have hbroken : (read.run broken).outcome? = none := (hrun broken).trans rfl
  refine ⟨fun flaw => by rw [hbroken]; simp, (hrun mended).trans rfl⟩

end HeadRun

end ForwardProxy
