import ForwardProxy.Proofs.Accept.Backoff
import ForwardProxy.Proofs.Server.Rounds
import Mathlib.Data.List.Infix
import Mathlib.Data.List.Nodup

namespace ForwardProxy

/-!
# The books of a server

What a server has taken from its listener, and when, tells what it does about the listener now.

* `Server.Taking`, `Server.history` — what was taken, and when.
* `Server.due` — the instant at which accepting is begun again after that.
* `Server.Books`, `Server.Standing` — what holds after each thing that was taken.
* `Server.Standing.passing_or_failed` — only the last fault that was taken may be one that stays.
* `Server.books_take`, `Server.exists_taken_attend` — taking one thing, and all that can be taken.
* `Server.books_round`, `Server.books_rounds` — what a round and any number of rounds carry on.
-/

namespace Offer

/-- The client that is offered. -/
def client? : Offer → Option Nat
  | .client n => some n
  | .fault _ => none

/-- Whether accepting has failed. -/
def isFault : Offer → Bool
  | .client _ => false
  | .fault _ => true

end Offer

/-- Whether a client has been accepted. -/
def Visitor.isServed (v : Visitor) : Bool := v.session?.isSome

namespace Server

/-! ### What has been taken -/

/-- Something that was taken from the listener at an instant. -/
structure Taking where
  instant : Nat
  offer : Offer
  deriving DecidableEq, Repr

/-- How often accepting has failed since the last client was taken. -/
def failures (h : List Taking) : Nat := (h.reverse.takeWhile fun x => x.offer.isFault).length

/-- The instant at which accepting is begun after all this was taken: at once after a client; after
    the `k`-th fault in a row when `min most (least * 2 ^ (k - 1))` has gone by, as far as the clock
    goes. -/
def due (settings : Settings) (h : List Taking) : Nat :=
  match h.getLast? with
  | none => 0
  | some ⟨instant, .client _⟩ => instant
  | some ⟨instant, .fault _⟩ =>
    Time.deadline instant
      (min settings.acceptBackoffMax (settings.acceptBackoffMin * 2 ^ (failures h - 1)))

/-- All faults that were taken pass. -/
def Passing (policy : AcceptPolicy) (h : List Taking) : Prop :=
  ∀ x ∈ h, ∀ f, x.offer = .fault f → policy.Passes f

/-- What a server takes in a round: all of what the listener has to offer, up to what waits after
    it. -/
def taken (s : Server) (r : Round) : List Offer :=
  let offers := s.queue ++ offersFrom s.visitors.length r.deeds
  offers.take (offers.length - (s.round r).queue.length)

/-- What a server takes in its rounds. -/
def history (s : Server) : List Round → List Taking
  | [] => []
  | r :: rs => (s.taken r).map (Taking.mk r.instant) ++ history (s.round r) rs

section Histories

variable {settings : Settings} {policy : AcceptPolicy} {h : List Taking} {t : Nat}

/-- A client that is taken ends the row of failures. -/
theorem failures_client (n : Nat) : failures (h ++ [⟨t, .client n⟩]) = 0 := by
  rw [failures, List.reverse_append]
  rfl

/-- A fault that is taken makes the row of failures longer by one. -/
theorem failures_fault (f : Fault) : failures (h ++ [⟨t, .fault f⟩]) = failures h + 1 := by
  rw [failures, List.reverse_append]
  rfl

/-- After a client, accepting goes on at once. -/
theorem due_client (n : Nat) : due settings (h ++ [⟨t, .client n⟩]) = t := by
  rw [due, List.getLast?_concat]

/-- After a fault, accepting goes on when the delay is over, which doubles with each failure in a
    row up to the largest one. -/
theorem due_fault (f : Fault) : due settings (h ++ [⟨t, .fault f⟩]) = Time.deadline t
    (min settings.acceptBackoffMax (settings.acceptBackoffMin * 2 ^ failures h)) := by
  rw [due, List.getLast?_concat]
  dsimp only
  rw [failures_fault, Nat.add_sub_cancel]

/-- What was taken still passes with one more thing, if that is a client or a fault that passes. -/
theorem Passing.concat (hp : Passing policy h) {x : Taking}
    (hx : ∀ f, x.offer = .fault f → policy.Passes f) : Passing policy (h ++ [x]) := by
  intro y hy
  rcases List.mem_append.1 hy with hy | hy
  · exact hp y hy
  · rw [List.mem_singleton.1 hy]
    exact hx

/-- Of things that all pass, some pass. -/
theorem Passing.subset {h' : List Taking} (hp : Passing policy h) (hsub : h' ⊆ h) :
    Passing policy h' :=
  fun x hx => hp x (hsub hx)

/-- Not everything passes if the last fault does not. -/
theorem not_passing_concat {f : Fault} (hstays : ¬policy.Passes f) :
    ¬Passing policy (h ++ [⟨t, .fault f⟩]) :=
  fun hp => hstays (hp _ List.mem_concat_self f rfl)

end Histories

/-! ### The invariant -/

/-- What a server keeps of all that was taken, when `pending` still waits. -/
structure Books (settings : Settings) (policy : AcceptPolicy) (h : List Taking)
    (pending : List Offer) (s : Server) : Prop where
  settings_eq : s.settings = settings
  policy_eq : s.policy = policy
  /-- Every client is offered once. -/
  clients : (h.map Taking.offer ++ pending).filterMap Offer.client? =
    List.range s.visitors.length
  /-- The clients that were taken are those that are served. -/
  handed : ∀ i, .client i ∈ h.map Taking.offer ↔
    (s.visitors.map Visitor.isServed)[i]? = some true
  /-- Nothing was taken before accepting was begun again. -/
  not_before : ∀ h₁ x, h₁ ++ [x] <+: h → due settings h₁ ≤ x.instant

/-- The delays after all that was taken. -/
def delays (settings : Settings) (h : List Taking) : Backoff :=
  Backoff.next^[failures h] (.start settings.acceptBackoffMin settings.acceptBackoffMax)

/-- What a server does about its listener, after all that was taken. -/
def Standing (settings : Settings) (policy : AcceptPolicy) (h : List Taking) (s : Server) : Prop :=
  match s.gate with
  | .unopened => h = [] ∧ s.accepts = 0 ∧ s.backoff = delays settings h
  | .listening => Passing policy h ∧ due settings h ≤ s.now ∧ s.accepts = h.length + 1 ∧
      s.backoff = delays settings h
  | .backingOff instant => Passing policy h ∧ instant = due settings h ∧ s.accepts = h.length ∧
      s.backoff = delays settings h
  | .stopped (.failed failure) => ∃ h₁ t f, h = h₁ ++ [⟨t, .fault f⟩] ∧ Passing policy h₁ ∧
      ¬policy.Passes f ∧ failure = .fatalAccept f
  | _ => s.stopping = true ∧ Passing policy h

/-- A server that puts accepting off does so for later. -/
def Awake (s : Server) : Prop := ∀ instant, s.gate = .backingOff instant → s.now < instant

variable {settings : Settings} {policy : AcceptPolicy} {h : List Taking} {pending : List Offer}
  {s s' : Server}

/-- Everything that was taken passes, or everything but the last thing, a fault by which the server
    has stopped. -/
theorem Standing.passing_or_failed (hs : Standing settings policy h s) :
    Passing policy h ∨ ∃ h₁ t f, h = h₁ ++ [⟨t, .fault f⟩] ∧ Passing policy h₁ ∧
      ¬policy.Passes f ∧ s.gate = .stopped (.failed (.fatalAccept f)) := by
  unfold Standing at hs
  split at hs
  · rw [hs.1]
    exact .inl nofun
  · exact .inl hs.1
  · exact .inl hs.1
  · rename_i hgate
    obtain ⟨h₁, t, f, rfl, hp, hstays, rfl⟩ := hs
    exact .inr ⟨h₁, t, f, rfl, hp, hstays, hgate⟩
  · exact .inl hs.2

/-- A server that has taken nothing but what passes has not failed. -/
theorem Standing.not_failed (hs : Standing settings policy h s) (hp : Passing policy h)
    (failure : Failure) : s.gate ≠ .stopped (.failed failure) := by
  intro hgate
  rw [Standing, hgate] at hs
  obtain ⟨h₁, t, f, rfl, -, hstays, -⟩ := hs
  exact not_passing_concat hstays hp

/-- Two states of a server on the same terms, told to stop both or neither. -/
structure SameTerms (s s' : Server) : Prop where
  stopping_eq : s'.stopping = s.stopping
  settings_eq : s'.settings = s.settings
  policy_eq : s'.policy = s.policy

theorem SameTerms.refl (s : Server) : s.SameTerms s := ⟨rfl, rfl, rfl⟩

theorem SameTerms.trans {s'' : Server} (h : s.SameTerms s') (h' : s'.SameTerms s'') :
    s.SameTerms s'' where
  stopping_eq := h'.stopping_eq.trans h.stopping_eq
  settings_eq := h'.settings_eq.trans h.settings_eq
  policy_eq := h'.policy_eq.trans h.policy_eq

/-- Two states of a server with the same books. -/
structure SameBooks (s s' : Server) : Prop extends SameTerms s s' where
  served_eq : s'.visitors.map Visitor.isServed = s.visitors.map Visitor.isServed

theorem SameBooks.refl (s : Server) : s.SameBooks s := ⟨⟨rfl, rfl, rfl⟩, rfl⟩

/-- The books speak of nothing but the terms of a server and of who is served. -/
theorem Books.of_sameBooks (hb : Books settings policy h pending s) (hsame : s.SameBooks s') :
    Books settings policy h pending s' where
  settings_eq := hsame.settings_eq.trans hb.settings_eq
  policy_eq := hsame.policy_eq.trans hb.policy_eq
  clients := by
    have hlength := congrArg List.length hsame.served_eq
    rw [List.length_map, List.length_map] at hlength
    rw [hlength]
    exact hb.clients
  handed := by
    rw [hsame.served_eq]
    exact hb.handed
  not_before := hb.not_before

/-- Beginning to accept changes no books. -/
theorem sameBooks_listen (s : Server) : s.SameBooks s.listen := by
  unfold listen
  split <;> exact ⟨⟨rfl, rfl, rfl⟩, rfl⟩

/-- Going on accepting takes nothing from the queue. -/
theorem queue_wake (s : Server) : s.wake.queue = s.queue := by
  rcases s.wake_cases with ⟨hsame, -⟩ | ⟨hlistens, -⟩
  · rw [hsame]
  · rw [hlistens, queue_listen]

/-- Going on accepting changes no books. -/
theorem sameBooks_wake (s : Server) : s.SameBooks s.wake := by
  rcases s.wake_cases with ⟨hsame, -⟩ | ⟨hlistens, -⟩
  · rw [hsame]
    exact .refl s
  · rw [hlistens]
    exact s.sameBooks_listen

/-- Putting accepting off changes no books. -/
theorem sameBooks_backOff (f : Fault) (s : Server) : s.SameBooks (s.backOff f) := by
  unfold backOff
  have hwake := sameBooks_wake
  exact ⟨⟨(hwake _).stopping_eq, (hwake _).settings_eq, (hwake _).policy_eq⟩, (hwake _).served_eq⟩

/-- Stopping for want of sessions changes no books. -/
theorem sameBooks_checkDrained (s : Server) : s.SameBooks s.checkDrained := by
  rcases s.checkDrained_cases with hsame | ⟨_, _, _, -, -, hstops⟩
  · rw [hsame]
    exact .refl s
  · rw [hstops]
    exact ⟨⟨rfl, rfl, rfl⟩, rfl⟩

/-- Whatever the sessions do, the same clients are served. -/
theorem isServed_settleVisitors (net : Network) (now next : Nat) (vs : List Visitor) :
    (settleVisitors net now next vs).2.map Visitor.isServed = vs.map Visitor.isServed := by
  induction vs generalizing next with
  | nil => rfl
  | cons v vs ih =>
    have hv (c : Nat) : (settleVisitor net c now v).isServed = v.isServed := by
      obtain ⟨address, visit⟩ := v
      cases visit <;> rfl
    unfold settleVisitors
    dsimp only
    rw [List.map_cons, List.map_cons, hv, ih]

/-- What the sessions do changes no books. -/
theorem sameBooks_serve (s : Server) : s.SameBooks s.serve :=
  ⟨⟨rfl, rfl, rfl⟩, isServed_settleVisitors _ _ _ _⟩

/-! ### What a server does about its listener -/

/-- A server whose delay is over is in order when it begins to accept again, or to drain if it was
    told to stop. -/
theorem standing_listen (hp : Passing policy h) (hdue : due settings h ≤ s.now)
    (haccepts : s.accepts = h.length) (hbackoff : s.backoff = delays settings h) :
    Standing settings policy h s.listen := by
  unfold listen
  split
  · exact ⟨‹_›, hp⟩
  · exact ⟨hp, hdue, congrArg (· + 1) haccepts, hbackoff⟩

/-- A server is in order after it has looked whether its delay is over. -/
theorem Standing.wake (hs : Standing settings policy h s) : Standing settings policy h s.wake := by
  rcases s.wake_cases with ⟨hsame, -⟩ | ⟨hlistens, instant, hlapsed, hgate⟩
  · rw [hsame]
    exact hs
  · rw [Standing, hgate] at hs
    obtain ⟨hp, hdue, haccepts, hbackoff⟩ := hs
    rw [hlistens]
    exact standing_listen hp (hdue ▸ hlapsed) haccepts hbackoff

/-- Nothing changes about the listener when time goes by, or the server is told to stop. -/
theorem Standing.later (hs : Standing settings policy h s) (hgate : s'.gate = s.gate)
    (haccepts : s'.accepts = s.accepts) (hbackoff : s'.backoff = s.backoff) (hnow : s.now ≤ s'.now)
    (hstopping : s.stopping = true → s'.stopping = true) : Standing settings policy h s' := by
  unfold Standing at hs ⊢
  rw [hgate, haccepts, hbackoff]
  split at hs
  · exact hs
  · exact ⟨hs.1, Nat.le_trans hs.2.1 hnow, hs.2.2⟩
  · exact hs
  · exact hs
  · exact ⟨hstopping hs.1, hs.2⟩

/-- A server that stops for want of sessions was draining, so it had been told to stop. -/
theorem Standing.checkDrained (hs : Standing settings policy h s) :
    Standing settings policy h s.checkDrained := by
  rcases s.checkDrained_cases with hsame | ⟨_, _, _, hgate, hends, hstops⟩
  · rw [hsame]
    exact hs
  · have hstop : s.stopping = true ∧ Passing policy h := by rwa [Standing, hgate] at hs
    rw [hstops]
    rcases hends with ⟨-, rfl⟩ | ⟨-, rfl⟩ <;> exact hstop

/-- A server that does not put accepting off has nothing to wake up for. -/
theorem awake_of_gate {g : Gate} (hgate : s.gate = g) (hg : ∀ instant, g ≠ .backingOff instant) :
    s.Awake :=
  fun instant hinstant => absurd (hgate.symm.trans hinstant) (hg instant)

/-- A server that begins to accept has nothing to wake up for. -/
theorem awake_listen (s : Server) : s.listen.Awake := by
  unfold listen
  split
  · exact awake_of_gate rfl nofun
  · exact awake_of_gate rfl nofun

/-- A server that has looked whether its delay is over waits for a later instant, if for any. -/
theorem awake_wake (s : Server) : s.wake.Awake := by
  rcases s.wake_cases with ⟨hsame, hawake⟩ | ⟨hlistens, -⟩
  · rw [hsame]
    exact hawake
  · rw [hlistens]
    exact s.awake_listen

/-! ### Taking one thing -/

/-- The books after one more thing was taken, if the other entries are in order. -/
theorem Books.concat {offer : Offer} {s' : Server} {t : Nat}
    (hb : Books settings policy h (offer :: pending) s) (hdue : due settings h ≤ t)
    (hsettings : s'.settings = s.settings) (hpolicy : s'.policy = s.policy)
    (hlength : s'.visitors.length = s.visitors.length)
    (hhanded : ∀ i, (s'.visitors.map Visitor.isServed)[i]? = some true ↔
      (s.visitors.map Visitor.isServed)[i]? = some true ∨ .client i = offer) :
    Books settings policy (h ++ [⟨t, offer⟩]) pending s' where
  settings_eq := hsettings.trans hb.settings_eq
  policy_eq := hpolicy.trans hb.policy_eq
  clients := by
    rw [hlength, ← hb.clients, List.map_append, List.append_assoc]
    rfl
  handed i := by
    rw [hhanded, ← hb.handed, List.map_append, List.mem_append]
    exact or_congr_right List.mem_singleton
  not_before h₁ x hx := by
    -- What is new is the last thing taken; the rest is as before.
    rcases List.prefix_concat_iff.1 hx with hlast | hearlier
    · obtain ⟨rfl, heq⟩ := List.append_inj' hlast rfl
      rw [List.singleton_inj.1 heq]
      exact hdue
    · exact hb.not_before h₁ x hearlier

/-- Everyone who was served still is, and so is the client who was accepted. -/
theorem isServed_welcome {vs : List Visitor} {n : Nat} (hn : n < vs.length) (t : Turn) (now : Nat)
    (i : Nat) :
    ((vs.modify n (welcome settings t now)).map Visitor.isServed)[i]? = some true ↔
      (vs.map Visitor.isServed)[i]? = some true ∨ i = n := by
  have hwelcome (v : Visitor) : (welcome settings t now v).isServed = true := by
    obtain ⟨address, visit⟩ := v
    cases visit <;> rfl
  rw [List.getElem?_map, List.getElem?_map, List.getElem?_modify]
  by_cases hi : n = i
  · subst hi
    simp [hn, hwelcome]
  · simp [hi, Ne.symm hi]

/-- A client that is offered has connected. -/
theorem Books.lt_length {n : Nat} (hb : Books settings policy h (.client n :: pending) s) :
    n < s.visitors.length := by
  have hmem : n ∈ (h.map Taking.offer ++ .client n :: pending).filterMap Offer.client? :=
    List.mem_filterMap.2 ⟨.client n, by simp, rfl⟩
  rw [hb.clients] at hmem
  exact List.mem_range.1 hmem

/-- Taking something from the listener takes no time. -/
theorem now_take (offer : Offer) (s : Server) : (s.take offer).now = s.now := by
  cases offer with
  | client n => exact (sameSessions_listen _).now_eq
  | fault f =>
    show (if s.policy.isPassing f then s.backOff f else s.giveUp f).now = s.now
    split
    · exact (s.sameSessions_backOff f).now_eq
    · rfl

/-- Whatever is taken from the listener, the terms stay. -/
theorem sameTerms_take (offer : Offer) (s : Server) : s.SameTerms (s.take offer) := by
  cases offer with
  | client n =>
    have hlisten := sameBooks_listen
    exact ⟨(hlisten _).stopping_eq, (hlisten _).settings_eq, (hlisten _).policy_eq⟩
  | fault f =>
    show s.SameTerms (if s.policy.isPassing f then s.backOff f else s.giveUp f)
    split
    · exact (s.sameBooks_backOff f).toSameTerms
    · exact ⟨rfl, rfl, rfl⟩

/-- Taking what is offered leaves the terms as they are. -/
theorem sameTerms_takeOffers (offers : List Offer) (s : Server) :
    s.SameTerms (takeOffers offers s) := by
  induction offers generalizing s with
  | nil => exact ⟨rfl, rfl, rfl⟩
  | cons offer rest ih =>
    unfold takeOffers
    split
    · exact (s.sameTerms_take offer).trans (ih _)
    · exact ⟨rfl, rfl, rfl⟩

/-- The server has become `s'`, having taken some of what the listener offered. -/
structure Took (settings : Settings) (policy : AcceptPolicy) (h : List Taking)
    (offers : List Offer) (s s' : Server) (taken : List Offer) : Prop where
  in_order : taken ++ s'.queue = offers
  books : Books settings policy (h ++ taken.map (Taking.mk s.now)) s'.queue s'
  standing : Standing settings policy (h ++ taken.map (Taking.mk s.now)) s'
  awake : s'.Awake
  idle : s'.gate = .listening → s'.queue = []
  now_eq : s'.now = s.now

/-- A server that takes nothing leaves the books as they were. -/
theorem took_none {offers : List Offer} (hb : Books settings policy h offers s')
    (hs : Standing settings policy h s') (hawake : s'.Awake)
    (hidle : s'.gate = .listening → s'.queue = []) (hqueue : s'.queue = offers)
    (hnow : s'.now = s.now) : Took settings policy h offers s s' [] where
  in_order := hqueue
  books := by
    rw [List.map_nil, List.append_nil, hqueue]
    exact hb
  standing := by
    rw [List.map_nil, List.append_nil]
    exact hs
  awake := hawake
  idle := hidle
  now_eq := hnow

/-- Whether a server goes on accepting, now or later. -/
def isAccepting (s : Server) : Bool :=
  match s.gate with
  | .listening | .backingOff _ => true
  | _ => false

/-- What a server that accepts does about its listener: it drains if told to stop, and else takes
    what it can. -/
theorem attend_of_isAccepting (h : s.isAccepting = true) :
    s.attend = if s.stopping then s.drain else takeOffers s.wake.queue s.wake := by
  rw [isAccepting] at h
  rw [attend]
  cases hgate : s.gate with
  | listening => rfl
  | backingOff instant => rfl
  | unopened | draining | stopped =>
    rw [hgate] at h
    cases h

/-- A server that does not accept leaves its listener alone. -/
theorem attend_of_not_isAccepting (h : s.isAccepting = false) : s.attend = s := by
  rw [isAccepting] at h
  rw [attend]
  cases hgate : s.gate with
  | listening | backingOff =>
    rw [hgate] at h
    cases h
  | unopened => rfl
  | draining deadline => rfl
  | stopped outcome => rfl

/-- Attending to the listener leaves the terms as they are. -/
theorem sameTerms_attend (s : Server) : s.SameTerms s.attend := by
  cases haccepting : s.isAccepting with
  | false =>
    rw [attend_of_not_isAccepting haccepting]
    exact .refl s
  -- Being told to stop goes first: nothing is taken then, and the books stay as they are.
  | true =>
    rw [attend_of_isAccepting haccepting]
    split
    · exact ⟨rfl, rfl, rfl⟩
    · exact s.sameBooks_wake.toSameTerms.trans (sameTerms_takeOffers _ _)

/-- Settling leaves the terms as they are. -/
theorem sameTerms_settle (now : Nat) (s : Server) :
    SameTerms { s with now := now } (s.settle now) :=
  ((sameTerms_attend _).trans (sameBooks_serve _).toSameTerms).trans
    (sameBooks_checkDrained _).toSameTerms

/-- What a server that goes on accepting has taken passes. -/
theorem Standing.passing (hs : Standing settings policy h s) (haccepting : s.isAccepting = true) :
    Passing policy h := by
  unfold isAccepting at haccepting
  unfold Standing at hs
  split at haccepting
  · rename_i hgate
    rw [hgate] at hs
    exact hs.1
  · rename_i hgate
    rw [hgate] at hs
    exact hs.1
  · cases haccepting

/-- A server that listens accepts. -/
theorem isAccepting_of_listening (h : s.gate = .listening) : s.isAccepting = true := by
  rw [isAccepting, h]

/-- A server that does not accept has nothing to wake up for. -/
theorem awake_of_not_isAccepting (h : s.isAccepting = false) : s.Awake := by
  intro instant hgate
  rw [isAccepting, hgate] at h
  cases h

section Taking

variable (hle : settings.acceptBackoffMin ≤ settings.acceptBackoffMax)
  (hlargest : settings.acceptBackoffMax ≤ Duration.largest)
include hle hlargest

/-- **Taking one thing** keeps the books. -/
theorem books_take {offer : Offer} (hb : Books settings policy h (offer :: pending) s)
    (hs : Standing settings policy h s) (hgate : s.gate = .listening) :
    Books settings policy (h ++ [⟨s.now, offer⟩]) pending (s.take offer) ∧
      Standing settings policy (h ++ [⟨s.now, offer⟩]) (s.take offer) ∧ (s.take offer).Awake := by
  rw [Standing, hgate] at hs
  obtain ⟨hp, hdue, haccepts, hbackoff⟩ := hs
  have hlength : (h ++ [Taking.mk s.now offer]).length = h.length + 1 := List.length_append
  cases offer with
  | client n =>
    have hlisten := sameBooks_listen { s with
      backoff := s.backoff.reset
      visitors := s.visitors.modify n (welcome s.settings s.turn s.now) }
    refine ⟨.of_sameBooks ?_ hlisten, ?_, awake_listen _⟩
    · refine hb.concat hdue rfl rfl (List.length_modify _ _ _) fun i => ?_
      rw [isServed_welcome hb.lt_length]
      exact or_congr_right ⟨congrArg _, Offer.client.inj⟩
    · refine standing_listen (hp.concat fun _ hx => nomatch hx) ?_ (haccepts.trans hlength.symm) ?_
      · rw [due_client]
      · show s.backoff.reset = _
        rw [hbackoff, delays, delays, Backoff.reset_iterate, failures_client]
        rfl
  | fault f =>
    have hbooks (s' : Server) (hsettings : s'.settings = s.settings)
        (hpolicy : s'.policy = s.policy) (hvisitors : s'.visitors = s.visitors) :
        Books settings policy (h ++ [⟨s.now, .fault f⟩]) pending s' := by
      refine hb.concat hdue hsettings hpolicy (congrArg _ hvisitors) fun i => ?_
      rw [hvisitors]
      exact ⟨.inl, fun h => h.resolve_right nofun⟩
    unfold take
    dsimp only
    split
    · rename_i hpasses
      rw [hb.policy_eq, AcceptPolicy.isPassing_iff] at hpasses
      have hnext : s.backoff.next = delays settings (h ++ [⟨s.now, .fault f⟩]) := by
        rw [hbackoff, delays, delays, failures_fault, Function.iterate_succ_apply']
      refine ⟨(hbooks s rfl rfl rfl).of_sameBooks (s.sameBooks_backOff f), ?_, awake_wake _⟩
      refine Standing.wake ⟨hp.concat fun f' hf' => ?_, ?_, haccepts.trans hlength.symm, hnext⟩
      · cases hf'
        exact hpasses
      · -- The delay after the fault is the next one in the series, in closed form.
        rw [hnext, delays, failures_fault, Backoff.current_iterate hle hlargest, due_fault]
    · rename_i hstays
      rw [hb.policy_eq, AcceptPolicy.isPassing_iff] at hstays
      exact ⟨hbooks _ rfl rfl rfl, ⟨h, s.now, f, rfl, hp, hstays, rfl⟩, awake_of_gate rfl nofun⟩

/-! ### Taking all that can be taken -/

/-- A server in order takes a first part of what is offered, in order, and keeps its books. -/
theorem exists_taken_takeOffers {offers : List Offer} (hb : Books settings policy h offers s)
    (hs : Standing settings policy h s) (hawake : s.Awake) :
    ∃ taken, Took settings policy h offers s (takeOffers offers s) taken := by
  induction offers generalizing s h with
  | nil =>
    exact ⟨[], took_none (hb.of_sameBooks ⟨⟨rfl, rfl, rfl⟩, rfl⟩) hs hawake (fun _ => rfl) rfl rfl⟩
  | cons offer rest ih =>
    unfold takeOffers
    split
    · -- One thing is taken, and the books are kept for what comes after it.
      rename_i hgate
      obtain ⟨hbooks, hstanding, hstill⟩ := books_take hle hlargest hb hs hgate
      obtain ⟨taken, htook⟩ := ih hbooks hstanding hstill
      have hnow : (s.take offer).now = s.now := s.now_take offer
      have hall : h ++ (offer :: taken).map (Taking.mk s.now) =
          h ++ [⟨s.now, offer⟩] ++ taken.map (Taking.mk (s.take offer).now) := by
        rw [hnow, List.append_assoc]
        rfl
      refine ⟨offer :: taken, congrArg (offer :: ·) htook.in_order, ?_, ?_, htook.awake, htook.idle,
        htook.now_eq.trans hnow⟩
      · rw [hall]
        exact htook.books
      · rw [hall]
        exact htook.standing
    · rename_i hgate
      exact ⟨[], took_none (hb.of_sameBooks ⟨⟨rfl, rfl, rfl⟩, rfl⟩) hs hawake
        (fun hlistening => absurd hlistening hgate) rfl rfl⟩

/-- **A server that attends to its listener** takes in order what it can.  One that has been told to
    stop takes nothing and begins no accept. -/
theorem exists_taken_attend (hb : Books settings policy h s.queue s)
    (hs : Standing settings policy h s) :
    ∃ taken, Took settings policy h s.queue s s.attend taken ∧
      (s.stopping = true →
        taken = [] ∧ s.attend.accepts = s.accepts ∧ s.attend.isAccepting = false) := by
  cases haccepting : s.isAccepting with
  | false =>
    rw [attend_of_not_isAccepting haccepting]
    have hidle : s.gate = .listening → s.queue = [] := fun hgate => by
      rw [isAccepting_of_listening hgate] at haccepting
      cases haccepting
    exact ⟨[], took_none hb hs (awake_of_not_isAccepting haccepting) hidle rfl rfl,
      fun _ => ⟨rfl, rfl, haccepting⟩⟩
  | true =>
    rw [attend_of_isAccepting haccepting]
    cases hstopping : s.stopping with
    | true =>
      rw [if_pos rfl]
      have hbooks : Books settings policy h s.queue s.drain :=
        hb.of_sameBooks ⟨⟨rfl, rfl, rfl⟩, rfl⟩
      have hstanding : Standing settings policy h s.drain := ⟨hstopping, hs.passing haccepting⟩
      exact ⟨[], took_none hbooks hstanding (awake_of_gate rfl nofun) nofun rfl rfl,
        fun _ => ⟨rfl, rfl, rfl⟩⟩
    | false =>
      rw [if_neg Bool.false_ne_true]
      have hqueue : s.wake.queue = s.queue := s.queue_wake
      have hbooks : Books settings policy h s.wake.queue s.wake := by
        rw [hqueue]
        exact hb.of_sameBooks s.sameBooks_wake
      obtain ⟨taken, htook⟩ := exists_taken_takeOffers hle hlargest hbooks hs.wake s.awake_wake
      have hnow : s.wake.now = s.now := s.sameSessions_wake.now_eq
      obtain ⟨horder, htaken, hstanding, hawake, hidle, hnow'⟩ := htook
      rw [hnow] at htaken hstanding
      exact ⟨taken, ⟨horder.trans hqueue, htaken, hstanding, hawake, hidle, hnow'.trans hnow⟩,
        nofun⟩

end Taking

/-! ### What others do -/

/-- A change that leaves each client served or unserved leaves who is served. -/
theorem isServed_modify {f : Visitor → Visitor} (hf : ∀ v, (f v).isServed = v.isServed) (n : Nat)
    (vs : List Visitor) :
    (vs.modify n f).map Visitor.isServed = vs.map Visitor.isServed := by
  induction vs generalizing n with
  | nil => cases n <;> rfl
  | cons v vs ih =>
    cases n with
    | zero => exact congrArg (· :: vs.map Visitor.isServed) (hf v)
    | succ n => exact congrArg (v.isServed :: ·) (ih n)

/-- What a client does leaves it served or unserved as it was. -/
theorem isServed_applyClient (e : Channel.Event) (v : Visitor) :
    (v.applyClient e).isServed = v.isServed := by
  obtain ⟨address, visit⟩ := v
  cases visit <;> rfl

/-- What a target does leaves a client served or unserved as it was. -/
theorem isServed_applyPeer (number : Nat) (e : Channel.Event) (v : Visitor) :
    (v.applyPeer number e).isServed = v.isServed := by
  obtain ⟨address, visit⟩ := v
  cases visit <;> rfl

/-- The order of the halves of a tunnel has nothing to do with who is served. -/
theorem isServed_reorder (turn : Turn) (v : Visitor) : (v.reorder turn).isServed = v.isServed := by
  obtain ⟨address, visit⟩ := v
  cases visit <;> rfl

/-- Whoever connects waits. -/
theorem Books.connect (hb : Books settings policy h s.queue s) (address : SocketAddress)
    (channel : Channel) :
    Books settings policy h (s.queue ++ [.client s.visitors.length])
      (s.apply (.connect address channel)) where
  settings_eq := hb.settings_eq
  policy_eq := hb.policy_eq
  -- The new client is the last in the queue and the last of the visitors, so the numbers stay in
  -- step.
  clients := by
    show _ = List.range (s.visitors ++ [_]).length
    rw [← List.append_assoc, List.filterMap_append, hb.clients, List.length_append]
    exact List.range_succ.symm
  handed i := by
    show _ ↔ ((s.visitors ++ [_]).map Visitor.isServed)[i]? = some true
    rw [hb.handed, List.map_append, List.getElem?_append]
    split
    · rfl
    · rename_i hlast
      rw [List.getElem?_eq_none (Nat.le_of_not_lt hlast)]
      cases i - (s.visitors.map Visitor.isServed).length <;>
        simp [Visitor.isServed, Visitor.session?]
  not_before := hb.not_before

/-- A server in order is so after it is started, now or a second time. -/
theorem Standing.start (hs : Standing settings policy h s) :
    Standing settings policy h (s.apply .start) := by
  show Standing settings policy h (if s.gate = .unopened then s.listen else s)
  split
  · rename_i hgate
    rw [Standing, hgate] at hs
    obtain ⟨rfl, haccepts, hbackoff⟩ := hs
    exact standing_listen nofun (Nat.zero_le _) haccepts hbackoff
  · exact hs

/-- **What others do** leaves the books as they are. -/
theorem books_change (hb : Books settings policy h s.queue s) (hs : Standing settings policy h s)
    (d : Deed) :
    Books settings policy h (s.change d).queue (s.change d) ∧
      Standing settings policy h (s.change d) := by
  cases d with
  | start =>
    refine ⟨?_, hs.start⟩
    show Books settings policy h (s.apply .start).queue _
    rw [queue_start]
    refine hb.of_sameBooks ?_
    show s.SameBooks (if s.gate = .unopened then s.listen else s)
    split
    · exact s.sameBooks_listen
    · exact .refl s
  | connect address room early => exact ⟨hb.connect address _, hs⟩
  | acceptFault f =>
    refine ⟨⟨hb.settings_eq, hb.policy_eq, ?_, hb.handed, hb.not_before⟩, hs⟩
    show (_ ++ (s.queue ++ [Offer.fault f])).filterMap _ = _
    rw [← List.append_assoc, List.filterMap_append, hb.clients]
    exact List.append_nil _
  | shutdown =>
    exact ⟨⟨hb.settings_eq, hb.policy_eq, hb.clients, hb.handed, hb.not_before⟩,
      hs.later rfl rfl rfl (Nat.le_refl _) fun _ => rfl⟩
  | client number e =>
    exact ⟨hb.of_sameBooks ⟨⟨rfl, rfl, rfl⟩, isServed_modify (isServed_applyClient e) number _⟩, hs⟩
  | peer number e =>
    refine ⟨hb.of_sameBooks ⟨⟨rfl, rfl, rfl⟩, ?_⟩, hs⟩
    show (s.visitors.map _).map _ = _
    rw [List.map_map]
    exact List.map_congr_left fun v _ => isServed_applyPeer number e v
  | reorder number turn =>
    exact ⟨hb.of_sameBooks ⟨⟨rfl, rfl, rfl⟩, isServed_modify (isServed_reorder turn) number _⟩, hs⟩

/-- The books and the standing of a server outlast any number of deeds. -/
theorem books_changes (hb : Books settings policy h s.queue s) (hs : Standing settings policy h s)
    (ds : List Deed) :
    Books settings policy h (s.changes ds).queue (s.changes ds) ∧
      Standing settings policy h (s.changes ds) := by
  induction ds generalizing s with
  | nil => exact ⟨hb, hs⟩
  | cons d ds ih =>
    obtain ⟨hbooks, hstanding⟩ := books_change hb hs d
    exact ih hbooks hstanding

/-- What others do about a server that has started changes nothing about its listener before it
    attends to it. -/
theorem gate_changes (hgate : s.gate ≠ .unopened) (ds : List Deed) :
    (s.changes ds).gate = s.gate ∧ (s.changes ds).accepts = s.accepts := by
  have hchange (s : Server) (hgate : s.gate ≠ .unopened) (d : Deed) :
      (s.change d).gate = s.gate ∧ (s.change d).accepts = s.accepts := by
    cases d with
    | start =>
      have hsame : s.change .start = s := if_neg hgate
      rw [hsame]
      exact ⟨rfl, rfl⟩
    | _ => exact ⟨rfl, rfl⟩
  induction ds generalizing s with
  | nil => exact ⟨rfl, rfl⟩
  | cons d ds ih =>
    obtain ⟨hsame, haccepts⟩ := hchange s hgate d
    obtain ⟨hgates, hrest⟩ := ih (hsame ▸ hgate)
    exact ⟨hgates.trans hsame, hrest.trans haccepts⟩

/-- A server has been told to stop after any number of deeds exactly if it had been before, or one
    of them tells it. -/
theorem stopping_changes (ds : List Deed) (s : Server) :
    (s.changes ds).stopping = true ↔ s.stopping = true ∨ .shutdown ∈ ds := by
  induction ds generalizing s with
  | nil => exact (or_iff_left List.not_mem_nil).symm
  | cons d ds ih =>
    rw [show s.changes (d :: ds) = (s.change d).changes ds from rfl, ih, List.mem_cons]
    cases d with
    | start =>
      have hsame : (s.change .start).stopping = s.stopping := by
        show (if s.gate = .unopened then s.listen else s).stopping = _
        split
        · exact s.sameBooks_listen.stopping_eq
        · rfl
      rw [hsame]
      exact or_congr_right (or_iff_right nofun).symm
    | shutdown => exact iff_of_true (.inl rfl) (.inr (.inl rfl))
    | _ => exact or_congr_right (or_iff_right nofun).symm

/-! ### Rounds -/

/-- What holds at a settled point, apart from the books. -/
structure Settled (s : Server) : Prop where
  awake : s.Awake
  idle : s.gate = .listening → s.queue = []
  stopped : s.stopping = true → s.isAccepting = false

/-- Whether all sessions have ended is asked only when no accept is begun any more. -/
theorem Settled.checkDrained (hs : s.Settled) : s.checkDrained.Settled := by
  rcases s.checkDrained_cases with hsame | ⟨_, _, _, -, -, hstops⟩
  · rw [hsame]
    exact hs
  · rw [hstops]
    exact ⟨awake_of_gate rfl nofun, nofun, fun _ => rfl⟩

/-- A server that stops for want of sessions leaves its queue as it is. -/
theorem queue_checkDrained (s : Server) : s.checkDrained.queue = s.queue := by
  rcases s.checkDrained_cases with hsame | ⟨_, _, _, -, -, hstops⟩
  · rw [hsame]
  · rw [hstops]

/-- A server that stops for want of sessions accepts no further time. -/
theorem accepts_checkDrained (s : Server) : s.checkDrained.accepts = s.accepts := by
  rcases s.checkDrained_cases with hsame | ⟨_, _, _, -, -, hstops⟩
  · rw [hsame]
  · rw [hstops]

section Rounds

variable (hle : settings.acceptBackoffMin ≤ settings.acceptBackoffMax)
  (hlargest : settings.acceptBackoffMax ≤ Duration.largest)
include hle hlargest

/-- **A round** takes in order what it can, and nothing once the server has been told to stop. -/
theorem books_round {r : Round} (hb : Books settings policy h s.queue s)
    (hs : Standing settings policy h s) (hr : s.now ≤ r.instant) :
    s.taken r ++ (s.round r).queue = s.queue ++ offersFrom s.visitors.length r.deeds ∧
      Books settings policy (h ++ (s.taken r).map (Taking.mk r.instant)) (s.round r).queue
        (s.round r) ∧
      Standing settings policy (h ++ (s.taken r).map (Taking.mk r.instant)) (s.round r) ∧
      (s.round r).Settled ∧
      (s.stopping = true ∨ .shutdown ∈ r.deeds → s.taken r = [] ∧
        (s.gate ≠ .unopened → (s.round r).accepts = s.accepts)) := by
  -- The books pass through what others do, the listener, the sessions and the end, in this order.
  let later : Server := { s with now := r.instant }
  have hbooks : Books settings policy h later.queue later :=
    ⟨hb.settings_eq, hb.policy_eq, hb.clients, hb.handed, hb.not_before⟩
  have hstanding : Standing settings policy h later := hs.later rfl rfl rfl hr id
  obtain ⟨hbooks, hstanding⟩ := books_changes hbooks hstanding r.deeds
  obtain ⟨taken, htook, hstopped⟩ := exists_taken_attend hle hlargest hbooks hstanding
  have hnow : (later.changes r.deeds).now = r.instant := later.now_changes r.deeds
  have hround : s.round r = (later.changes r.deeds).attend.serve.checkDrained := s.round_eq r
  have hserve := sameBooks_serve (later.changes r.deeds).attend
  have hcheck := sameBooks_checkDrained (later.changes r.deeds).attend.serve
  have hqueue : (s.round r).queue = (later.changes r.deeds).attend.queue := by
    rw [hround, queue_checkDrained]
    rfl
  have horder : taken ++ (s.round r).queue =
      s.queue ++ offersFrom s.visitors.length r.deeds := by
    rw [hqueue, htook.in_order]
    exact (queue_changes r.deeds later).1
  have htaken : s.taken r = taken := by
    unfold Server.taken
    dsimp only
    rw [← horder, List.length_append, Nat.add_sub_cancel]
    exact List.take_left
  have hsettled : (later.changes r.deeds).attend.Settled :=
    ⟨htook.awake, htook.idle,
      fun h => (hstopped ((sameTerms_attend _).stopping_eq.symm.trans h)).2.2⟩
  rw [htaken]
  refine ⟨horder, ?_, ?_, ?_, fun hstop => ?_⟩
  · rw [hqueue, hround, ← hnow]
    exact (htook.books.of_sameBooks hserve).of_sameBooks hcheck
  · rw [hround, ← hnow]
    refine Standing.checkDrained (htook.standing.later rfl rfl rfl (Nat.le_refl _) id)
  · rw [hround]
    exact Settled.checkDrained ⟨hsettled.awake, hsettled.idle, hsettled.stopped⟩
  · obtain ⟨hnone, haccepts, -⟩ := hstopped ((stopping_changes r.deeds later).2 hstop)
    refine ⟨hnone, fun hgate => ?_⟩
    rw [hround, accepts_checkDrained]
    exact haccepts.trans (gate_changes (s := later) hgate r.deeds).2

/-- **What rounds carry on**: the books, with all that was taken in them. -/
theorem books_rounds {rs : List Round} (hb : Books settings policy h s.queue s)
    (hs : Standing settings policy h s) (hsettled : s.Settled) (ht : s.Timely rs) :
    Books settings policy (h ++ history s rs) (s.rounds rs).queue (s.rounds rs) ∧
      Standing settings policy (h ++ history s rs) (s.rounds rs) ∧ (s.rounds rs).Settled := by
  induction rs generalizing s h with
  | nil =>
    rw [history, List.append_nil]
    exact ⟨hb, hs, hsettled⟩
  | cons r rs ih =>
    obtain ⟨-, hbooks, hstanding, hstill, -⟩ := books_round hle hlargest hb hs ht.1.1
    rw [history, ← List.append_assoc]
    exact ih hbooks hstanding hstill ht.2

end Rounds

/-- A round adds as many visitors as clients connect in it. -/
theorem length_round (s : Server) (r : Round) :
    (s.round r).visitors.length = s.visitors.length + arrivals r.deeds := by
  let later : Server := { s with now := r.instant }
  have hchanges := (queue_changes r.deeds later).2
  have hattend (s : Server) : s.attend.visitors.length = s.visitors.length :=
    attend_preserves (P := fun s' => s'.visitors.length = s.visitors.length)
      (fun _ _ hsame h => (congrArg List.length hsame.visitors_eq).trans h)
      (fun _ _ h => (List.length_modify _ _ _).trans h) rfl
  have hserve (s : Server) : s.serve.visitors.length = s.visitors.length := by
    have hlength := congrArg List.length s.sameBooks_serve.served_eq
    rwa [List.length_map, List.length_map] at hlength
  have hcheck (s : Server) : s.checkDrained.visitors.length = s.visitors.length :=
    congrArg List.length s.sameSessions_checkDrained.visitors_eq
  show (settle r.instant (later.changes r.deeds)).visitors.length = _
  rw [settle, hcheck, hserve, hattend]
  exact hchanges

end Server

end ForwardProxy
