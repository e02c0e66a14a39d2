import ForwardProxy.Proofs.Session.Requests

namespace ForwardProxy

/-!
# What a session answers

Phase by phase, what an HTTP session has done to the network and told its client, and why.

* `Opening.Quiet` — the network has been left alone, or asked for the target of the client.
* `Opening.Stage` — how far a session has come, one constructor for each phase.
* `Opening.OnStage` — a session that has come so far, on the terms on which it began.
* `Opening.HeadCame` — what trying to read the head comes to.
* `Opening.OnStage.settle` — settling keeps it on stage.
-/

namespace Lookahead

/-- Looking at the next octet, of which none is read ahead, finds it or finds that octets do not
    come next. -/
theorem peek_cases {l : Lookahead} (hahead : l.ahead = []) (hp : l.Proper) :
    (∃ b bs l', l.channel.inbox.head? = some (.data (b :: bs)) ∧ l.peek = (.ready (some b), l') ∧
      l'.items = l.items ∧ l.Took [] l') ∨
    (∀ bs, l.channel.inbox.head? ≠ some (.data bs)) ∧
      (l.channel.inbox = [] ∧ l.peek = (.blocked, l) ∨
        ∃ l', l.Took [] l' ∧ (l.peek = (.ready none, l') ∨ ∃ f, l.peek = (.failed f, l'))) := by
  obtain ⟨c, ahead⟩ := l
  dsimp only at hahead
  subst hahead
  have htook := took_fill ⟨c, []⟩
  unfold peek
  dsimp only
  -- An empty inbox tells the end of the input or nothing yet; otherwise its first item decides.
  cases hinbox : c.inbox with
  | nil =>
    have hread : c.read capacity = (if c.ended then .ready [] else .blocked, c) := by
      rw [Channel.read, hinbox]
    refine .inr ⟨fun bs => by simp, ?_⟩
    cases hended : c.ended with
    | true =>
      have hfill : fill ⟨c, []⟩ = (.ready [], ⟨c, []⟩) := by simp [fill, hread, hended]
      rw [hfill] at htook ⊢
      exact .inr ⟨_, htook, .inl rfl⟩
    | false =>
      have hfill : fill ⟨c, []⟩ = (.blocked, ⟨c, []⟩) := by simp [fill, hread, hended]
      rw [hfill]
      exact .inl ⟨rfl, rfl⟩
  | cons a rest =>
    cases a with
    | fault f =>
      have hread : (c.read capacity).1 = .failed f := by rw [Channel.read, hinbox]
      refine .inr ⟨fun bs => by simp, .inr ?_⟩
      rcases hc : c.read capacity with ⟨a, c'⟩
      rw [hc] at hread
      subst hread
      have hfill : fill ⟨c, []⟩ = (.failed f, ⟨c', []⟩) := by simp [fill, hc]
      rw [hfill] at htook ⊢
      exact ⟨_, htook, .inr ⟨f, rfl⟩⟩
    | data bs =>
      cases bs with
      | nil => exact absurd (by rw [hinbox]; exact List.mem_cons_self) hp
      | cons b bs =>
        have hread : (c.read capacity).1 = .ready ((b :: bs).take capacity) := by
          rw [Channel.read, hinbox]
        rcases hc : c.read capacity with ⟨a, c'⟩
        rw [hc] at hread
        subst hread
        have hfill : fill ⟨c, []⟩ =
            (.ready ((b :: bs).take capacity), ⟨c', (b :: bs).take capacity⟩) := by
          simp [fill, hc]
        rw [hfill] at htook
        exact .inl ⟨b, bs, _, rfl, by rw [hfill]; rfl, (items_fill_of_ready hfill).1, htook⟩

end Lookahead

namespace Opening

open SessionRun (Event)

/-- Nothing was written to a client, and nothing keeps that from being done. -/
structure Untold (client : Lookahead) : Prop where
  written_eq : client.channel.written = []
  open_eq : client.channel.shut = false

/-- Nothing that a client does is told to it. -/
theorem Untold.apply {l : Lookahead} (h : Untold l) (e : Channel.Event) : Untold (l.apply e) :=
  ⟨(Lookahead.written_apply e l).trans h.written_eq, (Lookahead.shut_apply e l).trans h.open_eq⟩

/-- Nothing that a client does, one thing after the other, is told to it. -/
theorem Untold.applyAll {l : Lookahead} (h : Untold l) (es : List Channel.Event) :
    Untold (l.applyAll es) := by
  induction es generalizing l with
  | nil => exact h
  | cons e es ih => exact ih (h.apply e)

/-- A client has been told nothing by what it does itself. -/
theorem untold_client (v : Opening) (es : List Event) : Untold (v.client es) := by
  have hearly : Untold ((Lookahead.ofChannel (.idle v.room)).applyAll v.early) :=
    Untold.applyAll ⟨rfl, rfl⟩ v.early
  rw [Lookahead.applyAll_eq] at hearly
  exact hearly.applyAll (SessionRun.clientEvents es)

/-- Taking octets from a client tells it nothing. -/
theorem Untold.took {l l' : Lookahead} {bs : Bytes} (h : Untold l) (ht : l.Took bs l') :
    Untold l' := ⟨ht.written_eq.trans h.written_eq, by rw [ht.channel_eq]; exact h.open_eq⟩

/-- The session has looked nothing up and connected to nothing, or just what it takes to reach the
    target that its client has asked for. -/
def Quiet (v : Opening) (es : List Event) (lookups : List Text) (dials : List SocketAddress) :
    Prop :=
  lookups = [] ∧ dials = [] ∨
    ∃ target, v.Asked es target ∧ lookups = (v.network.attempt target.render).lookups ∧
      dials = (v.network.attempt target.render).connects

/-- A connection is the one that dialling a target brings about. -/
def Reached (v : Opening) (target : Target) (o : Outbound) : Prop :=
  ∃ greeting known room,
    (v.network.attempt target.render).reach = .connected o.address greeting known room

/-- How far an HTTP session has come at `t`, of whose next settling `steps` of the six steps are
    taken: the network is left alone until a target is asked for, and the client until it is reached
    or refused.  A step that leaves a session where it is leaves nothing to be done there. -/
inductive Stage (v : Opening) (es : List Event) (t steps : Nat) :
    Phase → Lookahead → Option Outbound → List Text → List SocketAddress → Prop where
  | peeking {deadline : Nat} {client : Lookahead} (entry : v.entry = .detecting)
      (whole : client = v.client es)
      (first : ∀ es', es' <+: es → es' ≠ es → (v.client es').channel.inbox = [])
      (prompt : (v.client es).channel.inbox ≠ [] → t = (v.after es).now)
      (still : 0 < steps → (v.client es).channel.inbox = []) :
      Stage v es t steps (.peeking deadline) client none [] []
  | readingHead {reader : HeadReader} {began : Nat} {client : Lookahead} {c : Bytes}
      (begun : v.HeadBegun es began) (proper : client.Proper)
      (items : (v.client es).items = c.map .octet ++ client.items)
      (ended : client.channel.ended = (v.client es).channel.ended)
      (reads : HeadReader.Reads v.settings.maxRequestBytes c reader)
      (fits : c.length ≤ v.settings.maxRequestBytes) (untold : Untold client)
      (prompt : (reader.takeFrom (Item.leading client.items)).1.isDone = true →
        (v.after es).now ≤ v.headDeadline began)
      (still : 1 < steps → client.items = [] ∧ reader.isDone = false ∧ t < v.headDeadline began) :
      Stage v es t steps (.readingHead reader (v.headDeadline began)) client none [] []
  | dialling {target : Target} {deadline : Nat} {client : Lookahead} (asked : v.Asked es target)
      (untold : Untold client) :
      Stage v es t steps
        (.dialling .httpConnect ⟨target.render, v.network.attempt target.render, deadline⟩) client
        none (v.network.attempt target.render).lookups (v.network.attempt target.render).connects
  | refusing {failure : Failure} {code : Nat} {answer left : Bytes} {client : Lookahead}
      {lookups : List Text} {dials : List SocketAddress} (quiet : v.Quiet es lookups dials)
      (refused : v.Refused es failure code) (words : Response.ofFailure? failure = some answer)
      (told : client.channel.written ++ left = answer) (unshut : client.channel.shut = false)
      (still : 4 < steps → client.channel.room = some 0) :
      Stage v es t steps (.refusing failure left) client none lookups dials
  | refused {failure : Failure} {code : Nat} {answer : Bytes} {client : Lookahead}
      {lookups : List Text} {dials : List SocketAddress} (quiet : v.Quiet es lookups dials)
      (refused : v.Refused es failure code) (words : Response.ofFailure? failure = some answer)
      (told : client.channel.written <+: answer)
      (complete : client.channel.written = answer ∨ client.channel.writeFault.isSome = true) :
      Stage v es t steps (.finished (some (.proxy failure))) client none lookups dials
  | left {client : Lookahead} (entry : v.entry = .detecting)
      (unspoken : ∃ es₀, es₀ <+: es ∧ (es₀ = es ∨ (v.after es₀).session.isOver = true) ∧
        ¬v.Spoken es₀)
      (told : client.channel.written = []) :
      Stage v es t steps (.finished none) client none [] []
  | announcing {name : Text} {left : Bytes} {client : Lookahead} {o : Outbound} {target : Target}
      (asked : v.Asked es target) (reached : v.Reached target o) :
      Stage v es t steps (.announcing .httpConnect name left) client (some o)
        (v.network.attempt target.render).lookups (v.network.attempt target.render).connects
  | relaying {name : Text} {tunnel : Tunnel} {client : Lookahead} {o : Outbound} {target : Target}
      (asked : v.Asked es target) (reached : v.Reached target o) :
      Stage v es t steps (.relaying .httpConnect name tunnel) client (some o)
        (v.network.attempt target.render).lookups (v.network.attempt target.render).connects
  | finished {failure : Option SessionFailure} {client : Lookahead} {o : Outbound}
      {target : Target} (asked : v.Asked es target) (reached : v.Reached target o) :
      Stage v es t steps (.finished failure) client (some o)
        (v.network.attempt target.render).lookups (v.network.attempt target.render).connects

/-- A session that has come so far, on the terms on which it began. -/
structure OnStage (v : Opening) (es : List Event) (t steps : Nat) (s : Session) : Prop where
  settings_eq : s.settings = v.settings
  entry_eq : s.entry = v.entry
  stage : v.Stage es t steps s.phase s.client s.outbound s.lookups s.dials

variable {v : Opening} {es : List Event} {t steps : Nat} {s : Session}

/-! ### Steps -/

/-- The step of a settling that works on a phase and may leave a session there. -/
def stepOn? : Phase → Option Nat
  | .peeking _ => some 0
  | .readingHead _ _ => some 1
  | .refusing _ _ => some 4
  | _ => none

/-- A session stays where it is while a step is taken that works on another phase. -/
theorem Stage.advance {phase : Phase} {client : Lookahead} {outbound : Option Outbound}
    {lookups : List Text} {dials : List SocketAddress}
    (h : v.Stage es t steps phase client outbound lookups dials)
    (hstep : stepOn? phase ≠ some steps) :
    v.Stage es t (steps + 1) phase client outbound lookups dials := by
  have hlt : ∀ n, stepOn? phase = some n → n < steps + 1 → n < steps := fun n hn hlt =>
    Nat.lt_of_le_of_ne (Nat.le_of_lt_succ hlt) fun he => hstep (hn.trans (congrArg some he))
  -- The phase that this step works on is excluded, so whatever else had to be done by now was done
  -- before.
  cases h with
  | peeking entry whole first prompt still =>
    exact .peeking entry whole first prompt fun h => still (hlt 0 rfl h)
  | readingHead begun proper items ended reads fits untold prompt still =>
    exact .readingHead begun proper items ended reads fits untold prompt
      fun h => still (hlt 1 rfl h)
  | dialling asked untold => exact .dialling asked untold
  | refusing quiet refused words told unshut still =>
    exact .refusing quiet refused words told unshut fun h => still (hlt 4 rfl h)
  | refused quiet refused words told complete =>
    exact .refused quiet refused words told complete
  | left entry unspoken told => exact .left entry unspoken told
  | announcing asked reached => exact .announcing asked reached
  | relaying asked reached => exact .relaying asked reached
  | finished asked reached => exact .finished asked reached

/-! ### Endings -/

/-- A session that ends by a failure. -/
theorem OnStage.fail_of {protocol : Protocol} {failure : SessionFailure}
    (hsettings : s.settings = v.settings) (hentry : s.entry = v.entry)
    (h : v.Stage es t steps (.finished (some failure)) s.client.close
      (s.outbound.map Outbound.close) s.lookups s.dials) :
    v.OnStage es t steps (s.fail protocol failure) := by
  unfold Session.fail
  split
  · exact ⟨hsettings, hentry, h⟩
  · exact ⟨hsettings, hentry, h⟩
  · exact ⟨hsettings, hentry, h⟩

/-- A session that has no target yet may refuse one, for a reason. -/
theorem OnStage.refuse {failure : Failure} {code : Nat} (hsettings : s.settings = v.settings)
    (hentry : s.entry = v.entry) (hnone : s.outbound = none) (hsteps : steps ≤ 4)
    (quiet : v.Quiet es s.lookups s.dials) (untold : Untold s.client)
    (refused : v.Refused es failure code) : v.OnStage es t steps (s.refuse failure) := by
  obtain ⟨reason, -, words⟩ := refused.answer
  generalize Response.error code reason failure.httpBody = answer at words
  have told : s.client.channel.written ++ answer = answer := by
    rw [untold.written_eq, List.nil_append]
  have still : 4 < steps → s.client.channel.room = some 0 := fun h => absurd h (by omega)
  unfold Session.refuse
  rw [words]
  refine ⟨hsettings, hentry, ?_⟩
  show v.Stage es t steps (.refusing failure answer) s.client s.outbound s.lookups s.dials
  rw [hnone]
  exact .refusing quiet refused words told untold.open_eq still

/-! ### Step by step -/

/-- The first octet tells the protocol; without one, the session ends. -/
theorem OnStage.peek (h : v.OnStage es t 0 s) (hspeaks : v.SpeaksHttp es) :
    v.OnStage es t 1 (s.peek t) := by
  obtain ⟨hsettings, hentry, hstage⟩ := h
  have hsame := hstage
  obtain ⟨settings, peer, entry, turn, client, outbound, phase, log, lookups, dials⟩ := s
  dsimp only at hsettings hentry hstage hsame
  cases hstage with
  | @peeking deadline client detecting whole first prompt still =>
    subst whole
    have huntold := v.untold_client es
    have hproper := v.proper_client es
    -- Without an octet, nothing was told, and nothing is asked of the network.
    have hleft : ¬v.Spoken es → ∀ l, (v.client es).Took [] l → v.Stage es t 1 (.finished none)
        l.close none [] [] := fun hspoken l htook =>
      .left detecting ⟨es, List.prefix_refl es, .inl rfl, hspoken⟩
        (htook.written_eq.trans huntold.written_eq)
    unfold Session.peek
    dsimp only
    rcases Lookahead.peek_cases (v.ahead_client es) hproper with
      ⟨b, bs, l, hfirst, hpeek, hitems, htook⟩ | ⟨hnone, hquiet⟩
    · have hspoken : v.Spoken es := ⟨b :: bs, hfirst⟩
      have hnow : t = (v.after es).now := prompt fun hnil => by
        obtain ⟨bs, hbs⟩ := hspoken
        rw [hnil] at hbs
        cases hbs
      have hdetect : Protocol.detect b = .httpConnect := by
        rcases hspeaks with hspeaks | ⟨-, hspeaks⟩
        · rw [detecting] at hspeaks
          cases hspeaks
        · exact hspeaks b bs hfirst
      have hbegun : v.HeadBegun es t := by
        rw [hnow]
        exact .detected detecting (List.prefix_refl es) hspoken first
      rw [hpeek]
      dsimp only
      rw [hdetect]
      refine ⟨hsettings, hentry, ?_⟩
      show v.Stage es t 1 (.readingHead (.start settings.maxRequestBytes)
        (Time.deadline t settings.requestReadTimeout)) l none [] []
      rw [hsettings]
      refine .readingHead (c := []) hbegun (htook.proper hproper) hitems.symm ?_
        (HeadReader.reads_start _) (Nat.zero_le _) (huntold.took htook) ?_ ?_
      · rw [htook.channel_eq]
      · intro _
        rw [← hnow]
        exact Time.le_deadline _ _
      · exact fun h => absurd h (Nat.lt_irrefl 1)
    · have hspoken : ¬v.Spoken es := fun ⟨bs, hbs⟩ => hnone bs hbs
      rcases hquiet with ⟨hnil, hpeek⟩ | ⟨l, htook, hpeek | ⟨f, hpeek⟩⟩
      · rw [hpeek]
        dsimp only
        split
        · exact ⟨hsettings, hentry, hleft hspoken _ (.refl _)⟩
        · exact ⟨hsettings, hentry, .peeking detecting rfl first prompt fun _ => hnil⟩
      · rw [hpeek]
        exact ⟨hsettings, hentry, hleft hspoken l htook⟩
      · rw [hpeek]
        exact ⟨hsettings, hentry, hleft hspoken l htook⟩
  | _ => exact ⟨hsettings, hentry, hsame.advance (by simp [stepOn?])⟩

/-- A reader that has taken all there was and found no head has met none. -/
theorem headless_of_reads {c d : Bytes} {r : HeadReader}
    (hreads : HeadReader.Reads v.settings.maxRequestBytes c r) (hheard : v.heard es = c ++ d)
    (hall : d = [] ∨ c.length = v.settings.maxRequestBytes) : v.Headless es := by
  intro p h hframed
  refine Nat.lt_of_not_le fun hle => hreads.not_framed hframed ?_
  have hwithin : p ++ h <+: c ++ d := hheard ▸ hframed.within
  rcases hall with rfl | hcap
  · rwa [List.append_nil] at hwithin
  · rcases List.prefix_or_prefix_of_prefix hwithin (List.prefix_append c d) with hpre | hpre
    · exact hpre
    · have heq := hpre.eq_of_length (Nat.le_antisymm hpre.length_le (by omega))
      exact ⟨[], (List.append_nil _).trans heq.symm⟩

/-- What trying to read the head comes to: a head that was read in time, a reason to refuse, or
    nothing yet. -/
inductive HeadCame (v : Opening) (es : List Event) (t deadline : Nat) (client : Lookahead) :
    HeadAttempt × Lookahead → Prop where
  | read {h bs : Bytes} {l : Lookahead} (took : client.Took bs l) (read : v.HeadRead es h) :
      HeadCame v es t deadline client (.over (.ok h), l)
  | refused {failure : Failure} {code : Nat} {bs : Bytes} {l : Lookahead}
      (took : client.Took bs l) (refused : v.Refused es failure code) :
      HeadCame v es t deadline client (.over (.error failure), l)
  | pending {r : HeadReader} {l : Lookahead}
      (stage : v.Stage es t 2 (.readingHead r deadline) l none [] []) :
      HeadCame v es t deadline client (.pending r, l)

section

variable {reader : HeadReader} {began : Nat} {client : Lookahead} {c : Bytes}

/-- What has been heard of a request head is what was taken of it and what is there before any
    fault. -/
theorem heard_of_items (items : (v.client es).items = c.map .octet ++ client.items) :
    v.heard es = c ++ Item.leading client.items := by
  rw [heard, items, Item.leading_map_append]

/-- A reader that is done has the head, or its cap is used up. -/
theorem headCame_of_done (begun : v.HeadBegun es began) (proper : client.Proper)
    (items : (v.client es).items = c.map .octet ++ client.items)
    (reads : HeadReader.Reads v.settings.maxRequestBytes c reader)
    (fits : c.length ≤ v.settings.maxRequestBytes)
    (prompt : (v.after es).now ≤ v.headDeadline began)
    (hdone : (reader.takeFrom (Item.leading client.items)).1.isDone = true) :
    v.HeadCame es t (v.headDeadline began) client
      (reader.attempt v.settings.headTerms (v.headDeadline began) t client) := by
  have hheard := heard_of_items items
  obtain ⟨d, hd, hlen, hcases⟩ := reads.takeFrom fits (Item.leading client.items)
  obtain ⟨d', l, -, htook, hattempt⟩ :=
    HeadReader.attempt_of_done v.settings.headTerms (v.headDeadline began) t proper hdone
  rw [hattempt]
  rcases hcases with hr | ⟨p, h, hsplit, hp, hh, hr⟩
  · -- The cap is used up.
    have hused : (c ++ d).length = v.settings.maxRequestBytes := by
      obtain ⟨hquota, hcomplete⟩ := hr.quota
      rw [HeadReader.isDone, hcomplete, hquota, Bool.false_or, beq_iff_eq] at hdone
      omega
    have hheard' := hheard.trans (congrArg (c ++ ·) hd)
    rw [← List.append_assoc] at hheard'
    rw [HeadReader.resultOf, hr.quota.2, if_neg (by decide)]
    refine .refused htook
      (.overlong (List.prefix_refl es) begun (headless_of_reads hr hheard' (.inr hused)) ?_)
    rw [hheard', List.length_append, hused]
    exact Nat.le_add_right _ _
  · rw [HeadReader.resultOf, hr, if_pos rfl, HeadReader.head, List.reverse_reverse]
    refine .read htook (.intro (List.prefix_refl es) begun hp hh ?_ (hsplit ▸ hlen) prompt)
    rw [← hsplit, hheard, hd]
    exact ⟨_, List.append_assoc _ _ _⟩

/-- A reader that is not done has taken everything there was, and waits for more until the stream
    ends or the deadline comes. -/
theorem headCame_of_open (begun : v.HeadBegun es began) (proper : client.Proper)
    (items : (v.client es).items = c.map .octet ++ client.items)
    (ended : client.channel.ended = (v.client es).channel.ended)
    (reads : HeadReader.Reads v.settings.maxRequestBytes c reader)
    (fits : c.length ≤ v.settings.maxRequestBytes) (untold : Untold client)
    (ht : t ≤ (v.after es).now)
    (hopen : (reader.takeFrom (Item.leading client.items)).1.isDone = false) :
    v.HeadCame es t (v.headDeadline began) client
      (reader.attempt v.settings.headTerms (v.headDeadline began) t client) := by
  obtain ⟨d, hd, hlen, hcases⟩ := reads.takeFrom fits (Item.leading client.items)
  obtain ⟨l, htook, hempty, hattempt⟩ :=
    HeadReader.attempt_of_open v.settings.headTerms (v.headDeadline began) t proper hopen
  -- The head stays open, so the reader took all that was there; whether the wait goes on depends on
  -- the end of the input and on the deadline.
  rw [HeadReader.takeFrom_left hopen, List.append_nil] at hd
  subst hd
  have hr : HeadReader.Reads v.settings.maxRequestBytes (c ++ Item.leading client.items)
      (reader.takeFrom (Item.leading client.items)).1 := by
    rcases hcases with hr | ⟨p, h, -, -, -, hr⟩
    · exact hr
    · rw [hr] at hopen
      cases hopen
  have hheadless : v.Headless es :=
    headless_of_reads hr ((heard_of_items items).trans (List.append_nil _).symm) (.inl rfl)
  rw [hattempt]
  cases hending : Item.ending? client.items with
  | some e =>
    refine .refused htook (.cut (List.prefix_refl es) begun hheadless ?_)
    rw [items, Item.ending?_map_append, hending]
  | none =>
    dsimp only
    by_cases hlate : v.headDeadline began ≤ t
    · rw [if_pos hlate]
      exact .refused htook (.late (List.prefix_refl es) begun hheadless (Nat.le_trans hlate ht))
    · rw [if_neg hlate]
      refine .pending (.readingHead begun (htook.proper proper) ?_ ?_ hr hlen (untold.took htook)
        ?_ fun _ => ⟨hempty hending, hopen, Nat.lt_of_not_le hlate⟩)
      · rw [items, hempty hending, List.map_append, ← Item.eq_map_leading hending,
          List.append_nil]
      · rw [htook.channel_eq]
        exact ended
      · intro hdone
        rw [hempty hending] at hdone
        exact absurd (hopen.symm.trans hdone) (by decide)

end

/-- A head that was read in time asks for a target or is refused; the end of the stream, the cap
    and the deadline refuse as well. -/
theorem OnStage.readHead (h : v.OnStage es t 1 s) (ht : t ≤ (v.after es).now) :
    v.OnStage es t 2 (s.readHead v.network t) := by
  obtain ⟨hsettings, hentry, hstage⟩ := h
  have hsame := hstage
  obtain ⟨settings, peer, entry, turn, client, outbound, phase, log, lookups, dials⟩ := s
  dsimp only at hsettings hentry hstage hsame
  subst hsettings
  cases hstage with
  | @readingHead reader began client c begun proper items ended reads fits untold prompt still =>
    have hquiet : v.Quiet es [] [] := .inl ⟨rfl, rfl⟩
    have hcame : v.HeadCame es t (v.headDeadline began) client
        (reader.attempt v.settings.headTerms (v.headDeadline began) t client) := by
      cases hdone : (reader.takeFrom (Item.leading client.items)).1.isDone with
      | true => exact headCame_of_done begun proper items reads fits (prompt hdone) hdone
      | false => exact headCame_of_open begun proper items ended reads fits untold ht hdone
    unfold Session.readHead
    dsimp only
    -- Only what came of the attempt matters from here on: a head, a refusal, or nothing yet.
    generalize reader.attempt v.settings.headTerms (v.headDeadline began) t client = came at *
    cases hcame with
    | read took read =>
      dsimp only
      rcases requested_cases read with ⟨target, hrequested, hasked⟩ |
        ⟨failure, code, hrequested, hrefused⟩
      · rw [hrequested]
        exact ⟨rfl, hentry, .dialling hasked (untold.took took)⟩
      · rw [hrequested]
        exact OnStage.refuse rfl hentry rfl (by decide) hquiet (untold.took took) hrefused
    | refused took refused =>
      exact OnStage.refuse rfl hentry rfl (by decide) hquiet (untold.took took) refused
    | pending stage => exact ⟨rfl, hentry, stage⟩
  | _ => exact ⟨rfl, hentry, hsame.advance (by simp [stepOn?])⟩

/-- A session that speaks HTTP does not negotiate. -/
theorem OnStage.negotiate (h : v.OnStage es t 2 s) :
    v.OnStage es t 3 (s.negotiate v.network t) := by
  obtain ⟨hsettings, hentry, hstage⟩ := h
  have hsame := hstage
  obtain ⟨settings, peer, entry, turn, client, outbound, phase, log, lookups, dials⟩ := s
  dsimp only at hsettings hentry hstage hsame
  cases hstage <;> exact ⟨hsettings, hentry, hsame.advance (by simp [stepOn?])⟩

/-- A dial that has ended brings a connection or refuses. -/
theorem OnStage.dial (h : v.OnStage es t 3 s) : v.OnStage es t 4 (s.dial 0 t) := by
  obtain ⟨hsettings, hentry, hstage⟩ := h
  have hsame := hstage
  obtain ⟨settings, peer, entry, turn, client, outbound, phase, log, lookups, dials⟩ := s
  dsimp only at hsettings hentry hstage hsame
  cases hstage with
  | @dialling target deadline client asked untold =>
    have hquiet : v.Quiet es (v.network.attempt target.render).lookups
        (v.network.attempt target.render).connects := .inr ⟨target, asked, rfl, rfl⟩
    unfold Session.dial Dial.outcome?
    dsimp only
    cases hreach : (v.network.attempt target.render).reach with
    | connected address greeting known room =>
      exact ⟨hsettings, hentry, .announcing asked ⟨greeting, known, room, hreach⟩⟩
    | failed fault =>
      exact OnStage.refuse hsettings hentry rfl (by decide) hquiet untold
        (.dial asked (.inl hreach))
    | hanging =>
      dsimp only
      by_cases hlate : deadline ≤ t
      · rw [if_pos hlate]
        exact OnStage.refuse hsettings hentry rfl (by decide) hquiet untold
          (.dial asked (.inr ⟨hreach, rfl⟩))
      · rw [if_neg hlate]
        exact ⟨hsettings, hentry, hsame.advance (by simp [stepOn?])⟩
  | _ => exact ⟨hsettings, hentry, hsame.advance (by simp [stepOn?])⟩

/-- The answer is written from the front, and to its end if the client takes it. -/
theorem OnStage.tell (h : v.OnStage es t 4 s) : v.OnStage es t 5 (s.tell t) := by
  obtain ⟨hsettings, hentry, hstage⟩ := h
  have hsame := hstage
  obtain ⟨settings, peer, entry, turn, client, outbound, phase, log, lookups, dials⟩ := s
  dsimp only at hsettings hentry hstage hsame
  cases hstage with
  | @refusing failure code answer left client lookups dials quiet refused words told unshut still =>
    obtain ⟨w, hcut, hwrote, hready⟩ := client.wrote_writeAll left
    have hroom (hb : (client.writeAll left).1 = .blocked) := Lookahead.room_writeAll_of_blocked hb
    have hfault f (hf : (client.writeAll left).1 = .failed f) :=
      Lookahead.writeFault_writeAll_of_failed unshut hf
    unfold Session.tell
    dsimp only
    rcases hw : client.writeAll left with ⟨a, rest, l⟩
    rw [hw] at hcut hwrote hready hroom hfault
    have htold : l.channel.written ++ rest = answer := by
      rw [hwrote.written_eq, List.append_assoc, ← hcut, told]
    cases a with
    | ready u =>
      have hrest : rest = [] := hready rfl
      rw [hrest, List.append_nil] at htold
      exact OnStage.fail_of hsettings hentry
        (.refused quiet refused words ⟨[], by rw [List.append_nil]; exact htold⟩ (.inl htold))
    | blocked =>
      refine ⟨hsettings, hentry, .refusing quiet refused words htold ?_ fun _ => hroom rfl⟩
      rw [hwrote.channel_eq]
      exact unshut
    | failed f =>
      refine OnStage.fail_of hsettings hentry
        (.refused quiet refused words ⟨rest, htold⟩ (.inr ?_))
      have hfailed : l.channel.writeFault = some f := hfault f rfl
      show l.channel.writeFault.isSome = true
      rw [hfailed]
      rfl
  | @announcing name left client o target asked reached =>
    unfold Session.tell
    dsimp only
    rcases client.writeAll left with ⟨a, rest, l⟩
    cases a with
    | ready u => exact ⟨hsettings, hentry, .relaying asked reached⟩
    | blocked => exact ⟨hsettings, hentry, .announcing asked reached⟩
    | failed f => exact OnStage.fail_of hsettings hentry (.finished asked reached)
  | _ => exact ⟨hsettings, hentry, hsame.advance (by simp [stepOn?])⟩

/-- What the tunnel relays leaves what was asked and reached as it was. -/
theorem OnStage.relay (h : v.OnStage es t 5 s) : v.OnStage es t 6 (s.relay t) := by
  obtain ⟨hsettings, hentry, hstage⟩ := h
  have hsame := hstage
  obtain ⟨settings, peer, entry, turn, client, outbound, phase, log, lookups, dials⟩ := s
  dsimp only at hsettings hentry hstage hsame
  cases hstage with
  | @relaying name tunnel client o target asked reached =>
    unfold Session.relay
    dsimp only
    generalize tunnel.settle t ⟨client, o.stream⟩ = settled
    obtain ⟨t', e⟩ := settled
    dsimp only
    cases t'.stats? with
    | none => exact ⟨hsettings, hentry, .relaying asked reached⟩
    | some stats =>
      dsimp only
      unfold Session.conclude
      split
      · exact ⟨hsettings, hentry, .finished asked reached⟩
      · exact ⟨hsettings, hentry, .finished asked reached⟩
      · exact OnStage.fail_of hsettings hentry (.finished asked reached)
  | _ => exact ⟨hsettings, hentry, hsame.advance (by simp [stepOn?])⟩

/-- **Settling keeps a session on stage.** -/
theorem OnStage.settle (h : v.OnStage es t 0 s) (hspeaks : v.SpeaksHttp es)
    (ht : t ≤ (v.after es).now) : v.OnStage es t 6 (s.settle v.network 0 t) :=
  (((((h.peek hspeaks).readHead ht).negotiate).dial).tell).relay

/-! ### What others do -/

/-- What was looked up and dialled stands for the same request when more has happened. -/
theorem Quiet.mono {es' : List Event} {lookups : List Text} {dials : List SocketAddress}
    (h : v.Quiet es lookups dials) (hes : es <+: es') : v.Quiet es' lookups dials := by
  rcases h with h | ⟨target, asked, hlookups, hdials⟩
  · exact .inl h
  · exact .inr ⟨target, asked.mono hes, hlookups, hdials⟩

/-- Where nothing has come before an event, nothing has come before any part of what happened. -/
theorem first_of_still {e : Event}
    (first : ∀ es', es' <+: es → es' ≠ es → (v.client es').channel.inbox = [])
    (still : (v.client es).channel.inbox = []) (es' : List Event) (hes' : es' <+: es ++ [e])
    (hne : es' ≠ es ++ [e]) : (v.client es').channel.inbox = [] := by
  rcases List.prefix_concat_iff.1 hes' with rfl | hle
  · exact absurd rfl hne
  · by_cases he : es' = es
    · rw [he]
      exact still
    · exact first es' hle he

/-- A session that ended before its first octet ended there. -/
theorem unspoken_mono {e : Event} {gone : Bool} (hgone : gone = true)
    (hs : gone = true → (v.after es).session.isOver = true)
    (h : ∃ es₀, es₀ <+: es ∧ (es₀ = es ∨ (v.after es₀).session.isOver = true) ∧ ¬v.Spoken es₀) :
    ∃ es₀, es₀ <+: es ++ [e] ∧ (es₀ = es ++ [e] ∨ (v.after es₀).session.isOver = true) ∧
      ¬v.Spoken es₀ := by
  obtain ⟨es₀, hle, hend, hspoken⟩ := h
  refine ⟨es₀, hle.trans (List.prefix_append _ _), .inr ?_, hspoken⟩
  rcases hend with rfl | hend
  · exact hs hgone
  · exact hend

/-- What the client has no part in leaves a settled session on stage. -/
theorem OnStage.extend {e : Event} (h : v.OnStage es t 6 s)
    (hs : s.isOver = true → (v.after es).session.isOver = true)
    (hclient : v.client (es ++ [e]) = v.client es) : v.OnStage (es ++ [e]) t 6 s := by
  obtain ⟨hsettings, hentry, hstage⟩ := h
  have hle : es <+: es ++ [e] := List.prefix_append _ _
  obtain ⟨settings, peer, entry, turn, client, outbound, phase, log, lookups, dials⟩ := s
  refine ⟨hsettings, hentry, ?_⟩
  cases hstage with
  | peeking entry whole first prompt still =>
    have hnil := still (by decide)
    have hnil' := hnil
    rw [← hclient] at hnil'
    exact .peeking entry (whole.trans hclient.symm) (first_of_still first hnil)
      (fun h => absurd hnil' h) fun _ => hnil'
  | readingHead begun proper items ended reads fits untold prompt still =>
    obtain ⟨hempty, hopen, hlate⟩ := still (by decide)
    refine .readingHead (begun.mono hle) proper (by rw [hclient]; exact items)
      (by rw [hclient]; exact ended) reads fits untold (fun hdone => ?_)
      fun _ => ⟨hempty, hopen, hlate⟩
    rw [hempty] at hdone
    exact absurd (hopen.symm.trans hdone) (by decide)
  | dialling asked untold => exact .dialling (asked.mono hle) untold
  | refusing quiet refused words told unshut still =>
    exact .refusing (quiet.mono hle) (refused.mono hle) words told unshut still
  | refused quiet refused words told complete =>
    exact .refused (quiet.mono hle) (refused.mono hle) words told complete
  | left entry unspoken told => exact .left entry (unspoken_mono rfl hs unspoken) told
  | announcing asked reached => exact .announcing (asked.mono hle) reached
  | relaying asked reached => exact .relaying (asked.mono hle) reached
  | finished asked reached => exact .finished (asked.mono hle) reached

/-- A settled session is ready to settle again, at any instant. -/
theorem OnStage.restart (h : v.OnStage es t 6 s) (t' : Nat) : v.OnStage es t' 0 s := by
  obtain ⟨hsettings, hentry, hstage⟩ := h
  obtain ⟨settings, peer, entry, turn, client, outbound, phase, log, lookups, dials⟩ := s
  refine ⟨hsettings, hentry, ?_⟩
  cases hstage with
  | peeking entry whole first prompt still =>
    exact .peeking entry whole first (fun h => absurd (still (by decide)) h)
      fun h => absurd h (Nat.lt_irrefl 0)
  | readingHead begun proper items ended reads fits untold prompt still =>
    exact .readingHead begun proper items ended reads fits untold prompt
      fun h => absurd h (by decide)
  | dialling asked untold => exact .dialling asked untold
  | refusing quiet refused words told unshut still =>
    exact .refusing quiet refused words told unshut fun h => absurd h (by decide)
  | refused quiet refused words told complete =>
    exact .refused quiet refused words told complete
  | left entry unspoken told => exact .left entry unspoken told
  | announcing asked reached => exact .announcing asked reached
  | relaying asked reached => exact .relaying asked reached
  | finished asked reached => exact .finished asked reached

/-- What its target does leaves a session on its stage. -/
theorem OnStage.applyPeer (h : v.OnStage es t steps s) (number : Nat) (e : Channel.Event) :
    v.OnStage es t steps (s.applyPeer number e) := by
  obtain ⟨hsettings, hentry, hstage⟩ := h
  have hsame := hstage
  obtain ⟨settings, peer, entry, turn, client, outbound, phase, log, lookups, dials⟩ := s
  refine ⟨hsettings, hentry, ?_⟩
  have hreached : ∀ {target : Target} {o : Outbound}, v.Reached target o →
      v.Reached target (if o.number = number then o.apply e else o) := by
    intro target o ho
    split <;> exact ho
  cases hstage with
  | announcing asked reached => exact .announcing asked (hreached reached)
  | relaying asked reached => exact .relaying asked (hreached reached)
  | finished asked reached => exact .finished asked (hreached reached)
  | _ => exact hsame

/-- The order of the halves of its tunnel leaves a session on its stage. -/
theorem OnStage.reorder (h : v.OnStage es t steps s) (turn : Turn) :
    v.OnStage es t steps (s.reorder turn) := by
  obtain ⟨hsettings, hentry, hstage⟩ := h
  have hsame := hstage
  obtain ⟨settings, peer, entry, turn', client, outbound, phase, log, lookups, dials⟩ := s
  refine ⟨hsettings, hentry, ?_⟩
  cases hstage with
  | relaying asked reached => exact .relaying asked reached
  | _ => exact hsame

/-- What the client does finds a session that has nothing left to do, and at once. -/
theorem OnStage.applyClient (h : v.OnStage es t 6 s)
    (hs : s.isOver = true → (v.after es).session.isOver = true) (e : Channel.Event)
    (hnow : t = (v.after (es ++ [.client e])).now) :
    v.OnStage (es ++ [.client e]) t 0 (s.applyClient e) := by
  obtain ⟨hsettings, hentry, hstage⟩ := h
  have hle : es <+: es ++ [.client e] := List.prefix_append _ _
  have hconcat : v.client (es ++ [.client e]) = (v.client es).apply e :=
    v.client_append es [.client e]
  obtain ⟨settings, peer, entry, turn, client, outbound, phase, log, lookups, dials⟩ := s
  have hwritten := Lookahead.written_apply e client
  refine ⟨hsettings, hentry, ?_⟩
  show v.Stage _ t 0 phase (client.apply e) outbound lookups dials
  dsimp only at hstage
  cases hstage with
  | peeking entry whole first prompt still =>
    exact .peeking entry (by rw [whole, hconcat]) (first_of_still first (still (by decide)))
      (fun _ => hnow) fun h => absurd h (Nat.lt_irrefl 0)
  | @readingHead reader began client c begun proper items ended reads fits untold prompt still =>
    -- The reader has taken all that was there before, and its deadline is still to come.
    obtain ⟨-, -, hlate⟩ := still (by decide)
    have follows : (v.client es).Follows c client := by
      refine ⟨?_, ended⟩
      rw [Lookahead.unread, items, Item.octets_append, Item.octets_map]
      rfl
    refine .readingHead (begun.mono hle) (proper.apply e) ?_ ?_ reads fits (untold.apply e)
      (fun _ => hnow ▸ Nat.le_of_lt hlate) fun h => absurd h (by decide)
    · rw [hconcat]
      cases hended : client.channel.ended with
      | false =>
        rw [Lookahead.items_apply (ended ▸ hended), Lookahead.items_apply hended, items,
          List.append_assoc]
      | true =>
        rw [(Lookahead.items_apply_of_ended (ended ▸ hended) e).1,
          (Lookahead.items_apply_of_ended hended e).1, items]
    · rw [hconcat]
      exact (follows.apply e).ended_eq
  | dialling asked untold => exact .dialling (asked.mono hle) (untold.apply e)
  | refusing quiet refused words told unshut still =>
    exact .refusing (quiet.mono hle) (refused.mono hle) words (by rw [hwritten]; exact told)
      ((Lookahead.shut_apply e client).trans unshut) fun h => absurd h (by decide)
  | refused quiet refused words told complete =>
    refine .refused (quiet.mono hle) (refused.mono hle) words (by rw [hwritten]; exact told) ?_
    rcases complete with complete | complete
    · exact .inl (hwritten.trans complete)
    · exact .inr (Lookahead.writeFault_apply e complete)
  | left entry unspoken told =>
    exact .left entry (unspoken_mono rfl hs unspoken) (hwritten.trans told)
  | announcing asked reached => exact .announcing (asked.mono hle) reached
  | relaying asked reached => exact .relaying (asked.mono hle) reached
  | finished asked reached => exact .finished (asked.mono hle) reached

end Opening

end ForwardProxy
