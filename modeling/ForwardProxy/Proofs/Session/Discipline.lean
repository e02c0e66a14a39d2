import ForwardProxy.Proofs.Response.Reading
import ForwardProxy.Proofs.Session.Answers

namespace ForwardProxy

/-!
# The discipline of an HTTP session

Whatever happens to an HTTP session, in whatever order: the network is left alone until its client
has asked for a target, a tunnel is refused for a reason and by one answer, and the client is told
that its target is reached only when it is.

* `SessionRun.refusal?_run` — a session that refuses a tunnel goes on refusing it.
* `Opening.onStage` — every session is on stage at every settled point.
* `Opening.Disciplined` — what holds of a session at a settled point.
* `Opening.disciplined` — it holds at every settled point of every run.
-/

/-! ### Refusals -/

namespace Response

/-- No answer to a failure begins as the words do that tell that a target is reached: the first
    digits of the codes differ. -/
theorem not_established_isPrefix_error {failure : Failure} {code : Nat} {reason : String}
    (h : failure.httpStatus? = some (code, reason)) (body : String) :
    ¬established <+: error code reason body := by
  have hestablished : established =
      octets "HTTP/1.1 " ++ octets "200 Connection Established\r\n\r\n" := by
    rw [← octets_append]
    rfl
  obtain ⟨rest, hrest⟩ : ∃ rest, error code reason body =
      octets "HTTP/1.1 " ++ (octets (toString code) ++ rest) := by
    delta error errorHead
    simp only [octets_append, List.append_assoc]
    exact ⟨_, rfl⟩
  have htwo : (octets "200 Connection Established\r\n\r\n").head? = some 50 := by decide +kernel
  have hdigit : (octets (toString code)).head? ≠ none ∧
      (octets (toString code)).head? ≠ some 50 := by
    cases failure <;> cases h <;> decide +kernel
  -- Both begin alike; the first digit of the code tells them apart, as no refusal has a code that
  -- begins with two.
  rw [hestablished, hrest, List.prefix_append_right_inj]
  rintro ⟨more, hmore⟩
  have hhead := congrArg List.head? hmore
  rw [List.head?_append, List.head?_append, htwo] at hhead
  cases hcode : (octets (toString code)).head? with
  | none => exact hdigit.1 hcode
  | some b =>
    rw [hcode] at hhead
    exact hdigit.2 (hcode.trans hhead.symm)

end Response

namespace Session

variable {s : Session} {failure : Failure}

/-- A session refuses without a connection: it is telling its client so, or has ended by it. -/
theorem refusal?_eq_some_iff :
    s.refusal? = some failure ↔ s.outbound = none ∧
      ((∃ left, s.phase = .refusing failure left) ∨
        s.phase = .finished (some (.proxy failure))) := by
  constructor
  · intro h
    unfold refusal? at h
    split at h
    · rename_i failure' left hnone hphase
      cases h
      exact ⟨hnone, .inl ⟨left, hphase⟩⟩
    · rename_i failure' hnone hphase
      cases h
      exact ⟨hnone, .inr hphase⟩
    · cases h
  · rintro ⟨hnone, ⟨left, hphase⟩ | hphase⟩
    · rw [refusal?, hnone, hphase]
    · rw [refusal?, hnone, hphase]

/-- A session without a connection that fails has refused. -/
theorem refusal?_fail (protocol : Protocol) (hnone : s.outbound = none) :
    (s.fail protocol (.proxy failure)).refusal? = some failure := by
  refine refusal?_eq_some_iff.2 ?_
  unfold fail
  split <;> exact ⟨by simp [finish, note, hnone], .inr rfl⟩

/-- A session that refuses a tunnel goes on answering so, or has done it. -/
theorem refusal?_settle (h : s.refusal? = some failure) (net : Network) (next now : Nat) :
    (s.settle net next now).refusal? = some failure := by
  obtain ⟨hnone, hphase⟩ := refusal?_eq_some_iff.1 h
  obtain ⟨settings, peer, entry, turn, client, outbound, phase, log, lookups, dials⟩ := s
  dsimp only at hnone hphase
  subst hnone
  rcases hphase with ⟨left, rfl⟩ | rfl
  · -- No step before the answer is written does anything.
    have hsettle : ∀ s : Session, (∃ left, s.phase = .refusing failure left) → s.outbound = none →
        ((s.tell now).relay now).refusal? = some failure := by
      intro s ⟨left, hphase⟩ hnone
      have htell : (s.tell now).refusal? = some failure := by
        unfold tell
        rw [hphase]
        dsimp only
        rcases s.client.writeAll left with ⟨a, rest, l⟩
        cases a with
        | ready u =>
          refine refusal?_fail _ ?_
          exact hnone
        | blocked => exact refusal?_eq_some_iff.2 ⟨hnone, .inl ⟨rest, rfl⟩⟩
        | failed f =>
          refine refusal?_fail _ ?_
          exact hnone
      -- Without a target there is no tunnel.
      unfold relay
      split
      · rename_i htarget
        rw [(refusal?_eq_some_iff.1 htell).1] at htarget
        cases htarget
      · exact htell
    exact hsettle _ ⟨left, rfl⟩ rfl
  · rfl

end Session

namespace SessionRun

variable {r : SessionRun} {failure : Failure}

/-- A refusal is final: nothing that happens later takes it back. -/
theorem refusal?_step (h : r.session.refusal? = some failure) (e : Event) :
    (r.step e).session.refusal? = some failure := by
  have hnone := (Session.refusal?_eq_some_iff.1 h).1
  cases e with
  | client e => exact Session.refusal?_settle (s := r.session.applyClient e) h _ _ _
  | peer number e =>
    have hpeer : r.session.applyPeer number e = r.session := by
      rw [Session.applyPeer, hnone]
      show { r.session with outbound := none } = r.session
      rw [← hnone]
    refine Session.refusal?_settle (s := r.session.applyPeer number e) ?_ _ _ _
    rw [hpeer]
    exact h
  | wait span =>
    exact Clock.run_preserves (P := fun _ (r : SessionRun) => r.session.refusal? = some failure)
      (fun _ t r _ hr => Session.refusal?_settle hr r.network 0 t) (Nat.le_add_right _ _) h
  | reorder turn =>
    refine Session.refusal?_eq_some_iff.2 ⟨hnone, ?_⟩
    rcases (Session.refusal?_eq_some_iff.1 h).2 with ⟨left, hphase⟩ | hphase
    · exact .inl ⟨left, by simp [step, Session.reorder, hphase]⟩
    · exact .inr (by simp [step, Session.reorder, hphase])

/-- **A tunnel that is refused stays refused**, whatever happens. -/
theorem refusal?_run (h : r.session.refusal? = some failure) (es : List Event) :
    (r.run es).session.refusal? = some failure := by
  induction es generalizing r with
  | nil => exact h
  | cons e es ih => exact ih (refusal?_step h e)

/-- What the clock shows after something happened. -/
theorem now_step (r : SessionRun) (e : Event) :
    (r.step e).now = match e with
      | .wait span => r.now + span
      | _ => r.now := by
  cases e with
  | wait span =>
    exact Clock.run_preserves (P := fun t (r : SessionRun) => r.now = t) (fun _ _ _ _ _ => rfl)
      (Nat.le_add_right _ _) rfl
  | _ => rfl

end SessionRun

namespace Opening

open SessionRun (Event)

variable {v : Opening} {es : List Event}

/-! ### Every settled point -/

/-- What a session comes to after one thing more. -/
theorem after_concat (v : Opening) (es : List Event) (e : Event) :
    v.after (es ++ [e]) = (v.after es).step e := by
  rw [after, SessionRun.run, List.foldl_append]
  rfl

/-- Only waiting takes time. -/
theorem now_after_concat (v : Opening) (es : List Event) (e : Event) :
    (v.after (es ++ [e])).now = match e with
      | .wait span => (v.after es).now + span
      | _ => (v.after es).now :=
  (congrArg SessionRun.now (v.after_concat es e)).trans (SessionRun.now_step _ e)

/-- What a session comes to after more has happened, from where it was. -/
theorem after_append (v : Opening) (es more : List Event) :
    v.after (es ++ more) = (v.after es).run more := by
  rw [after, SessionRun.run, List.foldl_append]
  rfl

/-- What holds at every settled point. -/
structure Settled (v : Opening) (es : List Event) : Prop where
  network_eq : (v.after es).network = v.network
  onStage : v.OnStage es (v.after es).now 6 (v.after es).session

/-- A session that has just begun is settled, with the request head or the first octet to come. -/
theorem settled_nil (hspeaks : v.SpeaksHttp []) : v.Settled [] := by
  refine ⟨rfl, ?_⟩
  show v.OnStage [] v.now 6 (Session.settle v.network 0 v.now _)
  refine OnStage.settle (show v.OnStage [] v.now 0 _ from ⟨rfl, rfl, ?_⟩) hspeaks
    (Nat.le_refl v.now)
  have hfresh : v.client [] = .ofChannel ((Channel.idle v.room).applyAll v.early) := rfl
  have hlt : ∀ n, ¬n < 0 := fun n => Nat.not_lt_zero n
  rcases hspeaks with hentry | ⟨hentry, -⟩
  · rw [hentry]
    exact .readingHead (c := []) (.entered hentry) (v.proper_client []) rfl rfl
      (HeadReader.reads_start _) (Nat.zero_le _) (v.untold_client [])
      (fun _ => Time.le_deadline _ _) fun h => absurd h (hlt 1)
  · rw [hentry]
    refine .peeking hentry hfresh.symm (fun es' hes' hne => ?_) (fun _ => rfl)
      fun h => absurd h (hlt 0)
    exact absurd (List.prefix_nil.1 hes') hne

/-- A settled session of the HTTP protocol is settled again after one thing more. -/
theorem Settled.concat (h : v.Settled es) {e : Event} (hspeaks : v.SpeaksHttp (es ++ [e])) :
    v.Settled (es ++ [e]) := by
  obtain ⟨hnetwork, hstage⟩ := h
  have hconcat := v.after_concat es e
  have hnow := (congrArg SessionRun.now hconcat).trans (SessionRun.now_step _ e)
  have hclient := v.client_append es [e]
  cases e with
  | client e =>
    have happlied := hstage.applyClient id e hnow.symm
    refine ⟨by rw [hconcat]; exact hnetwork, ?_⟩
    rw [hnow, hconcat]
    show v.OnStage _ _ 6 (Session.settle (v.after es).network 0 (v.after es).now _)
    rw [hnetwork]
    exact happlied.settle hspeaks (Nat.le_of_eq hnow.symm)
  | peer number e =>
    have happlied := ((hstage.extend id hclient).restart (v.after es).now).applyPeer number e
    refine ⟨by rw [hconcat]; exact hnetwork, ?_⟩
    rw [hnow, hconcat]
    show v.OnStage _ _ 6 (Session.settle (v.after es).network 0 (v.after es).now _)
    rw [hnetwork]
    exact happlied.settle hspeaks (Nat.le_of_eq hnow.symm)
  | wait span =>
    have hgoal : (v.after (es ++ [.wait span])).now = (v.after es).now + span := hnow
    have hrun : (v.after (es ++ [.wait span])).network = v.network ∧
        v.OnStage (es ++ [.wait span]) ((v.after es).now + span) 6
          (v.after (es ++ [.wait span])).session := by
      rw [hconcat]
      refine Clock.run_preserves_within
        (P := fun t (r : SessionRun) => r.network = v.network ∧
          v.OnStage (es ++ [.wait span]) t 6 r.session) ?_ (Nat.le_add_right _ _)
        ⟨hnetwork, hstage.extend id hclient⟩
      intro now t r _ ht ⟨hnet, hr⟩
      refine ⟨hnet, ?_⟩
      show v.OnStage _ t 6 (Session.settle r.network 0 t r.session)
      rw [hnet]
      exact (hr.restart t).settle hspeaks (by rw [hgoal]; exact ht)
    exact ⟨hrun.1, by rw [hgoal]; exact hrun.2⟩
  | reorder turn =>
    refine ⟨by rw [hconcat]; exact hnetwork, ?_⟩
    rw [hnow, hconcat]
    exact (hstage.extend id hclient).reorder turn

/-- **Every settled point** of every run. -/
theorem settled (hspeaks : v.SpeaksHttp es) : v.Settled es := by
  have hrun : ∀ (more es : List Event), v.Settled es → v.SpeaksHttp (es ++ more) →
      v.Settled (es ++ more) := by
    intro more
    induction more with
    | nil =>
      intro es hes _
      rw [List.append_nil]
      exact hes
    | cons e more ih =>
      intro es hes hspeaks
      have hsplit : es ++ e :: more = es ++ [e] ++ more := by simp
      rw [hsplit] at hspeaks ⊢
      exact ih _ (hes.concat (hspeaks.of_isPrefix (List.prefix_append _ _))) hspeaks
  exact hrun es [] (settled_nil (hspeaks.of_isPrefix List.nil_prefix)) hspeaks

/-! ### What it comes to -/

/-- A session that is entered by its first octet was over before octets came. -/
def LeftUnspoken (v : Opening) (es : List Event) : Prop :=
  v.entry = .detecting ∧
    ∃ es₀, es₀ <+: es ∧ (v.after es₀).session.isOver = true ∧ ¬v.Spoken es₀

/-- A tunnel is refused for a reason, by one answer with the code of that reason.  The client never
    gets anything else, and all of the answer unless its writes fail or it takes no more yet. -/
def Answered (v : Opening) (es : List Event) (failure : Failure) : Prop :=
  ∃ code reason, v.Refused es failure code ∧ failure.httpStatus? = some (code, reason) ∧
    (∀ more, (v.after (es ++ more)).session.refusal? = some failure ∧
      (v.after (es ++ more)).session.client.channel.written <+:
        Response.error code reason failure.httpBody) ∧
    ((v.after es).session.client.channel.written = Response.error code reason failure.httpBody ∨
      (v.after es).session.client.channel.writeFault.isSome = true ∨
      (v.after es).session.isOver = false ∧ (v.after es).session.client.channel.room = some 0)

/-- What holds of an HTTP session at a settled point. -/
structure Disciplined (v : Opening) (es : List Event) : Prop where
  quiet : v.Quiet es (v.after es).session.lookups (v.after es).session.dials
  answered : ∀ failure, (v.after es).session.refusal? = some failure → v.Answered es failure
  /-- Without a target and without a refusal, nothing is told. -/
  untold : (v.after es).session.outbound = none → (v.after es).session.refusal? = none →
    (v.after es).session.client.channel.written = []
  /-- Without a target and without a refusal, a session ends only if there was nothing to refuse. -/
  closed : (v.after es).session.isOver = true → (v.after es).session.outbound = none →
    (v.after es).session.refusal? = none → v.LeftUnspoken es
  /-- A target is one that was asked for, and is reached. -/
  reached : ∀ o, (v.after es).session.outbound = some o →
    ∃ target, v.Asked es target ∧ v.Reached target o
  /-- The words that tell that a target is reached are told only then. -/
  announced : Response.established <+: (v.after es).session.client.channel.written →
    (v.after es).session.outbound.isSome = true

variable {t : Nat} {s : Session} {failure : Failure}

/-- Whatever its stage, a session has looked up and dialled nothing but what its request asks for.
    -/
theorem OnStage.quiet (h : v.OnStage es t 6 s) : v.Quiet es s.lookups s.dials := by
  obtain ⟨-, -, hstage⟩ := h
  obtain ⟨settings, peer, entry, turn, client, outbound, phase, log, lookups, dials⟩ := s
  dsimp only at hstage ⊢
  cases hstage with
  | peeking => exact .inl ⟨rfl, rfl⟩
  | readingHead => exact .inl ⟨rfl, rfl⟩
  | dialling asked => exact .inr ⟨_, asked, rfl, rfl⟩
  | refusing quiet => exact quiet
  | refused quiet => exact quiet
  | left => exact .inl ⟨rfl, rfl⟩
  | announcing asked => exact .inr ⟨_, asked, rfl, rfl⟩
  | relaying asked => exact .inr ⟨_, asked, rfl, rfl⟩
  | finished asked => exact .inr ⟨_, asked, rfl, rfl⟩

/-- A connection that a session has is to the target that was asked for. -/
theorem OnStage.reached (h : v.OnStage es t 6 s) {o : Outbound} (ho : s.outbound = some o) :
    ∃ target, v.Asked es target ∧ v.Reached target o := by
  obtain ⟨-, -, hstage⟩ := h
  obtain ⟨settings, peer, entry, turn, client, outbound, phase, log, lookups, dials⟩ := s
  dsimp only at hstage ho
  subst ho
  cases hstage with
  | announcing asked reached => exact ⟨_, asked, reached⟩
  | relaying asked reached => exact ⟨_, asked, reached⟩
  | finished asked reached => exact ⟨_, asked, reached⟩

/-- A session without a target that refuses none has told nothing, and if it is over then because
    octets did not come. -/
theorem OnStage.untold (h : v.OnStage es t 6 s) (hnone : s.outbound = none)
    (hrefusal : s.refusal? = none) :
    s.client.channel.written = [] ∧ (s.isOver = true → v.entry = .detecting ∧
      ∃ es₀, es₀ <+: es ∧ (es₀ = es ∨ (v.after es₀).session.isOver = true) ∧ ¬v.Spoken es₀) := by
  obtain ⟨-, -, hstage⟩ := h
  obtain ⟨settings, peer, entry, turn, client, outbound, phase, log, lookups, dials⟩ := s
  dsimp only at hnone hstage ⊢
  subst hnone
  cases hstage with
  | peeking _ whole => exact ⟨whole ▸ (v.untold_client es).written_eq, nofun⟩
  | readingHead _ _ _ _ _ _ untold => exact ⟨untold.written_eq, nofun⟩
  | dialling _ untold => exact ⟨untold.written_eq, nofun⟩
  | refusing => cases hrefusal
  | refused => cases hrefusal
  | left entry unspoken told => exact ⟨told, fun _ => ⟨entry, unspoken⟩⟩

/-- What is told of a refusal, as the session stands. -/
theorem OnStage.told (h : v.OnStage es t 6 s)
    (hrefusal : s.refusal? = some failure) :
    ∃ code reason, v.Refused es failure code ∧ failure.httpStatus? = some (code, reason) ∧
      s.client.channel.written <+: Response.error code reason failure.httpBody ∧
      (s.client.channel.written = Response.error code reason failure.httpBody ∨
        s.client.channel.writeFault.isSome = true ∨
        s.isOver = false ∧ s.client.channel.room = some 0) := by
  obtain ⟨hnone, hphase⟩ := Session.refusal?_eq_some_iff.1 hrefusal
  obtain ⟨-, -, hstage⟩ := h
  obtain ⟨settings, peer, entry, turn, client, outbound, phase, log, lookups, dials⟩ := s
  dsimp only at hnone hphase hstage ⊢
  subst hnone
  -- A refusal is still being told, with the client out of room, or it was told and the session is
  -- over.
  rcases hphase with ⟨left, rfl⟩ | rfl
  · cases hstage with
    | @refusing _ code answer _ _ _ _ quiet refused words told unshut still =>
      obtain ⟨reason, hstatus, hanswer⟩ := refused.answer
      have heq := Option.some.inj (words.symm.trans hanswer)
      refine ⟨code, reason, refused, hstatus, ?_⟩
      rw [← heq]
      exact ⟨⟨left, told⟩, .inr (.inr ⟨rfl, still (by decide)⟩)⟩
  · cases hstage with
    | @refused _ code answer _ _ _ quiet refused words told complete =>
      obtain ⟨reason, hstatus, hanswer⟩ := refused.answer
      have heq := Option.some.inj (words.symm.trans hanswer)
      refine ⟨code, reason, refused, hstatus, ?_⟩
      rw [← heq]
      exact ⟨told, complete.imp id .inl⟩

/-- **Discipline.**  At every settled point of every run of an HTTP session: it has looked up and
    connected to nothing, or just what the target asked for takes; a refusal is answered, by one
    answer alone; it never ends silently behind its first octet; and the client is told that its
    target is reached only when it is. -/
theorem disciplined (v : Opening) (es : List Event) (hspeaks : v.SpeaksHttp es) :
    v.Disciplined es := by
  have hstage := (v.settled hspeaks).onStage
  have hanswered : ∀ failure, (v.after es).session.refusal? = some failure →
      v.Answered es failure := by
    intro failure hrefusal
    obtain ⟨code, reason, hrefused, hstatus, -, hcomplete⟩ := hstage.told hrefusal
    refine ⟨code, reason, hrefused, hstatus, fun more => ?_, hcomplete⟩
    have hlater : (v.after (es ++ more)).session.refusal? = some failure := by
      rw [after_append]
      exact SessionRun.refusal?_run hrefusal more
    obtain ⟨began, hbegun⟩ := hrefused.begun
    have hspeaks' := hbegun.speaksHttp hspeaks (List.prefix_append es more)
    obtain ⟨code', reason', -, hstatus', htold, -⟩ := (v.settled hspeaks').onStage.told hlater
    rw [hstatus] at hstatus'
    cases hstatus'
    exact ⟨hlater, htold⟩
  refine ⟨hstage.quiet, hanswered, fun hnone hrefusal => (hstage.untold hnone hrefusal).1,
    fun hover hnone hrefusal => ?_, fun o ho => hstage.reached ho, fun htold => ?_⟩
  · obtain ⟨hentry, es₀, hle, hend, hspoken⟩ := (hstage.untold hnone hrefusal).2 hover
    refine ⟨hentry, es₀, hle, ?_, hspoken⟩
    rcases hend with rfl | hend
    · exact hover
    · exact hend
  · cases hnone : (v.after es).session.outbound with
    | some o => rfl
    | none =>
      -- Nothing was told, or a part of an answer that begins in another way.
      cases hrefusal : (v.after es).session.refusal? with
      | none =>
        rw [(hstage.untold hnone hrefusal).1] at htold
        exact absurd (List.prefix_nil.1 htold) (by decide)
      | some failure =>
        obtain ⟨code, reason, -, hstatus, hwritten, -⟩ := hstage.told hrefusal
        exact absurd (htold.trans hwritten) (Response.not_established_isPrefix_error hstatus _)

/-- A client that asks for a page is told that this is not done here. -/
theorem disciplined_of_page :
    let v : Opening := ⟨.empty, .standard, .v4 ⟨1, 1, 1, 2⟩ 2, .detecting, ⟨true, true⟩, 0, none,
      [.send (ascii "GET / HTTP/1.1\r\n\r\n")]⟩
    v.SpeaksHttp [] ∧ v.Answered [] (.unsupportedMethod (text "GET")) := by
  intro v
  have hspeaks : v.SpeaksHttp [] := by
    refine .inr ⟨rfl, fun b bs hfirst => ?_⟩
    cases hfirst
    decide
  have hrefusal : (v.after []).session.refusal? = some (.unsupportedMethod (text "GET")) := by
    decide +kernel
  exact ⟨hspeaks, (disciplined v [] hspeaks).answered _ hrefusal⟩

end Opening

end ForwardProxy
