import ForwardProxy.Proofs.Session.Course
import ForwardProxy.Proofs.Session.Dispatch

namespace ForwardProxy

/-!
# SOCKS5 sessions entered either way

A session speaks SOCKS5 from its start, or since its first octet said so.  What is known of a
session of the first kind is known of every session, since dispatch shows in nothing.

* `Session.Alike` — sessions that differ in nothing but their log, their entry and what is still to
  be read from a client that nobody reads from any more.
* `Opening.SpeaksSocks` — from when on a session speaks SOCKS5.
* `Opening.AsksInTime` — the request of a client is there in time.
* `Opening.SpeaksSocks.idle` — up to then, nothing is done.
* `Opening.AsksInTime.alike` — from then on, the session is like one on its course.
-/

/-! ### Sessions that are alike -/

/-- What has become of one session has become of the other. -/
structure Session.Alike (s s' : Session) : Prop where
  phase_eq : s'.phase = s.phase
  outbound_eq : s'.outbound = s.outbound
  written_eq : s'.client.channel.written = s.client.channel.written
  lookups_eq : s'.lookups = s.lookups
  dials_eq : s'.dials = s.dials

/-- Sessions of one gist are alike. -/
theorem Session.alike_of_gist {s s' : Session} (h : s'.gist = s.gist) : s.Alike s' where
  phase_eq := (congrArg Session.phase h : s'.gist.phase = s.gist.phase)
  outbound_eq := (congrArg Session.outbound h : s'.gist.outbound = s.gist.outbound)
  written_eq := by
    have hsight := congrArg Session.sight h
    rw [Session.sight_gist, Session.sight_gist] at hsight
    exact congrArg Session.Sight.told hsight
  lookups_eq := (congrArg Session.lookups h : s'.gist.lookups = s.gist.lookups)
  dials_eq := (congrArg Session.dials h : s'.gist.dials = s.gist.dials)

namespace SessionRun

/-- Runs of one gist go on with one gist. -/
theorem gist_run {r r' : SessionRun} (h : r.gist = r'.gist) (es : List Event) :
    (r.run es).gist = (r'.run es).gist := by
  have hbehind : Watched.behind [] ⟨r, []⟩ = Watched.behind [] ⟨r', []⟩ :=
    congrArg (Watched.mk · []) h
  have hcurrent : (Watched.run ⟨r, []⟩ es).current.gist = (Watched.run ⟨r', []⟩ es).current.gist :=
    congrArg Watched.current (Watched.behind_run hbehind es)
  rwa [Watched.current_run, Watched.current_run] at hcurrent

/-- Runs of one gist hear the same of their targets. -/
theorem targetEvents_of_gist {r r' : SessionRun} (h : r.gist = r'.gist) (es : List Event) :
    r.targetEvents es = r'.targetEvents es := by
  induction es generalizing r r' with
  | nil => rfl
  | cons e es ih =>
    have houtbound : r.gist.session.outbound = r'.gist.session.outbound :=
      congrArg (fun r => r.session.outbound) h
    have hevent : r.targetEvent e = r'.targetEvent e := by
      cases e with
      | peer number e =>
        show (if r.gist.session.outbound.isSome = true ∧ number = 0 then [e] else []) = _
        rw [houtbound]
        rfl
      | _ => rfl
    have hstep : (r.step e).gist = (r'.step e).gist := gist_run h [e]
    rw [targetEvents, targetEvents, hevent, ih hstep]

end SessionRun

namespace Opening

open SessionRun (Event)

variable {v : Opening} {a : Socks5.Ask} {es es' es₁ more : List Event} {b : UInt8}

/-! ### The session of the protocol -/

/-- What the client of the direct session has sent is what the client has sent in all. -/
theorem client_direct (v : Opening) (es : List Event) (b : UInt8) (more : List Event) :
    (v.direct es b).client more = v.client (es ++ more) := by
  rw [client_append, client_eq, client_eq]
  show Lookahead.ofChannel (((Channel.idle v.room).applyAll
    (v.early ++ SessionRun.clientEvents es)).applyAll (SessionRun.clientEvents more)) = _
  rw [Channel.applyAll_append, Lookahead.applyAll_eq]
  rfl

/-- A session that is greeted goes on like the session of its protocol. -/
theorem gist_after (h : v.Greets es b) (hentry : v.entry = .detecting) (more : List Event) :
    (v.after (es ++ more)).gist = ((v.direct es b).after more).gist := by
  obtain ⟨before, -, hbehind⟩ := behind_of_greets h hentry
  have hcurrent : (v.watched (es ++ more)).current.gist =
      ((v.direct es b).watched more).current.gist :=
    congrArg SessionRun.Watched.current (hbehind more)
  rwa [current_watched, current_watched] at hcurrent

/-- A dormant session has done nothing. -/
theorem Dormant.idle {t : Nat} {w : SessionRun.Watched} (h : v.Dormant es t w) :
    w.current.session.lookups = [] ∧ w.current.session.dials = [] ∧
      w.current.session.outbound = none := by
  cases h with
  | listening => exact ⟨rfl, rfl, rfl⟩
  | left left =>
    refine ⟨congrArg Session.Sight.lookups left.blank, congrArg Session.Sight.dials left.blank, ?_⟩
    exact Option.map_eq_none_iff.1 (congrArg Session.Sight.target left.blank)

/-- Nothing is done before a client greets its session. -/
theorem Greets.idle (h : v.Greets es₁ b) (hentry : v.entry = .detecting) (hes' : es' <+: es₁)
    (hne : es' ≠ es₁) :
    (v.after es').session.lookups = [] ∧ (v.after es').session.dials = [] ∧
      (v.after es').session.outbound = none := by
  have hquiet := (h.fresh es' hes' hne).1
  -- Nothing has come yet, so that nothing can have greeted the session before either.
  have hno : ∀ es'' b', es'' <+: es' → ¬v.Greets es'' b' := by
    rintro es'' b' hes'' ⟨⟨bs, hfirst⟩, -, -⟩
    have hnil := v.inbox_isPrefix hes''
    rw [hquiet, List.prefix_nil] at hnil
    rw [hnil] at hfirst
    cases hfirst
  have hidle := (dormant hentry hno).idle
  rwa [current_watched] at hidle

/-- What the target of a session does is what the target of the session of its protocol does. -/
theorem targetEvents_direct (h : v.Greets es₁ b) (hentry : v.entry = .detecting)
    (more : List Event) :
    v.begun.targetEvents (es₁ ++ more) = (v.direct es₁ b).begun.targetEvents more := by
  -- Up to the greeting there is no target yet.
  have hnone : ∀ es', es' <+: es₁ → v.begun.targetEvents es' = [] := by
    intro es' hes'
    induction es' using List.reverseRecOn with
    | nil => rfl
    | append_singleton es' e ih =>
      have hle : es' <+: es' ++ [e] := List.prefix_append _ _
      have hne : es' ≠ es₁ := by
        rintro rfl
        exact absurd hes'.length_le (by simp)
      have houtbound := (h.idle hentry (hle.trans hes') hne).2.2
      rw [SessionRun.targetEvents_append, ih (hle.trans hes'), List.nil_append]
      show (v.after es').targetEvent e ++ [] = []
      rw [List.append_nil]
      cases e <;> simp [SessionRun.targetEvent, houtbound]
  rw [SessionRun.targetEvents_append, hnone es₁ (List.prefix_refl _), List.nil_append]
  refine SessionRun.targetEvents_of_gist ?_ more
  have hgist := gist_after h hentry []
  rwa [List.append_nil] at hgist

/-! ### Requests in time -/

/-- The session speaks SOCKS5 once `es₁` have happened: from its start, or since the first octet of
    its client said so. -/
inductive SpeaksSocks (v : Opening) : List Event → Prop where
  | entered (entry : v.entry = .speaking .socks5) : SpeaksSocks v []
  | detected {es₁ : List Event} (entry : v.entry = .detecting)
      (greets : v.Greets es₁ Socks5.version) : SpeaksSocks v es₁

/-- The client offers and asks, and all of that is there before the handshake deadline, or as soon
    as the handshake begins. -/
structure AsksInTime (v : Opening) (a : Socks5.Ask) (es₁ es : List Event) : Prop where
  speaks : v.SpeaksSocks es₁
  in_time : ∃ es₂, es₁ <+: es₂ ∧ es₂ <+: es ∧ a.octets <+: (v.client es₂).clear ∧
    (es₂ = es₁ ∨ (v.after es₂).now <
      Time.deadline (v.after es₁).now v.settings.requestReadTimeout)

/-- Before a session speaks SOCKS5, it has done nothing, and no request is there. -/
theorem SpeaksSocks.idle (h : v.SpeaksSocks es₁) (hes' : es' <+: es₁) (hne : es' ≠ es₁) :
    ((v.after es').session.lookups = [] ∧ (v.after es').session.dials = [] ∧
      (v.after es').session.outbound = none) ∧ (v.client es').clear = [] := by
  cases h with
  | entered => exact absurd (List.prefix_nil.1 hes') hne
  | detected entry greets =>
    refine ⟨greets.idle entry hes' hne, ?_⟩
    rw [Lookahead.clear, ahead_client, (greets.fresh es' hes' hne).1]
    rfl

/-- Once a session speaks SOCKS5, it is like one that has done so from its start. -/
theorem SpeaksSocks.direct (h : v.SpeaksSocks es₁) :
    ∃ w : Opening, w.entry = .speaking .socks5 ∧ w.network = v.network ∧
      w.handshakeDeadline = Time.deadline (v.after es₁).now v.settings.requestReadTimeout ∧
      ∀ more, w.client more = v.client (es₁ ++ more) ∧
        (v.after (es₁ ++ more)).gist = (w.after more).gist ∧
        v.begun.targetEvents (es₁ ++ more) = w.begun.targetEvents more := by
  cases h with
  | entered entry => exact ⟨v, entry, rfl, rfl, fun more => ⟨rfl, rfl, rfl⟩⟩
  | detected entry greets =>
    exact ⟨v.direct es₁ Socks5.version, rfl, rfl, rfl, fun more =>
      ⟨v.client_direct es₁ _ more, gist_after greets entry more,
        targetEvents_direct greets entry more⟩⟩

/-- **A request in time** sets a session on its course, however the session was entered. -/
theorem AsksInTime.alike (h : v.AsksInTime a es₁ es) (haccepting : v.Accepting es)
    (hwithin : es₁ ++ more <+: es) :
    ∃ d s, Session.Alike s (v.after (es₁ ++ more)).session ∧
      s.OnCourse v.network a d (v.client (es₁ ++ more)) 6
        (v.begun.targetEvents (es₁ ++ more)) := by
  -- `w` speaks the protocol from its start; what is known of the request at `es₂` is carried over
  -- to it, and what is known of its session is carried back.
  obtain ⟨w, hentry, hnetwork, hdeadline, hsame⟩ := h.speaks.direct
  obtain ⟨es₂, ⟨before, rfl⟩, ⟨behind, rfl⟩, hthere, hintime⟩ := h.in_time
  have hnow : (v.after (es₁ ++ before)).gist.now = (w.after before).gist.now :=
    congrArg SessionRun.now (hsame before).2.1
  have hthere' : a.octets <+: (w.client before).clear := by
    rw [(hsame before).1]
    exact hthere
  have hintime' : before = [] ∨ (w.after before).now < w.handshakeDeadline := by
    rw [hdeadline]
    show _ ∨ (w.after before).gist.now < _
    rw [← hnow]
    exact hintime.imp_left fun h => List.append_right_eq_self.1 h
  have hall : ∀ es', es' <+: more → es₁ ++ es' <+: es₁ ++ before ++ behind := fun es' hes' =>
    ((List.prefix_append_right_inj es₁).2 hes').trans hwithin
  have honCourse : w.OnCourse a more 6 (w.after more) := onCourse hentry
    (fun es' hes' => by
      have hle : es' <+: before ++ behind := by
        have := hall es' hes'
        rwa [List.append_assoc, List.prefix_append_right_inj] at this
      exact timely_of_there hthere' hintime' (List.prefix_append _ _) hle)
    (fun es' hes' => by
      rw [(hsame es').1]
      exact haccepting _ (hall es' hes'))
  have hgist : (v.after (es₁ ++ more)).gist.session = (w.after more).gist.session :=
    congrArg SessionRun.session (hsame more).2.1
  refine ⟨w.handshakeDeadline, (w.after more).session, Session.alike_of_gist hgist, ?_⟩
  · rw [← hnetwork, ← (hsame more).1, (hsame more).2.2]
    exact honCourse.session

end Opening

end ForwardProxy
