import ForwardProxy.Proofs.RequestHead.Written
import ForwardProxy.Proofs.Target.Rendered
import ForwardProxy.Proofs.Wording.Faults
import ForwardProxy.Session.Progress

namespace ForwardProxy

/-!
# The wording of HTTP requests

What a request puts into the messages about it is its method, the authority, and the target that
this names.  The parser lets no line break into any of them.

* `RequestHead.Legible` — a parser that finds only texts on one line, and tells flaws on one line.
* `RequestHead.legible_read` — the method and the authority of a head are on one line.
* `Session.oneLine_of_requested`, `Session.plain_of_requested` — so are the target and the failure.
* `HeadReader.plain_attempt` — why a head cannot be had is told on one line.
-/

open Text (OneLine oneLine_append oneLine_iff_octets oneLine_literal)

/-! ### Targets -/

/-- A flaw of a target is told in one line, unless it has a reason of its own. -/
theorem TargetFlaw.oneLine_message {flaw : TargetFlaw} (h : ∀ reason, flaw ≠ .described reason) :
    OneLine (text flaw.message) := by
  cases flaw with
  | described reason => exact absurd rfl (h reason)
  | _ => exact oneLine_literal rfl

namespace Target

variable {s : Text} {t : Target} {reason : String}

/-- The splitter never gives a reason of its own. -/
theorem splitHostPort_ne_described :
    splitHostPort s ≠ .error (.malformed (.described reason)) := by
  unfold splitHostPort splitBracketed
  repeat' split
  all_goals simp

/-- The checks behind the splitter never give a reason of their own. -/
theorem answer_ne_described {x : Except SplitFlaw (Text × Text)}
    (hx : x ≠ .error (.malformed (.described reason))) :
    answer s x ≠ .error (.described reason) := by
  unfold answer
  split
  · repeat' split
    all_goals simp
  · repeat' split
    all_goals simp
  · repeat' split
    all_goals simp
  · exact fun h => hx (by rw [Except.error.inj h])

/-- A flaw of an authority is one of those that the reader knows. -/
theorem resolve_ne_described : resolve s ≠ .error (.described reason) := by
  rw [resolve, resolveTrimmed_eq]
  split
  · simp
  · split
    · simp
    · exact answer_ne_described splitHostPort_ne_described

/-- A target is on one line if the authority that names it is. -/
theorem oneLine_render (h : ofAuthority s = .ok t) (hs : OneLine s) : OneLine t.render := by
  have hhost : OneLine t.host := hs.of_subset fun c hc =>
    Text.trim_subset s ((ofAuthority_eq_ok_iff.1 h).names.mem_of_mem_host hc)
  unfold render
  split
  · simp only [oneLine_append, hhost, Text.oneLine_write, and_true]
    decide
  · simp only [oneLine_append, hhost, Text.oneLine_write, true_and, and_true]
    decide

/-- An authority that is refused is told quoted, so in one line. -/
theorem plain_of_ofAuthority {failure : Failure} (h : ofAuthority s = .error failure) :
    failure.Plain := by
  unfold ofAuthority at h
  split at h
  · cases h
  · rename_i flaw hflaw
    cases h
    refine Failure.plain_invalidTarget s (TargetFlaw.oneLine_message fun reason hreason => ?_)
    exact resolve_ne_described (hreason ▸ hflaw)

end Target

/-! ### Heads -/

namespace RequestHead

/-- What a parser finds is as `Q` says, and a flaw is told on one line. -/
def Legible {α : Type} (x : Except HeadFlaw α) (Q : α → Prop) : Prop :=
  match x with
  | .error flaw => OneLine (text flaw.message)
  | .ok a => Q a

/-- What is legible in two steps is legible. -/
theorem Legible.bind {α β : Type} {x : Except HeadFlaw α} {f : α → Except HeadFlaw β}
    {P : α → Prop} {Q : β → Prop} (h : Legible x P) (hf : ∀ a, P a → Legible (f a) Q) :
    Legible (x >>= f) Q := by
  cases x with
  | error flaw => exact h
  | ok a => exact hf a h

section

variable {α : Type} {x : Except HeadFlaw α} {Q : α → Prop} {flaw : HeadFlaw} {a : α}

/-- An error is legible if its flaw is told in one line. -/
theorem legible_error (h : OneLine (text flaw.message)) : Legible (.error flaw) Q := h

/-- The error of something legible is told in one line. -/
theorem Legible.of_error (h : Legible x Q) (hx : x = .error flaw) :
    OneLine (text flaw.message) := by
  rwa [hx] at h

/-- The value of something legible is as was said. -/
theorem Legible.of_ok (h : Legible x Q) (hx : x = .ok a) : Q a := by
  rwa [hx] at h

end

variable {bs : Bytes}

theorem toNat_ofNat {n : Nat} (h : n < 128) : (Char.ofNat n).toNat = n := by
  have hvalid : n.isValidChar := .inl (Nat.lt_trans h (by decide))
  rw [Char.ofNat, dif_pos hvalid]
  rfl

/-- The octets of a token are one line. -/
theorem oneLine_asciiText (h : ∀ b ∈ bs, isToken b = true) : OneLine (asciiText bs) := by
  have hbreak : ∀ c ∈ asciiText bs, c.toNat ≠ 10 ∧ c.toNat ≠ 13 := fun c hc => by
    obtain ⟨b, hb, rfl⟩ := List.mem_map.1 hc
    obtain ⟨hlt, hcr, hlf⟩ := isToken_bounds (h b hb)
    rw [toNat_ofNat hlt]
    exact ⟨fun heq => hlf (UInt8.toNat_inj.1 heq), fun heq => hcr (UInt8.toNat_inj.1 heq)⟩
  exact ⟨fun hmem => (hbreak _ hmem).1 rfl, fun hmem => (hbreak _ hmem).2 rfl⟩

/-- Octets of one kind, to which line ends do not belong, are a text on one line. -/
theorem oneLine_of_decode {p : UInt8 → Bool} {t : Text} (hdecode : Utf8.decode? bs = some t)
    (h : ∀ b ∈ bs, p b = true) (hlf : p lf = false) (hcr : p cr = false) : OneLine t := by
  rw [oneLine_iff_octets, Utf8.encode_eq_of_decode? hdecode]
  refine ⟨fun hmem => ?_, fun hmem => ?_⟩
  · exact absurd (h lf hmem) (by rw [hlf]; exact Bool.false_ne_true)
  · exact absurd (h cr hmem) (by rw [hcr]; exact Bool.false_ne_true)

theorem legible_skipEmptyLines (bs : Bytes) : Legible (skipEmptyLines bs) fun _ => True := by
  induction bs using skipEmptyLines.induct with
  | case1 => exact legible_error (by decide)
  | case2 bs ih =>
    rw [skipEmptyLines.eq_def]
    simpa using ih
  | case3 =>
    rw [skipEmptyLines.eq_def]
    exact legible_error (by decide)
  | case4 bs hne ih =>
    rw [skipEmptyLines.eq_def]
    simpa [cr_ne_lf] using ih
  | case5 bs b hne hb =>
    rw [skipEmptyLines.eq_def]
    simp only [hne, if_false, if_true, hb]
    exact legible_error (by decide)
  | case6 b bs hb hb' =>
    rw [skipEmptyLines_cons hb hb']
    exact trivial

/-- The end of a line is found, or the given flaw is told. -/
theorem legible_lineEnd {flaw : HeadFlaw} (hflaw : OneLine (text flaw.message)) (bs : Bytes) :
    Legible (lineEnd flaw bs) fun _ => True := by
  unfold lineEnd
  repeat' split
  all_goals first
    | exact trivial
    | exact hflaw
    | exact legible_error (by decide)

theorem legible_headEnd (bs : Bytes) : Legible (headEnd bs) fun _ => True := by
  unfold headEnd
  repeat' split
  all_goals first
    | exact trivial
    | exact legible_error (by decide)

/-- The method is one line. -/
theorem legible_takeMethod (bs : Bytes) :
    Legible (takeMethod bs) fun found => OneLine (asciiText found.1) := by
  unfold takeMethod
  split
  · exact legible_error (by decide)
  · split
    · exact oneLine_asciiText fun b hb => List.mem_takeWhile_imp hb
    · exact legible_error (by decide)

/-- The target of a request is one line. -/
theorem legible_takeTarget (bs : Bytes) :
    Legible (takeTarget bs) fun found => OneLine found.1 := by
  unfold takeTarget
  split
  · exact legible_error (by decide)
  · dsimp only
    split
    · exact legible_error (by decide)
    · split
      · exact legible_error (by decide)
      · rename_i t ht
        exact oneLine_of_decode ht (fun b hb => List.mem_takeWhile_imp hb) (by decide) (by decide)

theorem legible_takeVersion (bs : Bytes) : Legible (takeVersion bs) fun _ => True := by
  unfold takeVersion
  dsimp only
  repeat' split
  all_goals first
    | exact trivial
    | exact legible_error (by decide)

/-- The value of a header is a row of octets that may stand in one. -/
def ValueRow (h : Header) : Prop := ∀ b ∈ h.value, isValueOctet b = true

/-- The value of a header has no line break in it. -/
theorem legible_takeHeader (bs : Bytes) :
    Legible (takeHeader bs) fun found => ValueRow found.1 := by
  unfold takeHeader
  dsimp only
  split
  · exact legible_error (by decide)
  · rename_i r _
    split
    · exact legible_error (by decide)
    · have hend := legible_lineEnd (by decide : OneLine (text HeadFlaw.headerValue.message))
        ((r.dropWhile isPad).dropWhile isValueOctet)
      split
      · rename_i flaw hflaw
        exact hend.of_error hflaw
      · intro b hb
        -- Trimming only takes octets away.
        have hrow := (List.dropWhile_sublist _).subset (List.mem_reverse.1 hb)
        exact List.mem_takeWhile_imp (List.mem_reverse.1 hrow)

theorem legible_takeHeaders (slots : Nat) (bs : Bytes) :
    Legible (takeHeaders slots bs) fun found => ∀ h ∈ found.1, ValueRow h := by
  fun_induction takeHeaders slots bs with
  | case1 slots bs flaw hend => exact (legible_headEnd bs).of_error hend
  | case2 => exact nofun
  | case3 slots bs _ flaw hheader => exact (legible_takeHeader bs).of_error hheader
  | case4 => exact legible_error (by decide)
  | case5 bs _ header rest _ n flaw hmore ih => exact ih.of_error hmore
  | case6 bs _ header rest hheader n headers left hmore ih =>
    refine List.forall_mem_cons.2 ⟨?_, ih.of_ok hmore⟩
    exact (legible_takeHeader bs).of_ok hheader

/-- **The parts of a head** are on one line, each of them. -/
theorem legible_parts (bs : Bytes) :
    Legible (parts bs) fun p =>
      OneLine (asciiText p.method) ∧ OneLine p.target ∧ ∀ h ∈ p.headers, ValueRow h := by
  refine (legible_skipEmptyLines bs).bind fun bs _ => ?_
  refine (legible_takeMethod bs).bind fun method hmethod => ?_
  refine (legible_takeTarget method.2).bind fun target htarget => ?_
  refine (legible_takeVersion target.2).bind fun bs _ => ?_
  refine (legible_lineEnd (by decide) bs).bind fun bs _ => ?_
  exact (legible_takeHeaders maxHeaders bs).bind fun headers hheaders =>
    ⟨hmethod, htarget, hheaders⟩

/-- The authority is one line, whether it stands in the request or in a header. -/
theorem legible_authorityOf {p : Parts} (htarget : OneLine p.target)
    (hheaders : ∀ h ∈ p.headers, ValueRow h) : Legible (authorityOf p) OneLine := by
  have hvalue : ∀ b ∈ hostValue p.headers, isValueOctet b = true := by
    intro b hb
    unfold hostValue at hb
    cases hfind : p.headers.find? Header.isHost with
    | none =>
      rw [hfind] at hb
      cases hb
    | some header =>
      rw [hfind] at hb
      exact hheaders header (List.mem_of_find?_eq_some hfind) b hb
  unfold authorityOf
  split
  · split
    · rename_i t ht
      exact oneLine_of_decode ht hvalue (by decide) (by decide)
    · exact legible_error (by decide)
  · exact htarget

/-- **The method and the authority** that are read are on one line, and a flaw is told on one. -/
theorem legible_read (bs : Bytes) :
    Legible (read bs) fun request => OneLine request.method ∧ OneLine request.authority := by
  have hparts := legible_parts bs
  unfold read
  split
  · rename_i flaw hflaw
    exact hparts.of_error hflaw
  · rename_i p hp
    obtain ⟨hmethod, htarget, hheaders⟩ := hparts.of_ok hp
    have hauthority := legible_authorityOf htarget hheaders
    cases ha : authorityOf p with
    | error flaw => exact hauthority.of_error ha
    | ok a => exact ⟨hmethod, hauthority.of_ok ha⟩

/-- The failure of a flaw is as plain as the flaw. -/
theorem plain_failureOf (limit : Nat) {flaw : HeadFlaw} (h : OneLine (text flaw.message)) :
    (failureOf limit flaw).Plain := by
  unfold failureOf
  split
  · exact Failure.plain_requestTooLarge limit
  · exact Failure.plain_malformedRequest h

end RequestHead

namespace Session

variable {head : Bytes} {cap : Nat}

/-- A head with a flaw is refused by the failure of the flaw. -/
theorem requested_of_error {flaw : HeadFlaw} (h : RequestHead.read head = .error flaw) :
    requested head cap = .error (RequestHead.failureOf cap flaw) := by
  rw [requested, RequestHead.parse_of_error cap h]
  rfl

/-- A head without a flaw asks for its authority, if its method is the one served. -/
theorem requested_of_ok {request : RequestHead} (h : RequestHead.read head = .ok request) :
    requested head cap =
      if request.method = text "CONNECT" then Target.ofAuthority request.authority
      else .error (.unsupportedMethod request.method) := by
  rw [requested, RequestHead.parse_of_ok cap h]
  rfl

/-- **The target** that a request head asks for is on one line. -/
theorem oneLine_of_requested {t : Target} (h : requested head cap = .ok t) : OneLine t.render := by
  have hread := RequestHead.legible_read head
  cases hr : RequestHead.read head with
  | error flaw =>
    rw [requested_of_error hr] at h
    cases h
  | ok request =>
    rw [requested_of_ok hr] at h
    split at h
    · exact Target.oneLine_render h (hread.of_ok hr).2
    · cases h

/-- **Why a request is refused** is told on one line. -/
theorem plain_of_requested {failure : Failure} (h : requested head cap = .error failure) :
    failure.Plain := by
  have hread := RequestHead.legible_read head
  cases hr : RequestHead.read head with
  | error flaw =>
    rw [requested_of_error hr] at h
    cases h
    exact RequestHead.plain_failureOf cap (hread.of_error hr)
  | ok request =>
    rw [requested_of_ok hr] at h
    split at h
    · exact Target.plain_of_ofAuthority h
    · cases h
      exact Failure.plain_unsupportedMethod (hread.of_ok hr).1

end Session

/-! ### Reading a head -/

namespace HeadReader

variable {P : Fault → Prop} {r : HeadReader} {l : Lookahead}

/-- A head cannot be had because of a fault that is met, or because the stream ends. -/
theorem raises_run (hend : P (.bare .unexpectedEof)) (h : l.Raises P) :
    (r.run l).2.Raises P ∧ ∀ f, (r.run l).1 = .failed f → P f := by
  have hconclude (r : HeadReader) (f : Fault) : r.conclude ≠ .failed f := by
    unfold conclude
    split <;> exact nofun
  unfold run
  split
  · exact ⟨h, fun f hf => absurd hf (hconclude r f)⟩
  · have hscan := Lookahead.raises_scan (fun r b => (feed r b, (r.feed b).isDone)) r h
    rcases hs : l.scan (fun r b => (feed r b, (r.feed b).isDone)) r with ⟨x, m⟩
    rw [hs] at hscan
    cases x with
    | stopped r => exact ⟨hscan.1, fun f hf => absurd hf (hconclude r f)⟩
    | ended r => exact ⟨hscan.1, fun f hf => by cases hf; exact hend⟩
    | blocked r => exact ⟨hscan.1, fun f hf => by cases hf⟩
    | failed f r => exact ⟨hscan.1, fun f' hf => by cases hf; exact hscan.2 f r rfl⟩

/-- **Why a head cannot be had** is told on one line. -/
theorem plain_attempt (h : l.Raises Fault.Plain) (terms : HeadTerms) (deadline now : Nat) :
    (r.attempt terms deadline now l).2.Raises Fault.Plain ∧
      ∀ failure, (r.attempt terms deadline now l).1 = .over (.error failure) → failure.Plain := by
  have hrun := raises_run (r := r) (Fault.plain_bare _) h
  unfold attempt
  rcases hr : r.run l with ⟨x, m⟩
  rw [hr] at hrun
  cases x with
  | waiting r =>
    dsimp only
    split
    · refine ⟨hrun.1, fun failure hf => ?_⟩
      cases hf
      refine Failure.plain_malformedRequest ?_
      show OneLine (text s!"request not received within {Duration.describe terms.limit}")
      simp only [Text.oneLine_concat, Text.oneLine_message, Text.oneLine_describe, and_true]
      decide
    · exact ⟨hrun.1, fun failure hf => by cases hf⟩
  | tooLarge =>
    refine ⟨hrun.1, fun failure hf => ?_⟩
    cases hf
    exact Failure.plain_requestTooLarge terms.cap
  | failed f =>
    refine ⟨hrun.1, fun failure hf => ?_⟩
    cases hf
    exact Failure.plain_malformedRequest (hrun.2 f rfl)
  | done head => exact ⟨hrun.1, fun failure hf => by cases hf⟩

end HeadReader

end ForwardProxy
