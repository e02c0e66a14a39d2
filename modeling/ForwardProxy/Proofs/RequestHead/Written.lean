import ForwardProxy.Proofs.RequestHead.Parser
import ForwardProxy.Proofs.Text.Cutting
import ForwardProxy.Proofs.Text.Utf8
import Mathlib.Data.List.DropRight

namespace ForwardProxy.RequestHead

/-!
# Request heads that were written

What is written into a request head is read out of it again, however its lines end and wherever
spaces and tabs stand around the values of its headers.

* `LineBreak`, `Version`, `WrittenHeader`, `WrittenHead` — what a head is written from; all that may
  not stand in it is ruled out.
* `WrittenHead.octets`, `WrittenHead.host` — the head itself, and what its first `Host` header says.
* `takeHeader_octets`, `takeHeaders_octets` — one header is read back, and all that there are slots
  for.
* `parse_octets` — what comes of parsing a head that was written.
* `parse_written` — the same, told case by case.
-/

/-- How a line may end. -/
inductive LineBreak where
  | lineFeed
  | returnAndFeed
  deriving DecidableEq, Repr

/-- The octets of a line end. -/
def LineBreak.octets : LineBreak → Bytes
  | .lineFeed => [lf]
  | .returnAndFeed => [cr, lf]

/-- The versions that there are. -/
inductive Version where
  | oneZero
  | oneOne
  deriving DecidableEq, Repr

/-- The octets of a version. -/
def Version.octets : Version → Bytes
  | .oneZero => ascii "HTTP/1.0"
  | .oneOne => ascii "HTTP/1.1"

/-- A header to be written: a name, a value, and what stands around the value. -/
structure WrittenHeader where
  name : Text
  /-- Spaces and tabs behind the colon. -/
  before : Bytes
  value : Bytes
  /-- Spaces and tabs in front of the line end. -/
  behind : Bytes
  ending : LineBreak
  name_ne : name ≠ []
  name_token : ∀ b ∈ Utf8.encode name, isToken b = true
  before_pad : ∀ b ∈ before, isPad b = true
  value_octet : ∀ b ∈ value, isValueOctet b = true
  behind_pad : ∀ b ∈ behind, isPad b = true

namespace WrittenHeader

/-- The line of a header. -/
def octets (h : WrittenHeader) : Bytes :=
  Utf8.encode h.name ++ colon :: (h.before ++ h.value ++ h.behind ++ h.ending.octets)

/-- The value without the spaces and tabs around it. -/
def trimmed (h : WrittenHeader) : Bytes := (h.value.dropWhile isPad).rdropWhile isPad

/-- Whether the name is `Host`, in any case. -/
def isHost (h : WrittenHeader) : Bool := h.name.map Char.toLower == text "host"

end WrittenHeader

/-- A head to be written. -/
structure WrittenHead where
  method : Text
  target : Text
  version : Version
  /-- The end of the request line. -/
  ending : LineBreak
  headers : List WrittenHeader
  /-- The empty line behind the headers. -/
  last : LineBreak
  method_ne : method ≠ []
  method_token : ∀ b ∈ Utf8.encode method, isToken b = true
  target_ne : target ≠ []
  target_octet : ∀ b ∈ Utf8.encode target, isTargetOctet b = true

namespace WrittenHead

/-- The octets of a head. -/
def octets (w : WrittenHead) : Bytes :=
  Utf8.encode w.method ++ sp :: (Utf8.encode w.target ++ sp :: (w.version.octets ++
    (w.ending.octets ++ (w.headers.flatMap WrittenHeader.octets ++ w.last.octets))))

/-- The value of the first header with the name `Host`; empty if there is none. -/
def host (w : WrittenHead) : Bytes :=
  ((w.headers.find? WrittenHeader.isHost).map WrittenHeader.trimmed).getD []

end WrittenHead

/-! ### Rows and line ends -/

section

variable {p : UInt8 → Bool} {row : Bytes} {b : UInt8} {ls : LineBreak}

/-- A line end opens with an octet of its own. -/
theorem LineBreak.octets_eq (e : LineBreak) : ∃ b r, e.octets = b :: r ∧ (b = cr ∨ b = lf) := by
  cases e with
  | lineFeed => exact ⟨lf, [], rfl, .inr rfl⟩
  | returnAndFeed => exact ⟨cr, [lf], rfl, .inl rfl⟩

/-- A row ends in front of a line end. -/
theorem row_append_ending (hrow : ∀ a ∈ row, p a = true) (hcr : p cr = false) (hlf : p lf = false)
    (e : LineBreak) (rest : Bytes) :
    (row ++ (e.octets ++ rest)).takeWhile p = row ∧
      (row ++ (e.octets ++ rest)).dropWhile p = e.octets ++ rest := by
  obtain ⟨b, r, he, hb⟩ := e.octets_eq
  rw [he, List.cons_append]
  refine Text.row_append_cons hrow ?_ _
  rcases hb with rfl | rfl
  · exact hcr
  · exact hlf

/-- A line end that was written is read. -/
theorem lineEnd_octets (flaw : HeadFlaw) (e : LineBreak) (rest : Bytes) :
    lineEnd flaw (e.octets ++ rest) = .ok rest := by
  rw [lineEnd_eq_ok]
  cases e with
  | lineFeed => exact .inl rfl
  | returnAndFeed => exact .inr rfl

/-- A line end in place of a header ends the head. -/
theorem headEnd_octets (e : LineBreak) (rest : Bytes) :
    headEnd (e.octets ++ rest) = .ok (some rest) := by
  rw [headEnd_eq_some]
  cases e with
  | lineFeed => exact .inl rfl
  | returnAndFeed => exact .inr rfl

end

/-! ### Tokens -/

/-- Octets of tokens are ASCII, and neither end a line nor a token. -/
theorem isToken_bounds {b : UInt8} (h : isToken b = true) : b.toNat < 128 ∧ b ≠ cr ∧ b ≠ lf := by
  have hall : ∀ n : Fin 256, isToken (UInt8.ofNat n) = true → n.val < 128 ∧
      UInt8.ofNat n ≠ cr ∧ UInt8.ofNat n ≠ lf := by decide +kernel
  have hb := hall ⟨b.toNat, b.toNat_lt⟩
  rw [UInt8.ofNat_toNat] at hb
  exact hb h

/-- A token opens with an octet that ends no line. -/
theorem token_eq_cons {t : Text} (hne : t ≠ []) (ht : ∀ b ∈ Utf8.encode t, isToken b = true) :
    ∃ b r, Utf8.encode t = b :: r ∧ b ≠ cr ∧ b ≠ lf := by
  cases t with
  | nil => exact absurd rfl hne
  | cons c t =>
    have hcons : Utf8.encode (c :: t) = String.utf8EncodeChar c ++ Utf8.encode t := rfl
    cases hc : String.utf8EncodeChar c with
    | nil => exact absurd hc String.utf8EncodeChar_ne_nil
    | cons b r =>
      rw [hc] at hcons
      have hb := isToken_bounds (ht b (hcons ▸ List.mem_cons_self))
      exact ⟨b, r ++ Utf8.encode t, hcons, hb.2⟩

/-- The characters of a token are ASCII. -/
theorem token_ascii {t : Text} (ht : ∀ b ∈ Utf8.encode t, isToken b = true) :
    ∀ c ∈ t, c.toNat < 128 :=
  Utf8.ascii_of_encode fun b hb => (isToken_bounds (ht b hb)).1

/-- Characters of ASCII are read back from their octets. -/
theorem asciiText_map {t : Text} (ht : ∀ c ∈ t, c.toNat < 128) :
    asciiText (t.map fun c => UInt8.ofNat c.toNat) = t := by
  rw [asciiText, List.map_map]
  refine (List.map_congr_left fun c hc => ?_).trans (List.map_id t)
  have hsmall : (UInt8.ofNat c.toNat).toNat = c.toNat :=
    UInt8.toNat_ofNat_of_lt' (Nat.lt_trans (ht c hc) (by decide))
  show Char.ofNat (UInt8.ofNat c.toNat).toNat = c
  rw [hsmall]
  exact c.ofNat_toNat

/-- A token that was written is the text that was meant. -/
theorem asciiText_encode {t : Text} (ht : ∀ b ∈ Utf8.encode t, isToken b = true) :
    asciiText (Utf8.encode t) = t := by
  rw [Utf8.encode_of_ascii (token_ascii ht), asciiText_map (token_ascii ht)]

/-- Capitals are made small alike in octets and in characters. -/
theorem lower_ofNat {c : Char} (hc : c.toNat < 128) :
    lower (UInt8.ofNat c.toNat) = UInt8.ofNat c.toLower.toNat ∧ c.toLower.toNat < 128 := by
  have hall : ∀ n : Fin 128, lower (UInt8.ofNat n) = UInt8.ofNat (Char.ofNat n).toLower.toNat ∧
      (Char.ofNat n).toLower.toNat < 128 := by decide +kernel
  have hn := hall ⟨c.toNat, hc⟩
  rwa [show Char.ofNat c.toNat = c from c.ofNat_toNat] at hn

/-- The parser finds the header with the name `Host` where it stands. -/
theorem isHost_encode {t : Text} (ht : ∀ b ∈ Utf8.encode t, isToken b = true) (value : Bytes) :
    Header.isHost ⟨Utf8.encode t, value⟩ = (t.map Char.toLower == text "host") := by
  have hascii := token_ascii ht
  have hlower : (Utf8.encode t).map lower =
      (t.map Char.toLower).map fun c => UInt8.ofNat c.toNat := by
    rw [Utf8.encode_of_ascii hascii, List.map_map, List.map_map]
    exact List.map_congr_left fun c hc => (lower_ofNat (hascii c hc)).1
  have hsmall : ∀ c ∈ t.map Char.toLower, c.toNat < 128 := by
    intro c hc
    obtain ⟨d, hd, rfl⟩ := List.mem_map.1 hc
    exact (lower_ofNat (hascii d hd)).2
  have hall : ((text "host").all fun c => decide (c.toNat < 128)) = true := rfl
  have hhost : ∀ c ∈ text "host", c.toNat < 128 := fun c hc =>
    of_decide_eq_true (List.all_eq_true.1 hall c hc)
  rw [Header.isHost, hlower, Bool.eq_iff_iff, beq_iff_eq, beq_iff_eq]
  refine ⟨fun h => ?_, fun h => by rw [h]; rfl⟩
  rw [← asciiText_map hsmall, h, ← asciiText_map hhost]
  rfl

/-! ### Headers -/

/-- Spaces and tabs around a value are dropped with those that it has itself. -/
theorem trim_append {before value behind : Bytes} (hbefore : ∀ b ∈ before, isPad b = true)
    (hbehind : ∀ b ∈ behind, isPad b = true) :
    trimPadEnd ((before ++ value ++ behind).dropWhile isPad) =
      (value.dropWhile isPad).rdropWhile isPad := by
  rw [List.append_assoc, List.dropWhile_append_of_pos hbefore, List.dropWhile_append]
  split
  · -- A value of spaces and tabs alone.
    rename_i hnone
    rw [List.isEmpty_iff] at hnone
    rw [hnone, List.dropWhile_eq_nil_iff.2 hbehind]
    rfl
  · show (((value.dropWhile isPad) ++ behind).reverse.dropWhile isPad).reverse = _
    rw [List.reverse_append,
      List.dropWhile_append_of_pos fun b hb => hbehind b (List.mem_reverse.1 hb)]
    rfl

namespace WrittenHeader

/-- What is to be read out of a header. -/
def header (h : WrittenHeader) : Header := ⟨Utf8.encode h.name, h.trimmed⟩

/-- What stands between the colon and the line end may all stand in a value. -/
theorem row_octet (h : WrittenHeader) :
    ∀ b ∈ h.before ++ h.value ++ h.behind, isValueOctet b = true := by
  have hpad : ∀ b, isPad b = true → isValueOctet b = true := by
    intro b hb
    rw [isPad, Bool.or_eq_true, beq_iff_eq, beq_iff_eq] at hb
    rcases hb with rfl | rfl <;> rfl
  intro b hb
  rcases List.mem_append.1 hb with hb | hb
  · rcases List.mem_append.1 hb with hb | hb
    · exact hpad b (h.before_pad b hb)
    · exact h.value_octet b hb
  · exact hpad b (h.behind_pad b hb)

end WrittenHeader

/-- **A header** that was written is read back, and what is behind it is left. -/
theorem takeHeader_octets (h : WrittenHeader) (rest : Bytes) :
    takeHeader (h.octets ++ rest) = .ok (h.header, rest) := by
  have hshape : h.octets ++ rest = Utf8.encode h.name ++ colon ::
      (h.before ++ h.value ++ h.behind ++ (h.ending.octets ++ rest)) := by
    simp [WrittenHeader.octets]
  obtain ⟨hname, hcolon⟩ := Text.row_append_cons h.name_token (by decide : isToken colon = false)
    (h.before ++ h.value ++ h.behind ++ (h.ending.octets ++ rest))
  -- The padding ends before the line end at the latest, so it does not matter what is behind.
  have hpad : (h.before ++ h.value ++ h.behind ++ (h.ending.octets ++ rest)).dropWhile isPad =
      (h.before ++ h.value ++ h.behind).dropWhile isPad ++ (h.ending.octets ++ rest) := by
    have hend : (h.ending.octets ++ rest).dropWhile isPad = h.ending.octets ++ rest :=
      (row_append_ending (List.forall_mem_nil _) (by decide) (by decide) h.ending rest).2
    rw [List.dropWhile_append, hend]
    split
    · rename_i hnone
      rw [List.isEmpty_iff.1 hnone]
      rfl
    · rfl
  have hrow : ∀ b ∈ (h.before ++ h.value ++ h.behind).dropWhile isPad, isValueOctet b = true :=
    fun b hb => h.row_octet b ((List.dropWhile_suffix _).subset hb)
  obtain ⟨hvalue, hending⟩ := row_append_ending hrow (by decide : isValueOctet cr = false)
    (by decide) h.ending rest
  have hne : (Utf8.encode h.name).isEmpty = false := by
    obtain ⟨b, r, hcons, -⟩ := token_eq_cons h.name_ne h.name_token
    rw [hcons]
    rfl
  rw [hshape, takeHeader, hname, hcolon]
  dsimp only
  rw [hne, if_neg (by decide), hpad, hending, lineEnd_octets, hvalue,
    trim_append h.before_pad h.behind_pad]
  rfl

/-- A header does not end a head. -/
theorem headEnd_header (h : WrittenHeader) (rest : Bytes) :
    headEnd (h.octets ++ rest) = .ok none := by
  obtain ⟨b, r, hcons, hcr, hlf⟩ := token_eq_cons h.name_ne h.name_token
  rw [headEnd_eq_none, WrittenHeader.octets, hcons]
  exact ⟨b, _, rfl, hlf, hcr⟩

/-- **Headers** that were written are read back if there are slots for all of them. -/
theorem takeHeaders_octets (hs : List WrittenHeader) (e : LineBreak) (rest : Bytes) (slots : Nat) :
    takeHeaders slots (hs.flatMap WrittenHeader.octets ++ (e.octets ++ rest)) =
      if hs.length ≤ slots then .ok (hs.map WrittenHeader.header, rest)
      else .error .tooManyHeaders := by
  -- By induction on the headers: each one takes a place, and one too many is refused once it is
  -- read.
  induction hs generalizing slots with
  | nil =>
    rw [List.flatMap_nil, List.nil_append]
    exact (takeHeaders_eq_ok.2 (.inl ⟨headEnd_octets e rest, rfl⟩)).trans
      (if_pos (Nat.zero_le slots)).symm
  | cons h hs ih =>
    rw [takeHeaders.eq_def, List.flatMap_cons, List.append_assoc]
    dsimp only
    rw [headEnd_header, takeHeader_octets]
    cases slots with
    | zero => rfl
    | succ n =>
      dsimp only
      rw [ih, List.length_cons]
      by_cases hfit : hs.length ≤ n
      · rw [if_pos hfit, if_pos (Nat.succ_le_succ hfit)]
        rfl
      · rw [if_neg hfit, if_neg (by omega)]

/-! ### Heads -/

/-- A version that was written is read. -/
theorem takeVersion_octets (v : Version) (rest : Bytes) :
    takeVersion (v.octets ++ rest) = .ok rest := by
  have hlength : v.octets.length = 8 := by cases v <;> rfl
  have htake : (v.octets ++ rest).take 8 = v.octets := by rw [← hlength, List.take_left]
  have hdrop : (v.octets ++ rest).drop 8 = rest := by rw [← hlength, List.drop_left]
  have hlong : 8 ≤ (v.octets ++ rest).length := by rw [List.length_append]; omega
  rw [takeVersion, if_pos hlong, htake, hdrop]
  exact if_pos (by cases v with | oneZero => exact .inl rfl | oneOne => exact .inr rfl)

/-- A method that was written is read, up to the space behind it. -/
theorem takeMethod_octets {m : Text} (hne : m ≠ []) (hm : ∀ b ∈ Utf8.encode m, isToken b = true)
    (rest : Bytes) :
    takeMethod (Utf8.encode m ++ sp :: rest) = .ok (Utf8.encode m, rest) := by
  obtain ⟨hrow, hend⟩ := Text.row_append_cons hm (by decide : isToken sp = false) rest
  obtain ⟨b, r, hcons, -⟩ := token_eq_cons hne hm
  rw [takeMethod, hrow, hend, hcons]
  rfl

/-- A target that was written is read, up to the space behind it. -/
theorem takeTarget_octets {t : Text} (hne : t ≠ [])
    (ht : ∀ b ∈ Utf8.encode t, isTargetOctet b = true) (rest : Bytes) :
    takeTarget (Utf8.encode t ++ sp :: rest) = .ok (t, rest) := by
  obtain ⟨hrow, hend⟩ := Text.row_append_cons ht (by decide : isTargetOctet sp = false) rest
  have hempty : (Utf8.encode t).isEmpty = false := by
    cases t with
    | nil => exact absurd rfl hne
    | cons c t => simp [Utf8.encode, String.utf8EncodeChar_ne_nil]
  rw [takeTarget, hrow, hend]
  dsimp only
  rw [hempty, if_neg (by decide), Utf8.decode?_encode]

/-- **The parts** of a head that was written, whatever follows it. -/
theorem parts_octets (w : WrittenHead) (more : Bytes) :
    parts (w.octets ++ more) =
      if w.headers.length ≤ maxHeaders then
        .ok ⟨Utf8.encode w.method, w.target, w.headers.map WrittenHeader.header, more⟩
      else .error .tooManyHeaders := by
  obtain ⟨b, r, hcons, hcr, hlf⟩ := token_eq_cons w.method_ne w.method_token
  have hshape : w.octets ++ more = Utf8.encode w.method ++ sp :: (Utf8.encode w.target ++ sp ::
      (w.version.octets ++ (w.ending.octets ++ (w.headers.flatMap WrittenHeader.octets ++
        (w.last.octets ++ more))))) := by simp [WrittenHead.octets]
  have hskip (rest : Bytes) :
      skipEmptyLines (Utf8.encode w.method ++ rest) = .ok (Utf8.encode w.method ++ rest) := by
    rw [hcons]
    exact skipEmptyLines_cons hlf hcr _
  -- The parts are read in the order in which they were written.
  rw [hshape, parts, hskip]
  show (takeMethod _ >>= _) = _
  rw [takeMethod_octets w.method_ne w.method_token]
  show (takeTarget _ >>= _) = _
  rw [takeTarget_octets w.target_ne w.target_octet]
  show (takeVersion _ >>= _) = _
  rw [takeVersion_octets]
  show (lineEnd _ _ >>= _) = _
  rw [lineEnd_octets]
  show (takeHeaders _ _ >>= _) = _
  rw [takeHeaders_octets]
  split <;> rfl

/-- The parser's first `Host` header is the one that was written first. -/
theorem hostValue_header (w : WrittenHead) :
    hostValue (w.headers.map WrittenHeader.header) = w.host := by
  have hsame : (Header.isHost ∘ WrittenHeader.header) = WrittenHeader.isHost :=
    funext fun h => isHost_encode h.name_token _
  rw [hostValue, List.find?_map, hsame, Option.map_map]
  rfl

/-- What comes of parsing a head that was written, whatever follows it. -/
theorem parse_octets (w : WrittenHead) (more : Bytes) (limit : Nat) :
    parse (w.octets ++ more) limit =
      if w.headers.length ≤ maxHeaders then
        if w.target.head? = some '/' then
          match Utf8.decode? w.host with
          | some t => .ok ⟨w.method, t⟩
          | none => .error (.malformedRequest .hostNotUtf8)
        else .ok ⟨w.method, w.target⟩
      else .error (.requestTooLarge limit) := by
  have hparts := parts_octets w more
  by_cases hfit : w.headers.length ≤ maxHeaders
  · rw [if_pos hfit] at hparts ⊢
    have hread : read (w.octets ++ more) = (authorityOf ⟨Utf8.encode w.method, w.target,
        w.headers.map WrittenHeader.header, more⟩).map fun a => ⟨w.method, a⟩ := by
      rw [read, hparts]
      dsimp only
      rw [asciiText_encode w.method_token]
    rw [authorityOf, hostValue_header] at hread
    dsimp only at hread
    split
    · rename_i hpath
      rw [if_pos hpath] at hread
      cases hdecode : Utf8.decode? w.host with
      | none => rw [hdecode] at hread; exact parse_of_error limit hread
      | some t => rw [hdecode] at hread; exact parse_of_ok limit hread
    · rename_i hpath
      rw [if_neg hpath] at hread
      exact parse_of_ok limit hread
  · rw [if_neg hfit] at hparts ⊢
    have hread : read (w.octets ++ more) = .error .tooManyHeaders := by rw [read, hparts]
    exact parse_of_error limit hread

/-- **What was written is read**, whatever follows the head: its method and, for up to 64 headers,
    its request target or, if that is a path, the text that its first `Host` header holds.  It is a
    flaw if that is not UTF-8, and more headers are too many whatever they hold. -/
theorem parse_written (w : WrittenHead) (more : Bytes) (limit : Nat) :
    (64 < w.headers.length →
      parse (w.octets ++ more) limit = .error (.requestTooLarge limit)) ∧
    (w.headers.length ≤ 64 →
      (w.target.head? ≠ some '/' → parse (w.octets ++ more) limit = .ok ⟨w.method, w.target⟩) ∧
      (w.target.head? = some '/' →
        (∀ t, w.host = Utf8.encode t → parse (w.octets ++ more) limit = .ok ⟨w.method, t⟩) ∧
        ((¬ ∃ t, w.host = Utf8.encode t) →
          parse (w.octets ++ more) limit = .error (.malformedRequest .hostNotUtf8)))) := by
  have hparse := parse_octets w more limit
  refine ⟨fun hmany => ?_, fun hfit => ⟨fun htarget => ?_, fun hpath => ⟨fun t ht => ?_, ?_⟩⟩⟩
  · rwa [if_neg (show ¬ w.headers.length ≤ maxHeaders from Nat.not_le_of_lt hmany)] at hparse
  · rwa [if_pos (show w.headers.length ≤ maxHeaders from hfit), if_neg htarget] at hparse
  · rwa [if_pos (show w.headers.length ≤ maxHeaders from hfit), if_pos hpath, ht,
      Utf8.decode?_encode] at hparse
  · intro hnone
    rw [if_pos (show w.headers.length ≤ maxHeaders from hfit), if_pos hpath] at hparse
    cases hdecode : Utf8.decode? w.host with
    | none => rwa [hdecode] at hparse
    | some t => exact absurd ⟨t, (Utf8.encode_eq_of_decode? hdecode).symm⟩ hnone

/-- A head for a path with lines that end either way: the second header is the first one with the
    name `Host`, and what it says is known without the tab and the spaces around it. -/
theorem parse_written_for_path :
    ∃ w : WrittenHead,
      w.octets = ascii "CONNECT / HTTP/1.0\nHostess:\r\nhOST:\t a:1  \nHost: b:2\r\n\n" ∧
      w.headers.length ≤ 64 ∧ w.target.head? = some '/' ∧ w.host = Utf8.encode (text "a:1") ∧
      parse w.octets 8192 = .ok ⟨text "CONNECT", text "a:1"⟩ := by
  let hostess : WrittenHeader := ⟨text "Hostess", [], [], [], .returnAndFeed, by decide,
    List.all_eq_true.1 rfl, nofun, nofun, nofun⟩
  let first : WrittenHeader := ⟨text "hOST", ascii "\t ", ascii "a:1", ascii "  ", .lineFeed,
    by decide, List.all_eq_true.1 rfl, List.all_eq_true.1 rfl, List.all_eq_true.1 rfl,
    List.all_eq_true.1 rfl⟩
  let second : WrittenHeader := ⟨text "Host", ascii " ", ascii "b:2", [], .returnAndFeed, by decide,
    List.all_eq_true.1 rfl, List.all_eq_true.1 rfl, List.all_eq_true.1 rfl, nofun⟩
  let w : WrittenHead := ⟨text "CONNECT", text "/", .oneZero, .lineFeed, [hostess, first, second],
    .lineFeed, by decide, List.all_eq_true.1 rfl, by decide, List.all_eq_true.1 rfl⟩
  have hhost : w.host = Utf8.encode (text "a:1") := by decide
  have hparse := ((parse_written w [] 8192).2 (by decide)).2 rfl
  rw [List.append_nil] at hparse
  exact ⟨w, by decide, by decide, rfl, hhost, hparse.1 _ hhost⟩

end ForwardProxy.RequestHead
