import ForwardProxy.Proofs.RequestHead.Written
import ForwardProxy.Proofs.Target.Grammar
import ForwardProxy.Proofs.Text.OneLine
import ForwardProxy.Response

namespace ForwardProxy.Response

/-!
# Reading a response

An error answer tells by itself where it ends.  Whoever reads it finds the empty line that ends its
head, the one line of the head that gives a length, and behind the head as many octets as that.

* `cutAt?`, `cutAt?_eq_some_iff` — the cut at the first occurrence of a separator.
* `lines`, `lengths` — the lines of a head, and the lengths that they give.
* `receive?` — what is taken from a stream by the length that the head gives.
* `SelfDelimited` — octets whose end is told by their head.
* `selfDelimited_error` — every error answer is like that.
-/

open RequestHead (colon isPad lower trimPadEnd asciiText)

/-! ### Reading -/

/-- The end of a line. -/
def crlf : Bytes := [cr, lf]

/-- The end of a line and the empty line behind it. -/
def blankLine : Bytes := crlf ++ crlf

/-- The octets in front of the first occurrence of a separator, and those behind it. -/
def cutAt? (separator : Bytes) : Bytes → Option (Bytes × Bytes)
  | [] => none
  | b :: bs =>
    if separator.isPrefixOf (b :: bs) then some ([], (b :: bs).drop separator.length)
    else (cutAt? separator bs).map fun cut => (b :: cut.1, cut.2)

/-- The lines of a head, the line ends left out. -/
def lines : Bytes → List Bytes
  | [] => [[]]
  | [b] => [[b]]
  | b :: c :: bs =>
    if b = cr ∧ c = lf then [] :: lines bs else (lines (c :: bs)).modifyHead (b :: ·)

/-- The header in a line: a name in front of the first colon, and a value behind it. -/
def header? (line : Bytes) : Option Header :=
  match line.dropWhile (· != colon) with
  | [] => none
  | _ :: value => some ⟨line.takeWhile (· != colon), trimPadEnd (value.dropWhile isPad)⟩

/-- Whether a header's name is `Content-Length`, in any case. -/
def isLength (h : Header) : Bool := h.name.map lower == ascii "content-length"

/-- The length that a line gives, if it is one that is to give a length; what is no decimal number
    gives none. -/
def lengthOf? (line : Bytes) : Option (Option Nat) :=
  match header? line with
  | none => none
  | some h => if isLength h then some (Decimal.read? (asciiText h.value)) else none

/-- The lengths that the lines of a head give. -/
def lengths (head : Bytes) : List (Option Nat) := (lines head).filterMap lengthOf?

/-- The body of the response that some octets start with, and the octets behind it; none if the
    response is not there to its end or does not tell where that is. -/
def receive? (bs : Bytes) : Option (Bytes × Bytes) :=
  match cutAt? blankLine bs with
  | none => none
  | some (head, rest) =>
    match lengths head with
    | [some n] => if n ≤ rest.length then some (rest.take n, rest.drop n) else none
    | _ => none

/-! ### The first occurrence -/

section Cutting

variable {separator bs front behind row : Bytes} {b : UInt8}

/-- An occurrence that does not begin at the first octet lies behind it. -/
theorem eq_cons_of_occurrence (hnot : ¬separator <+: b :: bs)
    (h : b :: bs = front ++ (separator ++ behind)) :
    ∃ front', front = b :: front' ∧ bs = front' ++ (separator ++ behind) := by
  cases front with
  | nil => exact absurd ⟨behind, h.symm⟩ hnot
  | cons c front' =>
    obtain ⟨rfl, hrest⟩ := List.cons.inj h
    exact ⟨front', rfl, hrest⟩

/-- **A cut is made at the first occurrence** of the separator. -/
theorem cutAt?_eq_some_iff (hne : separator ≠ []) :
    cutAt? separator bs = some (front, behind) ↔
      bs = front ++ (separator ++ behind) ∧
        ∀ front' behind', bs = front' ++ (separator ++ behind') → front.length ≤ front'.length := by
  induction bs generalizing front with
  | nil =>
    refine ⟨nofun, fun h => ?_⟩
    obtain ⟨-, hnil⟩ := List.append_eq_nil_iff.1 h.1.symm
    exact absurd (List.append_eq_nil_iff.1 hnil).1 hne
  | cons b bs ih =>
    rw [cutAt?]
    -- Either the separator begins here, or every occurrence of it lies behind the first octet.
    by_cases hhere : separator <+: b :: bs
    · rw [if_pos (List.isPrefixOf_iff_prefix.2 hhere)]
      obtain ⟨rest, hrest⟩ := hhere
      rw [← hrest, List.drop_left, Option.some.injEq, Prod.mk.injEq]
      constructor
      · rintro ⟨rfl, rfl⟩
        exact ⟨rfl, fun _ _ _ => Nat.zero_le _⟩
      · rintro ⟨hcut, hfirst⟩
        obtain rfl : front = [] := List.length_eq_zero_iff.1 (Nat.le_zero.1 (hfirst [] rest rfl))
        exact ⟨rfl, List.append_cancel_left hcut⟩
    · rw [if_neg (mt List.isPrefixOf_iff_prefix.1 hhere)]
      constructor
      · intro h
        obtain ⟨⟨front', behind'⟩, hcut, heq⟩ := Option.map_eq_some_iff.1 h
        cases heq
        obtain ⟨hsplit, hfirst⟩ := ih.1 hcut
        refine ⟨congrArg (b :: ·) hsplit, fun other _ hother => ?_⟩
        obtain ⟨other', rfl, hrest⟩ := eq_cons_of_occurrence hhere hother
        exact Nat.succ_le_succ (hfirst other' _ hrest)
      · rintro ⟨hcut, hfirst⟩
        obtain ⟨front', rfl, hrest⟩ := eq_cons_of_occurrence hhere hcut
        rw [ih.2 ⟨hrest, fun other rest hother =>
          Nat.le_of_succ_le_succ (hfirst (b :: other) rest (congrArg (b :: ·) hother))⟩]
        rfl

/-- What comes behind the first occurrence does not move it. -/
theorem cutAt?_append (hne : separator ≠ []) (h : cutAt? separator bs = some (front, behind))
    (more : Bytes) : cutAt? separator (bs ++ more) = some (front, behind ++ more) := by
  obtain ⟨rfl, hfirst⟩ := (cutAt?_eq_some_iff hne).1 h
  refine (cutAt?_eq_some_iff hne).2 ⟨by simp only [List.append_assoc], ?_⟩
  intro front' behind' hcut
  refine Nat.le_of_not_lt fun hlt => ?_
  -- An occurrence further in front would lie within what was there before.
  have hwhole : front' ++ separator <+: front ++ (separator ++ behind) ++ more :=
    ⟨behind', by rw [hcut, List.append_assoc]⟩
  have hpre : front' ++ separator <+: front ++ (separator ++ behind) := by
    refine List.prefix_of_prefix_length_le hwhole (List.prefix_append _ _) ?_
    simp only [List.length_append]
    omega
  obtain ⟨rest, hrest⟩ := hpre
  rw [List.append_assoc] at hrest
  exact Nat.not_lt_of_le (hfirst front' rest hrest.symm) hlt

/-- A row of octets in which no line ends is passed by. -/
theorem cutAt?_row (hrow : cr ∉ row) (bs : Bytes) :
    cutAt? blankLine (row ++ bs) =
      (cutAt? blankLine bs).map fun cut => (row ++ cut.1, cut.2) := by
  induction row with
  | nil => simp
  | cons b row ih =>
    rw [List.mem_cons, not_or] at hrow
    have hnot : blankLine.isPrefixOf (b :: (row ++ bs)) = false := by
      show (cr == b && _) = false
      rw [beq_eq_false_iff_ne.2 hrow.1, Bool.false_and]
    rw [List.cons_append, cutAt?, hnot, if_neg Bool.false_ne_true, ih hrow.2, Option.map_map]
    rfl

/-- A line end is passed by with the line behind it, if there is something in that line. -/
theorem cutAt?_line (hne : row ≠ []) (hrow : cr ∉ row) (bs : Bytes) :
    cutAt? blankLine (crlf ++ row ++ bs) =
      (cutAt? blankLine bs).map fun cut => (crlf ++ row ++ cut.1, cut.2) := by
  have hpass := cutAt?_row hrow bs
  obtain ⟨b, row, rfl⟩ := List.exists_cons_of_ne_nil hne
  have hb : cr ≠ b := fun h => hrow (h ▸ List.mem_cons_self)
  have hcr : blankLine.isPrefixOf (cr :: lf :: b :: (row ++ bs)) = false := by
    show (cr == cr && (lf == lf && (cr == b && _))) = false
    rw [beq_eq_false_iff_ne.2 hb, Bool.false_and, Bool.and_false, Bool.and_false]
  have hlf : blankLine.isPrefixOf (lf :: b :: (row ++ bs)) = false := rfl
  show cutAt? blankLine (cr :: lf :: b :: (row ++ bs)) = _
  rw [cutAt?, hcr, if_neg Bool.false_ne_true, cutAt?, hlf, if_neg Bool.false_ne_true,
    ← List.cons_append, hpass, Option.map_map, Option.map_map]
  rfl

end Cutting

/-! ### Lines -/

/-- A head of some lines. -/
def joined (first : Bytes) (ls : List Bytes) : Bytes := first ++ ls.flatMap (crlf ++ ·)

section Lines

variable {ls : List Bytes} {first row : Bytes} {b : UInt8}

/-- An octet that is no carriage return belongs to the first line. -/
theorem lines_cons (hb : b ≠ cr) (bs : Bytes) :
    lines (b :: bs) = (lines bs).modifyHead (b :: ·) := by
  cases bs with
  | nil => rfl
  | cons c bs => rw [lines, if_neg fun h => hb h.1]

/-- A row without carriage returns is a line, and so is one with a line end behind it. -/
theorem lines_row (hrow : cr ∉ row) (rest : Bytes) :
    lines row = [row] ∧ lines (row ++ (crlf ++ rest)) = row :: lines rest := by
  induction row with
  | nil => exact ⟨rfl, if_pos ⟨rfl, rfl⟩⟩
  | cons b row ih =>
    rw [List.mem_cons, not_or] at hrow
    obtain ⟨hone, hmore⟩ := ih hrow.2
    rw [List.cons_append, lines_cons (Ne.symm hrow.1), lines_cons (Ne.symm hrow.1), hone, hmore]
    exact ⟨rfl, rfl⟩

/-- The lines that a head was made of are found again. -/
theorem lines_joined (hfirst : cr ∉ first) (hls : ∀ row ∈ ls, cr ∉ row) :
    lines (joined first ls) = first :: ls := by
  induction ls generalizing first with
  | nil =>
    rw [joined, List.flatMap_nil, List.append_nil]
    exact (lines_row hfirst []).1
  | cons row ls ih =>
    rw [joined, List.flatMap_cons, List.append_assoc, (lines_row hfirst _).2]
    congr 1
    exact ih (hls row List.mem_cons_self) fun row' hmem => hls row' (List.mem_cons_of_mem row hmem)

/-- The first empty line is the one behind the last line, if there is something in every line. -/
theorem cutAt?_joined (hfirst : cr ∉ first) (hls : ∀ row ∈ ls, row ≠ [] ∧ cr ∉ row) (rest : Bytes) :
    cutAt? blankLine (joined first ls ++ (blankLine ++ rest)) = some (joined first ls, rest) := by
  have hbehind : cutAt? blankLine (ls.flatMap (crlf ++ ·) ++ (blankLine ++ rest)) =
      some (ls.flatMap (crlf ++ ·), rest) := by
    induction ls with
    | nil => rfl
    | cons row ls ih =>
      obtain ⟨hne, hrow⟩ := hls row List.mem_cons_self
      rw [List.flatMap_cons, List.append_assoc, cutAt?_line hne hrow,
        ih fun row' hrow' => hls row' (List.mem_cons_of_mem row hrow')]
      rfl
  rw [joined, List.append_assoc, cutAt?_row hfirst, hbehind]
  rfl

end Lines

/-! ### The head of an error answer -/

section Answers

variable {code n : Nat} {reason body : String}

/-- The octets of two texts, one behind the other. -/
theorem octets_append (s t : String) : octets (s ++ t) = octets s ++ octets t := by
  rw [octets, String.toList_append]
  exact Utf8.encode_append _ _

/-- The first line of an error answer. -/
def statusLine (code : Nat) (reason : String) : String := s!"HTTP/1.1 {code} {reason}"

/-- The line of a head that gives a length. -/
def lengthLine (n : Nat) : String := s!"Content-Length: {n}"

/-- The lines behind the first one. -/
def headerLines (n : Nat) : List String :=
  ["Content-Type: text/plain; charset=utf-8", lengthLine n, "Connection: close"]

/-- The head of an error answer, the empty line behind it left out. -/
def headOctets (code : Nat) (reason : String) (n : Nat) : Bytes :=
  joined (octets (statusLine code reason)) ((headerLines n).map octets)

/-- The head of an error answer is made of its lines. -/
theorem octets_errorHead (code : Nat) (reason : String) (n : Nat) :
    octets (errorHead code reason n) = headOctets code reason n ++ blankLine := by
  have hsplit : errorHead code reason n =
      statusLine code reason ++ "\r\n" ++ ("Content-Type: text/plain; charset=utf-8" ++ "\r\n") ++
        (lengthLine n ++ "\r\n") ++ ("Connection: close" ++ "\r\n\r\n") := rfl
  have hend : octets "\r\n" = crlf := rfl
  have hblank : octets "\r\n\r\n" = blankLine := rfl
  rw [hsplit]
  simp only [octets_append, hend, hblank, headOctets, joined, headerLines, List.map_cons,
    List.map_nil, List.flatMap_cons, List.flatMap_nil, List.append_assoc, List.append_nil]

/-- A message on one line is a line. -/
theorem not_mem_octets {m : String} (h : Text.OneLine (text m)) : cr ∉ octets m ∧ lf ∉ octets m :=
  (Text.oneLine_iff_octets.1 h).symm

/-- A status line is one line if its reason is. -/
theorem oneLine_statusLine (code : Nat) (h : Text.OneLine (text reason)) :
    Text.OneLine (text (statusLine code reason)) := by
  unfold statusLine
  simp only [Text.oneLine_concat, Text.oneLine_toString]
  exact ⟨⟨by decide, by decide⟩, h⟩

/-- The line that gives the length is one line. -/
theorem oneLine_lengthLine (n : Nat) : Text.OneLine (text (lengthLine n)) :=
  Text.oneLine_concat.2 ⟨by decide, Text.oneLine_toString n⟩

/-- The line that gives the length: its name, a colon and the number. -/
theorem octets_lengthLine (n : Nat) :
    octets (lengthLine n) =
      ascii "Content-Length" ++ colon :: ([RequestHead.sp] ++ octets (toString n) ++ []) := by
  have hname : octets "Content-Length: " = ascii "Content-Length" ++ [colon, RequestHead.sp] := rfl
  have happend : octets (lengthLine n) = octets "Content-Length: " ++ octets (toString n) :=
    octets_append _ _
  rw [happend, hname]
  simp

/-- Every header of an error is a row of its own. -/
theorem headerLines_rows (n : Nat) :
    ∀ row ∈ (headerLines n).map octets, row ≠ [] ∧ cr ∉ row ∧ lf ∉ row := by
  intro row hrow
  obtain ⟨m, hm, rfl⟩ := List.mem_map.1 hrow
  rw [headerLines, List.mem_cons, List.mem_cons, List.mem_singleton] at hm
  rcases hm with rfl | rfl | rfl
  · exact ⟨by decide, not_mem_octets (by decide)⟩
  · refine ⟨?_, not_mem_octets (oneLine_lengthLine n)⟩
    rw [octets_lengthLine]
    exact List.append_ne_nil_of_right_ne_nil _ (List.cons_ne_nil _ _)
  · exact ⟨by decide, not_mem_octets (by decide)⟩

/-! ### The length that it gives -/

/-- A number that was written is read back. -/
theorem read?_write (n : Nat) : Decimal.read? (Decimal.write n) = some n := by
  have hdigits : (Decimal.write n).all Char.isDigit = true :=
    List.all_eq_true.2 fun c => Decimal.isDigit_of_mem_write
  have hsome : (Decimal.write n).isEmpty = false := List.isEmpty_eq_false_iff.2 Nat.toDigits_ne_nil
  rw [Decimal.read?, hsome, hdigits, Bool.not_true, Bool.or_self, if_neg Bool.false_ne_true,
    Target.digitsValue_eq]
  exact congrArg some Nat.ofDigitChars_ten_toDigits

/-- The digits of a number are octets of their own, and no blanks. -/
theorem octets_toString (n : Nat) :
    asciiText (octets (toString n)) = Decimal.write n ∧
      ∀ b ∈ octets (toString n), isPad b = false := by
  have hall : ∀ m : Fin 128, (Char.ofNat m).isDigit = true → isPad (UInt8.ofNat m) = false := by
    decide
  have hsmall : ∀ c ∈ Decimal.write n, c.toNat < 128 := by
    intro c hc
    have hdigit := Decimal.isDigit_of_mem_write hc
    simp only [Char.isDigit, Bool.and_eq_true, decide_eq_true_eq] at hdigit
    exact Nat.lt_of_le_of_lt (UInt32.le_iff_toNat_le.1 hdigit.2) (by decide)
  have hoctets : octets (toString n) = (Decimal.write n).map fun c => UInt8.ofNat c.toNat := by
    show Utf8.encode n.repr.toList = _
    rw [Nat.toList_repr]
    exact Utf8.encode_of_ascii hsmall
  rw [hoctets]
  refine ⟨RequestHead.asciiText_map hsmall, fun b hb => ?_⟩
  obtain ⟨c, hc, rfl⟩ := List.mem_map.1 hb
  refine hall ⟨c.toNat, hsmall c hc⟩ ?_
  rw [show Char.ofNat c.toNat = c from c.ofNat_toNat]
  exact Decimal.isDigit_of_mem_write hc

/-- The header in a line that gives a length. -/
theorem header?_lengthLine (n : Nat) :
    header? (octets (lengthLine n)) = some ⟨ascii "Content-Length", octets (toString n)⟩ := by
  have hname : ∀ b ∈ ascii "Content-Length", (b != colon) = true := List.all_eq_true.1 rfl
  obtain ⟨htake, hdrop⟩ := Text.row_append_cons hname (bne_self_eq_false colon)
    ([RequestHead.sp] ++ octets (toString n) ++ [])
  obtain ⟨-, hpad⟩ := octets_toString n
  have hvalue : trimPadEnd (([RequestHead.sp] ++ octets (toString n) ++ []).dropWhile isPad) =
      octets (toString n) := by
    rw [RequestHead.trim_append (List.all_eq_true.1 rfl) fun _ h => absurd h List.not_mem_nil]
    have hfront : (octets (toString n)).dropWhile isPad = octets (toString n) :=
      List.dropWhile_eq_self_iff.2 fun hlt => by rw [hpad _ (List.getElem_mem hlt)]; decide
    rw [hfront]
    exact List.rdropWhile_eq_self_iff.2 fun hne => by rw [hpad _ (List.getLast_mem hne)]; decide
  rw [octets_lengthLine, header?, htake, hdrop]
  show some (⟨_, trimPadEnd _⟩ : Header) = _
  rw [hvalue]

/-- The number in a line that gives a length is read back. -/
theorem lengthOf?_lengthLine (n : Nat) : lengthOf? (octets (lengthLine n)) = some (some n) := by
  rw [lengthOf?, header?_lengthLine]
  show some (Decimal.read? (asciiText (octets (toString n)))) = _
  rw [(octets_toString n).1, read?_write]

/-- The first line gives no length, whatever the reason says. -/
theorem lengthOf?_statusLine (code : Nat) (reason : String) :
    lengthOf? (octets (statusLine code reason)) = none := by
  -- Its name, if it has one, begins with the name of the protocol.
  have hname (rest value : Bytes) :
      isLength ⟨(0x48 :: rest).takeWhile (· != colon), value⟩ = false := rfl
  obtain ⟨rest, hrest⟩ : ∃ rest, octets (statusLine code reason) = 0x48 :: rest :=
    ⟨octets s!"TTP/1.1 {code} {reason}", by simp only [statusLine, octets_append]; rfl⟩
  rw [hrest, lengthOf?, header?]
  split
  · rfl
  · rename_i h hsome
    split at hsome
    · cases hsome
    · cases hsome
      rw [hname, if_neg Bool.false_ne_true]

/-- The head of an error answer gives one length. -/
theorem lengths_headOctets (code : Nat) (h : Text.OneLine (text reason)) :
    lines (headOctets code reason n) =
        octets (statusLine code reason) :: (headerLines n).map octets ∧
      lengths (headOctets code reason n) = [some n] := by
  have hlines := lines_joined (not_mem_octets (oneLine_statusLine code h)).1 fun row hrow =>
    (headerLines_rows n row hrow).2.1
  refine ⟨hlines, ?_⟩
  rw [lengths, headOctets, hlines, List.filterMap_cons_none (lengthOf?_statusLine code reason)]
  show List.filterMap lengthOf? [_, _, _] = _
  rw [List.filterMap_cons_none (by decide), List.filterMap_cons_some (lengthOf?_lengthLine n),
    List.filterMap_cons_none (by decide), List.filterMap_nil]

end Answers

/-! ### Responses that tell their end -/

/-- A response tells by itself where it ends, and `body` is its body. -/
structure SelfDelimited (response body : Bytes) : Prop where
  /-- The first empty line ends the head.  The head has one line that gives a length, which is that
      of the body, and no line of it is broken.  Behind the head comes the body and nothing else. -/
  framed : ∃ head, cutAt? blankLine response = some (head, body) ∧
    lengths head = [some body.length] ∧ ∀ line ∈ lines head, cr ∉ line ∧ lf ∉ line
  /-- Whatever comes behind it does not show in what is received. -/
  ends : ∀ behind, receive? (response ++ behind) = some (body, behind)
  /-- Nothing is received from a part of it. -/
  whole : ∀ front, front <+: response → front ≠ response → receive? front = none

section Delimited

variable {bs body behind : Bytes}

/-- What comes behind a response does not change what is received. -/
theorem receive?_append (h : receive? bs = some (body, behind)) (more : Bytes) :
    receive? (bs ++ more) = some (body, behind ++ more) := by
  unfold receive? at h ⊢
  -- The head is cut off at the same place, and its length counts the same octets.
  cases hcut : cutAt? blankLine bs with
  | none =>
    rw [hcut] at h
    cases h
  | some cut =>
    obtain ⟨head, rest⟩ := cut
    rw [hcut] at h
    rw [cutAt?_append (by decide) hcut]
    dsimp only at h ⊢
    split at h
    · rename_i n _
      by_cases hle : n ≤ rest.length
      · rw [if_pos hle] at h
        cases h
        rw [if_pos (by rw [List.length_append]; omega), List.take_append_of_le_length hle,
          List.drop_append_of_le_length hle]
      · rw [if_neg hle] at h
        cases h
    · cases h

/-- A response whose head gives the length of what is behind it tells its own end. -/
theorem selfDelimited_of_framed {response head : Bytes}
    (hcut : cutAt? blankLine response = some (head, body))
    (hlengths : lengths head = [some body.length])
    (hlines : ∀ line ∈ lines head, cr ∉ line ∧ lf ∉ line) : SelfDelimited response body := by
  have hreceive : receive? response = some (body, []) := by
    rw [receive?, hcut]
    dsimp only
    rw [hlengths]
    dsimp only
    rw [if_pos (Nat.le_refl _), List.take_length, List.drop_length]
  refine ⟨⟨head, hcut, hlengths, hlines⟩, fun behind => receive?_append hreceive behind, ?_⟩
  rintro front ⟨rest, rfl⟩ hne
  -- What were received from a part would be received with the rest behind it.
  cases hfront : receive? front with
  | none => rfl
  | some received =>
    obtain ⟨received, behind'⟩ := received
    have hmore := receive?_append hfront rest
    rw [hreceive] at hmore
    simp only [Option.some.injEq, Prod.mk.injEq] at hmore
    have hrest : rest = [] := (List.append_eq_nil_iff.1 hmore.2.symm).2
    exact absurd (by rw [hrest, List.append_nil]) hne

/-- **Every error answer** tells by itself where it ends: with a reason on one line and any body. -/
theorem selfDelimited_error (code : Nat) (reason body : String)
    (hreason : Text.OneLine (text reason)) :
    SelfDelimited (error code reason body) (octets body) := by
  obtain ⟨hlines, hlengths⟩ := lengths_headOctets (n := (octets body).length) code hreason
  have hstatus := not_mem_octets (oneLine_statusLine code hreason)
  refine selfDelimited_of_framed ?_ hlengths fun line hline => ?_
  · rw [error, octets_errorHead, List.append_assoc]
    exact cutAt?_joined hstatus.1
      (fun row hrow => ⟨(headerLines_rows _ row hrow).1, (headerLines_rows _ row hrow).2.1⟩) _
  · rw [hlines, List.mem_cons] at hline
    rcases hline with rfl | hline
    · exact hstatus
    · exact (headerLines_rows _ line hline).2

end Delimited

end ForwardProxy.Response
