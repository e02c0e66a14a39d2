import ForwardProxy.Duration
import ForwardProxy.Proofs.Address.Digits
import ForwardProxy.Proofs.Text.Utf8
import ForwardProxy.Text.Quoted

namespace ForwardProxy

namespace Text

/-!
# Texts on one line

A text is on one line if neither a line feed nor a carriage return stands in it.  What the program
writes of its own accord is: numbers, durations, addresses and whatever it puts in quotes.

* `OneLine` — there is no line break in a text.
* `oneLine_append`, `oneLine_of_forall` — texts put together, and texts of characters of one kind.
* `oneLine_iff_octets` — a text is on one line if its octets are.
* `oneLine_concat`, `oneLine_literal` — messages that are put together, and what they are made of.
* `oneLine_write`, `oneLine_describe` — numbers and durations.
* `oneLine_quote` — quotes leave no line break, whatever stands in them.
-/

/-- No line break stands in a text. -/
def OneLine (s : Text) : Prop := '\n' ∉ s ∧ '\r' ∉ s

instance (s : Text) : Decidable (OneLine s) := inferInstanceAs (Decidable (_ ∧ _))

variable {a b s : Text}

/-- The empty text is one line. -/
theorem oneLine_nil : OneLine [] := ⟨nofun, nofun⟩

/-- Two texts make one line exactly if both are. -/
theorem oneLine_append : OneLine (a ++ b) ↔ OneLine a ∧ OneLine b := by
  simp only [OneLine, List.mem_append, not_or]
  exact and_and_and_comm

/-- A text made of characters of another text is on one line if that is. -/
theorem OneLine.of_subset (h : OneLine b) (hsub : a ⊆ b) : OneLine a :=
  ⟨mt (@hsub _) h.1, mt (@hsub _) h.2⟩

/-- A text of characters of one kind, to which line breaks do not belong. -/
theorem oneLine_of_forall {p : Char → Bool} (hs : ∀ c ∈ s, p c = true) (hlf : p '\n' = false)
    (hcr : p '\r' = false) : OneLine s := by
  refine ⟨fun hmem => ?_, fun hmem => ?_⟩
  · exact absurd (hs _ hmem) (by rw [hlf]; exact Bool.false_ne_true)
  · exact absurd (hs _ hmem) (by rw [hcr]; exact Bool.false_ne_true)

/-- Texts that are one line each make one line. -/
theorem oneLine_flatMap {α : Type} {xs : List α} {f : α → Text} (h : ∀ x ∈ xs, OneLine (f x)) :
    OneLine (xs.flatMap f) := by
  refine ⟨fun hmem => ?_, fun hmem => ?_⟩ <;> obtain ⟨x, hx, hc⟩ := List.mem_flatMap.1 hmem
  · exact (h x hx).1 hc
  · exact (h x hx).2 hc

/-- Texts put together by a separator. -/
theorem oneLine_intercalate {ls : List Text} (hsep : OneLine a) (h : ∀ l ∈ ls, OneLine l) :
    OneLine (a.intercalate ls) := by
  induction ls with
  | nil => exact oneLine_nil
  | cons l ls ih =>
    have hl := h l List.mem_cons_self
    cases ls with
    | nil => rwa [List.intercalate_singleton]
    | cons m ls =>
      rw [List.intercalate_cons_cons, oneLine_append, oneLine_append]
      exact ⟨⟨hl, hsep⟩, ih fun l' hl' => h l' (List.mem_cons_of_mem l hl')⟩

/-- A text is on one line if its octets are. -/
theorem oneLine_iff_octets : OneLine s ↔ lf ∉ Utf8.encode s ∧ cr ∉ Utf8.encode s := by
  have hlf : lf ∈ Utf8.encode s ↔ '\n' ∈ s := Utf8.mem_encode_iff (c := '\n') (by decide)
  have hcr : cr ∈ Utf8.encode s ↔ '\r' ∈ s := Utf8.mem_encode_iff (c := '\r') (by decide)
  rw [OneLine, hlf, hcr]

/-! ### Messages -/

/-- A message is on one line if its octets are, which are at hand where its characters are not: a
    whole table of messages can be told so at once. -/
theorem oneLine_of_octets {m : String}
    (h : (m.toByteArray.data.toList.all fun b => b != lf && b != cr) = true) :
    OneLine (text m) := by
  have hbytes : m.toByteArray.data.toList = Utf8.encode (text m) := by
    have hencode : m.toByteArray = (text m).utf8Encode := by
      rw [← String.toByteArray_ofList, text, String.ofList_toList]
    rw [hencode, List.utf8Encode, List.data_toByteArray, Utf8.encode]
  rw [hbytes, List.all_eq_true] at h
  refine oneLine_iff_octets.2 ⟨fun hmem => ?_, fun hmem => ?_⟩
  · exact absurd (h lf hmem) (by decide)
  · exact absurd (h cr hmem) (by decide)

/-- A message is on one line if its parts are. -/
theorem oneLine_concat {m n : String} :
    OneLine (text (m ++ n)) ↔ OneLine (text m) ∧ OneLine (text n) := by
  rw [text, String.toList_append, oneLine_append]

/-- A message as a part of another one. -/
theorem oneLine_message {m : String} : OneLine (text (toString m)) ↔ OneLine (text m) := .rfl

/-- A text is one line exactly if it is so as part of a message. -/
theorem oneLine_ofList : OneLine (text (String.ofList s)) ↔ OneLine s := by
  rw [text, String.toList_ofList]

/-- A literal is on one line if its characters are told so one by one. -/
theorem oneLine_literal (h : (s.all fun c => c != '\n' && c != '\r') = true) :
    OneLine (text (String.ofList s)) :=
  oneLine_ofList.2 (oneLine_of_forall (List.all_eq_true.1 h) rfl rfl)

/-! ### Numbers and durations -/

/-- A number is one line. -/
theorem oneLine_write (n : Nat) : OneLine (Decimal.write n) :=
  oneLine_of_forall (fun _ => Decimal.isDigit_of_mem_write) rfl rfl

/-- A number in a message is one line. -/
theorem oneLine_toString (n : Nat) : OneLine (text (toString n)) := by
  show OneLine n.repr.toList
  rw [Nat.toList_repr]
  exact oneLine_write n

/-- A number with a fraction is one line. -/
theorem oneLine_withFraction (whole rest width : Nat) :
    OneLine (text (Duration.withFraction whole rest width)) := by
  have hpadded : OneLine (Duration.padded width rest) := by
    rw [Duration.padded, oneLine_append]
    refine ⟨oneLine_of_forall (p := (· == '0')) (fun c hc => ?_) rfl rfl, oneLine_write rest⟩
    exact beq_iff_eq.2 (List.eq_of_mem_replicate hc)
  have htail : OneLine (Duration.dropTrailingZeros (Duration.padded width rest)) :=
    hpadded.of_subset fun c hc =>
      List.mem_reverse.1 ((List.dropWhile_sublist _).subset (List.mem_reverse.1 hc))
  unfold Duration.withFraction
  dsimp only
  split
  · exact oneLine_toString whole
  · simp only [oneLine_concat, oneLine_message, oneLine_ofList, oneLine_toString, htail]
    decide

/-- **A duration** is told on one line. -/
theorem oneLine_describe (d : Nat) : OneLine (text (Duration.describe d)) := by
  unfold Duration.describe
  split
  · exact oneLine_concat.2 ⟨oneLine_withFraction _ _ _, by decide⟩
  · split
    · exact oneLine_concat.2 ⟨oneLine_withFraction _ _ _, by decide⟩
    · split
      · exact oneLine_concat.2 ⟨oneLine_withFraction _ _ _, by decide⟩
      · exact oneLine_concat.2 ⟨oneLine_toString d, by decide⟩

/-! ### Quoted texts -/

/-- Digits to the base sixteen are one line. -/
theorem oneLine_hexDigits (n : Nat) : OneLine (hexDigits n) := by
  refine oneLine_of_forall (p := fun c => (Address.digit? 16 c).isSome) (fun c hc => ?_) rfl rfl
  exact Address.isSome_digit?_of_mem (.inr rfl) hc

/-- **A text in quotes** is on one line, whatever it was before. -/
theorem oneLine_quote (s : Text) : OneLine (quote s) := by
  -- A line break is quoted by its escape, and whatever is shown as it stands is none.
  have hchar : ∀ c, OneLine (quoteChar c) := by
    intro c
    unfold quoteChar
    split
    · decide
    · decide
    · decide
    · decide
    · decide
    · decide
    · rename_i hcr hlf _
      split
      · exact ⟨fun h => hlf (List.mem_singleton.1 h).symm,
          fun h => hcr (List.mem_singleton.1 h).symm⟩
      · rw [oneLine_append, oneLine_append]
        exact ⟨⟨by decide, oneLine_hexDigits _⟩, by decide⟩
  rw [quote, oneLine_append, oneLine_append]
  exact ⟨⟨by decide, oneLine_flatMap fun c _ => hchar c⟩, by decide⟩

end Text

end ForwardProxy
