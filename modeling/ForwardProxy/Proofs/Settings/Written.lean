import ForwardProxy.Proofs.Json.Numbers
import ForwardProxy.Proofs.Json.Strings
import ForwardProxy.Proofs.Settings.InForce
import Mathlib.Data.List.Nodup
import Mathlib.Data.List.TakeWhile

namespace ForwardProxy.Overrides

open Json

/-!
# Settings files that are read back

An object of settings may have its members in any order, white space between all of its tokens and
its names spelled as strings may be; a member without a number is `null`.

* `WrittenObject` — such an object; `WrittenObject.assigned` is what it assigns.
* `fromJson_written` — it is read back.
* `Spoils` — what no such object may go on with: a name that is no setting's, a name for the second
  time, and a value that is no whole number below 2^64.
* `settings_of_written` — what starting with a file comes to.
-/

/-! ### Objects that are written -/

/-- White space between two tokens. -/
abbrev Blanks : Type := { bs : Bytes // ∀ b ∈ bs, isBlank b = true }

/-- A member of an object, and how it is written. -/
structure WrittenMember where
  field : Setting
  name : List WrittenChar
  /-- The number that the member assigns; without one it is `null`. -/
  value : Option Nat
  before : Blanks
  behindName : Blanks
  beforeValue : Blanks
  behind : Blanks
  name_key : textOf name = text field.key
  /-- The number is below 2^64. -/
  value_lt : ∀ n ∈ value, n < 0x10000000000000000

/-- The octets of a name with its quotes. -/
def nameOctets (name : List WrittenChar) : Bytes := octet '"' :: octetsOf name ++ [octet '"']

/-- The octets of a value. -/
def valueOctets : Option Nat → Bytes
  | some n => decimal n
  | none => ascii "null"

/-- The octets of a member. -/
def WrittenMember.octets (m : WrittenMember) : Bytes :=
  m.before.1 ++ nameOctets m.name ++ m.behindName.1 ++ octet ':' ::
    (m.beforeValue.1 ++ valueOctets m.value ++ m.behind.1)

/-- What separates a member from the one in front of it. -/
def separator (first : Bool) : Bytes := if first then [] else [octet ',']

/-- The octets of some members; `first` tells whether they are the first ones. -/
def membersOctets : (first : Bool) → List WrittenMember → Bytes
  | _, [] => []
  | first, m :: ms => separator first ++ m.octets ++ membersOctets false ms

/-- An object of settings, each at most once, and how it is written. -/
structure WrittenObject where
  lead : Blanks
  members : List WrittenMember
  inner : Blanks
  behind : Blanks
  distinct : (members.map WrittenMember.field).Nodup

namespace WrittenObject

/-- The octets of the object up to the end of its last member. -/
def opening (w : WrittenObject) : Bytes :=
  w.lead.1 ++ octet '{' :: membersOctets true w.members

/-- The octets of the object. -/
def octets (w : WrittenObject) : Bytes :=
  w.opening ++ w.inner.1 ++ octet '}' :: w.behind.1

/-- What the object assigns. -/
def assigned (w : WrittenObject) : Overrides :=
  fun f => (w.members.find? fun m => m.field = f).bind WrittenMember.value

end WrittenObject

/-! ### Tokens -/

variable {r : Bytes}

/-- Skipping white space leads to the first octet that is none. -/
theorem skipBlank_append (blanks : Blanks) {b : UInt8} (hb : isBlank b = false) :
    skipBlank (blanks.1 ++ b :: r) = b :: r := (Text.row_append_cons blanks.2 hb r).2

/-- White space in front is skipped with what follows it. -/
theorem skipBlank_blanks (blanks : Blanks) (r : Bytes) :
    skipBlank (blanks.1 ++ r) = skipBlank r := List.dropWhile_append_of_pos blanks.2

/-- A colon is found behind white space. -/
theorem colon_written (blanks : Blanks) : colon (blanks.1 ++ octet ':' :: r) = .ok r := by
  rw [colon, skipBlank_append blanks (by decide)]
  rfl

/-- A member is found behind its separator and white space. -/
theorem nextName_written (first : Bool) (blanks : Blanks) :
    nextName first (separator first ++ (blanks.1 ++ octet '"' :: r)) = .ok (some r) := by
  cases first with
  | true =>
    rw [separator, if_pos rfl, List.nil_append, nextName, skipBlank_append blanks (by decide)]
    rfl
  | false =>
    have hcomma : skipBlank (octet ',' :: (blanks.1 ++ octet '"' :: r)) =
        octet ',' :: (blanks.1 ++ octet '"' :: r) := rfl
    rw [separator, if_neg (by decide), List.singleton_append, nextName, hcomma]
    dsimp only
    rw [if_neg (by decide), if_neg (by decide), if_pos rfl, skipBlank_append blanks (by decide)]
    rfl

/-- The end of an object is found behind white space, so there is no further name. -/
theorem nextName_end (first : Bool) (blanks : Blanks) :
    nextName first (blanks.1 ++ octet '}' :: r) = .ok none := by
  rw [nextName, skipBlank_append blanks (by decide)]
  rfl

/-- A value that was written is read back behind white space: a natural number, or null. -/
theorem value_written (wanted : String) (blanks : Blanks) {v : Option Nat}
    (hv : ∀ n ∈ v, n < 0x10000000000000000) (hr : Ends r) :
    value wanted (blanks.1 ++ (valueOctets v ++ r)) = .ok (v, r) := by
  cases v with
  | none =>
    show value wanted (blanks.1 ++ octet 'n' :: (ascii "ull" ++ r)) = _
    rw [value, skipBlank_append blanks (by decide)]
    rfl
  | some n =>
    obtain ⟨hdigits, -, d, ds, hcons, -⟩ := decimal_spec n
    have hdigit : isDigit d = true := hdigits d (hcons ▸ List.mem_cons_self)
    have hread := number_decimal (Nat.le_of_lt_succ (hv n rfl)) hr
    show value wanted (blanks.1 ++ (decimal n ++ r)) = _
    rw [hcons, List.cons_append] at hread ⊢
    rw [value, skipBlank_append blanks (isBlank_of_isDigit hdigit)]
    dsimp only
    rw [if_neg (ne_of_isDigit hdigit (by decide)), if_neg (ne_of_isDigit hdigit (by decide)),
      if_pos hdigit, hread]
    rfl

/-! ### Members -/

variable {missing : List Setting} {first : Bool} {given : Overrides}

/-- What follows a member: white space, the next member or the end of the object. -/
def Follows (r : Bytes) : Prop :=
  ∃ b rest, r = b :: rest ∧ (isBlank b = true ∨ b = octet ',' ∨ b = octet '}')

/-- What follows a member ends a number. -/
theorem Follows.ends (h : Follows r) : Ends r := by
  obtain ⟨b, rest, rfl, hb⟩ := h
  intro c hc
  cases hc
  have hall : ∀ b : UInt8, (isBlank b = true ∨ b = octet ',' ∨ b = octet '}') →
      isDigit b = false ∧ b ≠ octet '.' ∧ b ≠ octet 'e' ∧ b ≠ octet 'E' := by
    intro b hb
    simp only [isBlank, Bool.or_eq_true, beq_iff_eq] at hb
    rcases hb with (((rfl | rfl) | rfl) | rfl) | rfl | rfl <;> decide
  exact hall b hb

/-- White space in front of what follows a member follows it too. -/
theorem Follows.append (blanks : Blanks) (h : Follows r) : Follows (blanks.1 ++ r) := by
  obtain ⟨bs, hbs⟩ := blanks
  cases bs with
  | nil => exact h
  | cons b bs => exact ⟨b, bs ++ r, rfl, .inl (hbs b List.mem_cons_self)⟩

/-- Where a name was written, the members go on with it. -/
theorem members_nameOctets (blanks : Blanks) (name : List WrittenChar) (more : Bytes) :
    members missing first given
        (separator first ++ (blanks.1 ++ nameOctets name ++ more)) =
      match Setting.ofKey? (textOf name) with
      | none => .error (.loose (.unknownField (textOf name) (Setting.all.map Setting.key)) more)
      | some f =>
        if f ∈ missing then
          match colon more with
          | .error slip => .error (.placed slip)
          | .ok r =>
            match value f.unitName r with
            | .error slip => .error (.placed slip)
            | .ok (v, r) => members (missing.erase f) false (given.set f v) r
        else .error (.loose (.repeatedField f.key) more) := by
  have hshape : blanks.1 ++ nameOctets name ++ more =
      blanks.1 ++ octet '"' :: (octetsOf name ++ octet '"' :: more) := by simp [nameOctets]
  rw [hshape, members, nextName_written]
  dsimp only
  rw [string_written]
  rfl

/-- A setting is found by its key. -/
theorem ofKey?_key (f : Setting) : Setting.ofKey? (text f.key) = some f := by
  cases f <;> decide

/-- A name that is the key of no setting finds none. -/
theorem ofKey?_eq_none {name : Text} (h : ∀ f : Setting, name ≠ text f.key) :
    Setting.ofKey? name = none := by
  rw [Setting.ofKey?, List.find?_eq_none]
  intro f _ hf
  exact h f (beq_iff_eq.1 hf).symm

/-- White space in front of a member or the end is passed over. -/
theorem members_blanks (blanks : Blanks) (r : Bytes) :
    members missing first given (blanks.1 ++ r) = members missing first given r := by
  have hname : nextName first (blanks.1 ++ r) = nextName first r := by
    rw [nextName, nextName, skipBlank_blanks]
  rw [members, members.eq_def _ _ _ r, hname, skipBlank_blanks]

/-- **A member** that was written is read, and the members go on behind it. -/
theorem members_written (m : WrittenMember) (hmissing : m.field ∈ missing) (hr : Follows r) :
    members missing first given (separator first ++ m.octets ++ r) =
      members (missing.erase m.field) false (given.set m.field m.value) r := by
  have hshape : separator first ++ m.octets ++ r = separator first ++ (m.before.1 ++
      nameOctets m.name ++ (m.behindName.1 ++ octet ':' ::
        (m.beforeValue.1 ++ (valueOctets m.value ++ (m.behind.1 ++ r))))) := by
    simp [WrittenMember.octets]
  rw [hshape, members_nameOctets, m.name_key, ofKey?_key]
  dsimp only
  rw [if_pos hmissing, colon_written]
  dsimp only
  rw [value_written _ m.beforeValue m.value_lt (hr.append m.behind).ends]
  exact members_blanks m.behind r

/-- The overrides after some members. -/
def assign (given : Overrides) (ms : List WrittenMember) : Overrides :=
  ms.foldl (fun o m => o.set m.field m.value) given

/-- What may follow the members of an object, if there are any. -/
theorem follows_members {ms : List WrittenMember} (hr : Follows r) :
    Follows (membersOctets false ms ++ r) := by
  cases ms with
  | nil => exact hr
  | cons m ms =>
    exact ⟨octet ',', m.octets ++ membersOctets false ms ++ r, by
      simp [membersOctets, separator], .inr (.inl rfl)⟩

/-- **Members** that were written are read in their order, and what is missing is less by them. -/
theorem members_membersOctets (missing : List Setting) (first : Bool) (given : Overrides)
    {ms : List WrittenMember} (hmissing : ∀ m ∈ ms, m.field ∈ missing) (hnodup : missing.Nodup)
    (hdistinct : (ms.map WrittenMember.field).Nodup) (hr : ms ≠ [] → Follows r) :
    ∃ missing', (∀ f, f ∈ missing' ↔ f ∈ missing ∧ f ∉ ms.map WrittenMember.field) ∧
      members missing first given (membersOctets first ms ++ r) =
        members missing' (first && ms.isEmpty) (assign given ms) r := by
  -- Member by member: each one is taken off the settings that are still missing, so none can come
  -- twice.
  induction ms generalizing missing first given with
  | nil => exact ⟨missing, fun f => by simp, by rw [List.isEmpty_nil, Bool.and_true]; rfl⟩
  | cons m ms ih =>
    obtain ⟨hm, hms⟩ := List.forall_mem_cons.1 hmissing
    obtain ⟨hnew, hdistinct⟩ := List.nodup_cons.1 hdistinct
    have hr' : Follows r := hr (List.cons_ne_nil m ms)
    obtain ⟨missing', hmissing', hread⟩ := ih (missing.erase m.field) false
      (given.set m.field m.value)
      (fun k hk => (List.mem_erase_of_ne fun heq =>
        hnew (List.mem_map.2 ⟨k, hk, heq⟩)).2 (hms k hk))
      (hnodup.erase m.field) hdistinct fun _ => hr'
    refine ⟨missing', fun f => ?_, ?_⟩
    · rw [hmissing', hnodup.mem_erase_iff, List.map_cons, List.mem_cons]
      tauto
    · rw [membersOctets, List.append_assoc, members_written m hm (follows_members hr'),
        hread]
      simp [assign]

/-! ### Whole objects -/

/-- Where an object begins, its members are read. -/
theorem body_members (lead : Blanks) :
    body (lead.1 ++ octet '{' :: r) = closed objectEnd (members Setting.all true empty r) := by
  rw [body, skipBlank_append lead (by decide)]
  rfl

/-- The overrides that distinct members assign are those found among them. -/
theorem assign_eq {ms : List WrittenMember} (hdistinct : (ms.map WrittenMember.field).Nodup)
    (given : Overrides) (f : Setting) :
    assign given ms f =
      match ms.find? fun m => m.field = f with
      | some m => m.value
      | none => given f := by
  -- The settings are distinct, so later members do not touch what an earlier one has assigned.
  induction ms generalizing given with
  | nil => rfl
  | cons m ms ih =>
    obtain ⟨hnew, hdistinct⟩ := List.nodup_cons.1 hdistinct
    show assign (given.set m.field m.value) ms f = _
    rw [ih hdistinct, List.find?_cons]
    by_cases hf : m.field = f
    · have hnone : (ms.find? fun m => decide (m.field = f)) = none := by
        rw [List.find?_eq_none]
        intro k hk heq
        exact hnew (List.mem_map.2 ⟨k, hk, (of_decide_eq_true heq).trans hf.symm⟩)
      rw [hnone, decide_eq_true hf]
      simp [set, hf]
    · rw [decide_eq_false hf]
      dsimp only
      cases ms.find? fun m => decide (m.field = f) with
      | some k => rfl
      | none => exact if_neg (Ne.symm hf)

namespace WrittenObject

/-- What the object opens with is read, and its members may go on. -/
theorem body_opening (w : WrittenObject) (hr : w.members ≠ [] → Follows r) :
    ∃ missing, (∀ f, f ∈ missing ↔ f ∉ w.members.map WrittenMember.field) ∧
      body (w.opening ++ r) =
        closed objectEnd (Overrides.members missing w.members.isEmpty w.assigned r) := by
  obtain ⟨missing, hmissing, hread⟩ := members_membersOctets Setting.all true empty
    (fun m _ => Setting.mem_all m.field) (by decide : Setting.all.Nodup) w.distinct hr
  refine ⟨missing, fun f => by simp [hmissing, Setting.mem_all], ?_⟩
  have hassigned : assign empty w.members = w.assigned := by
    funext f
    rw [assign_eq w.distinct, assigned]
    cases w.members.find? fun m => decide (m.field = f) <;> rfl
  rw [opening, List.append_assoc, List.cons_append, body_members, hread, hassigned, Bool.true_and]

end WrittenObject

/-- **An object of settings** that was written is read back. -/
theorem fromJson_written (w : WrittenObject) : fromJson w.octets = .ok w.assigned := by
  have hfollows : Follows (w.inner.1 ++ octet '}' :: w.behind.1) :=
    Follows.append w.inner ⟨octet '}', w.behind.1, rfl, .inr (.inr rfl)⟩
  obtain ⟨missing, -, hbody⟩ := w.body_opening fun _ => hfollows
  have hshape : w.octets = w.opening ++ (w.inner.1 ++ octet '}' :: w.behind.1) :=
    List.append_assoc _ _ _
  have hmembers : members missing w.members.isEmpty w.assigned
      (w.inner.1 ++ octet '}' :: w.behind.1) = .ok (w.assigned, octet '}' :: w.behind.1) := by
    rw [members, nextName_end]
    dsimp only
    rw [skipBlank_append w.inner (by decide)]
  have hend : objectEnd (octet '}' :: w.behind.1) = (w.behind.1, none) := rfl
  -- Behind the object there is white space only, so the whole text is the object.
  have hnothing : skipBlank w.behind.1 = [] := List.dropWhile_eq_nil_iff.2 w.behind.2
  have hread : ofJson w.octets = .ok w.assigned := by
    rw [ofJson, hshape, hbody, hmembers, closed]
    dsimp only
    rw [hend]
    dsimp only
    rw [hnothing]
    rfl
  rw [fromJson, hread]

/-! ### What an object assigns -/

namespace WrittenObject

/-- The object assigns just these values: its members are those of the settings that have one, and
    any with `null`. -/
def Writes (w : WrittenObject) (a : Overrides) : Prop :=
  ∀ f n, a f = some n ↔ ∃ m ∈ w.members, m.field = f ∧ m.value = some n

/-- The order of the members does not matter. -/
theorem assigned_eq_of_writes {w : WrittenObject} {a : Overrides} (h : w.Writes a) :
    w.assigned = a := by
  -- As the settings are distinct, the member found for a setting is the one that names it.
  have hmember : ∀ m ∈ w.members, w.assigned m.field = m.value := by
    intro m hm
    rw [assigned]
    cases hfind : w.members.find? fun k => decide (k.field = m.field) with
    | none => exact absurd (List.find?_eq_none.1 hfind m hm) (by simp)
    | some k =>
      have hfield : k.field = m.field := of_decide_eq_true (List.find?_some hfind :)
      exact congrArg WrittenMember.value
        (List.inj_on_of_nodup_map w.distinct (List.mem_of_find?_eq_some hfind) hm hfield)
  funext f
  refine Option.ext fun n => ?_
  rw [h]
  constructor
  · intro hassigned
    obtain ⟨m, hfind, hvalue⟩ := Option.bind_eq_some_iff.1 hassigned
    exact ⟨m, List.mem_of_find?_eq_some hfind, of_decide_eq_true (List.find?_some hfind :), hvalue⟩
  · rintro ⟨m, hm, rfl, hvalue⟩
    rw [hmember m hm, hvalue]

/-- **Every assignment** of numbers below 2^64 may be written. -/
theorem exists_writes {a : Overrides} (h : ∀ f n, a f = some n → n < 0x10000000000000000) :
    ∃ w : WrittenObject, w.Writes a := by
  let gap : Blanks := ⟨[], nofun⟩
  let member (f : Setting) : WrittenMember :=
    ⟨f, (text f.key).map WrittenChar.ofChar, a f, gap, gap, gap, gap, textOf_map_ofChar _, h f⟩
  have hfields : (Setting.all.map member).map WrittenMember.field = Setting.all := by
    rw [List.map_map]
    exact List.map_id _
  have hdistinct : ((Setting.all.map member).map WrittenMember.field).Nodup := by
    rw [hfields]
    decide
  refine ⟨⟨gap, Setting.all.map member, gap, gap, hdistinct⟩, fun f n => ?_⟩
  constructor
  · exact fun hn => ⟨member f, List.mem_map_of_mem (Setting.mem_all f), rfl, hn⟩
  · rintro ⟨m, hm, rfl, hn⟩
    obtain ⟨f, -, rfl⟩ := List.mem_map.1 hm
    exact hn

end WrittenObject

/-! ### It is text -/

/-- White space is text. -/
theorem valid_blanks (blanks : Blanks) : Utf8.Valid blanks.1 := by
  refine Utf8.valid_of_lt fun b hb => ?_
  have hblank := blanks.2 b hb
  simp only [isBlank, Bool.or_eq_true, beq_iff_eq] at hblank
  rcases hblank with ((rfl | rfl) | rfl) | rfl <;> decide

/-- The octets of a value are text. -/
theorem valid_valueOctets (v : Option Nat) : Utf8.Valid (valueOctets v) := by
  cases v with
  | some n => exact Utf8.valid_of_lt fun b hb => toNat_lt_of_mem_decimal hb
  | none => exact Utf8.valid_of_all rfl

/-- The octets of a member are text. -/
theorem WrittenMember.valid_octets (m : WrittenMember) : Utf8.Valid m.octets := by
  have hname : Utf8.Valid (nameOctets m.name) :=
    Utf8.valid_cons (by decide) ((valid_octetsOf m.name).append (Utf8.valid_of_all rfl))
  have hvalue : Utf8.Valid (m.beforeValue.1 ++ valueOctets m.value ++ m.behind.1) :=
    ((valid_blanks _).append (valid_valueOctets _)).append (valid_blanks _)
  exact (((valid_blanks _).append hname).append (valid_blanks _)).append
    (Utf8.valid_cons (by decide) hvalue)

/-- The octets of members are text. -/
theorem valid_membersOctets (first : Bool) (ms : List WrittenMember) :
    Utf8.Valid (membersOctets first ms) := by
  induction ms generalizing first with
  | nil => exact ⟨[], rfl⟩
  | cons m ms ih =>
    have hseparator : Utf8.Valid (separator first) := by
      cases first <;> exact Utf8.valid_of_all rfl
    exact (hseparator.append m.valid_octets).append (ih false)

/-- An object of settings that was written is text, so a file that holds it is read. -/
theorem load_written (w : WrittenObject) (path : Text) :
    load path (.ok w.octets) = .ok w.assigned := by
  have hvalid : Utf8.Valid w.octets :=
    ((Utf8.Valid.append (valid_blanks _) (Utf8.valid_cons (by decide)
      (valid_membersOctets true w.members))).append (valid_blanks _)).append
      (Utf8.valid_cons (by decide) (valid_blanks _))
  rw [load, if_pos hvalid.isSome_decode?, fromJson_written]

/-! ### What spoils an object -/

/-- The beginning of a value that no setting takes. -/
inductive Unfit : Bytes → Prop where
  | negative (more : Bytes) : Unfit (octet '-' :: more)
  | string (more : Bytes) : Unfit (octet '"' :: more)
  /-- A number with a fraction or an exponent. -/
  | fraction (ds : Bytes) (c : Char) (more : Bytes) (digits : ∀ b ∈ ds, isDigit b = true)
    (mark : c = '.' ∨ c = 'e' ∨ c = 'E') : Unfit (ds ++ octet c :: more)
  /-- A whole number from 2^64 on. -/
  | large (ds more : Bytes) (digits : ∀ b ∈ ds, isDigit b = true)
    (large : 0x10000000000000000 ≤ rowValue 0 ds) : Unfit (ds ++ more)
  /-- A list, an object, `true` or `false`. -/
  | other (c : Char) (more : Bytes) (opening : c ∈ ['[', '{', 't', 'f']) : Unfit (octet c :: more)

/-- What an object may not go on with behind some members: a member that no setting has, a setting
    once more, or a value that none takes. -/
inductive Spoils (w : WrittenObject) : Bytes → Prop where
  | unknown (blanks : Blanks) (name : List WrittenChar) (more : Bytes)
    (unknown : ∀ f : Setting, textOf name ≠ text f.key) :
    Spoils w (separator w.members.isEmpty ++ (blanks.1 ++ nameOctets name ++ more))
  | repeated (blanks : Blanks) (name : List WrittenChar) (m : WrittenMember) (more : Bytes)
    (member : m ∈ w.members) (again : textOf name = text m.field.key) :
    Spoils w (separator w.members.isEmpty ++ (blanks.1 ++ nameOctets name ++ more))
  | unfit (blanks : Blanks) (name : List WrittenChar) (f : Setting)
    (behindName beforeValue : Blanks) (value : Bytes) (known : textOf name = text f.key)
    (unfit : Unfit value) :
    Spoils w (separator w.members.isEmpty ++ (blanks.1 ++ nameOctets name ++
      (behindName.1 ++ octet ':' :: (beforeValue.1 ++ value))))

/-- A number that is not whole or below zero is no value. -/
theorem naturalOf_error (wanted : String) {n : Except Slip (Number × Bytes)} (h : NoNatural n) :
    ∃ slip, naturalOf wanted n = .error slip := by
  match n with
  | .error slip => exact ⟨slip, rfl⟩
  | .ok (.natural n, rest) => exact absurd rfl (h n rest)
  | .ok (.negative _, _) | .ok (.real _, _) => exact ⟨_, rfl⟩

/-- A value that begins with a digit is what number there is. -/
theorem value_of_digit (wanted : String) (blanks : Blanks) {d : UInt8} {ds : Bytes}
    (hd : isDigit d = true) :
    value wanted (blanks.1 ++ d :: ds) =
      (naturalOf wanted (number true (d :: ds))).map fun p => (some p.1, p.2) := by
  rw [value, skipBlank_append blanks (isBlank_of_isDigit hd)]
  dsimp only
  rw [if_neg (ne_of_isDigit hd (by decide)), if_neg (ne_of_isDigit hd (by decide)), if_pos hd]

/-- A value that begins with none of the octets of a number or of `null` is none. -/
theorem value_of_stray (wanted : String) (blanks : Blanks) {b : UInt8} {bs : Bytes}
    (hblank : isBlank b = false) (hnull : b ≠ octet 'n') (hminus : b ≠ octet '-')
    (hdigit : isDigit b = false) :
    ∃ slip, value wanted (blanks.1 ++ b :: bs) = .error slip := by
  rw [value, skipBlank_append blanks hblank]
  dsimp only
  rw [if_neg hnull, if_neg hminus, if_neg (by rw [hdigit]; decide)]
  exact ⟨_, rfl⟩

/-- A value that begins like a number and is no natural number is refused. -/
theorem value_of_noNatural (wanted : String) (blanks : Blanks) {d : UInt8} {ds : Bytes}
    (hd : isDigit d = true) (h : NoNatural (number true (d :: ds))) :
    ∃ slip, value wanted (blanks.1 ++ d :: ds) = .error slip := by
  obtain ⟨slip, hslip⟩ := naturalOf_error wanted h
  rw [value_of_digit wanted blanks hd, hslip]
  exact ⟨slip, rfl⟩

/-- **A value that no setting takes** is a flaw. -/
theorem value_unfit (wanted : String) (blanks : Blanks) {v : Bytes} (h : Unfit v) :
    ∃ slip, value wanted (blanks.1 ++ v) = .error slip := by
  cases h with
  | negative more =>
    have hnone : NoNatural (number false more) := fun n rest hn =>
      absurd (row_of_natural hn).1 (by decide)
    obtain ⟨slip, hslip⟩ := naturalOf_error wanted hnone
    rw [value, skipBlank_append blanks (by decide)]
    dsimp only
    rw [if_neg (by decide), if_pos rfl, hslip]
    exact ⟨slip, rfl⟩
  | string more =>
    exact value_of_stray wanted blanks (by decide) (by decide) (by decide) (by decide)
  | fraction ds c more hds hc =>
    cases ds with
    | nil =>
      rcases hc with rfl | rfl | rfl <;>
        exact value_of_stray wanted blanks (by decide) (by decide) (by decide) (by decide)
    | cons d ds =>
      exact value_of_noNatural wanted blanks (hds d List.mem_cons_self)
        (noNatural_of_fraction hds hc)
  | large ds more hds hlarge =>
    cases ds with
    | nil => exact absurd hlarge (by decide)
    | cons d ds =>
      exact value_of_noNatural wanted blanks (hds d List.mem_cons_self)
        (noNatural_of_large hds hlarge)
  | other c more hc =>
    simp only [List.mem_cons, List.not_mem_nil, or_false] at hc
    rcases hc with rfl | rfl | rfl | rfl <;>
      exact value_of_stray wanted blanks (by decide) (by decide) (by decide) (by decide)

/-- A flaw among the members is one of the file. -/
theorem fromJson_of_members_error {w : WrittenObject} (hr : w.members ≠ [] → Follows r)
    (h : ∀ missing : List Setting, (∀ f, f ∈ missing ↔ f ∉ w.members.map WrittenMember.field) →
      ∃ stop, members missing w.members.isEmpty w.assigned r = .error stop) :
    ∃ failure, fromJson (w.opening ++ r) = .error failure := by
  obtain ⟨missing, hmissing, hbody⟩ := w.body_opening hr
  obtain ⟨stop, hstop⟩ := h missing hmissing
  have hflaw : ∃ slip, body (w.opening ++ r) = .error slip := by
    rw [hbody, hstop]
    cases stop <;> exact ⟨_, rfl⟩
  obtain ⟨slip, hslip⟩ := hflaw
  rw [fromJson, ofJson, hslip]
  exact ⟨_, rfl⟩

/-- **A spoilt object** is no file of settings. -/
theorem fromJson_spoilt {w : WrittenObject} {bad : Bytes} (h : Spoils w bad) :
    ∃ failure, fromJson (w.opening ++ bad) = .error failure := by
  have hfollows : ∀ bs, w.members ≠ [] → Follows (separator w.members.isEmpty ++ bs) := by
    intro bs hne
    rw [List.isEmpty_eq_false_iff.2 hne]
    exact ⟨octet ',', bs, rfl, .inr (.inl rfl)⟩
  cases h with
  | unknown blanks name more hunknown =>
    refine fromJson_of_members_error (hfollows _) fun missing _ => ?_
    rw [members_nameOctets, ofKey?_eq_none hunknown]
    exact ⟨_, rfl⟩
  | repeated blanks name m more hm hagain =>
    refine fromJson_of_members_error (hfollows _) fun missing hmissing => ?_
    -- The setting was taken off the missing ones by its first member.
    have hgone : m.field ∉ missing := fun hin =>
      (hmissing m.field).1 hin (List.mem_map_of_mem hm)
    rw [members_nameOctets, hagain, ofKey?_key]
    dsimp only
    rw [if_neg hgone]
    exact ⟨_, rfl⟩
  | unfit blanks name f behindName beforeValue v hknown hunfit =>
    refine fromJson_of_members_error (hfollows _) fun missing _ => ?_
    obtain ⟨slip, hslip⟩ := value_unfit f.unitName beforeValue hunfit
    rw [members_nameOctets, hknown, ofKey?_key]
    dsimp only
    rw [colon_written]
    dsimp only
    rw [hslip]
    split <;> exact ⟨_, rfl⟩

/-! ### Starting with a file -/

/-- **Loading is exact and knows no order.**  Whatever numbers below 2^64 are assigned, and however
    they are written, they are read back, and the program starts just with them over the standard
    settings and with the silence of the command line over both, if these will do.  With an unknown
    or repeated member or an unfit value in it, no file is read, and the program does not start. -/
theorem settings_of_written :
    (∀ a : Overrides, (∀ f n, a f = some n → n < 0x10000000000000000) →
      ∃ w : WrittenObject, w.Writes a) ∧
    (∀ (w : WrittenObject) (a : Overrides), w.Writes a →
      fromJson w.octets = .ok a ∧
      ∀ (options : CommandLine.Options) (path : Text) (read : Text → Except Fault Bytes),
        options.config = some path → read path = .ok w.octets →
        ∀ s, options.settings read = .ok s ↔
          (∀ f, s.value f = a.inForce options.idleSeconds f) ∧
            Settings.Sensible (a.inForce options.idleSeconds)) ∧
    (∀ (w : WrittenObject) (bad : Bytes), Spoils w bad →
      (∃ failure, fromJson (w.opening ++ bad) = .error failure) ∧
      ∀ (options : CommandLine.Options) (path : Text) (read : Text → Except Fault Bytes),
        options.config = some path → read path = .ok (w.opening ++ bad) →
        ∃ failure, options.settings read = .error failure) := by
  refine ⟨fun a h => WrittenObject.exists_writes h, fun w a hw => ?_, fun w bad hbad => ?_⟩
  · have ha := WrittenObject.assigned_eq_of_writes hw
    refine ⟨ha ▸ fromJson_written w, fun options path read hpath hread s => ?_⟩
    refine CommandLine.Options.settings_eq_ok_iff hpath ?_ s
    rw [hread, load_written, ha]
  · obtain ⟨failure, hfailure⟩ := fromJson_spoilt hbad
    refine ⟨⟨failure, hfailure⟩, fun options path read hpath hread => ?_⟩
    have hload : ∃ failure, load path (read path) = .error failure := by
      rw [hread, load]
      split
      · exact ⟨failure, hfailure⟩
      · exact ⟨_, rfl⟩
    obtain ⟨failure, hload⟩ := hload
    exact ⟨_, CommandLine.Options.settings_of_load_error hpath hload⟩

/-- A silence of zero milliseconds in the file does no harm if the command line gives another one; a
    second one in the file does, even if it is `null`. -/
theorem settings_of_written_with_idle_seconds :
    ∃ w : WrittenObject,
      w.octets = ascii (" \x7b\"accept_backoff_max_ms\":2000 ,\n\"\\u0069dle_timeout_ms\" : 0," ++
        "\"peek_timeout_ms\":null\x7d\n") ∧
      w.Writes (fun f =>
        if f = .acceptBackoffMax then some 2000 else if f = .idleTimeout then some 0 else none) ∧
      (⟨CommandLine.Options.defaultListen, some (text "a"), some 7, false⟩ :
          CommandLine.Options).settings (fun _ => .ok w.octets) =
        .ok { Settings.standard with
          idleTimeout := Duration.ofSeconds 7
          acceptBackoffMax := Duration.ofSeconds 2 } ∧
      ∃ failure, (⟨CommandLine.Options.defaultListen, some (text "a"), some 7, false⟩ :
          CommandLine.Options).settings
        (fun _ => .ok (w.opening ++ ascii ",\"idle_timeout_ms\":null\x7d")) = .error failure := by
  let gap : Blanks := ⟨[], nofun⟩
  let space : Blanks := ⟨[0x20], List.all_eq_true.1 rfl⟩
  let feed : Blanks := ⟨[0x0A], List.all_eq_true.1 rfl⟩
  let spelled (f : Setting) : List WrittenChar := (text f.key).map WrittenChar.ofChar
  let escaped : List WrittenChar :=
    .unit (fun _ => false) 'i' (by decide) :: (text "dle_timeout_ms").map WrittenChar.ofChar
  let longest : WrittenMember := ⟨.acceptBackoffMax, spelled .acceptBackoffMax, some 2000, gap, gap,
    gap, space, textOf_map_ofChar _, by decide⟩
  let silence : WrittenMember := ⟨.idleTimeout, escaped, some 0, feed, space, space, gap, by decide,
    by decide⟩
  let peek : WrittenMember := ⟨.peekTimeout, spelled .peekTimeout, none, gap, gap, gap, gap,
    textOf_map_ofChar _, nofun⟩
  let w : WrittenObject := ⟨space, [longest, silence, peek], gap, feed, by decide⟩
  let a : Overrides := fun f =>
    if f = .acceptBackoffMax then some 2000 else if f = .idleTimeout then some 0 else none
  let options : CommandLine.Options :=
    ⟨CommandLine.Options.defaultListen, some (text "a"), some 7, false⟩
  have hwrites : w.Writes a := by
    intro f n
    cases f <;> simp [a, w, longest, silence, peek]
  have hspoils : Spoils w (ascii ",\"idle_timeout_ms\":null\x7d") :=
    .repeated gap (spelled .idleTimeout) silence (ascii ":null\x7d")
      (List.mem_cons_of_mem _ List.mem_cons_self) (textOf_map_ofChar _)
  obtain ⟨-, hexact, hstrict⟩ := settings_of_written
  refine ⟨w, by decide, hwrites, ?_, ?_⟩
  · refine ((hexact w a hwrites).2 options (text "a") _ rfl rfl _).2 ⟨fun f => ?_, fun f => ?_, ?_⟩
    · cases f <;> rfl
    · cases f <;> decide
    · decide
  · exact (hstrict w _ hspoils).2 options (text "a") _ rfl rfl

end ForwardProxy.Overrides
