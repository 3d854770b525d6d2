import RecordPlan.Proofs.Settings.Resolve
import RecordPlan.Proofs.Text.Part
import RecordPlan.Settings.Lookup

/-!
# The text of a prefix length

A prefix length is looked up as bytes. `Text.IsNumeral` says, without any
reader, which texts denote which number: its decimal digits, with zeros and a
plus sign in front of them and blanks around them. A value denotes a prefix
length if it is the encoding of such a text and the number fits into a byte
(`RawValue.prefixLen_eq_ok_iff`).

The number is read as it is, however many digits it has, and compared with what
a byte can hold afterwards. Reading it into a byte, digit by digit, comes to the
same if each step is checked: a number that is too large once stays so
(`readByte?_eq_some_iff_foldlM`).

A prefix length that fits into a byte may still be one that no address has. It
is looked up, but it is not valid, and settings with it do not resolve. The main
statement is `prefix_length_is_read_from_its_text`.
-/

namespace RecordPlan

open Text (decimalDigits readByte? readDecimal? trim withoutPlus)

variable {n : UInt8} {text ds : List Char}

/-! ## Texts -/

namespace Text

/-- **The texts that denote a number**: its digits, with zeros and a plus sign in
front of them or without, and with blanks around them or without. -/
def IsNumeral (n : Nat) (text : List Char) : Prop :=
  ∃ before sign zeros after,
    text = before ++ (sign ++ (List.replicate zeros '0' ++ decimalDigits n)) ++ after ∧
      (∀ c ∈ before, isBlank c = true) ∧ (sign = [] ∨ sign = ['+']) ∧
      ∀ c ∈ after, isBlank c = true

theorem isDigit_of_mem_zeros_append {zeros m : Nat} {c : Char}
    (h : c ∈ List.replicate zeros '0' ++ decimalDigits m) : c.isDigit = true := by
  rcases List.mem_append.1 h with zero | digit
  · rw [List.eq_of_mem_replicate zero]
    rfl
  · exact isDigit_of_mem_decimalDigits digit

/-- A number with a sign is not blank in any place. -/
theorem not_isBlank_of_mem_sign_append {sign : List Char} (hs : sign = [] ∨ sign = ['+'])
    {zeros m : Nat} {c : Char} (h : c ∈ sign ++ (List.replicate zeros '0' ++ decimalDigits m)) :
    isBlank c = false := by
  rcases List.mem_append.1 h with plus | digit
  · rcases hs with rfl | rfl
    · cases plus
    · rw [List.mem_singleton.1 plus]
      rfl
  · exact not_isBlank_of_isDigit (isDigit_of_mem_zeros_append digit)

/-- **A text denotes a number** if the number is read from what is trimmed, behind
the plus sign. -/
theorem isNumeral_iff {m : Nat} :
    IsNumeral m text ↔ readDecimal? (withoutPlus (trim text)) = some m := by
  rw [readDecimal?_eq_some_iff]
  constructor
  · rintro ⟨before, sign, zeros, after, rfl, hb, hs, ha⟩
    have noPlus : '+' ∉ List.replicate zeros '0' ++ decimalDigits m :=
      fun plus => absurd (isDigit_of_mem_zeros_append plus) (by decide)
    rw [trim_append_append hb (fun c => not_isBlank_of_mem_sign_append hs) ha,
      withoutPlus_sign_append hs noPlus]
    exact ⟨zeros, rfl⟩
  · rintro ⟨zeros, read⟩
    obtain ⟨before, after, eq, hb, ha⟩ := exists_eq_append_trim text
    obtain ⟨sign, hs, signed⟩ := exists_eq_append_withoutPlus (trim text)
    rw [signed, read] at eq
    exact ⟨before, sign, zeros, after, eq, hb, hs, ha⟩

/-- A text denotes one number only. -/
theorem IsNumeral.unique {m k : Nat} (hm : IsNumeral m text) (hk : IsNumeral k text) : m = k :=
  Option.some.inj ((isNumeral_iff.1 hm).symm.trans (isNumeral_iff.1 hk))

/-- The digits of a number denote it. -/
theorem isNumeral_decimalDigits (m : Nat) : IsNumeral m (decimalDigits m) :=
  ⟨[], [], 0, [], (List.append_nil _).symm, nofun, .inl rfl, nofun⟩

/-- There is a digit in what denotes a number. -/
theorem IsNumeral.exists_isDigit {m : Nat} (h : IsNumeral m text) :
    ∃ c ∈ text, c.isDigit = true := by
  obtain ⟨before, sign, zeros, after, rfl, -⟩ := h
  obtain ⟨c, ds, eq⟩ := List.exists_cons_of_ne_nil (Nat.toDigits_ne_nil (b := 10) (n := m))
  have first : c ∈ Nat.toDigits 10 m := eq ▸ List.mem_cons_self
  have there : c ∈ decimalDigits m := first
  exact ⟨c, by simp [there], isDigit_of_mem_decimalDigits first⟩

end Text

/-! ## Numbers that fit into a byte -/

theorem readByte?_eq_some_iff : readByte? ds = some n ↔ readDecimal? ds = some n.toNat := by
  rw [readByte?, Option.bind_eq_some_iff]
  constructor
  · rintro ⟨m, read, h⟩
    split at h
    · next small =>
      obtain rfl := Option.some.inj h
      rwa [UInt8.toNat_ofNat_of_lt' small]
    · cases h
  · intro read
    exact ⟨n.toNat, read, by rw [if_pos n.toNat_lt, UInt8.ofNat_toNat]⟩

/-- **One more digit** behind the number in a byte, if the byte can hold it. -/
def nextDigit? (n : UInt8) (c : Char) : Option UInt8 :=
  if c.isDigit ∧ 10 * n.toNat + (c.toNat - 48) < 256 then some (10 * n + UInt8.ofNat (c.toNat - 48))
  else none

/-- A step loses nothing: it comes to the number itself, or to none. -/
theorem nextDigit?_eq_some_iff {m : UInt8} {c : Char} : nextDigit? n c = some m ↔
    c.isDigit = true ∧ 10 * n.toNat + (c.toNat - 48) = m.toNat := by
  unfold nextDigit?
  split
  · next step =>
    have value : (10 * n + UInt8.ofNat (c.toNat - 48)).toNat = 10 * n.toNat + (c.toNat - 48) := by
      rw [UInt8.toNat_add, UInt8.toNat_mul, UInt8.toNat_ofNat']
      have := step.2
      simp
      omega
    rw [Option.some.injEq, ← UInt8.toNat_inj, value, and_iff_right step.1]
  · next large =>
    refine iff_of_false nofun fun ⟨digit, eq⟩ => large ⟨digit, ?_⟩
    rw [eq]
    exact m.toNat_lt

/-- More digits never make a number smaller. -/
theorem le_ofDigitChars (ds : List Char) (m : Nat) : m ≤ Nat.ofDigitChars 10 ds m := by
  induction ds generalizing m with
  | nil => exact Nat.le_refl m
  | cons c ds ih =>
    rw [Nat.ofDigitChars_cons]
    exact Nat.le_trans (by omega) (ih _)

/-- **A run of steps** comes to the number that the digits denote behind the first
one, or to none. The induction is on the digits that are left. -/
theorem foldlM_nextDigit?_eq_some_iff {m : UInt8} : ds.foldlM nextDigit? n = some m ↔
    (∀ c ∈ ds, c.isDigit = true) ∧ Nat.ofDigitChars 10 ds n.toNat = m.toNat := by
  induction ds generalizing n with
  | nil =>
    rw [List.foldlM_nil, Nat.ofDigitChars_nil, UInt8.toNat_inj]
    simp
  | cons c ds ih =>
    rw [List.foldlM_cons, Option.bind_eq_bind, Option.bind_eq_some_iff, Nat.ofDigitChars_cons,
      List.forall_mem_cons]
    simp only [nextDigit?_eq_some_iff, ih]
    constructor
    · rintro ⟨k, ⟨digit, eq⟩, digits, number⟩
      rw [← eq] at number
      exact ⟨⟨digit, digits⟩, number⟩
    · rintro ⟨⟨digit, digits⟩, number⟩
      -- what a byte can hold in the end it can hold at each step
      have small : 10 * n.toNat + (c.toNat - 48) < 256 :=
        Nat.lt_of_le_of_lt (le_ofDigitChars ds _) (number ▸ m.toNat_lt)
      refine ⟨UInt8.ofNat (10 * n.toNat + (c.toNat - 48)), ⟨digit, ?_⟩, digits, ?_⟩
      · rw [UInt8.toNat_ofNat_of_lt' small]
      · rw [UInt8.toNat_ofNat_of_lt' small]
        exact number

/-- **A number is read without overflow**: to read it into a byte with a check at
each step comes to the same as to look at it in the end. -/
theorem readByte?_eq_some_iff_foldlM :
    readByte? ds = some n ↔ ds ≠ [] ∧ ds.foldlM nextDigit? 0 = some n := by
  rw [readByte?_eq_some_iff, foldlM_nextDigit?_eq_some_iff, readDecimal?]
  simp [and_assoc]

/-! ## Values -/

/-- **What is read as a prefix length** from a trimmed text is the number that the
text denotes. -/
theorem prefixLenOfText?_trim_eq_some_iff :
    prefixLenOfText? (trim text) = some n ↔ Text.IsNumeral n.toNat text := by
  rw [prefixLenOfText?, readByte?_eq_some_iff, Text.isNumeral_iff]

/-- A text denotes a number in a byte if reading it there, step by step, comes to the
number. -/
theorem isNumeral_iff_foldlM : Text.IsNumeral n.toNat text ↔
    withoutPlus (trim text) ≠ [] ∧ (withoutPlus (trim text)).foldlM nextDigit? 0 = some n := by
  rw [← prefixLenOfText?_trim_eq_some_iff, prefixLenOfText?, readByte?_eq_some_iff_foldlM]

namespace RawValue

variable {v : RawValue}

/-- **The values that denote a prefix length** are the encodings of texts that
denote a number. -/
theorem prefixLen_eq_ok_iff : v.prefixLen = .ok n ↔
    ∃ text, v.bytes = Text.Utf8.encode text ∧ Text.IsNumeral n.toNat text := by
  unfold prefixLen
  cases decoded : Text.Utf8.decode v.bytes with
  | error defect =>
    refine iff_of_false nofun ?_
    rintro ⟨text, eq, -⟩
    rw [Text.Utf8.decode_eq_ok_iff.2 eq] at decoded
    cases decoded
  | ok text =>
    have only {other : List Char} : v.bytes = Text.Utf8.encode other ↔ text = other := by
      rw [← Text.Utf8.decode_eq_ok_iff, decoded, Except.ok.injEq]
    simp only [only, exists_eq_left', ← prefixLenOfText?_trim_eq_some_iff]
    cases prefixLenOfText? (trim text) <;> simp

/-- A value that is UTF-8 denotes what its text denotes. -/
theorem prefixLen_eq_ok_iff_of_text (eq : v.bytes = Text.Utf8.encode text) :
    v.prefixLen = .ok n ↔ Text.IsNumeral n.toNat text := by
  rw [prefixLen_eq_ok_iff]
  constructor
  · rintro ⟨other, eq', number⟩
    obtain rfl : text = other := Except.ok.inj
      ((Text.Utf8.decode_eq_ok_iff.2 eq).symm.trans (Text.Utf8.decode_eq_ok_iff.2 eq'))
    exact number
  · exact fun number => ⟨text, eq, number⟩

/-- All other values are refused with what they look like. -/
theorem prefixLen_eq_error {e : SettingsError} (h : v.prefixLen = .error e) :
    e = .config (.notNumber (String.ofList (trim (Text.Utf8.decodeLossy v.bytes)))) := by
  unfold prefixLen at h
  dsimp only at h
  split at h
  · cases h
  · exact (Except.error.inj h).symm

theorem isBlank_iff : v.isBlank = true ↔
    ∀ b ∈ v.bytes, b ∈ ([0x20, 0x09, 0x0A, 0x0C, 0x0D] : List UInt8) := by
  simp [isBlank, Text.isAsciiBlank, or_assoc]

/-- A value with a digit in it is not blank. -/
theorem not_isBlank_of_mem_isDigit {c : Char} (there : c ∈ text) (digit : c.isDigit = true) :
    isBlank ⟨Text.Utf8.encode text⟩ = false := by
  have range : 48 ≤ c.toNat ∧ c.toNat ≤ 57 := Char.isDigit_iff_toNat.1 digit
  have byte : UInt8.ofNat c.toNat ∈ Text.Utf8.encode text := by
    refine List.mem_flatMap.2 ⟨c, there, ?_⟩
    rw [Text.Utf8.utf8EncodeChar_one (by omega)]
    exact List.mem_cons_self
  have digits : ∀ m < 58, 48 ≤ m → Text.isAsciiBlank (UInt8.ofNat m) = false := by decide
  refine List.all_eq_false.2 ⟨_, byte, ?_⟩
  rw [digits c.toNat (by omega) range.1]
  exact Bool.false_ne_true

/-- What denotes a number is not blank, and it denotes no other number. -/
theorem prefixLen_of_isNumeral {m : Nat} (eq : v.bytes = Text.Utf8.encode text)
    (number : Text.IsNumeral m text) :
    v.isBlank = false ∧ ∀ n, v.prefixLen = .ok n → n.toNat = m := by
  constructor
  · obtain ⟨c, there, digit⟩ := number.exists_isDigit
    rw [show v = ⟨Text.Utf8.encode text⟩ from congrArg RawValue.mk eq]
    exact not_isBlank_of_mem_isDigit there digit
  · exact fun n read => ((prefixLen_eq_ok_iff_of_text eq).1 read).unique number

end RawValue

/-! ## Looking up -/

/-- What can be looked up, with another prefix length or with none. -/
def Lookup.withPrefixLen (lookup : Lookup) (v : Option RawValue) : Lookup := fun key =>
  if key = prefixLenKey then v.map (·.bytes) else lookup key

namespace Settings

/-- **The prefix length is looked up by itself**: the settings differ in nothing
else from those that are looked up without it. -/
theorem exists_ofLookup_withPrefixLen (lookup : Lookup) : ∃ base : Settings, base.prefixLen = 64 ∧
    ofLookup (lookup.withPrefixLen none) = .ok base ∧
    ∀ v : RawValue, ofLookup (lookup.withPrefixLen v) =
      if v.isBlank then .ok base
      else v.prefixLen.map fun n => { base with prefixLen := n } := by
  refine ⟨_, rfl, rfl, fun v => ?_⟩
  have present : present? (lookup.withPrefixLen v) prefixLenKey =
      if v.isBlank then none else some v := by
    show Option.filter _ (some v) = _
    rw [Option.filter_some]
    cases v.isBlank <;> rfl
  rw [ofLookup, present]
  cases v.isBlank with
  | true => rfl
  | false =>
    show (v.prefixLen >>= fun _ => _) = v.prefixLen.map _
    cases v.prefixLen <;> rfl

/-- The number in a prefix length is that of the settings, which are as they are
without it but for the number. -/
theorem map_withPrefixLen_eq_ok_iff {base s : Settings} {number : Except SettingsError UInt8} :
    (number.map fun n => { base with prefixLen := n }) = .ok s ↔
      number = .ok s.prefixLen ∧ s = { base with prefixLen := s.prefixLen } := by
  cases number with
  | error e => exact iff_of_false nofun nofun
  | ok m =>
    constructor
    · rintro ⟨⟩
      exact ⟨rfl, rfl⟩
    · rintro ⟨eq, same⟩
      rw [same, Except.ok.inj eq]
      rfl

end Settings

/-- **A prefix length is read from its text.** A value of blanks alone, in the
sense of ASCII, counts as left out. Any other value is the prefix length that it
denotes if it is UTF-8 and the text denotes a number that a byte can hold, and is
refused with what it looks like if there is no such number. Reading the number digit
by digit, with a check that the byte can hold it at each step, comes to the same. All
other settings are as they are without it. The settings are valid if and only if the number is not
greater than 128, and with a greater number they do not resolve. -/
theorem prefix_length_is_read_from_its_text (lookup : Lookup) :
    ∃ base : Settings, base.prefixLen = 64 ∧
      Settings.ofLookup (lookup.withPrefixLen none) = .ok base ∧
      ∀ v : RawValue, let loaded := Settings.ofLookup (lookup.withPrefixLen v)
        let isBlank := ∀ b ∈ v.bytes, b ∈ ([0x20, 0x09, 0x0A, 0x0C, 0x0D] : List UInt8)
        (isBlank → loaded = .ok base) ∧
        (¬ isBlank → ∀ n : UInt8, loaded = .ok { base with prefixLen := n } ↔
          ∃ text, v.bytes = Text.Utf8.encode text ∧ Text.IsNumeral n.toNat text) ∧
        (¬ isBlank → ∀ (n : UInt8) (text : List Char), v.bytes = Text.Utf8.encode text →
          (loaded = .ok { base with prefixLen := n } ↔ withoutPlus (trim text) ≠ [] ∧
            (withoutPlus (trim text)).foldlM nextDigit? 0 = some n)) ∧
        (¬ isBlank → (∀ (n : UInt8) (text : List Char), v.bytes = Text.Utf8.encode text →
          ¬ Text.IsNumeral n.toNat text) → loaded = .error (.config (.notNumber
            (String.ofList (trim (Text.Utf8.decodeLossy v.bytes)))))) ∧
        (∀ s, loaded = .ok s → s = { base with prefixLen := s.prefixLen } ∧
          (s.validate = .ok () ↔ s.prefixLen.toNat ≤ 128)) ∧
        ∀ (n : Nat) (text : List Char), v.bytes = Text.Utf8.encode text → Text.IsNumeral n text →
          128 < n → ∀ s, loaded = .ok s → ∀ plan j j', s.resolve.run.run j ≠ (.ok plan, j') := by
  obtain ⟨base, length, without, given⟩ := Settings.exists_ofLookup_withPrefixLen lookup
  refine ⟨base, length, without, fun v => ?_⟩
  dsimp only
  rw [← RawValue.isBlank_iff, given v]
  have loads (filled : ¬ v.isBlank = true) (n : UInt8) :
      (if v.isBlank then .ok base else v.prefixLen.map fun n => { base with prefixLen := n }) =
        .ok { base with prefixLen := n } ↔ v.prefixLen = .ok n := by
    rw [if_neg filled]
    exact Settings.map_withPrefixLen_eq_ok_iff.trans (and_iff_left rfl)
  refine ⟨fun blank => if_pos blank, fun filled n => ?_, fun filled n text eq => ?_,
    fun filled none => ?_, fun s loaded => ?_,
    fun n text eq number large s loaded plan j j' run => ?_⟩
  · rw [loads filled, RawValue.prefixLen_eq_ok_iff]
  · rw [loads filled, RawValue.prefixLen_eq_ok_iff_of_text eq, isNumeral_iff_foldlM]
  · rw [if_neg filled]
    cases h : v.prefixLen with
    | error e => exact congrArg Except.error (RawValue.prefixLen_eq_error h)
    | ok m =>
      obtain ⟨text, eq, number⟩ := RawValue.prefixLen_eq_ok_iff.1 h
      exact absurd number (none m text eq)
  · refine ⟨?_, by rw [Settings.validate_eq_ok_iff, UInt8.le_iff_toNat_le]; rfl⟩
    split at loaded
    · obtain rfl := Except.ok.inj loaded
      rfl
    · exact (Settings.map_withPrefixLen_eq_ok_iff.1 loaded).2
  · obtain ⟨filled, value⟩ := RawValue.prefixLen_of_isNumeral eq number
    rw [filled, if_neg Bool.false_ne_true] at loaded
    -- the prefix length is the number that the text denotes, and has been checked
    have same := value _ (Settings.map_withPrefixLen_eq_ok_iff.1 loaded).1
    have le := UInt8.le_iff_toNat_le.1 (Settings.run_resolve_eq_ok.1 run).1
    exact absurd (same ▸ large) (Nat.not_lt.2 le)

/-- A number with blanks of two kinds, a sign and zeros is read; a vertical tab is
not blank in the sense of ASCII; and of two numbers that are too large one is looked
up, and does not resolve. -/
theorem odd_prefix_lengths_are_read : ∃ base : Settings, base.prefixLen = 64 ∧
    let loaded (v : RawValue) := Settings.ofLookup (Lookup.withPrefixLen (fun _ => none) (some v))
    loaded ⟨[0x20, 0x0C]⟩ = .ok base ∧
    loaded (.ofString "\u00A0+0000000000000048\x0B") = .ok { base with prefixLen := 48 } ∧
    loaded ⟨[0x0B]⟩ = .error (.config (.notNumber "")) ∧
    loaded (.ofString "256") = .error (.config (.notNumber "256")) ∧
    loaded (.ofString "200") = .ok { base with prefixLen := 200 } ∧
    ∀ s, loaded (.ofString "200") = .ok s → ∀ plan j j', s.resolve.run.run j ≠ (.ok plan, j') := by
  obtain ⟨base, length, -, read⟩ := prefix_length_is_read_from_its_text fun _ => none
  have denotes (m : Nat) (text : List Char)
      (h : readDecimal? (withoutPlus (trim text)) = some m) : Text.IsNumeral m text :=
    Text.isNumeral_iff.2 h
  have denotesNone (v : RawValue) (h : v.prefixLen.toOption = none) (n : UInt8) (text : List Char)
      (eq : v.bytes = Text.Utf8.encode text) : ¬ Text.IsNumeral n.toNat text := by
    intro number
    rw [RawValue.prefixLen_eq_ok_iff.2 ⟨text, eq, number⟩] at h
    cases h
  have filled (v : RawValue) (h : v.isBlank = false) :
      ¬ ∀ b ∈ v.bytes, b ∈ ([0x20, 0x09, 0x0A, 0x0C, 0x0D] : List UInt8) :=
    RawValue.isBlank_iff.not.1 (Bool.eq_false_iff.1 h)
  refine ⟨base, length, ?_, ?_, ?_, ?_, ?_, ?_⟩
  · exact (read _).1 (RawValue.isBlank_iff.1 rfl)
  · exact ((read _).2.2.1 (filled _ (by decide)) 48 _ rfl).2 ⟨by decide, by decide⟩
  · exact (read _).2.2.2.1 (filled _ (by decide)) (denotesNone _ (by decide))
  · exact (read _).2.2.2.1 (filled _ (by decide)) (denotesNone _ (by decide))
  · exact ((read _).2.1 (filled _ (by decide)) 200).2 ⟨_, rfl, denotes _ _ (by decide)⟩
  · exact (read _).2.2.2.2.2 200 _ rfl (denotes _ _ (by decide)) (by decide)

end RecordPlan
