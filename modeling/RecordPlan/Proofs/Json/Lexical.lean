import RecordPlan.Json.Number
import RecordPlan.Json.Value
import RecordPlan.Proofs.Text.Part

/-!
# Strings and numbers of JSON are read back

A JSON string is written character by character. `Json.IsSpelling` says how a
character may stand in a string, and `Json.IsString` which strings a text has;
there is one of each (`Json.isSpelling_iff`, `Json.isString_iff`).

Strings are read character by character as well: what a character is written as is
read as that character, whatever stands behind it (`Json.string_spelling_append`).
So a string that is written is read back up to its closing quote
(`Json.string_flatMap_escape`), and where it ends can be told from it alone
(`Json.quoted_append_inj`). A natural number is read back from its digits as long
as what stands behind them does not go on with the number
(`Json.numeral_toDigits`).

Readers return what is left together with the reason why it is shorter, and
`Json.Leaves` leaves the reason out.
-/

namespace RecordPlan.Json

variable {α β : Type}

/-! ## One reader after another -/

/-- What a reader reads, and what it leaves. -/
def Leaves {p : List Char → Prop} (x : Except Flaw (α × Subtype p)) (a : α) (rest : List Char) :
    Prop :=
  ∃ r : Subtype p, x = .ok (a, r) ∧ r.1 = rest

section Leaves

variable {p q : List Char → Prop} {rest mid : List Char}

theorem leaves_ok (a : α) {r : Subtype p} (hr : r.1 = rest) : Leaves (.ok (a, r)) a rest :=
  ⟨r, rfl, hr⟩

/-- A reader reads one thing, and leaves one rest. -/
theorem Leaves.unique {x : Except Flaw (α × Subtype p)} {a b : α} (h : Leaves x a mid)
    (h' : Leaves x b rest) : a = b ∧ mid = rest := by
  obtain ⟨r, rfl, rfl⟩ := h
  obtain ⟨s, eq, rfl⟩ := h'
  obtain ⟨rfl, rfl⟩ := Prod.mk.inj (Except.ok.inj eq)
  exact ⟨rfl, rfl⟩

/-- **One reader after another** reads what the second reads behind what the
first leaves. -/
theorem Leaves.bind {x : Except Flaw (α × Subtype p)} {a : α} (h : Leaves x a mid)
    {f : α × Subtype p → Except Flaw (β × Subtype q)} {b : β}
    (hf : ∀ r : Subtype p, r.1 = mid → Leaves (f (a, r)) b rest) : Leaves (x >>= f) b rest := by
  obtain ⟨r, rfl, hr⟩ := h
  exact hf r hr

/-- What does not depend on why less is left comes to the same behind a reader. -/
theorem Leaves.bind_eq {x : Except Flaw (α × Subtype p)} {a : α} (h : Leaves x a mid)
    {f : α × Subtype p → Except Flaw β} {y : Except Flaw β}
    (hf : ∀ r : Subtype p, r.1 = mid → f (a, r) = y) : x >>= f = y := by
  obtain ⟨r, rfl, hr⟩ := h
  exact hf r hr

end Leaves

/-- A character that is not blank is found where it stands. -/
theorem next?_cons {c : Char} (h : isBlank c = false) (rest : List Char) :
    next? (c :: rest) = some (c, .tail c rest) := by
  have kept : (c :: rest).dropWhile isBlank = c :: rest :=
    List.dropWhile_cons_of_neg (by simp [h])
  simp only [next?, NoLonger.dropWhile, kept]
  rfl

theorem not_isBlank_of_isDigit {c : Char} (h : c.isDigit = true) : isBlank c = false := by
  refine Bool.eq_false_iff.2 fun blank => ?_
  simp only [isBlank, Bool.or_eq_true, beq_iff_eq] at blank
  rcases blank with ((rfl | rfl) | rfl) | rfl <;> cases h

/-! ## Strings -/

/-- **How a character stands in a string**: as a letter behind a backslash if there is one
for it, by its number if it is any other control character, and else as it is. -/
inductive IsSpelling (c : Char) : List Char → Prop where
  /-- A letter behind a backslash; a slash does not need one. -/
  | letter {e : Char} (simple : simpleEscape? e = some c) (needed : e ≠ '/') :
      IsSpelling c ['\\', e]
  /-- The number of a control character. -/
  | number (control : c.toNat < 0x20) (noLetter : ∀ e, simpleEscape? e ≠ some c) :
      IsSpelling c
        ['\\', 'u', '0', '0', Nat.digitChar (c.toNat / 16), Nat.digitChar (c.toNat % 16)]
  /-- The character. -/
  | itself (quote : c ≠ '"') (backslash : c ≠ '\\') (shown : ¬ c.toNat < 0x20) : IsSpelling c [c]

/-- **The string of a text**: what its characters are spelled as, between quotes. -/
def IsString (text : String) (cs : List Char) : Prop :=
  ∃ spellings, List.Forall₂ IsSpelling text.toList spellings ∧
    cs = '"' :: spellings.flatten ++ ['"']

/-- A letter behind a backslash is what its character is written as. -/
theorem escape_of_simpleEscape? {e c : Char} (simple : simpleEscape? e = some c)
    (needed : e ≠ '/') : escape c = ['\\', e] := by
  unfold simpleEscape? at simple
  split at simple
  case h_3 => exact absurd rfl needed
  all_goals cases simple <;> rfl

/-- There are no letters for characters that stand as they are. -/
theorem special_of_simpleEscape? {e c : Char} (simple : simpleEscape? e = some c)
    (needed : e ≠ '/') : ¬ (c ≠ '"' ∧ c ≠ '\\' ∧ ¬ c.toNat < 0x20) := by
  unfold simpleEscape? at simple
  split at simple
  case h_3 => exact absurd rfl needed
  all_goals cases simple <;> decide

/-- What a character is written as is a spelling of it. -/
theorem isSpelling_escape (c : Char) : IsSpelling c (escape c) := by
  unfold escape
  split
  case h_8 quote backslash backspace tab lineFeed formFeed carriageReturn =>
    split
    · next control =>
      refine .number control fun e simple => ?_
      have slash : e ≠ '/' := by
        rintro rfl
        cases simple
        exact absurd control (by decide)
      have letter := escape_of_simpleEscape? simple slash
      rw [escape.eq_8 _ quote backslash backspace tab lineFeed formFeed carriageReturn,
        if_pos control] at letter
      cases letter
    · next shown => exact .itself quote backslash shown
  all_goals exact .letter rfl (by decide)

/-- **A character has one spelling.** -/
theorem IsSpelling.unique {c : Char} {cs cs' : List Char} (h : IsSpelling c cs)
    (h' : IsSpelling c cs') : cs = cs' := by
  cases h with
  | letter simple needed =>
    cases h' with
    | letter simple' needed' =>
      exact (escape_of_simpleEscape? simple needed).symm.trans
        (escape_of_simpleEscape? simple' needed')
    | number _ noLetter => exact absurd simple (noLetter _)
    | itself quote backslash shown =>
      exact absurd ⟨quote, backslash, shown⟩ (special_of_simpleEscape? simple needed)
  | number control noLetter =>
    cases h' with
    | letter simple _ => exact absurd simple (noLetter _)
    | number => rfl
    | itself _ _ shown => exact absurd control shown
  | itself quote backslash shown =>
    cases h' with
    | letter simple needed =>
      exact absurd ⟨quote, backslash, shown⟩ (special_of_simpleEscape? simple needed)
    | number control _ => exact absurd control shown
    | itself => rfl

theorem isSpelling_iff {c : Char} {cs : List Char} : IsSpelling c cs ↔ cs = escape c :=
  ⟨fun h => h.unique (isSpelling_escape c), fun eq => eq ▸ isSpelling_escape c⟩

theorem string_quote (rest : List Char) : Leaves (string ('"' :: rest)) [] rest := by
  rw [string]
  exact leaves_ok _ rfl

/-- Behind a backslash goes what stands for a character. -/
theorem string_backslash {cs mid rest text : List Char} {c : Char}
    (first : Leaves (escaped cs) c mid) (later : Leaves (string mid) text rest) :
    Leaves (string ('\\' :: cs)) (c :: text) rest := by
  rw [string]
  refine first.bind fun r hr => ?_
  subst hr
  exact later.bind fun r hr => leaves_ok _ hr

/-- A character that is written as it is, is read as it is. -/
theorem string_plain {mid rest text : List Char} {c : Char} (quote : c ≠ '"')
    (backslash : c ≠ '\\') (shown : ¬ c.toNat < 0x20) (later : Leaves (string mid) text rest) :
    Leaves (string (c :: mid)) (c :: text) rest := by
  rw [string.eq_4 _ _ quote backslash, if_neg shown]
  exact later.bind fun r hr => leaves_ok _ hr

theorem escaped_letter {e c : Char} (number : e ≠ 'u') (simple : simpleEscape? e = some c)
    (rest : List Char) : Leaves (escaped (e :: rest)) c rest := by
  rw [escaped.eq_3 _ _ number, simple]
  exact leaves_ok _ rfl

/-- Four digits of a number below those of halves are read as its character. -/
theorem escaped_digits {a b c d : Char} (digits : [a, b, c, d].all Text.isHexDigit = true)
    (small : Text.hexNumber [a, b, c, d] < 0xD800) (rest : List Char) :
    Leaves (escaped ('u' :: a :: b :: c :: d :: rest)) (Char.ofNat (Text.hexNumber [a, b, c, d]))
      rest := by
  have four : Leaves (fourDigits (a :: b :: c :: d :: rest)) (Text.hexNumber [a, b, c, d]) rest := by
    rw [fourDigits, if_pos digits]
    exact leaves_ok _ rfl
  have code : Leaves (escapedCode (a :: b :: c :: d :: rest))
      (Char.ofNat (Text.hexNumber [a, b, c, d])) rest := by
    rw [escapedCode]
    refine four.bind fun r hr => ?_
    dsimp only
    rw [if_pos (.inl small)]
    exact leaves_ok _ hr
  rw [escaped]
  exact code.bind fun r hr => leaves_ok _ hr

/-- The number of a control character is read as that character. -/
theorem escaped_control {c : Char} (control : c.toNat < 0x20) (rest : List Char) :
    Leaves (escaped ('u' :: '0' :: '0' :: Nat.digitChar (c.toNat / 16) ::
      Nat.digitChar (c.toNat % 16) :: rest)) c rest := by
  have digits : ∀ n < 0x20, ['0', '0', Nat.digitChar (n / 16), Nat.digitChar (n % 16)].all
      Text.isHexDigit = true := by decide
  have number : ∀ n < 0x20, Text.hexNumber ['0', '0', Nat.digitChar (n / 16),
      Nat.digitChar (n % 16)] = n := by decide
  have read := escaped_digits (digits _ control) (by rw [number _ control]; omega) rest
  rwa [number _ control, Char.ofNat_toNat] at read

/-- **What a character is spelled as is read as that character**, whatever stands
behind it. -/
theorem string_spelling_append {cs mid rest text : List Char} {c : Char} (h : IsSpelling c cs)
    (later : Leaves (string mid) text rest) : Leaves (string (cs ++ mid)) (c :: text) rest := by
  cases h with
  | @letter e simple needed =>
    have number : e ≠ 'u' := by
      rintro rfl
      cases simple
    exact string_backslash (escaped_letter number simple mid) later
  | number control _ => exact string_backslash (escaped_control control mid) later
  | itself quote backslash shown => exact string_plain quote backslash shown later

/-- **A string is read back** up to its closing quote. -/
theorem string_flatMap_escape (text rest : List Char) :
    Leaves (string (text.flatMap escape ++ '"' :: rest)) text rest := by
  induction text with
  | nil => exact string_quote rest
  | cons c text ih =>
    rw [List.flatMap_cons, List.append_assoc]
    exact string_spelling_append (isSpelling_iff.2 rfl) ih

theorem quoted_append (text : String) (rest : List Char) :
    quoted text ++ rest = '"' :: (text.toList.flatMap escape ++ '"' :: rest) := by
  simp [quoted]

/-- **A text has one string**, the one that it is written as. -/
theorem isString_iff {text : String} {cs : List Char} : IsString text cs ↔ cs = quoted text := by
  unfold IsString
  simp only [Text.forall₂_iff_eq_map (R := IsSpelling) fun _ _ => isSpelling_iff, exists_eq_left]
  rfl

/-- **A string tells its text**, and where it ends. -/
theorem quoted_append_inj {text text' : String} {rest rest' : List Char}
    (h : quoted text ++ rest = quoted text' ++ rest') : text = text' ∧ rest = rest' := by
  rw [quoted_append, quoted_append] at h
  have read := string_flatMap_escape text.toList rest
  rw [List.tail_eq_of_cons_eq h] at read
  obtain ⟨same, left⟩ := read.unique (string_flatMap_escape text'.toList rest')
  exact ⟨String.toList_inj.1 same, left⟩

/-! ## Natural numbers -/

/-- **Whether a number may end before a text**: the text does not go on with a
digit, a point or an exponent. -/
def EndsNumeral (rest : List Char) : Prop :=
  ∀ c ∈ rest.head?, c.isDigit = false ∧ c ≠ '.' ∧ c ≠ 'e' ∧ c ≠ 'E'

section Numbers

variable {ds rest : List Char} (atEnd : Flaw)

theorem digits_append (ne : ds ≠ []) (all : ∀ c ∈ ds, c.isDigit = true) (ends : EndsNumeral rest) :
    Leaves (digits atEnd (ds ++ rest)) ds rest := by
  cases ds with
  | nil => exact absurd rfl ne
  | cons c ds =>
    have digitsAll : ∀ c ∈ ds, c.isDigit = true := fun d hd => all d (List.mem_cons_of_mem _ hd)
    have taken : rest.takeWhile Char.isDigit = [] := by
      cases rest with
      | nil => rfl
      | cons d rest => exact List.takeWhile_cons_of_neg (by simp [(ends d rfl).1])
    have left : rest.dropWhile Char.isDigit = rest := by
      cases rest with
      | nil => rfl
      | cons d rest => exact List.dropWhile_cons_of_neg (by simp [(ends d rfl).1])
    rw [List.cons_append, digits, if_pos (all c List.mem_cons_self),
      List.takeWhile_append_of_pos digitsAll, taken, List.append_nil]
    refine leaves_ok _ ?_
    show (ds ++ rest).dropWhile Char.isDigit = rest
    rw [List.dropWhile_append_of_pos digitsAll, left]

/-- Digits without a zero too many are read. -/
theorem wholeDigits_append (ne : ds ≠ []) (all : ∀ c ∈ ds, c.isDigit = true)
    (noZero : ds.head? = some '0' → ds = ['0']) (ends : EndsNumeral rest) :
    Leaves (wholeDigits atEnd (ds ++ rest)) ds rest := by
  rw [wholeDigits]
  refine (digits_append atEnd ne all ends).bind fun r hr => ?_
  dsimp only
  split
  · cases noZero rfl
  · exact leaves_ok _ hr

theorem fractionDigits_of_endsNumeral (ends : EndsNumeral rest) :
    Leaves (fractionDigits atEnd rest) [] rest := by
  unfold fractionDigits
  split
  · exact absurd rfl (ends '.' rfl).2.1
  · exact leaves_ok _ rfl

theorem exponentDigits_of_endsNumeral (ends : EndsNumeral rest) :
    Leaves (exponentDigits atEnd rest) none rest := by
  unfold exponentDigits
  split
  · next c rest =>
    rw [if_neg (not_or.2 (ends c rfl).2.2)]
    exact leaves_ok _ rfl
  · exact leaves_ok _ rfl

/-- **A natural number is read back** from its digits. -/
theorem numeral_toDigits (n : Nat) (ends : EndsNumeral rest) :
    Leaves (numeral atEnd (Nat.toDigits 10 n ++ rest)) ⟨false, Nat.toDigits 10 n, [], none⟩ rest := by
  have ne : Nat.toDigits 10 n ≠ [] := Nat.toDigits_ne_nil
  have all : ∀ c ∈ Nat.toDigits 10 n, c.isDigit = true := fun c hc =>
    Text.isDigit_of_mem_decimalDigits hc
  have noZero : (Nat.toDigits 10 n).head? = some '0' → Nat.toDigits 10 n = ['0'] := by
    intro h
    obtain rfl := Text.eq_zero_of_head?_decimalDigits h
    rfl
  have unsigned : Leaves (unsignedNumeral atEnd false (Nat.toDigits 10 n ++ rest))
      ⟨false, Nat.toDigits 10 n, [], none⟩ rest := by
    rw [unsignedNumeral]
    refine (wholeDigits_append atEnd ne all noZero ends).bind fun r hr => ?_
    have ends : EndsNumeral r.1 := by rwa [hr]
    refine (fractionDigits_of_endsNumeral atEnd ends).bind fun r' hr' => ?_
    have ends : EndsNumeral r'.1 := by rwa [hr']
    refine (exponentDigits_of_endsNumeral atEnd ends).bind fun r'' hr'' => ?_
    exact leaves_ok _ (hr''.trans (hr'.trans hr))
  rw [numeral.eq_2]
  · exact unsigned
  · -- a minus sign is no digit
    intro later eq
    have minus : '-' ∈ Nat.toDigits 10 n := by
      cases h : Nat.toDigits 10 n with
      | nil => exact absurd h ne
      | cons c ds =>
        rw [h, List.cons_append, List.cons.injEq] at eq
        exact eq.1 ▸ List.mem_cons_self
    exact absurd (all '-' minus) (by decide)

end Numbers

end RecordPlan.Json
