import RecordPlan.CommandLine
import RecordPlan.Proofs.Address.Ip6
import RecordPlan.Proofs.Json.Layout
import RecordPlan.Proofs.Json.Lexical

/-!
# What is printed

A run that succeeds prints records. `PrintedAs` says what that is, down to the last
character, without saying how it is made: a list over several lines, an object for each
record, and a line in it for the domain, the family, the flag and, if it is known, the
address.

There is one text for each list of records, the one that is printed (`printedAs_iff`).
Nothing is lost in it: every string tells where it ends, hence every record does
(`Record.IsPrinted.append_inj`), and no other records are printed as the same text
(`PrintedAs.unique`).
-/

namespace RecordPlan

open Json (IsString pretty quoted quoted_append_inj)

variable {r r' : Record} {records records' : List Record} {text text' rest rest' : List Char}

/-! ## The layout of records -/

/-- The end of a line, and the blanks that the next one begins with. -/
def lineBreak (blanks : Nat) : List Char := '\n' :: List.replicate blanks ' '

/-- A member of an object: its key and its value. -/
def printedMember (key : String) (value : List Char) : List Char :=
  '"' :: (key.toList ++ '"' :: ':' :: ' ' :: value)

/-- The family of a record, as it is printed. -/
def Family.printed : Family → List Char
  | .v4 => ['"', 'v', '4', '"']
  | .v6 => ['"', 'v', '6', '"']

/-- The flag of a record, as it is printed. -/
def printedFlag : Bool → List Char
  | true => ['t', 'r', 'u', 'e']
  | false => ['f', 'a', 'l', 's', 'e']

/-- **The member for an address**, if there is one. -/
inductive IsPrintedAddress : Option Ip6 → List (List Char) → Prop where
  /-- The address is not known. -/
  | unknown : IsPrintedAddress none []
  /-- The address is known. -/
  | known {a : Ip6} {address : List Char} (string : IsString (String.ofList a.text) address) :
      IsPrintedAddress (some a) [printedMember "address" address]

/-- **A record is printed** as an object over several lines, with a member on each. -/
inductive Record.IsPrinted (r : Record) : List Char → Prop where
  /-- The members are the domain, the family and the flag, and the address if it is known. -/
  | object {domain : List Char} {address : List (List Char)} (name : IsString r.domain domain)
      (known : IsPrintedAddress r.address address) :
      IsPrinted r ('\x7b' :: lineBreak 4 ++ ((',' :: lineBreak 4).intercalate
        (printedMember "domain" domain :: printedMember "family" r.family.printed ::
          printedMember "proxied" (printedFlag r.proxied) :: address) ++
        (lineBreak 2 ++ ['\x7d'])))

/-- **Records are printed** as a list over several lines, and the last line is ended. -/
inductive PrintedAs : List Record → String → Prop where
  /-- There are no records. -/
  | none : PrintedAs [] (String.ofList ['[', ']', '\n'])
  /-- There are records, with commas between them. -/
  | some {r : Record} {records : List Record} {texts : List (List Char)}
      (each : List.Forall₂ Record.IsPrinted (r :: records) texts) :
      PrintedAs (r :: records) (String.ofList
        ('[' :: lineBreak 2 ++ ((',' :: lineBreak 2).intercalate texts ++ ['\n', ']', '\n'])))

/-! ## The layout is that of what is printed -/

namespace CommandLine

theorem isPrintedAddress_iff {a : Option Ip6} {members : List (List Char)} :
    IsPrintedAddress a members ↔
      members = a.toList.map fun a => printedMember "address" (quoted (String.ofList a.text)) := by
  cases a with
  | none =>
    refine ⟨fun h => ?_, fun eq => eq ▸ .unknown⟩
    cases h
    rfl
  | some a =>
    refine ⟨fun h => ?_, fun eq => eq ▸ .known (Json.isString_iff.2 rfl)⟩
    cases h with
    | known string =>
      rw [Json.isString_iff.1 string]
      rfl

/-- A key that is spelled as it is, and its value. -/
theorem prettyMember_eq {key : String} (plain : quoted key = '"' :: key.toList ++ ['"'])
    (level : Nat) (value : Json.Value) :
    Json.prettyMember level (key, value) = printedMember key (pretty level value) := by
  simp [Json.prettyMember, printedMember, plain]

theorem quoted_jsonName (family : Family) : quoted family.jsonName = family.printed := by
  cases family <;> rfl

theorem scalar_bool (flag : Bool) : Json.scalar (.bool flag) = printedFlag flag := by
  cases flag <;> rfl

/-- **A record has one layout**, that of its JSON value. -/
theorem isPrinted_iff : r.IsPrinted text ↔ text = pretty 1 (recordJson r) := by
  have json : recordJson r = .object (("domain", .text r.domain) ::
      ("family", .text r.family.jsonName) :: ("proxied", .bool r.proxied) ::
      r.address.toList.map fun a => ("address", .text (String.ofList a.text))) := by
    unfold recordJson
    cases r.address <;> rfl
  have domain : quoted "domain" = '"' :: "domain".toList ++ ['"'] := rfl
  have family : quoted "family" = '"' :: "family".toList ++ ['"'] := rfl
  have proxied : quoted "proxied" = '"' :: "proxied".toList ++ ['"'] := rfl
  have address : quoted "address" = '"' :: "address".toList ++ ['"'] := rfl
  have layout : pretty 1 (recordJson r) = '\x7b' :: lineBreak 4 ++ ((',' :: lineBreak 4).intercalate
      (printedMember "domain" (quoted r.domain) :: printedMember "family" r.family.printed ::
        printedMember "proxied" (printedFlag r.proxied) ::
        r.address.toList.map fun a => printedMember "address" (quoted (String.ofList a.text))) ++
      (lineBreak 2 ++ ['\x7d'])) := by
    rw [json, Json.pretty_object]
    simp only [List.map_cons, List.map_map, Function.comp_def, prettyMember_eq domain,
      prettyMember_eq family, prettyMember_eq proxied, prettyMember_eq address, Json.pretty_text,
      Json.pretty_bool, quoted_jsonName, scalar_bool]
    rfl
  constructor
  · rintro ⟨name, known⟩
    rw [layout, Json.isString_iff.1 name, isPrintedAddress_iff.1 known]
  · rintro rfl
    rw [layout]
    exact .object (Json.isString_iff.2 rfl) (isPrintedAddress_iff.2 rfl)

/-- **Records have one layout**, that of what is printed. -/
theorem printedAs_iff {printout : String} :
    PrintedAs records printout ↔ printout = printed records := by
  have lineEnd : "\n" = String.ofList ['\n'] := rfl
  cases records with
  | nil =>
    have layout : printed [] = String.ofList ['[', ']', '\n'] := by
      rw [printed, List.map_nil, Json.Value.toPrettyText, Json.pretty_array_nil]
      rfl
    rw [layout]
    refine ⟨fun h => ?_, fun eq => eq ▸ .none⟩
    cases h
    rfl
  | cons r records =>
    have each (texts : List (List Char)) : List.Forall₂ Record.IsPrinted (r :: records) texts ↔
        texts = (r :: records).map fun r => pretty 1 (recordJson r) :=
      Text.forall₂_iff_eq_map (R := Record.IsPrinted) (f := fun r => pretty 1 (recordJson r))
        fun _ _ => isPrinted_iff
    have layout : printed (r :: records) = String.ofList ('[' :: lineBreak 2 ++
        ((',' :: lineBreak 2).intercalate ((r :: records).map fun r => pretty 1 (recordJson r)) ++
          ['\n', ']', '\n'])) := by
      rw [printed, List.map_cons, Json.Value.toPrettyText, Json.pretty_array, lineEnd,
        ← String.ofList_append, List.append_assoc, List.append_assoc, ← List.map_cons, List.map_map]
      rfl
    rw [layout]
    refine ⟨fun h => ?_, fun eq => eq ▸ .some ((each _).2 rfl)⟩
    cases h with
    | some all => rw [(each _).1 all]

end CommandLine

/-! ## The text tells the records apart -/

theorem Family.printed_append_inj {family family' : Family}
    (h : family.printed ++ rest = family'.printed ++ rest') : family = family' ∧ rest = rest' := by
  cases family <;> cases family' <;> simp_all [Family.printed]

theorem printedFlag_append_inj {flag flag' : Bool}
    (h : printedFlag flag ++ rest = printedFlag flag' ++ rest') : flag = flag' ∧ rest = rest' := by
  cases flag <;> cases flag' <;> simp_all [printedFlag]

/-- Behind the same keys stand the same values. -/
theorem value_append_eq {before value value' : List Char} {key : String}
    (h : before ++ (printedMember key value ++ rest) =
      before ++ (printedMember key value' ++ rest')) : value ++ rest = value' ++ rest' := by
  have members := List.append_cancel_left h
  simp only [printedMember, List.cons_append, List.append_assoc, List.cons.injEq, true_and] at members
  simpa using List.append_cancel_left members

/-- **Where a record ends** can be told from what stands behind its flag, and so can the
address: either there is a line for it, or the record ends. -/
theorem IsPrintedAddress.append_inj {a a' : Option Ip6} {members members' : List (List Char)}
    (h : IsPrintedAddress a members) (h' : IsPrintedAddress a' members')
    (same : members.flatMap ((',' :: lineBreak 4) ++ ·) ++ (lineBreak 2 ++ rest) =
      members'.flatMap ((',' :: lineBreak 4) ++ ·) ++ (lineBreak 2 ++ rest')) :
    a = a' ∧ rest = rest' := by
  cases h with
  | unknown =>
    cases h' with
    | unknown => exact ⟨rfl, List.append_cancel_left same⟩
    | known => simp [lineBreak] at same
  | @known a address string =>
    cases h' with
    | unknown => simp [lineBreak] at same
    | @known a' address' string' =>
      rw [Json.isString_iff.1 string, Json.isString_iff.1 string'] at same
      simp only [List.flatMap_cons, List.flatMap_nil, List.append_nil, List.append_assoc] at same
      obtain ⟨text, same⟩ := quoted_append_inj (value_append_eq same)
      have read := Ip6.ofText?_text a
      rw [String.ofList_inj.1 text, Ip6.ofText?_text] at read
      exact ⟨read.symm, List.append_cancel_left same⟩

/-- **A record tells where it ends**, and what it is. -/
theorem Record.IsPrinted.append_inj (h : r.IsPrinted text) (h' : r'.IsPrinted text')
    (same : text ++ rest = text' ++ rest') : r = r' ∧ rest = rest' := by
  obtain ⟨name, known⟩ := h
  obtain ⟨name', known'⟩ := h'
  rw [Json.isString_iff.1 name, Json.isString_iff.1 name'] at same
  simp only [Text.intercalate_cons, List.flatMap_cons, List.append_assoc] at same
  obtain ⟨domain, same⟩ := quoted_append_inj (value_append_eq same)
  obtain ⟨family, same⟩ := Family.printed_append_inj (value_append_eq same)
  obtain ⟨flag, same⟩ := printedFlag_append_inj (value_append_eq same)
  obtain ⟨address, same⟩ := known.append_inj known' same
  refine ⟨?_, List.append_cancel_left same⟩
  obtain ⟨⟩ := r
  obtain ⟨⟩ := r'
  simp_all

/-- Records behind others are told apart, one after another. -/
theorem eq_of_flatMap_eq {texts texts' : List (List Char)}
    (h : List.Forall₂ Record.IsPrinted records texts)
    (h' : List.Forall₂ Record.IsPrinted records' texts')
    (same : texts.flatMap ((',' :: lineBreak 2) ++ ·) ++ ['\n', ']', '\n'] =
      texts'.flatMap ((',' :: lineBreak 2) ++ ·) ++ ['\n', ']', '\n']) : records = records' := by
  induction h generalizing records' texts' with
  | nil =>
    cases h' with
    | nil => rfl
    | cons => simp at same
  | cons first _ ih =>
    cases h' with
    | nil => simp at same
    | cons first' later' =>
      simp only [List.flatMap_cons, List.append_assoc] at same
      obtain ⟨rfl, same⟩ := first.append_inj first' (List.append_cancel_left same)
      exact congrArg _ (ih later' same)

/-- **No other records are printed as the same text.** -/
theorem PrintedAs.unique {printout : String} (h : PrintedAs records printout)
    (h' : PrintedAs records' printout) : records = records' := by
  cases h with
  | none =>
    generalize same : String.ofList ['[', ']', '\n'] = printout at h'
    cases h' with
    | none => rfl
    | some => exact absurd (String.ofList_inj.1 same) (by simp [lineBreak])
  | some each =>
    generalize same : String.ofList _ = printout at h'
    cases h' with
    | none => exact absurd (String.ofList_inj.1 same) (by simp [lineBreak])
    | some each' =>
      -- the first records stand behind the bracket, all others behind commas
      obtain _ | ⟨first, later⟩ := each
      obtain _ | ⟨first', later'⟩ := each'
      have same := List.append_cancel_left (String.ofList_inj.1 same)
      simp only [Text.intercalate_cons, List.append_assoc] at same
      obtain ⟨rfl, same⟩ := first.append_inj first' same
      exact congrArg _ (eq_of_flatMap_eq later later' same)

end RecordPlan
