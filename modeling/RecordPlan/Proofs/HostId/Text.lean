import RecordPlan.Proofs.HostId.Kinds
import RecordPlan.Proofs.Setting.Token

/-!
# Host IDs are read back

`HostId.parse` reads what `HostId.text` writes, for every host ID that fits the
prefix length (`HostId.parse_text`). The text of a host part is one of the ways
to write an IPv6 address, that of a MAC address one of the ways to write a MAC
address, and no text is two things at once.

In the value of a setting the text of a host ID is a word
(`HostId.isProper_text`).
-/

namespace RecordPlan.HostId

variable {h : HostId} {n : UInt8} {c : Char}

/-- **Every way to write a MAC address** is read, where there is room for it. -/
theorem parse_of_mac {raw : String} {m : Mac} (isMac : m.IsSpelling raw.toList)
    (fits : n ≤ maxMacPrefixLen) : parse raw n = .ok (some (mac m)) := by
  have kind : (HostText.mac m).IsSpelling raw.toList := isMac
  rw [parse_of_isSpelling kind, HostText.outcome, if_neg (UInt8.not_lt.2 fits)]

/-- **Every host ID that fits is read back.** -/
theorem parse_text (fits : h.Fits n) (le : n ≤ 128) : parse h.text n = .ok (some h) := by
  cases h with
  | suffix a m =>
    obtain rfl : m = n := fits
    have kind : (HostText.ip6 a).IsSpelling (suffix a m).text.toList := by
      rw [text, String.toList_ofList]
      exact Ip6.isSpelling_text a
    rw [parse_of_isSpelling kind, HostText.outcome, if_neg (UInt8.not_lt.2 le)]
  | mac m =>
    refine parse_of_mac ?_ fits
    rw [text, String.toList_ofList]
    exact m.isSpelling_text

/-- A host ID consists of digits, colons and dots. -/
theorem mem_text (hc : c ∈ h.text.toList) : Text.isHexDigit c = true ∨ c = ':' ∨ c = '.' := by
  cases h with
  | suffix a n => exact Ip6.mem_text (String.toList_ofList ▸ hc)
  | mac m => exact (Mac.mem_text (String.toList_ofList ▸ hc)).imp_right .inl

theorem text_ne_nil (h : HostId) : h.text.toList ≠ [] := by
  cases h with
  | suffix a n =>
    rw [text, String.toList_ofList]
    exact List.ne_nil_of_mem (Ip6.colon_mem_text a)
  | mac m =>
    rw [text, String.toList_ofList]
    exact List.ne_nil_of_mem (Mac.colon_mem_text m)

/-- The text of a host ID is a word. -/
theorem isProper_text (h : HostId) : (Token.word h.text).IsProper := by
  refine ⟨h.text_ne_nil, fun c hc => ?_⟩
  rcases mem_text hc with digit | rfl | rfl
  · exact Token.isWordChar_of_isAlphanum (Text.isAlphanum_of_isHexDigit digit)
  · rfl
  · rfl

end RecordPlan.HostId
