import RecordPlan.Proofs.HostId.Text

/-!
# Host IDs and their texts

A host ID can be written and read again without loss: `HostId.text` is read
back, and for a MAC address so is every other spelling, in small letters, in
capital letters or in both (`HostId.parse_of_spelling`). Nothing is lost in the
text except for the prefix length of a host part, so host IDs that agree in
that have different texts unless they are the same, and a host part never looks
like a MAC address (`HostId.text_suffix_ne_text_mac`).
-/

namespace RecordPlan.HostId

variable {a b : Ip6} {m m' : Mac} {n k : UInt8}

theorem toList_text_suffix (a : Ip6) (n : UInt8) : (suffix a n).text.toList = a.text :=
  String.toList_ofList

theorem toList_text_mac (m : Mac) : (mac m).text.toList = m.text := String.toList_ofList

/-- Host parts are told apart by their texts. -/
theorem text_suffix_inj : (suffix a n).text = (suffix b k).text ↔ a = b := by
  refine ⟨fun h => ?_, fun h => h ▸ rfl⟩
  have texts := congrArg (fun t => Ip6.ofText? t.toList) h
  simp only [toList_text_suffix, Ip6.ofText?_text] at texts
  exact Option.some.inj texts

/-- MAC addresses are told apart by their texts. -/
theorem text_mac_inj : (mac m).text = (mac m').text ↔ m = m' := by
  refine ⟨fun h => ?_, fun h => h ▸ rfl⟩
  have texts := congrArg (fun t => Mac.ofText? t.toList) h
  simp only [toList_text_mac, Mac.ofText?_text] at texts
  exact Option.some.inj texts

/-- **A host part does not look like a MAC address.** -/
theorem text_suffix_ne_text_mac (a : Ip6) (n : UInt8) (m : Mac) :
    (suffix a n).text ≠ (mac m).text := by
  intro h
  have texts := congrArg (fun t => Ip6.ofText? t.toList) h
  simp only [toList_text_suffix, toList_text_mac, Ip6.ofText?_text,
    Mac.ip6OfText?_eq_none (Mac.ofText?_text m)] at texts
  cases texts

/-- **Every spelling of a MAC address is read**, in any letter case. -/
theorem parse_of_spelling {raw : String} {s : List Char} (spelling : s ∈ m.spellings)
    (same : Text.sameButCase raw.toList s = true) (le : n ≤ maxMacPrefixLen) :
    parse raw n = .ok (some (mac m)) :=
  parse_of_mac ⟨s, spelling, same⟩ le

/-- **Host IDs survive printing.** The text of a host part is read as that host
part for the prefix length that it was read against, and the text of a MAC
address as that MAC address for every prefix length that leaves room for it;
so are its spellings with hyphens and with dots, in any letter case. So host
parts of one prefix length, and MAC addresses, have different texts unless they
are the same, and no host part has the text of a MAC address. -/
theorem host_ids_survive_printing :
    (∀ (a : Ip6) (n : UInt8), n ≤ 128 →
      parse (suffix a n).text n = .ok (some (suffix a n))) ∧
    (∀ (m : Mac) (n : UInt8), n ≤ 64 →
      parse (mac m).text n = .ok (some (mac m)) ∧
      ∀ raw : String, ∀ s ∈ m.spellings,
        Text.sameButCase raw.toList s = true → parse raw n = .ok (some (mac m))) ∧
    (∀ (a b : Ip6) (n : UInt8),
      (suffix a n).text = (suffix b n).text → suffix a n = suffix b n) ∧
    (∀ m m' : Mac, (mac m).text = (mac m').text → mac m = mac m') ∧
    ∀ (a : Ip6) (n : UInt8) (m : Mac), (suffix a n).text ≠ (mac m).text := by
  refine ⟨fun a n le => parse_text rfl le, fun m n le => ⟨parse_text le ?_, ?_⟩, ?_, ?_,
    text_suffix_ne_text_mac⟩
  · exact UInt8.le_trans le (by decide)
  · exact fun raw s spelling same => parse_of_spelling spelling same le
  · exact fun a b n same => congrArg (suffix · n) (text_suffix_inj.1 same)
  · exact fun m m' same => congrArg mac (text_mac_inj.1 same)

/-- An address that stands for an IPv4 address, and a MAC address in mixed
letters. -/
theorem mapped_address_and_mixed_letters_survive :
    let a : Ip6 := ⟨0xFFFFC0000201#128⟩
    let m : Mac := ⟨0xAABBCCDDEEFF#48⟩
    (suffix a 128).text = "::ffff:192.0.2.1" ∧
      parse "::ffff:192.0.2.1" 128 = .ok (some (suffix a 128)) ∧
      parse "aa:bb:cc:dd:ee:ff" 64 = .ok (some (mac m)) ∧
      parse "AA-bb-Cc-dD-ee-FF" 64 = .ok (some (mac m)) ∧
      parse "aaBB.CCdd.eEfF" 0 = .ok (some (mac m)) := by
  intro a m
  obtain ⟨suffixes, macs, -⟩ := host_ids_survive_printing
  have mapped : (suffix a 128).text = "::ffff:192.0.2.1" := by decide
  have colons : (mac m).text = "aa:bb:cc:dd:ee:ff" := by decide
  refine ⟨mapped, ?_, ?_, ?_, ?_⟩
  · rw [← mapped]
    exact suffixes a 128 (by decide)
  · rw [← colons]
    exact (macs m 64 (by decide)).1
  · exact (macs m 64 (by decide)).2 _ m.dashed (by simp [Mac.spellings]) (by decide)
  · exact (macs m 0 (by decide)).2 _ m.dotted (by simp [Mac.spellings]) (by decide)

end RecordPlan.HostId
