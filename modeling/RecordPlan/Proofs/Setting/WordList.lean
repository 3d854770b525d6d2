import RecordPlan.Proofs.Setting.Entry
import RecordPlan.Proofs.Setting.Token

/-!
# Lists of words

Words with commas between them are the plainest list of domains there is, and
the one that stands in the parentheses behind a keyword. Such a text has the
tokens that one expects (`toList_intercalate_comma`), no comma is missing in
it (`missingCommas_wordTokens_append`), and it lists the domains that its words
name (`listing_wordTokens`).
-/

namespace RecordPlan

variable {ws : List String} {ds : List Domain} {t : Token}

/-- The tokens of a list of words. -/
def wordTokens (ws : List String) : List Token := (ws.map Token.word).intersperse .comma

theorem wordTokens_cons_cons (w v : String) (ws : List String) :
    wordTokens (w :: v :: ws) = .word w :: .comma :: wordTokens (v :: ws) := rfl

/-- Words with commas between them are the text of their tokens. -/
theorem toList_intercalate_comma (ws : List String) :
    (",".intercalate ws).toList = (wordTokens ws).flatMap (·.text.toList) := by
  induction ws with
  | nil => simp [wordTokens]
  | cons w ws ih =>
    cases ws with
    | nil => simp [wordTokens, Token.text]
    | cons v ws =>
      rw [wordTokens_cons_cons, List.flatMap_cons, List.flatMap_cons, ← ih,
        String.intercalate_cons_cons, String.toList_append, String.toList_append,
        List.append_assoc]
      rfl

/-- No comma is missing in a list of words, nor behind it where something else
than a domain may follow. -/
theorem missingCommas_wordTokens_append (ws : List String) (rest : List Token) :
    Token.missingCommas true (wordTokens ws ++ .rightParen :: rest) =
      Token.missingCommas true rest := by
  induction ws with
  | nil => rfl
  | cons w ws ih =>
    cases ws with
    | nil => rfl
    | cons v ws => exact ih

/-- The tokens of a list are its words and commas. -/
theorem mem_wordTokens (h : t ∈ wordTokens ws) : t = .comma ∨ ∃ w ∈ ws, t = .word w := by
  induction ws with
  | nil => cases h
  | cons w ws ih =>
    cases ws with
    | nil => exact .inr ⟨w, List.mem_cons_self, List.mem_singleton.1 h⟩
    | cons v ws =>
      rw [wordTokens_cons_cons, List.mem_cons, List.mem_cons] at h
      rcases h with rfl | rfl | later
      · exact .inr ⟨w, List.mem_cons_self, rfl⟩
      · exact .inl rfl
      · exact (ih later).imp_right fun ⟨u, mem, eq⟩ => ⟨u, List.mem_cons_of_mem _ mem, eq⟩

theorem isProper_of_mem_wordTokens (proper : ∀ w ∈ ws, (Token.word w).IsProper)
    (h : t ∈ wordTokens ws) : t.IsProper := by
  rcases mem_wordTokens h with rfl | ⟨w, mem, rfl⟩
  · trivial
  · exact proper w mem

/-- **A list of words lists the domains that they name.** -/
theorem listing_wordTokens (named : ws.map Domain.parse = ds.map .ok) :
    Listing none (wordTokens ws) (ds.map (⟨·, none⟩)) := by
  induction ws generalizing ds with
  | nil =>
    obtain rfl := List.map_eq_nil_iff.1 named.symm
    exact .nil
  | cons w ws ih =>
    obtain ⟨d, ds, rfl, first, later⟩ := List.map_eq_cons_iff.1 named.symm
    have list := ih later.symm
    cases ws with
    | nil =>
      obtain rfl := List.map_eq_nil_iff.1 later
      exact .domain first.symm .nil
    | cons v ws => exact .domain first.symm (.comma list)

end RecordPlan
