import TextIntent.Proofs.Real.Config
import TextIntent.Proofs.Real.Evidence

/-! Evidence from words, over the reals. Whether a text has a keyword is found out in two ways: by a search that
ends at the first one, and from the total of all counts. The two agree on every text, because each keyword that
occurs counts one at least, and with nothing to count the total is zero. So the words of a text either speak for
the categories with a keyword in it and for no other, or all texts are the same to them. -/
namespace TextIntent

section Accepted

variable {α : Type} [Scalar α]

/-- The settings meet every demand on them. -/
def EvidenceSettings.Accepted (e : EvidenceSettings α) : Prop :=
  ∀ check ∈ Config.evidenceChecks e, check = none

theorem Config.Accepted.evidence {config : Config α} (h : config.Accepted) :
    config.evidence.Accepted :=
  fun check hm => Config.accepted_iff.mp h check (by simp [Config.checks, hm])

end Accepted

namespace Exact

open Scalar Config

variable {e : EvidenceSettings ℝ} {lower : String} {c : Category}

section Hits

variable (h : 0 ≤ e.phraseBonus)

include h

theorem zero_lt_wordHits_iff :
    0 < (Evidence.wordHits e lower).get c ↔
      Text.occursAny (Evidence.keywords e c) lower = true := by
  constructor
  · intro hpos
    by_contra hn
    exact hpos.ne' (wordHits_eq_zero hn)
  · exact fun ho => one_pos.trans_le (one_le_wordHits h ho)

/-- A keyword is found if a category scores one. -/
theorem hasWords_iff_one_le : Evidence.hasWords e lower = true ↔
    ∃ c, 1 ≤ (Evidence.wordHits e lower).get c := by
  rw [Evidence.hasWords_iff]
  refine exists_congr fun c => ⟨one_le_wordHits h, fun hone => ?_⟩
  exact (zero_lt_wordHits_iff h).mp (one_pos.trans_le hone)

theorem one_le_total_wordHits (hw : Evidence.hasWords e lower = true) :
    1 ≤ (Evidence.wordHits e lower).total := by
  obtain ⟨c, hc⟩ := (hasWords_iff_one_le h).mp hw
  exact hc.trans (get_le_total (wordHits_nonneg h lower) c)

end Hits

theorem total_wordHits_eq_zero (hn : ¬Evidence.hasWords e lower = true) :
    (Evidence.wordHits e lower).total = 0 := by
  rw [total_eq]
  refine List.sum_eq_zero fun x hx => ?_
  obtain ⟨c, -, rfl⟩ := List.mem_map.mp hx
  exact wordHits_eq_zero fun ho => hn (Evidence.hasWords_of_occursAny ho)

theorem lexical_of_hasWords (h : 0 ≤ e.phraseBonus) (hw : Evidence.hasWords e lower = true) :
    epsilon < (Evidence.wordHits e lower).total ∧
      Evidence.lexical e lower = (Evidence.wordHits e lower).normalized := by
  have ht : epsilon < (Evidence.wordHits e lower).total := by
    rw [epsilon_eq]
    linarith [one_le_total_wordHits h hw]
  refine ⟨ht, ?_⟩
  rw [Evidence.lexical, if_neg (not_le.mpr ht)]

theorem lexical_of_not_hasWords (hn : ¬Evidence.hasWords e lower = true) :
    Evidence.lexical e lower = (Evidence.prior e).normalized := by
  rw [Evidence.lexical, total_wordHits_eq_zero hn, if_pos epsilon_pos.le]

theorem get_prior (e : EvidenceSettings ℝ) (c : Category) :
    (Evidence.prior e).get c = if c = .unknown then e.noMatchWeight else 1 := by
  rw [Evidence.prior, PerCategory.set, PerCategory.get_modify, PerCategory.get_const]

theorem total_prior (e : EvidenceSettings ℝ) : (Evidence.prior e).total = 7 + e.noMatchWeight := by
  simp only [total_eq, Category.all, List.map_cons, List.map_nil, List.sum_cons, List.sum_nil,
    get_prior, reduceCtorEq, if_true, if_false]
  ring

/-- With a keyword in the text, the words speak for the categories that have one there. -/
theorem zero_lt_lexical_iff (h : 0 ≤ e.phraseBonus) (hw : Evidence.hasWords e lower = true) :
    0 < (Evidence.lexical e lower).get c ↔
      Text.occursAny (Evidence.keywords e c) lower = true := by
  obtain ⟨ht, hlexical⟩ := lexical_of_hasWords h hw
  have hpos : 0 < (Evidence.wordHits e lower).total + epsilon := by linarith [epsilon_pos]
  rw [hlexical, normalized_of_lt ht, PerCategory.get_map, div_pos_iff_of_pos_right hpos,
    zero_lt_wordHits_iff h]

/-- What the words say about a text without a keyword: the same for every such text. -/
noncomputable def wordless (e : EvidenceSettings ℝ) : Scores ℝ :=
  PerCategory.ofFn fun c =>
    (if c = .unknown then e.noMatchWeight else 1) / (7 + e.noMatchWeight + epsilon)

theorem lexical_eq_wordless (h : 0 ≤ e.noMatchWeight) (hn : ¬Evidence.hasWords e lower = true) :
    Evidence.lexical e lower = wordless e := by
  have ht : epsilon < (Evidence.prior e).total := by
    rw [total_prior, epsilon_eq]
    linarith
  rw [lexical_of_not_hasWords hn, normalized_of_lt ht, total_prior]
  refine PerCategory.ext_get fun c => ?_
  rw [PerCategory.get_map, get_prior, wordless, PerCategory.get_ofFn]

/-- For accepted settings: a text has a keyword if some category scores one at least, and then the words speak for
the categories with a keyword in the text and for no other; about all texts without a keyword they say the
same. -/
theorem lexical_of_accepted (h : e.Accepted) :
    (∀ lower, Evidence.hasWords e lower = true ↔ ∃ c, 1 ≤ (Evidence.wordHits e lower).get c) ∧
    (∀ lower, Evidence.hasWords e lower = true → ∀ c, 0 < (Evidence.lexical e lower).get c ↔
      ∃ table ∈ e.lexical, table.category = c ∧
        ∃ word ∈ table.words, word.toList <:+: lower.toList) ∧
    ∀ lower, Evidence.hasWords e lower = false → Evidence.lexical e lower = wordless e := by
  obtain ⟨hbonus, hweight, -⟩ := (evidenceChecks_iff e).mp h
  refine ⟨fun lower => hasWords_iff_one_le hbonus, fun lower hw c => ?_, fun lower hn => ?_⟩
  · simp only [zero_lt_lexical_iff hbonus hw, Text.occursAny_iff, Evidence.mem_keywords, Text.occurs_iff]
    constructor
    · rintro ⟨word, ⟨table, ht, hc, hword⟩, ho⟩
      exact ⟨table, ht, hc, word, hword, ho⟩
    · rintro ⟨table, ht, hc, word, hword, ho⟩
      exact ⟨word, ⟨table, ht, hc, hword⟩, ho⟩
  · exact lexical_eq_wordless hweight (Bool.not_eq_true _ ▸ hn)

/-- The default settings, with a text that has a phrase for `navigation` and a keyword for `physics` but none for
`greeting`, and a text without any keyword. -/
theorem lexical_of_take_me_to_the_energy :
    let e : EvidenceSettings ℝ := Default.evidence
    let lower := "take me to the energy"
    e.Accepted ∧ (Evidence.hasWords e lower = true ∧ ∃ c, 1 ≤ (Evidence.wordHits e lower).get c) ∧
      0 < (Evidence.lexical e lower).get .navigation ∧ 0 < (Evidence.lexical e lower).get .physics ∧
      ¬0 < (Evidence.lexical e lower).get .greeting ∧
      Evidence.hasWords e "zzz" = false ∧ Evidence.lexical e "zzz" = wordless e := by
  intro e lower
  have he : e.Accepted := default_accepted.evidence
  have hw : Evidence.hasWords e lower = true := by decide +kernel
  have hn : Evidence.hasWords e "zzz" = false := by decide +kernel
  obtain ⟨hone, hpos, hsame⟩ := lexical_of_accepted he
  refine ⟨he, ⟨hw, (hone lower).mp hw⟩, (hpos lower hw _).mpr ?_, (hpos lower hw _).mpr ?_, fun h => ?_, hn,
    hsame _ hn⟩
  · exact ⟨⟨.navigation, Default.navigationWords⟩, by simp [e, Default.evidence], rfl, "take me to",
      by decide, Text.occurs_iff.mp (by decide +kernel)⟩
  · exact ⟨⟨.physics, Default.physicsWords⟩, by simp [e, Default.evidence], rfl, "energy", by decide,
      Text.occurs_iff.mp (by decide +kernel)⟩
  · obtain ⟨table, ht, hc, word, hword, ho⟩ := (hpos lower hw .greeting).mp h
    have hgreeting : Text.occursAny (Evidence.keywords e .greeting) lower = false := by decide +kernel
    exact Bool.eq_false_iff.mp hgreeting (Text.occursAny_iff.mpr
      ⟨word, Evidence.mem_keywords.mpr ⟨table, ht, hc, hword⟩, Text.occurs_iff.mpr ho⟩)

end Exact
end TextIntent
