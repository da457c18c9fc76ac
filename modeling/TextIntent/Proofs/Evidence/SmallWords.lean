import TextIntent.Decision
import TextIntent.Proofs.Evidence.WordHits
import TextIntent.Proofs.Text.Lower

/-! Keywords as they are configured and texts as they are typed. A text is lower-cased before it is searched, a
keyword is not. So a keyword in small letters is found in every text that has it, and one that lower-casing
would change is found in none. -/
namespace TextIntent.Config

open Evidence

variable {config : Config Float} {table : CategoryWords} {word : String}

/-- A keyword that is found scores for its category, and gives the text a signal whatever its signature is. -/
theorem signal_of_occurs (h : config.Accepted) (ht : table ∈ config.evidence.lexical)
    (hw : word ∈ table.words) {lower : String} (ho : Text.occurs word lower = true) :
    0 < (wordHits config.evidence lower).get table.category ∧
      hasWords config.evidence lower = true ∧
        ∀ signature, config.lacksSignal lower signature = false := by
  have hany : Text.occursAny (keywords config.evidence table.category) lower = true :=
    Text.occursAny_iff.mpr ⟨word, mem_keywords.mpr ⟨table, ht, rfl, hw⟩, ho⟩
  have hwords := hasWords_of_occursAny hany
  refine ⟨(zero_lt_wordHits_iff h lower table.category).mpr hany, hwords, fun signature => ?_⟩
  rw [lacksSignal, hwords, Bool.not_true, Bool.and_false]

/-- What lower-casing a text does to a keyword of an accepted configuration. One in small letters is found in
every text that has it, scores for its category and gives the text a signal. Any other is found in no text, not
even in one that has it. -/
theorem keyword_found_iff (h : config.Accepted) (ht : table ∈ config.evidence.lexical)
    (hw : word ∈ table.words) :
    ((∀ text, Text.occurs word text = true → Text.occurs word (Text.lower text) = true) ↔
      Text.lower word = word) ∧
    (Text.lower word = word → ∀ text, Text.occurs word text = true →
      0 < (wordHits config.evidence (Text.lower text)).get table.category ∧
        hasWords config.evidence (Text.lower text) = true ∧
          ∀ signature, config.lacksSignal (Text.lower text) signature = false) ∧
    (Text.lower word ≠ word → ∀ text, Text.occurs word (Text.lower text) = false) := by
  refine ⟨⟨fun hfound => ?_, fun hsmall text => Text.occurs_lower hsmall⟩,
    fun hsmall text ho => ?_, Text.occurs_lower_eq_false⟩
  · -- a keyword is itself a text that has it
    have hself : Text.occurs word word = true := Text.occurs_iff.mpr (List.infix_refl _)
    by_contra hchanged
    exact Bool.noConfusion ((hfound word hself).symm.trans (Text.occurs_lower_eq_false hchanged word))
  · exact signal_of_occurs h ht hw (Text.occurs_lower hsmall ho)

/-- A greeting of the default configuration, in small letters next to a word in capitals. -/
theorem keyword_found_in_hello :
    (Config.default : Config Float).Accepted ∧
      0 < (wordHits (Config.default : Config Float).evidence (Text.lower "WELL hello")).get .greeting ∧
        ∀ signature,
          (Config.default : Config Float).lacksSignal (Text.lower "WELL hello") signature = false := by
  have hgreeting : (⟨.greeting, ["hello", "hey", "greetings", "good morning", "good evening"]⟩ :
      CategoryWords) ∈ (Config.default : Config Float).evidence.lexical := by decide
  have hhello : "hello" ∈ ["hello", "hey", "greetings", "good morning", "good evening"] := by decide
  obtain ⟨-, hsmall, -⟩ := keyword_found_iff default_accepted hgreeting hhello
  obtain ⟨hscore, -, hsignal⟩ := hsmall (by decide +kernel) "WELL hello" (by decide +kernel)
  exact ⟨default_accepted, hscore, hsignal⟩

/-- The default settings with a greeting in capitals, in both tables that list greetings. -/
def capitalGreeting : Config Float :=
  { Config.default with
    features :=
      { Config.default.features with
        slots := (Config.default : Config Float).features.slots.modifyHead fun slot =>
          { slot with words := slot.words ++ ["X"] } }
    evidence :=
      { Config.default.evidence with
        lexical := (Config.default : Config Float).evidence.lexical.modifyHead fun table =>
          { table with words := table.words ++ ["X"] } } }

/-- Settings that are accepted, and a keyword of theirs that is not seen where it is all of the text. -/
theorem capitalGreeting_unseen :
    capitalGreeting.Accepted ∧
      (∃ table ∈ capitalGreeting.evidence.lexical, table.category = .greeting ∧ "X" ∈ table.words) ∧
      Text.occurs "X" "X" = true ∧
      ¬0 < (wordHits capitalGreeting.evidence (Text.lower "X")).get .greeting ∧
      hasWords capitalGreeting.evidence (Text.lower "X") = false ∧
      capitalGreeting.lacksSignal (Text.lower "X")
        (Signature.ofLower capitalGreeting.features (Text.lower "X")) = true := by
  refine ⟨?_, ?_, ?_, ?_, ?_, ?_⟩
  · unfold Accepted
    decide +kernel
  · exact ⟨_, List.mem_cons_self, rfl, by decide⟩
  all_goals decide +kernel

end TextIntent.Config
