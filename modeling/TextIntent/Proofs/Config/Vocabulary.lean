import Mathlib.Data.List.Sort
import Mathlib.Data.Set.Basic
import TextIntent.Config.Default
import TextIntent.Numeric.Double
import TextIntent.Proofs.Config.Keywords

/-! The vocabulary step of the validation compares sorted lists of distinct words. A list of this kind is determined
by its members, so what is compared are sets of words, and the verdict does not depend on how the tables list
them. -/
namespace TextIntent

section Canonical

variable {w : String} {vs xs ys : List String}

theorem pairwise_insertWord (h : vs.Pairwise (· < ·)) : (insertWord w vs).Pairwise (· < ·) := by
  induction vs with
  | nil => simp [insertWord]
  | cons v vs ih =>
    obtain ⟨hv, hvs⟩ := List.pairwise_cons.mp h
    unfold insertWord
    split
    next hlt =>
      refine List.pairwise_cons.mpr ⟨fun x hx => ?_, h⟩
      rcases List.mem_cons.mp hx with rfl | hx
      · exact hlt
      · exact String.lt_trans hlt (hv x hx)
    next hnot =>
      split
      next => exact h
      next hne =>
        refine List.pairwise_cons.mpr ⟨fun x hx => ?_, ih hvs⟩
        rcases mem_insertWord.mp hx with rfl | hx
        · exact Std.lt_of_le_of_ne (Std.not_lt.mp hnot) (Ne.symm hne)
        · exact hv x hx

theorem pairwise_vocabulary (words : List String) : (vocabulary words).Pairwise (· < ·) := by
  induction words with
  | nil => exact .nil
  | cons w ws ih => exact pairwise_insertWord ih

/-- Two lists have the same vocabulary if they have the same words. -/
theorem vocabulary_eq_iff : vocabulary xs = vocabulary ys ↔ ∀ w, w ∈ xs ↔ w ∈ ys := by
  constructor
  · intro h w
    rw [← mem_vocabulary, h, mem_vocabulary]
  · intro h
    refine (pairwise_vocabulary xs).eq_of_mem_iff (pairwise_vocabulary ys) fun w => ?_
    rw [mem_vocabulary, mem_vocabulary]
    exact h w

end Canonical

/-- The words of a list, without order and repetition. -/
def wordSet (words : List String) : Set String := {w | w ∈ words}

@[simp] theorem mem_wordSet {w : String} {words : List String} : w ∈ wordSet words ↔ w ∈ words :=
  Iff.rfl

namespace CategoryWords

/-- The union of the tables of a category. -/
def unionOf (tables : List CategoryWords) (c : Category) : Set String :=
  {w | ∃ table ∈ tables, table.category = c ∧ w ∈ table.words}

theorem mem_unionOf {w : String} {tables : List CategoryWords} {c : Category} :
    w ∈ unionOf tables c ↔ ∃ table ∈ tables, table.category = c ∧ w ∈ table.words :=
  Iff.rfl

@[simp] theorem mem_unionOf_cons {w : String} {table : CategoryWords} {tables : List CategoryWords}
    {c : Category} : w ∈ unionOf (table :: tables) c ↔
      (table.category = c ∧ w ∈ table.words) ∨ w ∈ unionOf tables c := by
  simp [mem_unionOf]

end CategoryWords

namespace Config

open CategoryWords (unionOf mem_unionOf mem_unionOf_cons)

variable {α : Type}

/-- The words of a category are the same in all tables that list them, and tables that list some of
them list no others. -/
structure TablesAgree (config : Config α) : Prop where
  slots : ∀ (i : Nat) (slot : Slot α) (c : Category), config.features.slots[i]? = some slot →
    categoriesBySlot[i]? = some (some c) → wordSet slot.words = unionOf config.evidence.lexical c
  structuralWords :
    wordSet config.bridge.structuralWords = unionOf config.evidence.lexical .structural
  physicsCues : wordSet config.bridge.physicsCues = unionOf config.evidence.lexical .physics
  operatorWords : wordSet config.bridge.operatorWords ⊆ unionOf config.evidence.lexical .operator
  discriminative : ∀ table ∈ config.suppression.discriminative,
    wordSet table.words ⊆ unionOf config.evidence.lexical table.category

section Checks

variable {config : Config α} {words : List String} {c : Category}

theorem sameWords_eq_none_iff (table : WordTable) :
    config.sameWords table words c = none ↔ wordSet words = unionOf config.evidence.lexical c := by
  have hset : vocabulary words = config.vocabularyOf c ↔
      wordSet words = unionOf config.evidence.lexical c := by
    rw [vocabularyOf_eq, vocabulary_eq_iff, Set.ext_iff]
    simp only [Evidence.mem_keywords]
    rfl
  rw [← hset]
  simp [sameWords]

theorem knownWords_eq_none_iff_subset (table : WordTable) :
    config.knownWords table words c = none ↔ wordSet words ⊆ unionOf config.evidence.lexical c := by
  rw [knownWords_eq_none_iff]
  simp only [Evidence.mem_keywords]
  rfl

/-- Every slot that carries the words of a category is compared. -/
theorem slotChecks_iff (config : Config α) :
    (∀ check ∈ (config.features.slots.zip categoriesBySlot).filterMap fun (slot, category) =>
        category.map fun c => config.sameWords (.slot c) slot.words c, check = none) ↔
      ∀ (i : Nat) (slot : Slot α) (c : Category), config.features.slots[i]? = some slot →
        categoriesBySlot[i]? = some (some c) → wordSet slot.words = unionOf config.evidence.lexical c := by
  constructor
  · intro h i slot c hslot hc
    refine (sameWords_eq_none_iff (.slot c)).mp (h _ (List.mem_filterMap.mpr ⟨(slot, some c), ?_, rfl⟩))
    exact List.mem_iff_getElem?.mpr ⟨i, List.getElem?_zip_eq_some.mpr ⟨hslot, hc⟩⟩
  · intro h check hcheck
    obtain ⟨⟨slot, category⟩, hm, hcategory⟩ := List.mem_filterMap.mp hcheck
    obtain ⟨c, rfl, rfl⟩ := Option.map_eq_some_iff.mp hcategory
    obtain ⟨i, hi⟩ := List.mem_iff_getElem?.mp hm
    obtain ⟨hslot, hc⟩ := List.getElem?_zip_eq_some.mp hi
    exact (sameWords_eq_none_iff (.slot c)).mpr (h i slot c hslot hc)

theorem vocabularyChecks_iff (config : Config α) :
    (∀ check ∈ config.vocabularyChecks, check = none) ↔ config.TablesAgree := by
  simp only [vocabularyChecks, List.forall_mem_append, List.forall_mem_cons, List.forall_mem_map,
    List.not_mem_nil, false_implies, implies_true, and_true, slotChecks_iff, sameWords_eq_none_iff,
    knownWords_eq_none_iff_subset]
  constructor
  · rintro ⟨⟨hslots, hstructural, hphysics, hoperator⟩, hdiscriminative⟩
    exact ⟨hslots, hstructural, hphysics, hoperator, hdiscriminative⟩
  · rintro ⟨hslots, hstructural, hphysics, hoperator, hdiscriminative⟩
    exact ⟨⟨hslots, hstructural, hphysics, hoperator⟩, hdiscriminative⟩

end Checks

section Relisting

/-- The tables of a category listed in another way: tables change places, a table lists its words in another order or
more than once, and one table becomes two or two become one. -/
inductive Relisted : List CategoryWords → List CategoryWords → Prop
  | order {ts us : List CategoryWords} (h : ts.Perm us) : Relisted ts us
  | words (c : Category) {ws vs : List String} (h : wordSet ws = wordSet vs)
    (ts : List CategoryWords) : Relisted (⟨c, ws⟩ :: ts) (⟨c, vs⟩ :: ts)
  | split (c : Category) (ws vs : List String) (ts : List CategoryWords) :
    Relisted (⟨c, ws ++ vs⟩ :: ts) (⟨c, ws⟩ :: ⟨c, vs⟩ :: ts)
  | symm {ts us : List CategoryWords} (h : Relisted ts us) : Relisted us ts
  | trans {ts us vs : List CategoryWords} (h : Relisted ts us) (h' : Relisted us vs) :
    Relisted ts vs

theorem Relisted.unionOf_eq {ts us : List CategoryWords} (h : Relisted ts us) (c : Category) :
    unionOf ts c = unionOf us c := by
  induction h with
  | order h =>
    ext w
    simp only [mem_unionOf, h.mem_iff]
  | words d h ts =>
    ext w
    have hw : w ∈ _ ↔ w ∈ _ := Set.ext_iff.mp h w
    rw [mem_wordSet, mem_wordSet] at hw
    rw [mem_unionOf_cons, mem_unionOf_cons, hw]
  | split d ws vs ts =>
    ext w
    simp only [mem_unionOf_cons, List.mem_append, and_or_left, or_assoc]
  | symm _ ih => exact ih.symm
  | trans _ _ ih ih' => exact ih.trans ih'

/-- The word tables of a configuration listed in another way, each with the same words as before. Slots keep their
places. -/
structure Relists (config config' : Config α) : Prop where
  slots : List.Forall₂ (fun s t => wordSet s.words = wordSet t.words) config.features.slots
    config'.features.slots
  lexical : Relisted config.evidence.lexical config'.evidence.lexical
  discriminative :
    Relisted config.suppression.discriminative config'.suppression.discriminative
  structuralWords : wordSet config.bridge.structuralWords = wordSet config'.bridge.structuralWords
  physicsCues : wordSet config.bridge.physicsCues = wordSet config'.bridge.physicsCues
  operatorWords : wordSet config.bridge.operatorWords = wordSet config'.bridge.operatorWords

namespace Relists

variable {config config' : Config α}

theorem symm (h : config.Relists config') : config'.Relists config where
  slots := h.slots.flip.imp fun _ _ => Eq.symm
  lexical := h.lexical.symm
  discriminative := h.discriminative.symm
  structuralWords := h.structuralWords.symm
  physicsCues := h.physicsCues.symm
  operatorWords := h.operatorWords.symm

theorem wordSet_slot (h : config.Relists config') {i : Nat} {slot : Slot α}
    (hs : config'.features.slots[i]? = some slot) :
    ∃ slot', config.features.slots[i]? = some slot' ∧ wordSet slot'.words = wordSet slot.words := by
  obtain ⟨hlength, hslots⟩ := List.forall₂_iff_get.mp h.slots
  obtain ⟨hi, rfl⟩ := List.getElem?_eq_some_iff.mp hs
  exact ⟨_, List.getElem?_eq_getElem (hlength ▸ hi), hslots i (hlength ▸ hi) hi⟩

theorem tablesAgree (h : config.Relists config') (ha : config.TablesAgree) :
    config'.TablesAgree where
  slots i slot c hs hc := by
    obtain ⟨slot', hs', hw⟩ := h.wordSet_slot hs
    rw [← hw, ha.slots i slot' c hs' hc, h.lexical.unionOf_eq]
  structuralWords := by rw [← h.structuralWords, ha.structuralWords, h.lexical.unionOf_eq]
  physicsCues := by rw [← h.physicsCues, ha.physicsCues, h.lexical.unionOf_eq]
  operatorWords := by
    rw [← h.operatorWords, ← h.lexical.unionOf_eq]
    exact ha.operatorWords
  discriminative table ht w hw := by
    -- the word stands in some table of the category, listed in the first way
    have hmem : w ∈ unionOf config.suppression.discriminative table.category := by
      rw [h.discriminative.unionOf_eq]
      exact ⟨table, ht, rfl, hw⟩
    obtain ⟨table', ht', hc, hw'⟩ := hmem
    rw [← h.lexical.unionOf_eq, ← hc]
    exact ha.discriminative table' ht' hw'

end Relists

end Relisting

/-- The vocabulary step finds no fault exactly if the tables agree as sets of words. So the verdict does not depend
on the order of words or tables, on repetition, or on how the words of a category are spread over its tables. -/
theorem vocabulary_faultless_iff (config : Config α) :
    (config.vocabularyChecks.findSome? id = none ↔ config.TablesAgree) ∧
      ∀ config' : Config α, config.Relists config' →
        (config.vocabularyChecks.findSome? id = none ↔
          config'.vocabularyChecks.findSome? id = none) := by
  have hfaultless (d : Config α) : d.vocabularyChecks.findSome? id = none ↔ d.TablesAgree := by
    rw [List.findSome?_eq_none_iff]
    exact vocabularyChecks_iff d
  refine ⟨hfaultless config, fun config' h => ?_⟩
  rw [hfaultless, hfaultless]
  exact ⟨h.tablesAgree, h.symm.tablesAgree⟩

/-- The default settings with the greetings spread over two tables, the tables in reverse order, and the words of
every slot in reverse order and then once more. -/
def respread : Config Float :=
  { Config.default with
    features :=
      { Config.default.features with
        slots := (Config.default : Config Float).features.slots.map fun slot =>
          { slot with words := slot.words.reverse ++ slot.words } }
    evidence :=
      { Config.default.evidence with
        lexical :=
          (⟨.greeting, Default.greetingWords.take 2⟩ :: ⟨.greeting, Default.greetingWords.drop 2⟩ ::
            (Config.default : Config Float).evidence.lexical.tail).reverse } }

theorem respread_faultless :
    (Config.default : Config Float).Relists respread ∧
      respread.vocabularyChecks.findSome? id = none := by
  have hslots : List.Forall₂ (fun s t : Slot Float => wordSet s.words = wordSet t.words)
      (Config.default : Config Float).features.slots respread.features.slots := by
    change List.Forall₂ _ _ (List.map _ _)
    rw [List.forall₂_map_right_iff, List.forall₂_same]
    intro slot _
    ext w
    simp
  have hlexical : Relisted (Config.default : Config Float).evidence.lexical respread.evidence.lexical :=
    (Relisted.split .greeting (Default.greetingWords.take 2) (Default.greetingWords.drop 2)
      (Config.default : Config Float).evidence.lexical.tail).trans (.order (List.reverse_perm _).symm)
  have h : (Config.default : Config Float).Relists respread :=
    ⟨hslots, hlexical, .order (.refl _), rfl, rfl, rfl⟩
  have hdefault : (Config.default : Config Float).vocabularyChecks.findSome? id = none :=
    Option.isNone_iff_eq_none.mp (by decide +kernel)
  exact ⟨h, ((vocabulary_faultless_iff _).2 respread h).mp hdefault⟩

end Config
end TextIntent
