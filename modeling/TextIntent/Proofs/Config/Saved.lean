import TextIntent.Config.Format
import TextIntent.Proofs.Config.Numbers
import TextIntent.Proofs.Json.Library

/-! Saving configurations with a JSON library. A configuration is read back from its text just if all its
numbers are finite, and acceptance demands that of every one of them. -/
namespace TextIntent

namespace Format

variable {α : Type} {number : Format α} {p : α → Prop}

theorem exact_words : text.list.Exact fun _ => True := exact_text.list_of_all

theorem exact_activation : activation.Exact fun _ => True :=
  exact_of_restores fun a => by cases a <;> rfl

theorem Exact.slot (h : number.Exact p) : number.slot.Exact fun s => p s.weight := by
  refine exact_record (fun _ => rfl) (fun _ => rfl) (fun _ => rfl) (by decide) fun s t => ?_
  change (number.decode (number.encode s.weight) >>= _) = _ ↔ _
  rw [h.bind_iff, exact_words.bind_iff, true_and]
  exact and_congr_right' Option.some_inj

theorem exact_categoryWords : categoryWords.Exact fun _ => True := by
  refine exact_record (fun _ => rfl) (fun _ => rfl) (fun _ => rfl) (by decide) fun w t => ?_
  change (category.decode (category.encode w.category) >>= _) = _ ↔ _
  rw [exact_category.bind_iff, exact_words.bind_iff, true_and]
  exact and_congr_right' Option.some_inj

theorem Exact.adjustment (h : number.Exact p) : number.adjustment.Exact fun a => p a.factor := by
  refine exact_record (fun _ => rfl) (fun _ => rfl) (fun _ => rfl) (by decide) fun a t => ?_
  change (category.decode (category.encode a.category) >>= _) = _ ↔ _
  rw [exact_category.bind_iff, h.bind_iff, true_and]
  exact and_congr_right' Option.some_inj

theorem Exact.route (h : number.Exact p) : number.route.Exact fun r => p r.weight := by
  refine exact_record (fun _ => rfl) (fun _ => rfl) (fun _ => rfl) (by decide) fun r t => ?_
  change (category.decode (category.encode r.category) >>= _) = _ ↔ _
  rw [exact_category.bind_iff, h.bind_iff, true_and]
  exact and_congr_right' Option.some_inj

theorem Exact.confusablePair (h : number.Exact p) :
    number.confusablePair.Exact fun c => p c.repulsion := by
  refine exact_record (fun _ => rfl) (fun _ => rfl) (fun _ => rfl) (by decide) fun c t => ?_
  change (category.decode (category.encode c.first) >>= _) = _ ↔ _
  rw [exact_category.bind_iff, exact_category.bind_iff, h.bind_iff, true_and, true_and]
  exact and_congr_right' Option.some_inj

theorem Exact.features (h : number.Exact p) :
    number.features.Exact fun f => ∀ x ∈ f.numbers, p x := by
  refine exact_record (fun _ => rfl) (fun _ => rfl) (fun _ => rfl) (by decide) fun f t => ?_
  change (number.slotVector.decode (number.slotVector.encode f.reference) >>= _) = _ ↔ _
  rw [h.slotVector.bind_iff, h.bind_iff, h.bind_iff, h.bind_iff, h.bind_iff, h.bind_iff,
    exact_word64.bind_iff, h.slot.list.bind_iff]
  simp only [FeatureSettings.numbers, List.forall_mem_append, List.forall_mem_cons,
    List.forall_mem_map, List.not_mem_nil, false_imp_iff, implies_true, true_and, and_assoc,
    Option.pure_def, Option.some.injEq]

theorem Exact.channelSettings (h : number.Exact p) :
    number.channelSettings.Exact fun s => ∀ x ∈ s.numbers, p x := by
  refine exact_record (fun _ => rfl) (fun _ => rfl) (fun _ => rfl) (by decide) fun s t => ?_
  change (channel.decode (channel.encode s.kind) >>= _) = _ ↔ _
  rw [exact_channel.bind_iff, exact_activation.bind_iff, h.bind_iff, h.bind_iff,
    h.slotVector.bind_iff, h.bind_iff, exact_word64.bind_iff, h.bind_iff]
  simp only [ChannelSettings.numbers, List.forall_mem_append, List.forall_mem_cons,
    List.not_mem_nil, false_imp_iff, implies_true, true_and, and_assoc, Option.pure_def,
    Option.some.injEq]

theorem Exact.evidence (h : number.Exact p) :
    number.evidence.Exact fun e => ∀ x ∈ e.numbers, p x := by
  refine exact_record (fun _ => rfl) (fun _ => rfl) (fun _ => rfl) (by decide) fun e t => ?_
  change (categoryWords.list.decode (categoryWords.list.encode e.lexical) >>= _) = _ ↔ _
  rw [exact_categoryWords.list_of_all.bind_iff, h.bind_iff, h.bind_iff,
    h.slotVector.perCategory.bind_iff, h.bind_iff, h.bind_iff, h.route.list.bind_iff,
    h.route.list.bind_iff, h.route.list.bind_iff]
  simp only [EvidenceSettings.numbers, List.forall_mem_append, List.forall_mem_cons,
    List.forall_mem_flatMap, List.forall_mem_map, List.map_append, List.not_mem_nil, false_imp_iff,
    implies_true, true_and, and_assoc, Option.pure_def, Option.some.injEq]

theorem Exact.suppression (h : number.Exact p) :
    number.suppression.Exact fun s => ∀ x ∈ s.numbers, p x := by
  refine exact_record (fun _ => rfl) (fun _ => rfl) (fun _ => rfl) (by decide) fun s t => ?_
  change (number.decode (number.encode s.boostIncrement) >>= _) = _ ↔ _
  rw [h.bind_iff, exact_categoryWords.list_of_all.bind_iff, h.confusablePair.list.bind_iff, h.bind_iff,
    h.bind_iff, h.bind_iff, h.bind_iff]
  simp only [SuppressionSettings.numbers, List.forall_mem_append, List.forall_mem_cons,
    List.forall_mem_map, List.not_mem_nil, false_imp_iff, implies_true, true_and, and_assoc,
    Option.pure_def, Option.some.injEq]

theorem Exact.bridge (h : number.Exact p) : number.bridge.Exact fun b => ∀ x ∈ b.numbers, p x := by
  refine exact_record (fun _ => rfl) (fun _ => rfl) (fun _ => rfl) (by decide) fun b t => ?_
  change (number.decode (number.encode b.center) >>= _) = _ ↔ _
  rw [h.bind_iff, h.bind_iff, exact_words.bind_iff, exact_words.bind_iff, exact_words.bind_iff,
    h.adjustment.list.bind_iff, exact_words.bind_iff, h.adjustment.list.bind_iff, exact_text.bind_iff,
    h.adjustment.list.bind_iff, exact_category.bind_iff, exact_category.bind_iff, h.bind_iff,
    h.bind_iff, h.bind_iff, h.bind_iff, h.bind_iff, h.bind_iff, h.bind_iff]
  simp only [BridgeSettings.numbers, List.forall_mem_append, List.forall_mem_cons,
    List.forall_mem_map, List.map_append, List.not_mem_nil, false_imp_iff, implies_true, true_and,
    and_assoc, Option.pure_def, Option.some.injEq]

/-- A configuration is restored just if all its numbers are. -/
theorem Exact.config (h : number.Exact p) : number.config.Exact fun c => ∀ x ∈ c.numbers, p x := by
  refine exact_record (fun _ => rfl) (fun _ => rfl) (fun _ => rfl) (by decide) fun c t => ?_
  change (number.features.decode (number.features.encode c.features) >>= _) = _ ↔ _
  rw [h.features.bind_iff, h.channelSettings.perChannel.bind_iff, h.evidence.bind_iff,
    h.suppression.bind_iff, h.bridge.bind_iff, h.bind_iff]
  simp only [Config.numbers, List.forall_mem_append, List.forall_mem_cons, List.forall_mem_flatMap,
    List.not_mem_nil, false_imp_iff, implies_true, true_and, and_assoc, Option.pure_def,
    Option.some.injEq]

/-! The document of a configuration is nested five deep: words of slots of the features. -/

section Written

variable {lib : Json.Library} {n : Nat}

theorem writtenBy_words : text.list.WrittenBy lib (n + 1) := writtenBy_text.list

theorem writtenBy_slot : lib.double.slot.WrittenBy lib (n + 2) := by
  refine writtenBy_record (fun _ => rfl) fun s => ?_
  simp only [List.forall_mem_cons]
  exact ⟨writtenBy_double _, writtenBy_words _, nofun⟩

theorem writtenBy_categoryWords : categoryWords.WrittenBy lib (n + 2) := by
  refine writtenBy_record (fun _ => rfl) fun w => ?_
  simp only [List.forall_mem_cons]
  exact ⟨writtenBy_choice _ _ _, writtenBy_words _, nofun⟩

theorem writtenBy_adjustment : lib.double.adjustment.WrittenBy lib (n + 1) := by
  refine writtenBy_record (fun _ => rfl) fun a => ?_
  simp only [List.forall_mem_cons]
  exact ⟨writtenBy_choice _ _ _, writtenBy_double _, nofun⟩

theorem writtenBy_route : lib.double.route.WrittenBy lib (n + 1) := by
  refine writtenBy_record (fun _ => rfl) fun r => ?_
  simp only [List.forall_mem_cons]
  exact ⟨writtenBy_choice _ _ _, writtenBy_double _, nofun⟩

theorem writtenBy_confusablePair : lib.double.confusablePair.WrittenBy lib (n + 1) := by
  refine writtenBy_record (fun _ => rfl) fun p => ?_
  simp only [List.forall_mem_cons]
  exact ⟨writtenBy_choice _ _ _, writtenBy_choice _ _ _, writtenBy_double _, nofun⟩

theorem writtenBy_features : lib.double.features.WrittenBy lib (n + 4) := by
  refine writtenBy_record (fun _ => rfl) fun f => ?_
  simp only [List.forall_mem_cons]
  exact ⟨writtenBy_double.places _, writtenBy_double _, writtenBy_double _, writtenBy_double _,
    writtenBy_double _, writtenBy_double _, writtenBy_word64 _, writtenBy_slot.list _, nofun⟩

theorem writtenBy_channelSettings : lib.double.channelSettings.WrittenBy lib (n + 2) := by
  refine writtenBy_record (fun _ => rfl) fun s => ?_
  simp only [List.forall_mem_cons]
  exact ⟨writtenBy_choice _ _ _, writtenBy_choice _ _ _, writtenBy_double _, writtenBy_double _,
    writtenBy_double.places _, writtenBy_double _, writtenBy_word64 _, writtenBy_double _, nofun⟩

theorem writtenBy_evidence : lib.double.evidence.WrittenBy lib (n + 4) := by
  refine writtenBy_record (fun _ => rfl) fun e => ?_
  simp only [List.forall_mem_cons]
  exact ⟨writtenBy_categoryWords.list _, writtenBy_double _, writtenBy_double _,
    writtenBy_double.places.places _, writtenBy_double _, writtenBy_double _, writtenBy_route.list _,
    writtenBy_route.list _, writtenBy_route.list _, nofun⟩

theorem writtenBy_suppression : lib.double.suppression.WrittenBy lib (n + 4) := by
  refine writtenBy_record (fun _ => rfl) fun s => ?_
  simp only [List.forall_mem_cons]
  exact ⟨writtenBy_double _, writtenBy_categoryWords.list _, writtenBy_confusablePair.list _,
    writtenBy_double _, writtenBy_double _, writtenBy_double _, writtenBy_double _, nofun⟩

theorem writtenBy_bridge : lib.double.bridge.WrittenBy lib (n + 3) := by
  refine writtenBy_record (fun _ => rfl) fun b => ?_
  simp only [List.forall_mem_cons]
  exact ⟨writtenBy_double _, writtenBy_double _, writtenBy_words _, writtenBy_words _,
    writtenBy_words _, writtenBy_adjustment.list _, writtenBy_words _, writtenBy_adjustment.list _,
    writtenBy_text _, writtenBy_adjustment.list _, writtenBy_choice _ _ _, writtenBy_choice _ _ _,
    writtenBy_double _, writtenBy_double _, writtenBy_double _, writtenBy_double _,
    writtenBy_double _, writtenBy_double _, writtenBy_double _, nofun⟩

theorem writtenBy_config : lib.double.config.WrittenBy lib (n + 5) := by
  refine writtenBy_record (fun _ => rfl) fun c => ?_
  simp only [List.forall_mem_cons]
  exact ⟨writtenBy_features _, writtenBy_channelSettings.places _, writtenBy_evidence _,
    writtenBy_suppression _, writtenBy_bridge _, writtenBy_double _, nofun⟩

end Written

end Format

namespace Config

variable {lib : Json.Library}

/-- Loading a saved configuration is decoding what was encoded: the text loses nothing. -/
theorem load?_save (h : lib.Faithful) (config : Config Float) :
    load? lib (config.save lib) =
      decoded (lib.double.config.decode (lib.double.config.encode config)) :=
  congrArg decoded (Format.writtenBy_config.read?_print h config)

theorem load?_save_of_isFinite (h : lib.Faithful) {config : Config Float}
    (hf : ∀ x ∈ config.numbers, x.isFinite = true) :
    load? lib (config.save lib) = .ok config := by
  have hd : lib.double.config.decode (lib.double.config.encode config) = some config :=
    h.exact_double.config.restores hf
  rw [load?_save h, hd]
  rfl

theorem load?_save_of_not_isFinite (h : lib.Faithful) {config : Config Float}
    (hf : ¬∀ x ∈ config.numbers, x.isFinite = true) :
    load? lib (config.save lib) = .error (.config .unreadable) := by
  have hd : lib.double.config.decode (lib.double.config.encode config) = none :=
    h.exact_double.config.decode_eq_none hf
  rw [load?_save h, hd]
  rfl

/-- Just the configurations without an undefined or infinite number are read back as they were: every
number bit for bit, every text, list, choice and integer. -/
theorem load?_save_eq_ok_iff (h : lib.Faithful) {config : Config Float} :
    load? lib (config.save lib) = .ok config ↔ ∀ x ∈ config.numbers, x.isFinite = true := by
  refine ⟨fun hl => ?_, load?_save_of_isFinite h⟩
  by_contra hn
  rw [load?_save_of_not_isFinite h hn] at hl
  cases hl

theorem validate_of_not_isFinite {config : Config Float}
    (h : ¬∀ x ∈ config.numbers, x.isFinite = true) :
    ∃ fault, config.validate = .error (.config fault) := by
  unfold validate
  cases hf : config.fault? with
  | none => exact absurd (Accepted.isFinite hf) h
  | some fault => exact ⟨fault, rfl⟩

/-- An accepted configuration is saved and read back, whatever library the text is left to. One with an
undefined or infinite number anywhere is neither read back nor accepted; the first part says that
`numbers` leaves out none. -/
theorem saved_and_read_back (h : lib.Faithful) (config : Config Float) :
    (load? lib (config.save lib) = .ok config ↔ ∀ x ∈ config.numbers, x.isFinite = true) ∧
      (config.validate = .ok () → load? lib (config.save lib) = .ok config) ∧
      ((∃ x ∈ config.numbers, ¬x.isFinite = true) →
        load? lib (config.save lib) = .error (.config .unreadable) ∧
          ∃ fault, config.validate = .error (.config fault)) := by
  refine ⟨load?_save_eq_ok_iff h, fun hv => ?_, ?_⟩
  · exact load?_save_of_isFinite h (validate_eq_ok_iff.mp hv).isFinite
  · rintro ⟨x, hx, hn⟩
    have hnot : ¬∀ x ∈ config.numbers, x.isFinite = true := fun hf => hn (hf x hx)
    exact ⟨load?_save_of_not_isFinite h hnot, validate_of_not_isFinite hnot⟩

/-- With the standard library the default configuration is saved and read back; with an undefined weight
it is not. -/
theorem default_saved_and_read_back :
    let lib := Json.Library.standard
    let broken : Config Float := { Config.default with noSignalWeight := Binary64.undefined }
    lib.Faithful ∧
      ((default : Config Float).validate = .ok () ∧
        load? lib ((default : Config Float).save lib) = .ok default) ∧
      (∃ x ∈ broken.numbers, ¬x.isFinite = true) ∧
        load? lib (broken.save lib) = .error (.config .unreadable) ∧
          ∃ fault, broken.validate = .error (.config fault) := by
  intro lib broken
  have h : lib.Faithful := Json.Library.faithful_standard
  have hv : (default : Config Float).validate = .ok () := validate_eq_ok_iff.mpr default_accepted
  have hn : ∃ x ∈ broken.numbers, ¬x.isFinite = true :=
    ⟨Binary64.undefined, List.mem_append_right _ List.mem_cons_self, by decide⟩
  exact ⟨h, ⟨hv, (saved_and_read_back h default).2.1 hv⟩, hn, (saved_and_read_back h broken).2.2 hn⟩

end Config
end TextIntent
