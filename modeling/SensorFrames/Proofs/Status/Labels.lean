import Mathlib.Data.List.Nodup
import SensorFrames.Proofs.Text.Casing
import SensorFrames.Status

/-!
Labels of the status. Main statement: a label has the definition that lists it, in lower case and
without the blanks around it, and else the priority and the colour of the unknown; and the settings
of a status field show each priority as the definitions that have it do.
-/

set_option autoImplicit false

namespace SensorFrames.Status

/-! ### The table -/

theorem eq_of_mem_keys {key : String} {d d' : Definition} (hd : d ∈ definitions)
    (hd' : d' ∈ definitions) (h : key ∈ d.keys) (h' : key ∈ d'.keys) : d = d' := by
  have hall : ∀ d ∈ definitions, ∀ d' ∈ definitions, ∀ key ∈ d.keys, key ∈ d'.keys → d = d' := by
    decide
  exact hall d hd d' hd' key h h'

theorem eq_of_priority_eq {d d' : Definition} (hd : d ∈ definitions) (hd' : d' ∈ definitions)
    (h : d.priority = d'.priority) : d = d' := by
  have hall : ∀ d ∈ definitions, ∀ d' ∈ definitions, d.priority = d'.priority → d = d' := by
    decide
  exact hall d hd d' hd' h

theorem priority_lt {d : Definition} (h : d ∈ definitions) : d.priority < unlistedPriority := by
  have hall : ∀ d ∈ definitions, d.priority < unlistedPriority := by decide
  exact hall d h

theorem find?_eq_some_iff {key : String} {d : Definition} :
    find? key = some d ↔ d ∈ definitions ∧ key ∈ d.keys := by
  constructor
  · intro h
    exact ⟨List.mem_of_find?_eq_some h, by simpa using List.find?_some h⟩
  · rintro ⟨hd, hkey⟩
    cases hfind : find? key with
    | some d' =>
      have hmem : d' ∈ definitions := List.mem_of_find?_eq_some hfind
      have hkey' : key ∈ d'.keys := by simpa using List.find?_some hfind
      rw [eq_of_mem_keys hmem hd hkey' hkey]
    | none =>
      have hnone := List.find?_eq_none.mp hfind d hd
      simp [hkey] at hnone

theorem find?_eq_none_iff {key : String} : find? key = none ↔ ∀ d ∈ definitions, key ∉ d.keys := by
  simp [find?, List.find?_eq_none]

/-! ### Labels -/

/-- The text that a label is known by. -/
def keyOf (raw : String) : String := Text.lowercase (Text.trim raw)

theorem keyOf_congr {raw raw' : String} (h : Text.SameLetters raw raw') : keyOf raw = keyOf raw' :=
  Text.lowercase_trim_congr h

theorem keyOf_pad {front back : String} (hfront : ∀ c ∈ front.toList, Text.isBlank c = true)
    (hback : ∀ c ∈ back.toList, Text.isBlank c = true) (raw : String) :
    keyOf (front ++ raw ++ back) = keyOf raw := by
  rw [keyOf, keyOf, Text.trim_pad hfront hback]

theorem find?_keyOf_blank {raw : String} (h : ∀ c ∈ raw.toList, Text.isBlank c = true) :
    find? (keyOf raw) = none := by
  rw [keyOf, Text.trim_of_blank h]
  decide +kernel

def unlistedDefinition (raw : String) : Definition :=
  if raw = "" then absentDefinition else ⟨[], raw, unlistedPriority, unlistedColor⟩

@[simp] theorem priority_unlistedDefinition (raw : String) :
    (unlistedDefinition raw).priority = unlistedPriority := by
  unfold unlistedDefinition
  split <;> rfl

@[simp] theorem color_unlistedDefinition (raw : String) :
    (unlistedDefinition raw).color = unlistedColor := by
  unfold unlistedDefinition
  split <;> rfl

@[simp] theorem label_unlistedDefinition (raw : String) :
    (unlistedDefinition raw).label = if raw = "" then "Unknown" else raw := by
  unfold unlistedDefinition
  split <;> rfl

theorem definition_classify (raw : String) :
    (classify raw).definition = (find? (keyOf raw)).getD (unlistedDefinition raw) := by
  by_cases hraw : raw = ""
  · rw [find?_keyOf_blank (by simp [hraw]), hraw]
    rfl
  · rw [classify, if_neg hraw, unlistedDefinition, if_neg hraw, ← keyOf]
    cases find? (keyOf raw) <;> rfl

theorem definition_listed {raw : String} {d : Definition} (h : find? (keyOf raw) = some d) :
    (classify raw).definition = d := by
  rw [definition_classify, h, Option.getD_some]

theorem definition_unlisted {raw : String} (h : find? (keyOf raw) = none) :
    (classify raw).definition = unlistedDefinition raw := by
  rw [definition_classify, h, Option.getD_none]

theorem priority_color_congr {raw raw' : String} (h : keyOf raw = keyOf raw') :
    (classify raw).definition.priority = (classify raw').definition.priority ∧
      (classify raw).definition.color = (classify raw').definition.color := by
  rw [definition_classify, definition_classify, h]
  cases find? (keyOf raw') <;> simp

theorem priority_eq_unlisted_iff {raw : String} :
    priority raw = unlistedPriority ↔ find? (keyOf raw) = none := by
  cases hfind : find? (keyOf raw) with
  | none => simp [priority, definition_unlisted hfind]
  | some d =>
    have hlt := priority_lt (find?_eq_some_iff.mp hfind).1
    simp [priority, definition_listed hfind, Nat.ne_of_lt hlt]

theorem definition_eq_of_priority_eq {raw raw' : String} (h : priority raw = priority raw')
    (hlisted : priority raw ≠ unlistedPriority) :
    (classify raw).definition = (classify raw').definition := by
  have hlisted' : priority raw' ≠ unlistedPriority := h ▸ hlisted
  obtain ⟨d, hd⟩ := Option.ne_none_iff_exists'.mp (mt priority_eq_unlisted_iff.mpr hlisted)
  obtain ⟨d', hd'⟩ := Option.ne_none_iff_exists'.mp (mt priority_eq_unlisted_iff.mpr hlisted')
  rw [priority, priority, definition_listed hd, definition_listed hd'] at h
  rw [definition_listed hd, definition_listed hd']
  exact eq_of_priority_eq (find?_eq_some_iff.mp hd).1 (find?_eq_some_iff.mp hd').1 h

/-- How a capital sigma is written in lower case makes no difference: no key has a sigma. -/
theorem mem_keys_iff {raw key : String}
    (h : Text.IsLowercase (Text.trim raw).toList key.toList) {d : Definition}
    (hd : d ∈ definitions) : key ∈ d.keys ↔ keyOf raw ∈ d.keys := by
  have hsigma : ∀ d ∈ definitions, ∀ key ∈ d.keys, 'ς' ∉ key.toList ∧ 'σ' ∉ key.toList := by
    decide
  rcases h.eq_or_sigma with heq | ⟨hfinal, hmedial⟩
  · rw [← Text.toList_lowercase] at heq
    rw [String.ext heq, keyOf]
  · rw [← Text.toList_lowercase] at hmedial
    exact iff_of_false (fun hkey => (hsigma d hd key hkey).1 hfinal)
      (fun hkey => (hsigma d hd _ hkey).2 hmedial)

/-! ### Settings -/

def shown (raw : String) : Display :=
  let d := (classify raw).definition
  ⟨if d ∈ definitions then d.label else "Unknown", d.color⟩

theorem shown_mem_mapping (raw : String) :
    (mappingKey (priority raw), shown raw) ∈ fieldConfig.mapping := by
  cases hfind : find? (keyOf raw) with
  | some d =>
    have hd : d ∈ definitions := (find?_eq_some_iff.mp hfind).1
    simp only [priority, shown, definition_listed hfind, if_pos hd]
    exact List.mem_append_left _ (List.mem_map_of_mem hd)
  | none =>
    have hnot : unlistedDefinition raw ∉ definitions := fun hmem =>
      Nat.ne_of_lt (priority_lt hmem) (priority_unlistedDefinition raw)
    simp only [priority, shown, definition_unlisted hfind, if_neg hnot, priority_unlistedDefinition,
      color_unlistedDefinition]
    exact List.mem_append_right _ List.mem_cons_self

theorem display_unique {key : String} {display display' : Display}
    (h : (key, display) ∈ fieldConfig.mapping) (h' : (key, display') ∈ fieldConfig.mapping) :
    display = display' := by
  have hnodup : (fieldConfig.mapping.map (·.1)).Nodup := by decide
  exact congrArg Prod.snd (List.inj_on_of_nodup_map hnodup h h' rfl)

/-- A label whose key is listed has the one definition that lists it; every other label has priority
and colour of the unknown, and keeps its text. The settings show each priority as its definition
says. Padding and the case of Latin letters change neither priority nor colour. A priority below
that of the unknown tells the definition; the unknown one is left to blank and unlisted labels. -/
theorem classify_coherent {raw key : String}
    (hkey : Text.IsLowercase (Text.trim raw).toList key.toList) :
    (∀ d ∈ definitions, key ∈ d.keys →
      (classify raw).definition = d ∧ ∀ d' ∈ definitions, key ∈ d'.keys → d' = d) ∧
    ((∀ d ∈ definitions, key ∉ d.keys) →
      (classify raw).definition.priority = 98 ∧ (classify raw).definition.color = "#888888" ∧
        (classify raw).definition.label = if raw = "" then "Unknown" else raw) ∧
    (∀ display, ((Number.integer (priority raw)).text, display) ∈ fieldConfig.mapping ↔
      display = shown raw) ∧
    (∀ front back recased : String, (∀ c ∈ front.toList, Text.isBlank c = true) →
      (∀ c ∈ back.toList, Text.isBlank c = true) → Text.SameLetters recased raw →
        (classify (front ++ recased ++ back)).definition.priority =
            (classify raw).definition.priority ∧
          (classify (front ++ recased ++ back)).definition.color =
            (classify raw).definition.color) ∧
    (∀ other, priority raw = priority other → priority raw < 98 →
      (classify raw).definition = (classify other).definition) ∧
    (priority raw = 98 ↔
      (∀ c ∈ raw.toList, Text.isBlank c = true) ∨ ∀ d ∈ definitions, key ∉ d.keys) := by
  have hfind : (∀ d ∈ definitions, key ∉ d.keys) ↔ find? (keyOf raw) = none := by
    rw [find?_eq_none_iff]
    exact forall₂_congr fun d hd => not_congr (mem_keys_iff hkey hd)
  refine ⟨fun d hd hmem => ⟨?listed, ?only⟩, fun hnone => ?unlisted, fun display => ?display,
    fun front back recased hfront hback hletters => ?spelling, fun other heq hlt => ?shared, ?rest⟩
  case listed =>
    exact definition_listed (find?_eq_some_iff.mpr ⟨hd, (mem_keys_iff hkey hd).mp hmem⟩)
  case only => exact fun d' hd' hmem' => eq_of_mem_keys hd' hd hmem' hmem
  case unlisted =>
    rw [definition_unlisted (hfind.mp hnone), label_unlistedDefinition]
    exact ⟨priority_unlistedDefinition raw, color_unlistedDefinition raw, rfl⟩
  case display =>
    constructor
    · exact fun hmem => display_unique hmem (shown_mem_mapping raw)
    · rintro rfl
      exact shown_mem_mapping raw
  case spelling =>
    exact priority_color_congr ((keyOf_pad hfront hback recased).trans (keyOf_congr hletters))
  case shared => exact definition_eq_of_priority_eq heq (Nat.ne_of_lt hlt)
  case rest =>
    rw [hfind, or_iff_right_of_imp find?_keyOf_blank]
    exact priority_eq_unlisted_iff

def paddedLabel : String := " DOWN (ACK)\u00A0"

theorem padded_label_classified :
    Text.IsLowercase (Text.trim paddedLabel).toList "down (ack)".toList ∧
    (classify paddedLabel).definition.label = "Down (Acknowledged)" ∧
    ("2", ⟨"Down (Acknowledged)", "#ff941f"⟩) ∈ fieldConfig.mapping ∧
    (classify ("\t" ++ " down (Ack)\u00A0" ++ "\n")).definition.priority = 2 ∧
    (classify paddedLabel).definition = (classify "Down (Acknowledged)").definition ∧
    priority paddedLabel ≠ 98 := by
  have hlower : Text.lowercase (Text.trim paddedLabel) = "down (ack)" := by decide +kernel
  have hkey : Text.IsLowercase (Text.trim paddedLabel).toList "down (ack)".toList :=
    hlower ▸ Text.isLowercase_lowercase (Text.trim paddedLabel)
  let d : Definition :=
    ⟨["down (acknowledged)", "down (ack)"], "Down (Acknowledged)", 2, "#ff941f"⟩
  have hd : d ∈ definitions := by decide
  obtain ⟨hlisted, -, hdisplay, hspelling, hshared, hrest⟩ := classify_coherent hkey
  obtain ⟨hdefinition, -⟩ := hlisted d hd (by decide)
  have hpriority : priority paddedLabel = 2 := congrArg Definition.priority hdefinition
  have hshown : shown paddedLabel = ⟨"Down (Acknowledged)", "#ff941f"⟩ := by
    rw [shown, hdefinition]
    decide
  have hother : priority "Down (Acknowledged)" = 2 := by decide +kernel
  refine ⟨hkey, congrArg Definition.label hdefinition, ?_, ?_, ?_, ?_⟩
  · have hmem := (hdisplay _).mpr hshown.symm
    rwa [hpriority] at hmem
  · obtain ⟨hsame, -⟩ := hspelling "\t" "\n" " down (Ack)\u00A0"
      (List.all_eq_true.mp (by decide)) (List.all_eq_true.mp (by decide))
      (by unfold Text.SameLetters; decide)
    exact hsame.trans hpriority
  · exact hshared _ (hpriority.trans hother.symm) (by rw [hpriority]; decide)
  · rw [Ne, hrest]
    rintro (hblank | hnone)
    · exact absurd (hblank 'D' (by decide)) (by decide)
    · exact hnone d hd (by decide)

end SensorFrames.Status
