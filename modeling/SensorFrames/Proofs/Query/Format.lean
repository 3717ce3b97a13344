import SensorFrames.Proofs.Json.Slots
import SensorFrames.Query.Format

/-!
Queries read back from their JSON forms. Main statement: a query is read from an object that has
its parts under their names and from an array of them in their order, also when parts with default
values are left out and when the object has members of other names. A batch is read from an object
that has its queries in this form.
-/

set_option autoImplicit false

namespace SensorFrames

open Json

namespace Query

/-- The parts of a query under their names, in their order. An absent part is null, a variant is
its name in lower case and a number an integer. -/
def members (q : Query) : List (String × Json) :=
  [("refId", .str q.refId), ("hide", .bool q.hide), ("queryName", .ofOption .str q.name),
    ("viewMode", .str q.viewMode.name),
    ("columnPreset", .ofOption (fun p => .str p.name) q.preset),
    ("objectTypes", .strings q.objectTypes), ("sensorTypes", .strings q.sensorTypes),
    ("groups", .strings q.groups), ("devices", .strings q.devices), ("tags", .strings q.tags),
    ("statuses", .strings q.statuses), ("filter", .ofOption .str q.filter),
    ("limit", .ofOption (fun n => .num (.integer n.toNat)) q.limit),
    ("offset", .ofOption (fun n => .num (.integer n.toNat)) q.offset),
    ("columns", .ofOption .strings q.columns)]

theorem members_eq (q : Query) : q.members = slots.map fun slot => (slot.name, slot.write q) := rfl

theorem mem_members {slot : Slot Query} (h : slot ∈ slots) (q : Query) :
    (slot.name, slot.write q) ∈ q.members := by
  rw [members_eq]
  exact List.mem_map_of_mem h

theorem nodup_names (q : Query) : (q.members.map (·.1)).Nodup := by
  have hnames : (slots.map (·.name)).Nodup := by decide
  simpa [members_eq, Function.comp_def] using hnames

/-! ### Each part reads back -/

theorem undoes_word : Undoes readWord .ofWord := by
  intro n
  have hlt : n.toNat < UInt64.size := n.toNat_lt_size
  simp [ofWord, ofNat, readWord, hlt]

theorem undoes_viewMode : Undoes (readVariant ViewMode.variants) fun v => .str v.name := by
  intro v
  cases v <;> rfl

theorem undoes_preset : Undoes (readVariant ColumnPreset.variants) fun p => .str p.name := by
  intro p
  cases p <;> rfl

theorem undoes_optionString : Undoes (readOption readString) (ofOption .str) :=
  undoes_option undoes_string (by simp)

theorem undoes_optionWord : Undoes (readOption readWord) (ofOption .ofWord) :=
  undoes_option undoes_word (by simp [ofWord, ofNat])

theorem undoes_optionPreset :
    Undoes (readOption (readVariant ColumnPreset.variants)) (ofOption fun p => .str p.name) :=
  undoes_option undoes_preset (by simp)

theorem undoes_optionStrings : Undoes (readOption (readList readString)) (ofOption .strings) :=
  undoes_option undoes_strings (by simp [strings])

section Slots

variable (slotName : String) (x y : Query)

theorem stringSlot_read (get : Query → String) (set : Query → String → Query) :
    (stringSlot slotName get set).read ((stringSlot slotName get set).write y) x =
      .ok (set x (get y)) := rfl

theorem optionSlot_read {α : Type} {read : Decoder α} {write : α → Json}
    (h : Undoes (readOption read) (ofOption write)) (get : Query → Option α)
    (set : Query → Option α → Query) :
    (optionSlot slotName read write get set).read
        ((optionSlot slotName read write get set).write y) x = .ok (set x (get y)) := by
  simp [optionSlot, h (get y), Except.map]

theorem listSlot_read (get : Query → List String) (set : Query → List String → Query) :
    (listSlot slotName get set).read ((listSlot slotName get set).write y) x =
      .ok (set x (get y)) := by
  simp [listSlot, undoes_strings (get y), Except.map]

end Slots

theorem slots_lawful : Slot.Lawful slots where
  fills := by
    simp only [slots, List.forall_mem_cons, List.not_mem_nil, false_imp_iff, implies_true,
      and_true]
    -- First that each part is read, then that the others stay as they are.
    refine ⟨fun x y => ⟨_, stringSlot_read .., ?_⟩,
      fun x y => ⟨{ x with hide := y.hide }, rfl, ?_⟩,
      fun x y => ⟨_, optionSlot_read _ _ _ undoes_optionString .., ?_⟩,
      fun x y => ⟨{ x with viewMode := y.viewMode }, ?viewMode, ?_⟩,
      fun x y => ⟨_, optionSlot_read _ _ _ undoes_optionPreset .., ?_⟩,
      fun x y => ⟨_, listSlot_read .., ?_⟩, fun x y => ⟨_, listSlot_read .., ?_⟩,
      fun x y => ⟨_, listSlot_read .., ?_⟩, fun x y => ⟨_, listSlot_read .., ?_⟩,
      fun x y => ⟨_, listSlot_read .., ?_⟩, fun x y => ⟨_, listSlot_read .., ?_⟩,
      fun x y => ⟨_, optionSlot_read _ _ _ undoes_optionString .., ?_⟩,
      fun x y => ⟨_, optionSlot_read _ _ _ undoes_optionWord .., ?_⟩,
      fun x y => ⟨_, optionSlot_read _ _ _ undoes_optionWord .., ?_⟩,
      fun x y => ⟨_, optionSlot_read _ _ _ undoes_optionStrings .., ?_⟩⟩
    case viewMode =>
      rw [undoes_viewMode]
      rfl
    all_goals simp [stringSlot, optionSlot, listSlot]
  ext x y h := by
    simp only [slots, List.forall_mem_cons, List.not_mem_nil, false_imp_iff, implies_true,
      and_true] at h
    obtain ⟨hrefId, hhide, hname, hviewMode, hpreset, hobjectTypes, hsensorTypes, hgroups,
      hdevices, htags, hstatuses, hfilter, hlimit, hoffset, hcolumns⟩ := h
    cases x
    cases y
    simp only [Query.mk.injEq]
    exact ⟨undoes_string.injective hrefId, undoes_bool.injective hhide,
      undoes_optionString.injective hname, undoes_viewMode.injective hviewMode,
      undoes_optionPreset.injective hpreset, undoes_strings.injective hobjectTypes,
      undoes_strings.injective hsensorTypes, undoes_strings.injective hgroups,
      undoes_strings.injective hdevices, undoes_strings.injective htags,
      undoes_strings.injective hstatuses, undoes_optionString.injective hfilter,
      undoes_optionWord.injective hlimit, undoes_optionWord.injective hoffset,
      undoes_optionStrings.injective hcolumns⟩

/-! ### Whole queries -/

theorem write_default {slot : Slot Query} (hslot : slot ∈ slots) {value : Json}
    (h : (slot.name, value) ∈ ({} : Query).members) : slot.write {} = value := by
  have hvalue := Record.get?_of_mem (nodup_names {}) h
  rw [Record.get?_of_mem (nodup_names {}) (mem_members hslot {})] at hvalue
  exact Option.some.inj hvalue

theorem decode_obj {q : Query} {r : Record} (hr : r.keys.Nodup)
    (h : ∀ m ∈ q.members, r.get? m.1 = some m.2 ∨ r.get? m.1 = none ∧ m ∈ ({} : Query).members) :
    decode (.obj r) = .ok q := by
  refine slots_lawful.readMembers_eq q hr fun slot hslot => ?_
  exact (h _ (mem_members hslot q)).imp_right fun hdefault =>
    ⟨hdefault.1, write_default hslot hdefault.2⟩

theorem decode_object (q : Query) : decode (.object q.members) = .ok q :=
  decode_obj (Record.rising_ofEntries _).nodup fun _ hm =>
    Or.inl (Record.get?_ofEntries_of_mem (nodup_names q) hm)

end Query

namespace Batch

theorem slots_lawful : Slot.Lawful slots where
  fills := by
    have hread : Undoes (readList Query.decode) fun xs => .arr (xs.map Query.toJson) :=
      undoes_list Query.decode_object
    simp only [slots, List.forall_mem_cons, List.not_mem_nil, false_imp_iff, implies_true, and_true]
    intro _ y
    exact ⟨y, by simp only [hread y.targets, Except.map], rfl⟩
  ext x y h := by
    have htargets := h _ List.mem_cons_self
    obtain ⟨xs⟩ := x
    obtain ⟨ys⟩ := y
    exact congrArg Batch.mk ((undoes_list Query.decode_object).injective htargets)

theorem decode_obj {b : Batch} {r : Record} (hr : r.keys.Nodup)
    (h : r.get? "targets" = some (.arr (b.targets.map fun q => .object q.members))) :
    decode (.obj r) = .ok b := by
  refine slots_lawful.readMembers_eq b hr fun slot hslot => ?_
  obtain rfl := List.mem_singleton.mp hslot
  exact Or.inl h

theorem decode_object (b : Batch) :
    decode (.object [("targets", .arr (b.targets.map fun q => .object q.members))]) = .ok b :=
  decode_obj (Record.rising_ofEntries _).nodup
    (Record.get?_ofEntries_of_mem (by simp) List.mem_cons_self)

end Batch

end SensorFrames
