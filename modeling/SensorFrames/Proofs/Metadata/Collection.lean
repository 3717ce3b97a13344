import SensorFrames.Proofs.Text.Rising
import SensorFrames.Service.Metadata

/-!
The metadata of some records. Main statement: each of its lists is in rising order and has exactly
the texts that some record holds at its place, so neither the order of the records nor how often
one of them comes makes a difference.
-/

set_option autoImplicit false

namespace SensorFrames.Metadata

theorem textOf_eq_some {value : Json} {x : String} :
    textOf value = some x ↔ x ≠ "" ∧ value = .str x := by
  unfold textOf
  split
  · rename_i s
    by_cases hs : s = ""
    · subst hs
      simp [eq_comm]
    · rw [if_neg hs, Option.some.injEq, Json.str.injEq]
      exact ⟨fun h => ⟨h ▸ hs, h⟩, And.right⟩
  · rename_i hother
    simp only [reduceCtorEq, false_iff]
    rintro ⟨-, rfl⟩
    exact hother x rfl

theorem mem_textsUnder {key x : String} {r : Record} :
    x ∈ textsUnder key r ↔ x ≠ "" ∧ r.get? key = some (.str x) := by
  simp [textsUnder, Option.bind_eq_some_iff, textOf_eq_some, and_left_comm]

theorem mem_tagsOf {x : String} {r : Record} :
    x ∈ tagsOf r ↔ x ≠ "" ∧ ∃ items, r.get? "tags" = some (.arr items) ∧ .str x ∈ items := by
  unfold tagsOf
  split
  · rename_i items htags
    simp [htags, textOf_eq_some, and_left_comm]
  · rename_i hother
    simp only [List.not_mem_nil, false_iff]
    rintro ⟨-, items, htags, -⟩
    exact hother items htags

theorem mem_ordered_flatMap {x : String} {texts : Record → List String} {records : List Record} :
    x ∈ Text.ordered (records.flatMap texts) ↔ ∃ r ∈ records, x ∈ texts r := by
  rw [Text.mem_ordered, List.mem_flatMap]

theorem ofRecords_congr {records records' : List Record} (h : ∀ r, r ∈ records ↔ r ∈ records')
    (now : Int64) : ofRecords now records = ofRecords now records' := by
  have hgathered : ∀ texts : Record → List String,
      Text.ordered (records.flatMap texts) = Text.ordered (records'.flatMap texts) := fun texts =>
    Text.ordered_congr fun x => by simp only [List.mem_flatMap, h]
  simp only [ofRecords, hgathered]

/-- The lists of the metadata, each with what is gathered into it, and the time at which the records
came. -/
theorem ofRecords_exact (now : Int64) (records : List Record) :
    let m := ofRecords now records
    (∀ texts ∈ [m.groups, m.devices, m.tags, m.sensorTypes], Text.Rising texts) ∧
    (∀ x, x ∈ m.groups ↔ x ≠ "" ∧ ∃ r ∈ records, r.get? "group" = some (.str x)) ∧
    (∀ x, x ∈ m.devices ↔ x ≠ "" ∧ ∃ r ∈ records, r.get? "device" = some (.str x)) ∧
    (∀ x, x ∈ m.sensorTypes ↔ x ≠ "" ∧ ∃ r ∈ records, r.get? "kind_name" = some (.str x)) ∧
    (∀ x, x ∈ m.tags ↔
      x ≠ "" ∧ ∃ r ∈ records, ∃ items, r.get? "tags" = some (.arr items) ∧ .str x ∈ items) ∧
    m.fetchedAt = now ∧
    (∀ records', (∀ r, r ∈ records' ↔ r ∈ records) → ofRecords now records' = m) := by
  have hkey : ∀ key x, x ∈ Text.ordered (records.flatMap (textsUnder key)) ↔
      x ≠ "" ∧ ∃ r ∈ records, r.get? key = some (.str x) := by
    intro key x
    simp only [mem_ordered_flatMap, mem_textsUnder]
    grind
  refine ⟨?rising, hkey "group", hkey "device", hkey "kind_name", ?tags, rfl,
    fun _ h => ofRecords_congr h now⟩
  case rising => simp [ofRecords, Text.rising_ordered]
  case tags =>
    intro x
    simp only [ofRecords, mem_ordered_flatMap, mem_tagsOf]
    grind

def inventory : List Record :=
  [[("device", .str "web"), ("group", .str "Servers"), ("tags", .arr [.str "😀", .str "prod"])],
    [("device", .null), ("group", .str ""), ("tags", .arr [.num (.integer 7), .str "ｗ", .str ""])],
    [("group", .str "Network"), ("kind_name", .str "Ping"), ("tags", .str "prod")]]

/-- The records once more and the other way round: the order of the tags is that of their bytes,
which is not that of their UTF-16 units. -/
theorem repeated_inventory_collected :
    (∀ r, r ∈ inventory ++ inventory.reverse ↔ r ∈ inventory) ∧
    (ofRecords 5 (inventory ++ inventory.reverse)) = ofRecords 5 inventory ∧
    (ofRecords 5 inventory).tags = ["prod", "ｗ", "😀"] ∧
    "Network" ∈ (ofRecords 5 inventory).groups ∧ "" ∉ (ofRecords 5 inventory).groups := by
  have hmembers : ∀ r, r ∈ inventory ++ inventory.reverse ↔ r ∈ inventory := by simp
  obtain ⟨-, hgroups, -, -, -, -, hsame⟩ := ofRecords_exact 5 inventory
  refine ⟨hmembers, hsame _ hmembers, by decide +kernel, ?_, ?_⟩
  · exact (hgroups "Network").mpr ⟨by decide, _, List.mem_of_getElem? (i := 2) rfl, rfl⟩
  · exact fun hmem => ((hgroups "").mp hmem).1 rfl

end SensorFrames.Metadata
