import Mathlib.Data.List.Nodup
import Mathlib.Data.String.Basic
import SensorFrames.Json.Basic

/-!
Members of a record. A record that is built from entries has its keys in rising order, each once,
and among members with different keys each is found under its own. Records agree on some keys when
they have the same values under these.
-/

set_option autoImplicit false

namespace SensorFrames.Record

/-- The keys stand in rising order, as they do in every record that is read. -/
def Rising (r : Record) : Prop := r.keys.Pairwise (· < ·)

theorem Rising.nodup {r : Record} (h : Rising r) : r.keys.Nodup := h.imp ne_of_lt

theorem mem_keys_put {key k : String} {value : Json} {r : Record} (h : k ∈ (put key value r).keys) :
    k = key ∨ k ∈ r.keys := by
  induction r with
  | nil => simpa [put, keys] using h
  | cons e r ih =>
    obtain ⟨k', v⟩ := e
    simp only [put] at h
    split at h
    · rename_i hk
      simpa [keys, hk] using h
    · split at h
      · simpa [keys] using h
      · simp only [keys, List.map_cons, List.mem_cons] at h ih ⊢
        rcases h with rfl | h
        · exact Or.inr (Or.inl rfl)
        · exact (ih h).imp_right Or.inr

theorem Rising.put {r : Record} (h : Rising r) (key : String) (value : Json) :
    Rising (put key value r) := by
  induction r with
  | nil => simp [Rising, Record.put, keys]
  | cons e r ih =>
    obtain ⟨k, v⟩ := e
    obtain ⟨hhead, htail⟩ := List.pairwise_cons.mp h
    simp only [Record.put]
    split
    · rename_i hk
      subst hk
      exact h
    · rename_i hne
      split
      · rename_i hlt
        refine List.pairwise_cons.mpr ⟨fun k' hk' => ?_, h⟩
        rcases List.mem_cons.mp hk' with rfl | hk'
        · exact hlt
        · exact hlt.trans (hhead k' hk')
      · rename_i hnlt
        refine List.pairwise_cons.mpr ⟨fun k' hk' => ?_, ih htail⟩
        rcases mem_keys_put hk' with rfl | hk'
        · exact lt_of_le_of_ne (not_lt.mp hnlt) hne
        · exact hhead k' hk'

theorem rising_ofEntries (entries : List (String × Json)) : Rising (ofEntries entries) := by
  have hfold : ∀ r : Record, Rising r → Rising (entries.foldl (fun r e => r.put e.1 e.2) r) := by
    induction entries with
    | nil => exact fun r h => h
    | cons e entries ih => exact fun r h => ih _ (h.put e.1 e.2)
  exact hfold [] .nil

theorem get?_eq_none {key : String} {r : Record} : r.get? key = none ↔ key ∉ r.keys := by
  induction r with
  | nil => simp [get?, keys]
  | cons e r ih =>
    obtain ⟨k, v⟩ := e
    by_cases hk : k = key
    · simp [get?, keys, hk]
    · simpa [get?, keys, hk, Ne.symm hk] using ih

theorem get?_of_mem {r : Record} (h : r.keys.Nodup) {key : String} {value : Json}
    (hmem : (key, value) ∈ r) : r.get? key = some value := by
  induction r with
  | nil => simp at hmem
  | cons e r ih =>
    obtain ⟨k, v⟩ := e
    obtain ⟨hnot, hrest⟩ := List.nodup_cons.mp h
    rcases List.mem_cons.mp hmem with he | hmem
    · obtain ⟨rfl, rfl⟩ := Prod.mk.inj he
      simp [get?]
    · have hk : k ≠ key := by
        rintro rfl
        exact hnot (List.mem_map.mpr ⟨_, hmem, rfl⟩)
      simp [get?, hk, ih hrest hmem]

theorem lookup_eq_get? (key : String) (r : Record) : r.lookup key = r.get? key := by
  induction r with
  | nil => rfl
  | cons e r ih =>
    obtain ⟨k, v⟩ := e
    by_cases hk : k = key
    · simp [get?, hk]
    · simp [List.lookup_cons, get?, hk, beq_false_of_ne (Ne.symm hk), ih]

theorem get?_ofEntries_of_mem {entries : List (String × Json)} (h : (entries.map (·.1)).Nodup)
    {key : String} {value : Json} (hmem : (key, value) ∈ entries) :
    (ofEntries entries).get? key = some value := by
  have hreverse : keys entries.reverse = (entries.map (·.1)).reverse := List.map_reverse
  rw [get?_ofEntries, lookup_eq_get?]
  refine get?_of_mem ?_ (List.mem_reverse.mpr hmem)
  rw [hreverse]
  exact List.nodup_reverse.mpr h

end SensorFrames.Record

namespace SensorFrames

/-! ### Records that agree on some keys -/

def Record.restrict (keys : List String) (r : Record) : Record := r.filter (·.1 ∈ keys)

/-- The records have the same values under the keys. -/
def Agree (keys : List String) (r r' : Record) : Prop := ∀ k ∈ keys, r.get? k = r'.get? k

theorem Agree.single {keys : List String} {r r' : Record} (h : Agree keys r r') {k : String}
    (hk : k ∈ keys) : Agree [k] r r' := by
  intro k' hk'
  rw [List.mem_singleton.mp hk']
  exact h k hk

theorem agree_restrict (keys : List String) (r : Record) : Agree keys (r.restrict keys) r := by
  intro k hk
  induction r with
  | nil => rfl
  | cons e r ih =>
    obtain ⟨key, value⟩ := e
    simp only [Record.restrict, List.filter_cons] at ih ⊢
    by_cases hkey : key = k
    · simp [hkey, hk, Record.get?]
    · split <;> simpa [Record.get?, hkey] using ih

end SensorFrames
