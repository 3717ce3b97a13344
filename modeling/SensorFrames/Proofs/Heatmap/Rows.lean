import Mathlib.Algebra.GroupWithZero.Nat
import Mathlib.Data.List.Nodup
import SensorFrames.Proofs.Heatmap.Counting

/-!
The rows of a heatmap. A group gives up its counts as they stand, so the rows are exactly the pairs
of a group and a priority that some record has, with the number of these records. They stand in one
order: by the first record of the group, then by priority.
-/

set_option autoImplicit false

namespace SensorFrames.Heatmap

def priorities : List Nat := Status.definitions.map (·.priority) ++ [Status.unlistedPriority]

theorem priorities_rising : priorities.Pairwise (· < ·) := by decide

theorem priorityOf_mem (status : Option Json) : Status.priorityOf status ∈ priorities := by
  unfold Status.priorityOf Status.priority
  generalize (status.bind Json.string?).getD "" = raw
  unfold Status.classify
  split
  · decide
  · split
    · rename_i d hd
      have hmem : d ∈ Status.definitions := List.mem_of_find?_eq_some hd
      exact List.mem_append_left _ (List.mem_map_of_mem hmem)
    · exact List.mem_append_right _ (List.mem_singleton.mpr rfl)

theorem eq_of_rising {α : Type} {f : α → Nat} {l l' : List α}
    (h : l.Pairwise fun a b => f a < f b) (h' : l'.Pairwise fun a b => f a < f b)
    (hmem : ∀ x, x ∈ l ↔ x ∈ l') : l = l' := by
  have hne : ∀ {a b : α}, f a < f b → a ≠ b := by
    rintro a b hlt rfl
    exact Nat.lt_irrefl _ hlt
  have hperm : l.Perm l' := (List.perm_ext_iff_of_nodup (h.imp hne) (h'.imp hne)).mpr hmem
  refine List.Perm.eq_of_pairwise (fun a b _ _ hab hba => ?_) h h' hperm
  exact absurd hba (Nat.lt_asymm hab)

/-! ### Emptying a group -/

namespace Counts

theorem Valid.filter {counts : Counts} (h : Valid counts) (keep : Nat × Nat → Bool) :
    Valid (counts.filter keep) :=
  ⟨h.rising.filter keep, fun e he => h.positive e (List.mem_filter.mp he).1⟩

theorem Valid.lookup_eq_some {counts : Counts} (h : Valid counts) {p n : Nat} :
    counts.lookup p = some n ↔ (p, n) ∈ counts := by
  induction counts with
  | nil => simp
  | cons e rest ih =>
    obtain ⟨q, m⟩ := e
    have hlater := (List.pairwise_cons.mp h.rising).1
    by_cases hq : p = q
    · subst hq
      have hnot : (p, n) ∉ rest := fun hmem => Nat.lt_irrefl p (hlater _ hmem)
      simp [hnot, eq_comm]
    · simp [List.lookup_cons, beq_false_of_ne hq, hq, ih h.tail]

theorem take_left (ps : List Nat) (counts : Counts) :
    (take ps counts).2 = counts.filter (·.1 ∉ ps) := by
  induction ps generalizing counts with
  | nil => simp [take]
  | cons p ps ih =>
    have hfilter : (counts.filter (·.1 ≠ p)).filter (·.1 ∉ ps) = counts.filter (·.1 ∉ p :: ps) := by
      simp [List.filter_filter, Bool.and_comm]
    simp only [take]
    split <;> exact (ih _).trans hfilter

theorem take_sublist (ps : List Nat) (counts : Counts) :
    ((take ps counts).1.map (·.1)).Sublist ps := by
  induction ps generalizing counts with
  | nil => simp [take]
  | cons p ps ih =>
    simp only [take]
    split
    · exact (ih _).cons_cons p
    · exact (ih _).cons p

theorem Valid.mem_take {counts : Counts} (h : Valid counts) (ps : List Nat) {e : Nat × Nat} :
    e ∈ (take ps counts).1 ↔ e ∈ counts ∧ e.1 ∈ ps := by
  induction ps generalizing counts with
  | nil => simp [take]
  | cons p ps ih =>
    have htail : e ∈ (take ps (counts.filter (·.1 ≠ p))).1 ↔ (e ∈ counts ∧ e.1 ≠ p) ∧ e.1 ∈ ps := by
      rw [ih (h.filter _), List.mem_filter, decide_eq_true_iff]
    simp only [take]
    split
    · rename_i n hn
      have hmem : (p, n) ∈ counts := h.lookup_eq_some.mp hn
      have hhead : e = (p, n) ↔ e ∈ counts ∧ e.1 = p := by
        constructor
        · rintro rfl
          exact ⟨hmem, rfl⟩
        · rintro ⟨he, rfl⟩
          rw [h.lookup_eq_some.mpr he] at hn
          exact Prod.ext rfl (Option.some.inj hn)
      rw [List.mem_cons, htail, hhead, List.mem_cons]
      tauto
    · rename_i hnone
      have hne : e ∈ counts → e.1 ≠ p := by
        rintro he rfl
        rw [h.lookup_eq_some.mpr he] at hnone
        contradiction
      rw [htail, List.mem_cons]
      tauto

/-- Both passes together give back the counts as they stand: the known priorities come before the
one that is left. -/
theorem Valid.drained_eq {counts : Counts} (h : Valid counts)
    (hknown : ∀ e ∈ counts, e.1 ∈ priorities) : drained counts = counts := by
  have hleft := take_left (Status.definitions.map (·.priority)) counts
  have htaken := fun e => h.mem_take (Status.definitions.map (·.priority)) (e := e)
  have hsublist := take_sublist (Status.definitions.map (·.priority)) counts
  obtain ⟨hdefined, -, hbelow⟩ := List.pairwise_append.mp priorities_rising
  unfold drained
  generalize take (Status.definitions.map (·.priority)) counts = r at *
  obtain ⟨known, left⟩ := r
  simp only at hleft htaken hsublist ⊢
  subst hleft
  -- What the first pass leaves has the priority of no definition, which is above all of them.
  refine eq_of_rising (f := Prod.fst) (List.Pairwise.filter _ ?_) h.rising fun e => ?_
  · refine List.pairwise_append.mpr ⟨?_, h.rising.filter _, fun a ha b hb => ?_⟩
    · exact List.pairwise_map.mp (hdefined.sublist hsublist)
    · simp only [List.mem_filter, decide_eq_true_iff] at hb
      have hb' : b.1 ∈ [Status.unlistedPriority] :=
        (List.mem_append.mp (hknown b hb.1)).resolve_left hb.2
      exact hbelow a.1 ((htaken a).mp ha).2 b.1 hb'
  · simp only [List.mem_filter, List.mem_append, htaken, decide_eq_true_iff]
    constructor
    · rintro ⟨⟨he, -⟩ | ⟨he, -⟩, -⟩ <;> exact he
    · intro he
      refine ⟨?_, h.positive e he⟩
      by_cases hin : e.1 ∈ Status.definitions.map (·.priority)
      · exact Or.inl ⟨he, hin⟩
      · exact Or.inr ⟨he, hin⟩

end Counts

/-! ### Rows -/

theorem tally_priorities {records : List Record} {g : String} {counts : Counts}
    (h : (g, counts) ∈ tally records) : ∀ e ∈ counts, e.1 ∈ priorities := by
  intro e he
  have hcounted := tally_counted records
  obtain ⟨hpos, htotal⟩ := (hcounted.valid g counts h).mem_iff.mp he
  rw [hcounted.total g counts h] at htotal
  obtain ⟨r, -, hr⟩ := List.mem_map.mp (List.count_pos_iff.mp (htotal ▸ hpos))
  have hp : Status.priorityOf (r.get? "status") = e.1 := congrArg Prod.snd hr
  exact hp ▸ priorityOf_mem _

theorem rowsOf_eq {records : List Record} {g : String} {counts : Counts}
    (h : (g, counts) ∈ tally records) : rowsOf g counts = counts.map fun e => ⟨g, e.1, e.2⟩ := by
  rw [rowsOf, ((tally_counted records).valid g counts h).drained_eq (tally_priorities h)]

theorem count_cells (records : List Record) (c : String × Nat) :
    (records.map cell).count c = records.countP (cell · = c) := by
  rw [List.count, List.countP_map]
  exact List.countP_congr fun r _ => by simp

theorem mem_rows {records : List Record} {row : Row} :
    row ∈ rows records ↔
      0 < row.count ∧ records.countP (cell · = (row.group, row.priority)) = row.count := by
  have hcounted := tally_counted records
  rw [← count_cells, rows, List.mem_flatMap]
  constructor
  · rintro ⟨⟨g, counts⟩, ht, hrow⟩
    rw [rowsOf_eq ht] at hrow
    obtain ⟨e, he, rfl⟩ := List.mem_map.mp hrow
    have hentry := (hcounted.valid g counts ht).mem_iff.mp he
    rwa [hcounted.total g counts ht] at hentry
  · rintro ⟨hpos, hcount⟩
    have hcell : (row.group, row.priority) ∈ records.map cell :=
      List.count_pos_iff.mp (hcount ▸ hpos)
    have hgroup : row.group ∈ (tally records).groups := by
      rw [hcounted.groups, mem_distinct]
      exact List.mem_map.mpr ⟨_, hcell, rfl⟩
    obtain ⟨⟨g, counts⟩, ht, rfl⟩ := List.mem_map.mp hgroup
    refine ⟨(row.group, counts), ht, ?_⟩
    rw [rowsOf_eq ht]
    refine List.mem_map.mpr ⟨(row.priority, row.count), ?_, rfl⟩
    rw [(hcounted.valid _ counts ht).mem_iff, hcounted.total _ counts ht]
    exact ⟨hpos, hcount⟩

/-- The place of a group: the number of records before its first one. -/
def place (records : List Record) (group : String) : Nat :=
  (records.map fun r => (cell r).1).idxOf group

/-- The order of rows: by the place of the group, then by priority. -/
def Before (records : List Record) (a b : Row) : Prop :=
  place records a.group < place records b.group ∨ a.group = b.group ∧ a.priority < b.priority

theorem rows_ordered (records : List Record) : (rows records).Pairwise (Before records) := by
  have hcounted := tally_counted records
  refine List.pairwise_flatMap.mpr ⟨fun e ht => ?_, ?_⟩
  · rw [rowsOf_eq ht]
    have hrising := (hcounted.valid e.1 e.2 ht).rising
    exact List.pairwise_map.mpr (hrising.imp fun hlt => Or.inr ⟨rfl, hlt⟩)
  · have hgroups := pairwise_idxOf_distinct ((records.map cell).map (·.1))
    rw [← hcounted.groups, Tally.groups, List.pairwise_map, List.map_map] at hgroups
    refine hgroups.imp fun {d e} hlt a ha b hb => Or.inl ?_
    obtain ⟨_, -, rfl⟩ := List.mem_map.mp ha
    obtain ⟨_, -, rfl⟩ := List.mem_map.mp hb
    exact hlt

theorem sum_entries (g : String) (counts : Counts) :
    ((counts.map fun e => (⟨g, e.1, e.2⟩ : Row)).map (·.count)).sum = counts.size := by
  induction counts with
  | nil => rfl
  | cons e rest ih => simpa [Counts.size] using ih

theorem sum_counts (records : List Record) :
    ((rows records).map (·.count)).sum = records.length := by
  have hrows := @rowsOf_eq records
  rw [← size_tally, rows]
  generalize tally records = t at hrows
  induction t with
  | nil => rfl
  | cons e rest ih =>
    have hrest := ih fun h => hrows (List.mem_cons_of_mem e h)
    rw [List.flatMap_cons, List.map_append, List.sum_append, hrest, hrows List.mem_cons_self,
      sum_entries, Tally.size]

/-! ### The order of rows -/

def block (group : String) (rows : List Row) : List Row := rows.filter (·.group = group)

theorem Before.of_group_eq {records : List Record} {a b : Row} (h : Before records a b)
    (hg : a.group = b.group) : a.priority < b.priority := by
  rcases h with hlt | ⟨-, hlt⟩
  · rw [hg] at hlt
    exact absurd hlt (Nat.lt_irrefl _)
  · exact hlt

theorem block_rising (records : List Record) (g : String) :
    (block g (rows records)).Pairwise fun a b => a.priority < b.priority := by
  refine ((rows_ordered records).filter _).imp_of_mem fun {a b} ha hb h => h.of_group_eq ?_
  have hga := (List.mem_filter.mp ha).2
  have hgb := (List.mem_filter.mp hb).2
  simp only [decide_eq_true_iff] at hga hgb
  rw [hga, hgb]

theorem rows_nodup (records : List Record) :
    ((rows records).map fun row => (row.group, row.priority)).Nodup := by
  refine List.pairwise_map.mpr ((rows_ordered records).imp fun {a b} h he => ?_)
  obtain ⟨hg, hp⟩ := Prod.mk.inj he
  exact absurd (h.of_group_eq hg) (by omega)

theorem group_eq_of_sublist {records : List Record} {a b c : Row}
    (h : [a, b, c].Sublist (rows records)) (hg : a.group = c.group) : b.group = a.group := by
  have hordered := (rows_ordered records).sublist h
  simp only [List.pairwise_cons, List.mem_cons, List.not_mem_nil, or_false, forall_eq_or_imp,
    forall_eq] at hordered
  obtain ⟨⟨hab, -⟩, hbc, -⟩ := hordered
  rcases hab with hab | ⟨hab, -⟩
  · rcases hbc with hbc | ⟨hbc, -⟩
    · rw [hg] at hab
      exact absurd hab (Nat.lt_asymm hbc)
    · rw [hbc, hg]
  · exact hab.symm

theorem mem_priorities {records : List Record} {row : Row} (h : row ∈ rows records) :
    row.priority ∈ priorities := by
  obtain ⟨hpos, hcount⟩ := mem_rows.mp h
  obtain ⟨r, -, hr⟩ := List.countP_pos_iff.mp (hcount ▸ hpos)
  have hp : Status.priorityOf (r.get? "status") = row.priority :=
    congrArg Prod.snd (of_decide_eq_true hr)
  exact hp ▸ priorityOf_mem _

theorem block_sublist (records : List Record) (g : String) :
    ((block g (rows records)).map (·.priority)).Sublist priorities := by
  have hrising := List.pairwise_map.mpr (block_rising records g)
  have heq : (block g (rows records)).map (·.priority) =
      priorities.filter (· ∈ (block g (rows records)).map (·.priority)) := by
    refine eq_of_rising (f := id) hrising (priorities_rising.filter _) fun p => ?_
    simp only [List.mem_filter, decide_eq_true_iff, iff_and_self]
    intro hp
    obtain ⟨row, hrow, rfl⟩ := List.mem_map.mp hp
    exact mem_priorities (List.mem_filter.mp hrow).1
  rw [heq]
  exact List.filter_sublist

theorem mem_rows_of_perm {records records' : List Record} (h : records.Perm records') (row : Row) :
    row ∈ rows records ↔ row ∈ rows records' := by
  rw [mem_rows, mem_rows, h.countP_eq]

theorem rows_perm {records records' : List Record} (h : records.Perm records') :
    (rows records).Perm (rows records') :=
  (List.perm_ext_iff_of_nodup (List.Nodup.of_map _ (rows_nodup records))
    (List.Nodup.of_map _ (rows_nodup records'))).mpr (mem_rows_of_perm h)

theorem block_eq {records records' : List Record} (h : records.Perm records') (g : String) :
    block g (rows records) = block g (rows records') :=
  eq_of_rising (block_rising records g) (block_rising records' g) fun row => by
    simp only [block, List.mem_filter, mem_rows_of_perm h row]

/-- A heatmap counts exactly. Its rows are the pairs of a group and a priority that some record
has, each once, with the number of these records, and so they account for every record. They are
ordered by the place of their group, which keeps the rows of a group together, and in the group by
priority. Records in another order give the same rows, and the same block for each group. -/
theorem rows_exact (records : List Record) :
    (∀ row, row ∈ rows records ↔
      0 < row.count ∧ records.countP (cell · = (row.group, row.priority)) = row.count) ∧
    ((rows records).map fun row => (row.group, row.priority)).Nodup ∧
    ((rows records).map (·.count)).sum = records.length ∧
    (rows records).Pairwise (Before records) ∧
    (∀ a b c, [a, b, c].Sublist (rows records) → a.group = c.group → b.group = a.group) ∧
    (∀ g, ((block g (rows records)).map (·.priority)).Pairwise (· < ·) ∧
      ((block g (rows records)).map (·.priority)).Sublist
        (Status.definitions.map (·.priority) ++ [Status.unlistedPriority])) ∧
    (∀ records', records.Perm records' →
      (rows records).Perm (rows records') ∧
        ∀ g, block g (rows records) = block g (rows records')) :=
  ⟨fun _ => mem_rows, rows_nodup records, sum_counts records, rows_ordered records,
    fun _ _ _ => group_eq_of_sublist,
    fun g => ⟨List.pairwise_map.mpr (block_rising records g), block_sublist records g⟩,
    fun _ h => ⟨rows_perm h, block_eq h⟩⟩

def mixed : List Record :=
  [[("group", .str "Zeta"), ("status", .str "up")],
    [("group", .num (.integer 7)), ("status", .str "Down")],
    [("group", .str "Zeta"), ("status", .str "melted")],
    [("status", .str "up")],
    [("group", .str "Zeta"), ("status", .str " DOWN ")]]

theorem mixed_rows_exact :
    rows mixed = [⟨"Zeta", 1, 1⟩, ⟨"Zeta", 13, 1⟩, ⟨"Zeta", 98, 1⟩, ⟨"7", 1, 1⟩,
      ⟨"Ungrouped", 13, 1⟩] ∧
    [⟨"Zeta", 1, 1⟩, ⟨"Zeta", 13, 1⟩, ⟨"Zeta", 98, 1⟩].Sublist (rows mixed) ∧
    mixed.Perm mixed.reverse ∧
    (rows mixed).Perm (rows mixed.reverse) ∧
    block "Zeta" (rows mixed) = block "Zeta" (rows mixed.reverse) ∧
    (⟨"Zeta", 13, 1⟩ : Row).group = "Zeta" := by
  have hrows : rows mixed = [⟨"Zeta", 1, 1⟩, ⟨"Zeta", 13, 1⟩, ⟨"Zeta", 98, 1⟩, ⟨"7", 1, 1⟩,
      ⟨"Ungrouped", 13, 1⟩] := by decide +kernel
  have hsublist : [⟨"Zeta", 1, 1⟩, ⟨"Zeta", 13, 1⟩, ⟨"Zeta", 98, 1⟩].Sublist (rows mixed) := by
    rw [hrows]
    decide
  have hreverse : mixed.Perm mixed.reverse := (List.reverse_perm mixed).symm
  obtain ⟨-, -, -, -, hjoined, -, hperm⟩ := rows_exact mixed
  obtain ⟨hsame, hblock⟩ := hperm mixed.reverse hreverse
  exact ⟨hrows, hsublist, hreverse, hsame, hblock "Zeta", hjoined _ _ _ hsublist rfl⟩

end SensorFrames.Heatmap
