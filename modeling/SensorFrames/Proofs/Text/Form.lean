import SensorFrames.Proofs.Address.Encoding
import SensorFrames.Proofs.Text.Cutting
import SensorFrames.Text.Form

/-!
Query strings that are written from parameters, name and value of each percent-encoded. Main
statement: the pairs of such a query are the parameters again, in their order, whatever characters
they have.
-/

set_option autoImplicit false

namespace SensorFrames.Text.Form

open Percent

def writtenPair (p : String × String) : String := encode p.1 ++ "=" ++ encode p.2

def written (ps : List (String × String)) : String := Filter.joined "&" (ps.map writtenPair)

theorem utf8_equals : utf8 "=" = [equalsSign] := by decide

theorem ampersand_not_mem (p : String × String) : ampersand ∉ utf8 (writtenPair p) := by
  have hname := not_mem_utf8_encode (d := '&') (by decide) (by decide) (by decide) p.1
  have hvalue := not_mem_utf8_encode (d := '&') (by decide) (by decide) (by decide) p.2
  simp only [writtenPair, utf8_append, List.mem_append, not_or, utf8_equals]
  exact ⟨⟨hname, by decide⟩, hvalue⟩

/-- An encoding has no `+` that could be taken for a space. -/
theorem unescape_encode (s : String) : unescape (utf8 (encode s)) = utf8 s := by
  have hplus : plusSign ∉ utf8 (encode s) :=
    not_mem_utf8_encode (d := '+') (by decide) (by decide) (by decide) s
  have hmap : (utf8 (encode s)).map (fun b => if b = plusSign then space else b) =
      (utf8 (encode s)).map id :=
    List.map_congr_left fun b hb => if_neg (ne_of_mem_of_not_mem hb hplus)
  rw [unescape, hmap, List.map_id, decodeBytes_encode]

theorem pair_writtenPair (p : String × String) :
    pair (utf8 (writtenPair p)) = (utf8 p.1, utf8 p.2) := by
  have hname : equalsSign ∉ utf8 (encode p.1) :=
    not_mem_utf8_encode (d := '=') (by decide) (by decide) (by decide) p.1
  have hpast : ∀ b ∈ utf8 (encode p.1), (b != equalsSign) = true :=
    fun b hb => bne_iff_ne.mpr (ne_of_mem_of_not_mem hb hname)
  rw [writtenPair, utf8_append, utf8_append, utf8_equals, pair, List.append_assoc,
    List.takeWhile_append_of_pos hpast, List.dropWhile_append_of_pos hpast]
  simp [unescape_encode]

theorem pairs_written (ps : List (String × String)) :
    pairs (written ps) = ps.map fun p => (utf8 p.1, utf8 p.2) := by
  by_cases hne : ps = []
  · subst hne
    decide
  · have hpieces : pieces ampersand (utf8 (written ps)) = (ps.map writtenPair).map utf8 := by
      refine pieces_joined utf8_append (by decide) (by simpa using hne) fun t ht => ?_
      obtain ⟨p, -, rfl⟩ := List.mem_map.mp ht
      exact ampersand_not_mem p
    have hkept : ((ps.map writtenPair).map utf8).filter (!·.isEmpty) =
        (ps.map writtenPair).map utf8 := by
      refine List.filter_eq_self.mpr fun piece hpiece => ?_
      obtain ⟨t, ht, rfl⟩ := List.mem_map.mp hpiece
      obtain ⟨p, -, rfl⟩ := List.mem_map.mp ht
      simp [writtenPair, utf8_append, utf8_equals]
    rw [pairs, hpieces, hkept, List.map_map, List.map_map]
    exact List.map_congr_left fun p _ => pair_writtenPair p

end SensorFrames.Text.Form
