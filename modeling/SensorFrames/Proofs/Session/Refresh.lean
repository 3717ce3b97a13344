import SensorFrames.Proofs.Text.Form
import SensorFrames.Service.Refresh

/-!
What a query string asks for. Main statement: it forces a fetch just when `refresh` comes once and
says `true`, does not when the name is missing or says `false`, and is refused for any other value
and for a name that comes again, whichever is the first.
-/

set_option autoImplicit false

namespace SensorFrames.Refresh

open Text.Percent

/-- The values that stand under `refresh`, in their order. -/
def values (query : String) : List (List UInt8) :=
  ((Text.Form.pairs query).filter (·.1 = utf8 "refresh")).map (·.2)

inductive Says : List (List UInt8) → Except ParseError Bool → Prop where
  | missing : Says [] (.ok false)
  | yes : Says [utf8 "true"] (.ok true)
  | no : Says [utf8 "false"] (.ok false)
  | other {value : List UInt8} (rest : List (List UInt8)) (hyes : value ≠ utf8 "true")
      (hno : value ≠ utf8 "false") : Says (value :: rest) (.error .notBoolean)
  | again {value : List UInt8} (next : List UInt8) (rest : List (List UInt8))
      (h : value = utf8 "true" ∨ value = utf8 "false") :
      Says (value :: next :: rest) (.error .repeated)

theorem Says.unique {values : List (List UInt8)} {r r' : Except ParseError Bool}
    (h : Says values r) (h' : Says values r') : r = r' := by
  have hne : utf8 "true" ≠ utf8 "false" := by decide
  cases h <;> cases h' <;> simp_all

def unlessAgain (flag : Bool) : List (List UInt8) → Except ParseError (Option Bool)
  | [] => .ok (some flag)
  | _ :: _ => .error .repeated

theorem readPairs_some (flag : Bool) (pairs : List (List UInt8 × List UInt8)) :
    readPairs (some flag) pairs = unlessAgain flag ((pairs.filter (·.1 = name)).map (·.2)) := by
  induction pairs with
  | nil => rfl
  | cons p pairs ih =>
    obtain ⟨key, value⟩ := p
    by_cases h : key = name <;> simp [readPairs, unlessAgain, h, ih]

theorem readPairs_none (pairs : List (List UInt8 × List UInt8)) :
    readPairs none pairs =
      match (pairs.filter (·.1 = name)).map (·.2) with
      | [] => .ok none
      | value :: rest => (readFlag value).bind (unlessAgain · rest) := by
  induction pairs with
  | nil => rfl
  | cons p pairs ih =>
    obtain ⟨key, value⟩ := p
    by_cases h : key = name
    · simp only [readPairs, h, if_true, readPairs_some, List.filter_cons, decide_true,
        List.map_cons]
      rfl
    · simp [readPairs, h, ih]

theorem says_ofQuery (query : String) : Says (values query) (ofQuery query) := by
  have hvalues : ((Text.Form.pairs query).filter (·.1 = name)).map (·.2) = values query := rfl
  rw [ofQuery, readPairs_none, hvalues]
  cases values query with
  | nil => exact .missing
  | cons value rest =>
    by_cases hyes : value = utf8 "true"
    · subst hyes
      cases rest with
      | nil => exact .yes
      | cons next rest => exact .again next rest (.inl rfl)
    · by_cases hno : value = utf8 "false"
      · subst hno
        cases rest with
        | nil => exact .no
        | cons next rest => exact .again next rest (.inr rfl)
      · have hread : readFlag value = .error .notBoolean := by simp [readFlag, hyes, hno]
        simp only [hread]
        exact .other rest hyes hno

theorem ofQuery_eq_iff {query : String} {r : Except ParseError Bool} :
    ofQuery query = r ↔ Says (values query) r :=
  ⟨fun h => h ▸ says_ofQuery query, (says_ofQuery query).unique⟩

theorem values_written (ps : List (String × String)) :
    values (Text.Form.written ps) =
      (ps.filter (·.1 = "refresh")).map fun p => utf8 p.2 := by
  rw [values, Text.Form.pairs_written, List.filter_map, List.map_map]
  simp [Function.comp_def, utf8_inj]

end SensorFrames.Refresh
