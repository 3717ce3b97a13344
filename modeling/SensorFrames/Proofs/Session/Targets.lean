import SensorFrames.Proofs.Address.ReadBack
import SensorFrames.Proofs.Query.Columns
import SensorFrames.Proofs.Session.Batch

/-!
What a batch asks the server for. Main statement: the call of each query that is not hidden carries
its filter, its limit, its offset and the columns it needs, and nothing else.
-/

set_option autoImplicit false

namespace SensorFrames

namespace Query

def unlessEmpty (text : String) : Option String := if text = "" then none else some text

/-- The parameters of a call are what the query asks for. -/
structure AsksWith (q : Query) (found : List (String × String)) : Prop where
  names : (found.map (·.1)).Sublist ["filter", "limit", "offset", "columns"]
  filter : found.lookup "filter" = unlessEmpty q.filterText
  limit : (found.lookup "limit").bind readLimit = q.limit
  offset : (found.lookup "offset").bind readLimit = q.offset
  heatmapColumns : q.viewMode = .heatmap → found.lookup "columns" = some "group,status"
  tableColumns {columns : List String} : q.viewMode = .table →
    FirstOccurrences q.requestedColumns columns →
      found.lookup "columns" = unlessEmpty (Filter.joined "," columns)

def CallsWith (e : Endpoint) (q : Query) (r : Request) : Prop :=
  r.headers = e.headers ∧ ∃ found,
    Endpoint.readAddress r.url = some (e.base ++ "/experimental/objects", found) ∧
      q.AsksWith found

theorem filter_unlessEmpty (text : String) :
    (unlessEmpty text).filter (· ≠ "") = unlessEmpty text := by
  by_cases h : text = "" <;> simp [unlessEmpty, Option.filter, h]

theorem columns_of_table {q : Query} (hview : q.viewMode = .table) :
    (q.fetchColumns.map (Filter.joined ",")).filter (· ≠ "") =
      unlessEmpty (Filter.joined "," (distinct q.requestedColumns)) := by
  by_cases hnil : q.requestedColumns = []
  · rw [fetchColumns_of_nil hview hnil, hnil]
    rfl
  · rw [fetchColumns_of_ne_nil hview hnil, Option.map_some]
    simp [Option.filter, unlessEmpty]

theorem asksWith_listing (q : Query) :
    q.AsksWith (q.listing.parameters.filter (·.2 ≠ "")) := by
  have hcarried := q.listing.carried_parameters
  constructor
  case names => exact hcarried.names
  case filter => exact hcarried.filter.trans (filter_unlessEmpty q.filterText)
  case limit => exact hcarried.limitRead
  case offset => exact hcarried.offsetRead
  case heatmapColumns =>
    intro hview
    have hcolumns : q.listing.columns = some ["group", "status"] := by
      simp [listing, fetchColumns, hview]
    rw [hcarried.columns, hcolumns]
    decide
  case tableColumns =>
    intro columns hview hfirst
    rw [hcarried.columns, hfirst.unique (firstOccurrences_distinct q.requestedColumns)]
    exact columns_of_table hview

theorem callsWith_listing {e : Endpoint} (hbase : '?' ∉ e.base.toList) (q : Query) :
    q.CallsWith e (q.listing.request e) :=
  ⟨rfl, _, Endpoint.readAddress_listing hbase q.listing, q.asksWith_listing⟩

end Query

namespace Session

/-- The calls of a batch stand for its visible queries, one for one. -/
theorem calls_ask_for_visible (e : Endpoint) (hbase : '?' ∉ e.base.toList) (b : Batch)
    (s : Script) :
    ∃ requests, (answered e b s).2.sent = s.sent ++ requests ∧
      List.Forall₂ (Query.CallsWith e) b.visible requests := by
  refine ⟨b.visible.map fun q => q.listing.request e, by rw [answered, frames_script]; rfl, ?_⟩
  rw [List.forall₂_map_right_iff, List.forall₂_same]
  exact fun q _ => q.callsWith_listing hbase

end Session

end SensorFrames
