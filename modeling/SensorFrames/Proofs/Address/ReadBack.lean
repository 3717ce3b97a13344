import SensorFrames.Proofs.Address.Encoding
import SensorFrames.Proofs.Settings.Number
import SensorFrames.Proofs.Text.Cutting
import SensorFrames.Service.Client

/-!
Reading the address of a request back. Main statement: cut at its first `?`, then at each `&`, and
each piece at its first `=`, an address gives what it was made from.
-/

set_option autoImplicit false

namespace SensorFrames

/-! ### Addresses -/

namespace Endpoint

open Text

def readParameter (piece : List Char) : Option (String × String) :=
  match cut '=' piece with
  | (_, none) => none
  | (name, some value) => (Percent.decode? (String.ofList value)).map (String.ofList name, ·)

/-- What an address asks for: the text before its query, and the parameters. -/
def readAddress (url : String) : Option (String × List (String × String)) :=
  match cut '?' url.toList with
  | (bare, none) => some (String.ofList bare, [])
  | (bare, some query) => ((pieces '&' query).mapM readParameter).map (String.ofList bare, ·)

def IsPlainName (name : String) : Prop := '&' ∉ name.toList ∧ '=' ∉ name.toList

instance : DecidablePred IsPlainName := fun _ => inferInstanceAs (Decidable (_ ∧ _))

theorem not_mem_encode {c : Char} (h : Percent.isUnreserved c = false) (hc : c ≠ '%')
    (s : String) : c ∉ (Percent.encode s).toList := by
  intro hmem
  rcases Percent.mem_encode hmem with hun | heq
  · simp [h] at hun
  · exact hc heq

theorem toList_parameter (p : String × String) :
    (parameter p).toList = p.1.toList ++ '=' :: (Percent.encode p.2).toList := by
  simp [parameter]

theorem readParameter_parameter {p : String × String} (h : IsPlainName p.1) :
    readParameter (parameter p).toList = some p := by
  rw [toList_parameter, readParameter, cut_append h.2]
  simp only [String.ofList_toList, Percent.decode?_encode, Option.map_some]

theorem not_mem_parameter {p : String × String} (h : IsPlainName p.1) :
    '&' ∉ (parameter p).toList := by
  have hvalue := not_mem_encode (c := '&') (by decide) (by decide) p.2
  rw [toList_parameter, List.mem_append, List.mem_cons]
  exact not_or.mpr ⟨h.1, not_or.mpr ⟨by decide, hvalue⟩⟩

theorem mapM_readParameter {ps : List (String × String)} (h : ∀ p ∈ ps, IsPlainName p.1) :
    ((ps.map parameter).map String.toList).mapM readParameter = some ps := by
  induction ps with
  | nil => rfl
  | cons p ps ih =>
    have htail := ih fun x hx => h x (List.mem_cons_of_mem p hx)
    rw [List.map_cons, List.map_cons, List.mapM_cons, readParameter_parameter (h p (by simp)),
      htail]
    rfl

theorem readAddress_bare {bare : String} (h : '?' ∉ bare.toList) :
    readAddress bare = some (bare, []) := by
  simp [readAddress, cut_of_not_mem h]

theorem readAddress_query {bare : String} (h : '?' ∉ bare.toList) {ps : List (String × String)}
    (hne : ps ≠ []) (hps : ∀ p ∈ ps, IsPlainName p.1) :
    readAddress (bare ++ "?" ++ Filter.joined "&" (ps.map parameter)) = some (bare, ps) := by
  have hcut : cut '?' (bare ++ "?" ++ Filter.joined "&" (ps.map parameter)).toList =
      (bare.toList, some (Filter.joined "&" (ps.map parameter)).toList) := by
    simpa using cut_append h (Filter.joined "&" (ps.map parameter)).toList
  have hpieces : pieces '&' (Filter.joined "&" (ps.map parameter)).toList =
      (ps.map parameter).map String.toList := by
    refine pieces_joined (fun _ _ => String.toList_append) rfl (by simpa using hne) fun t ht => ?_
    obtain ⟨p, hp, rfl⟩ := List.mem_map.mp ht
    exact not_mem_parameter (hps p hp)
  simp only [readAddress, hcut, hpieces, mapM_readParameter hps, Option.map_some,
    String.ofList_toList]

variable {e : Endpoint} {path : String} {ps : List (String × String)}

theorem address_of_kept_nil (h : ps.filter (·.2 ≠ "") = []) :
    e.address path ps = e.base ++ "/" ++ path := by
  rw [address, h]

theorem address_of_kept (h : ps.filter (·.2 ≠ "") ≠ []) :
    e.address path ps = e.base ++ "/" ++ path ++ "?" ++
      Filter.joined "&" ((ps.filter (·.2 ≠ "")).map parameter) := by
  unfold address
  split
  · contradiction
  · rfl

theorem not_mem_bare (hbase : '?' ∉ e.base.toList) (hpath : '?' ∉ path.toList) :
    '?' ∉ (e.base ++ "/" ++ path).toList := by
  simpa using ⟨hbase, hpath⟩

theorem readAddress_address (hbase : '?' ∉ e.base.toList) (hpath : '?' ∉ path.toList)
    (h : ∀ p ∈ ps, IsPlainName p.1) :
    readAddress (e.address path ps) = some (e.base ++ "/" ++ path, ps.filter (·.2 ≠ "")) := by
  have hbare := not_mem_bare hbase hpath
  by_cases hkept : ps.filter (·.2 ≠ "") = []
  · rw [address_of_kept_nil hkept, readAddress_bare hbare, hkept]
  · rw [address_of_kept hkept, readAddress_query hbare hkept]
    exact fun p hp => h p (List.mem_filter.mp hp).1

theorem mem_address (hbase : '?' ∉ e.base.toList) (hpath : '?' ∉ path.toList) :
    '?' ∈ (e.address path ps).toList ↔ ∃ p ∈ ps, p.2 ≠ "" := by
  have hsome : ps.filter (·.2 ≠ "") ≠ [] ↔ ∃ p ∈ ps, p.2 ≠ "" := by simp
  rw [← hsome]
  by_cases hkept : ps.filter (·.2 ≠ "") = []
  · rw [address_of_kept_nil hkept]
    exact iff_of_false (not_mem_bare hbase hpath) (not_not_intro hkept)
  · exact iff_of_true (by simp [address_of_kept hkept]) hkept

end Endpoint

/-! ### Listings -/

namespace Listing

/-- A parameter, unless it has no value or an empty one. -/
def sentAs (name : String) (value : Option String) : List (String × String) :=
  (value.filter (· ≠ "")).toList.map (name, ·)

theorem lookup_sentAs (key name : String) (value : Option String) :
    (sentAs name value).lookup key = if key = name then value.filter (· ≠ "") else none := by
  unfold sentAs
  cases value.filter (· ≠ "") with
  | none => simp
  | some v =>
    by_cases h : key = name
    · simp [h]
    · have hkey : (key == name) = false := by simpa using h
      simp [h, hkey]

theorem names_sentAs (name : String) (value : Option String) :
    ((sentAs name value).map (·.1)).Sublist [name] := by
  unfold sentAs
  cases value.filter (· ≠ "") <;> simp

theorem filter_map_eq_sentAs (name : String) (value : Option String) :
    (value.toList.map (name, ·)).filter (·.2 ≠ "") = sentAs name value := by
  cases value with
  | none => rfl
  | some v => by_cases h : v = "" <;> simp [sentAs, Option.filter, h]

theorem wordText_ne_empty (n : UInt64) : wordText n ≠ "" := by
  simp [wordText, Nat.toDigits_ne_nil]

theorem filter_wordText (word : Option UInt64) :
    (word.map wordText).filter (· ≠ "") = word.map wordText := by
  cases word <;> simp [wordText_ne_empty]

theorem filter_map_wordText (name : String) (word : Option UInt64) :
    (word.toList.map fun n => (name, wordText n)).filter (·.2 ≠ "") =
      sentAs name (word.map wordText) := by
  rw [← filter_map_eq_sentAs]
  cases word <;> rfl

theorem filter_columns (columns : Option (List String)) :
    (match columns with
      | some (c :: cs) => [("columns", Filter.joined "," (c :: cs))]
      | _ => []).filter (·.2 ≠ "") = sentAs "columns" (columns.map (Filter.joined ",")) := by
  rcases columns with _ | _ | ⟨c, cs⟩
  · rfl
  · rfl
  · exact filter_map_eq_sentAs "columns" (some (Filter.joined "," (c :: cs)))

theorem filter_parameters (l : Listing) :
    l.parameters.filter (·.2 ≠ "") =
      sentAs "filter" l.filter ++ sentAs "limit" (l.limit.map wordText) ++
        sentAs "offset" (l.offset.map wordText) ++
        sentAs "columns" (l.columns.map (Filter.joined ",")) := by
  rw [parameters, List.filter_append, List.filter_append, List.filter_append,
    filter_map_eq_sentAs, filter_map_wordText, filter_map_wordText]
  exact congrArg _ (filter_columns l.columns)

theorem names_parameters (l : Listing) :
    ((l.parameters.filter (·.2 ≠ "")).map (·.1)).Sublist
      ["filter", "limit", "offset", "columns"] := by
  simp only [filter_parameters, List.map_append]
  exact (((names_sentAs _ _).append (names_sentAs _ _)).append (names_sentAs _ _)).append
    (names_sentAs _ _)

theorem isPlainName_parameters {l : Listing} {p : String × String} (h : p ∈ l.parameters) :
    Endpoint.IsPlainName p.1 := by
  have hnames : p.1 ∈ ["filter", "limit", "offset", "columns"] := by
    unfold parameters at h
    rcases hc : l.columns with _ | _ | ⟨c, cs⟩ <;> simp [hc] at h <;> grind
  have hall : ∀ name ∈ ["filter", "limit", "offset", "columns"], Endpoint.IsPlainName name := by
    decide
  exact hall p.1 hnames

/-- What was read from an address is what a listing asks for, and nothing else. -/
structure Carried (l : Listing) (found : List (String × String)) : Prop where
  names : (found.map (·.1)).Sublist ["filter", "limit", "offset", "columns"]
  filter : found.lookup "filter" = l.filter.filter (· ≠ "")
  limit : found.lookup "limit" = l.limit.map wordText
  limitRead : (found.lookup "limit").bind readLimit = l.limit
  offset : found.lookup "offset" = l.offset.map wordText
  offsetRead : (found.lookup "offset").bind readLimit = l.offset
  columns : found.lookup "columns" = (l.columns.map (Filter.joined ",")).filter (· ≠ "")

theorem readLimit_wordText (n : UInt64) : readLimit (wordText n) = some n :=
  readLimit_eq_some.mpr (isDecimal_toDigits n.toNat)

theorem bind_readLimit (word : Option UInt64) : (word.map wordText).bind readLimit = word := by
  cases word <;> simp [readLimit_wordText]

theorem lookup_parameters (l : Listing) (name : String) :
    (l.parameters.filter (·.2 ≠ "")).lookup name =
      if name = "filter" then l.filter.filter (· ≠ "")
      else if name = "limit" then l.limit.map wordText
      else if name = "offset" then l.offset.map wordText
      else if name = "columns" then (l.columns.map (Filter.joined ",")).filter (· ≠ "")
      else none := by
  rw [filter_parameters]
  simp only [List.lookup_append, lookup_sentAs, filter_wordText]
  split_ifs <;> simp_all

theorem carried_parameters (l : Listing) : l.Carried (l.parameters.filter (·.2 ≠ "")) where
  names := names_parameters l
  filter := lookup_parameters l "filter"
  limit := lookup_parameters l "limit"
  limitRead := (congrArg (·.bind readLimit) (lookup_parameters l "limit")).trans (bind_readLimit _)
  offset := lookup_parameters l "offset"
  offsetRead :=
    (congrArg (·.bind readLimit) (lookup_parameters l "offset")).trans (bind_readLimit _)
  columns := lookup_parameters l "columns"

end Listing

namespace Endpoint

theorem readAddress_listing {e : Endpoint} (hbase : '?' ∉ e.base.toList) (l : Listing) :
    readAddress (l.request e).url =
      some (e.base ++ "/experimental/objects", l.parameters.filter (·.2 ≠ "")) := by
  have hpath : e.base ++ "/" ++ Listing.path = e.base ++ "/experimental/objects" :=
    String.append_assoc
  rw [← hpath]
  exact readAddress_address hbase (by decide) fun _ => Listing.isPlainName_parameters

/-- An address that is read gives what it was made from; so what a listing asks for stands in its
request, whatever characters its texts have. -/
theorem address_reads_back (e : Endpoint) (hbase : '?' ∉ e.base.toList) :
    (∀ (path : String) (ps : List (String × String)), '?' ∉ path.toList →
      (∀ p ∈ ps, IsPlainName p.1) →
        readAddress (e.address path ps) =
          some (e.base ++ "/" ++ path, ps.filter (·.2 ≠ "")) ∧
        ('?' ∈ (e.address path ps).toList ↔ ∃ p ∈ ps, p.2 ≠ "")) ∧
    ∀ (l : Listing) (s : Script), ∃ r found,
      ((⟨Script.transport, e⟩ : Client Script).list l s).2.sent = s.sent ++ [r] ∧
        readAddress r.url = some (e.base ++ "/experimental/objects", found) ∧
        l.Carried found := by
  refine ⟨fun path ps hpath hps => ⟨readAddress_address hbase hpath hps,
    mem_address hbase hpath⟩, fun l s => ?_⟩
  exact ⟨l.request e, _, rfl, readAddress_listing hbase l, l.carried_parameters⟩

theorem hostile_value_reads_back :
    let e : Endpoint := ⟨"https://prtg.local/", 1616, "key"⟩
    let hostile := "a=b&limit=9?#%41+é"
    let l : Listing := { filter := some hostile, limit := some 0, columns := some [""] }
    readAddress (e.address "objects" [("filter", hostile), ("columns", "")]) =
        some ("https://prtg.local:1616/api/v2/objects", [("filter", hostile)]) ∧
      '?' ∈ (e.address "objects" [("filter", hostile), ("columns", "")]).toList ∧
      ∃ r found, (Client.list ⟨Script.transport, e⟩ l ⟨[], []⟩).2.sent = [r] ∧
        readAddress r.url =
          some ("https://prtg.local:1616/api/v2/experimental/objects", found) ∧
        l.Carried found := by
  intro e hostile l
  have hbase : e.base = "https://prtg.local:1616/api/v2" := by decide
  have hreads := address_reads_back e (by rw [hbase]; decide)
  rw [hbase] at hreads
  obtain ⟨haddress, hmark⟩ := hreads.1 "objects" [("filter", hostile), ("columns", "")]
    (by decide) (by decide)
  exact ⟨haddress, hmark.mpr ⟨_, List.mem_cons_self, by decide⟩, hreads.2 l ⟨[], []⟩⟩

end Endpoint

end SensorFrames
