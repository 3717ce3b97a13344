import SensorFrames.Number.Shortest

/-!
JSON values. A number is an integer of at most 64 bits or a double. The members of an object form
a record: keys stand in rising order, each once, and writing a key again replaces its value.
-/

set_option autoImplicit false

namespace SensorFrames

inductive Number where
  | integer (n : Int)
  | double (d : Double)
deriving DecidableEq, Inhabited, Repr

namespace Number

def isZero : Number → Bool
  | integer n => n == 0
  | double d => d.isZero

def text : Number → String
  | integer (.ofNat n) => String.ofList (Nat.toDigits 10 n)
  | integer (.negSucc n) => String.ofList ('-' :: Nat.toDigits 10 (n + 1))
  | double d => d.text

end Number

inductive Json where
  | null
  | bool (b : Bool)
  | num (n : Number)
  | str (s : String)
  | arr (items : List Json)
  | obj (members : List (String × Json))
deriving Inhabited

abbrev Record := List (String × Json)

namespace Record

def get? (key : String) : Record → Option Json
  | [] => none
  | (k, v) :: rest => if k = key then some v else get? key rest

def put (key : String) (value : Json) : Record → Record
  | [] => [(key, value)]
  | (k, v) :: rest =>
    if k = key then (key, value) :: rest
    else if key < k then (key, value) :: (k, v) :: rest
    else (k, v) :: put key value rest

/-- Of two entries with one key the later one counts. -/
def ofEntries (entries : List (String × Json)) : Record :=
  entries.foldl (fun r e => put e.1 e.2 r) []

def keys (r : Record) : List String := r.map (·.1)

theorem get?_put (key key' : String) (value : Json) (r : Record) :
    (put key value r).get? key' = if key = key' then some value else r.get? key' := by
  induction r with
  | nil => simp [put, get?]
  | cons e r ih =>
    obtain ⟨k, v⟩ := e
    by_cases hk : k = key
    · subst hk
      by_cases h : k = key' <;> simp [put, get?, h]
    · by_cases hlt : key < k
      · by_cases h : key = key'
        · subst h
          simp [put, get?, hk, hlt]
        · simp [put, get?, hk, hlt, h]
      · by_cases h : k = key'
        · subst h
          simp [put, get?, hk, hlt, Ne.symm hk]
        · simp [put, get?, hk, hlt, h, ih]

theorem get?_ofEntries (entries : List (String × Json)) (key : String) :
    (ofEntries entries).get? key = entries.reverse.lookup key := by
  have h : ∀ r : Record, Record.get? key (entries.foldl (fun r e => put e.1 e.2 r) r) =
      (entries.reverse.lookup key).or (r.get? key) := by
    induction entries with
    | nil => simp
    | cons e entries ih =>
      intro r
      obtain ⟨k, v⟩ := e
      by_cases hk : k = key
      · cases hl : entries.reverse.lookup key <;> simp [ih, get?_put, List.lookup_append, hk, hl]
      · simp [ih, get?_put, List.lookup_append, List.lookup_cons, hk, beq_false_of_ne (Ne.symm hk)]
  simpa [ofEntries, get?] using h []

end Record

namespace Json

def ofNat (n : Nat) : Json := num (.integer n)

def strings (xs : List String) : Json := arr (xs.map str)

def ofOption {α : Type} (f : α → Json) : Option α → Json
  | none => null
  | some x => f x

def object (entries : List (String × Json)) : Json := obj (Record.ofEntries entries)

def string? : Json → Option String
  | str s => some s
  | _ => none

def member? (key : String) : Json → Option Json
  | obj r => Record.get? key r
  | _ => none

def record? : Json → Option Record
  | obj r => some r
  | _ => none

end Json

end SensorFrames
