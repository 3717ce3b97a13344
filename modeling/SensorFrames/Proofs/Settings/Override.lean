import SensorFrames.Proofs.Settings.Number

/-!
Settings under the environment. Main statement: one environment after another comes to the same as
both merged, variable by variable, where a later text goes before an earlier one unless it is to be
a number and is none of its range.
-/

set_option autoImplicit false

namespace SensorFrames

/-! ### Variables -/

inductive Variable where
  | url
  | portNumber
  | key
  | allowInsecure
  | metadataLimit
  | listenAddress
deriving DecidableEq, Repr

namespace Variable

abbrev Value : Variable → Type
  | url | key | listenAddress => String
  | portNumber => UInt16
  | allowInsecure => Bool
  | metadataLimit => UInt64

def read : (v : Variable) → String → Option v.Value
  | url, s | key, s | listenAddress, s => some s
  | portNumber, s => readPortNumber s
  | allowInsecure, s => some (meansYes s)
  | metadataLimit, s => readLimit s

/-- Every text counts but one that has to be a number of a range and is not. -/
def Takes : Variable → String → Prop
  | portNumber, s => ∃ n < 2 ^ 16, IsDecimal s n
  | metadataLimit, s => ∃ n < 2 ^ 64, IsDecimal s n
  | _, _ => True

theorem isSome_read_iff {v : Variable} {s : String} : (v.read s).isSome = true ↔ v.Takes s := by
  cases v with
  | url | key | allowInsecure | listenAddress => exact iff_of_true rfl trivial
  | portNumber | metadataLimit => exact Option.isSome_map.symm ▸ isSome_readBelow

theorem read_eq_none {v : Variable} {s : String} : v.read s = none ↔ ¬ v.Takes s := by
  rw [← isSome_read_iff, Bool.not_eq_true, Option.isSome_eq_false_iff, Option.isNone_iff_eq_none]

instance (v : Variable) : DecidablePred v.Takes := fun _ => decidable_of_iff _ isSome_read_iff

end Variable

def Environment.text (e : Environment) : Variable → Option String
  | .url => e.url
  | .portNumber => e.portNumber
  | .key => e.key
  | .allowInsecure => e.allowInsecure
  | .metadataLimit => e.metadataLimit
  | .listenAddress => e.listenAddress

def Settings.value (s : Settings) : (v : Variable) → v.Value
  | .url => s.url
  | .portNumber => s.portNumber
  | .key => s.key
  | .allowInsecure => s.allowInsecure
  | .metadataLimit => s.metadataLimit
  | .listenAddress => s.listenAddress

namespace Environment

def ofTexts (text : Variable → Option String) : Environment where
  url := text .url
  portNumber := text .portNumber
  key := text .key
  allowInsecure := text .allowInsecure
  metadataLimit := text .metadataLimit
  listenAddress := text .listenAddress

@[simp] theorem text_ofTexts (text : Variable → Option String) (v : Variable) :
    (ofTexts text).text v = text v := by
  cases v <;> rfl

/-- The later text of each variable where it is set and counts, and the earlier one elsewhere. -/
def merge (earlier later : Environment) : Environment :=
  ofTexts fun v => ((later.text v).filter fun s => v.Takes s).or (earlier.text v)

theorem bind_read_merge (earlier later : Environment) (v : Variable) :
    ((earlier.merge later).text v).bind v.read =
      ((later.text v).bind v.read).or ((earlier.text v).bind v.read) := by
  rw [merge, text_ofTexts]
  cases later.text v with
  | none => rfl
  | some s =>
    by_cases htakes : v.Takes s
    · obtain ⟨x, hx⟩ := Option.isSome_iff_exists.mp (Variable.isSome_read_iff.mpr htakes)
      simp [Option.filter_some, htakes, hx]
    · simp [Option.filter_some, htakes, Variable.read_eq_none.mpr htakes]

end Environment

/-! ### Settings -/

namespace Settings

theorem ext_value {s s' : Settings} (h : ∀ v, s.value v = s'.value v) : s = s' := by
  cases s
  cases s'
  rw [mk.injEq]
  exact ⟨h .url, h .portNumber, h .key, h .allowInsecure, h .metadataLimit, h .listenAddress⟩

/-- One rule for all settings: what the variable stands for, or else the old value. -/
theorem value_override (s : Settings) (e : Environment) (v : Variable) :
    (s.override e).value v = ((e.text v).bind v.read).getD (s.value v) := by
  cases v with
  | portNumber | metadataLimit => rfl
  | url | key | listenAddress => exact congrArg (Option.getD · _) (Option.bind_fun_some _).symm
  | allowInsecure => exact congrArg (Option.getD · _) Option.map_eq_bind

theorem override_self (s : Settings) (e : Environment) :
    (s.override e).override e = s.override e :=
  ext_value fun v => by
    rw [value_override, value_override, ← Option.getD_or, Option.or_self]

/-- Environments merge variable by variable. A text that is to be a number of a range and is none
leaves the setting as it was; of the texts that count the later one does, and a setting is told by
its own variable and its old value. -/
theorem override_merges (s : Settings) (earlier later : Environment) :
    (s.override earlier).override later = s.override (earlier.merge later) ∧
    (s.override later).override later = s.override later ∧
    (∀ v, (s.override later).value v = ((later.text v).bind v.read).getD (s.value v)) ∧
    (∀ v, later.text v = none ∨ (∃ text, later.text v = some text ∧ ¬ v.Takes text) →
      (s.override later).value v = s.value v) ∧
    (∀ text n, readPortNumber text = some n ↔ IsDecimal text n.toNat) ∧
    ∀ text n, readLimit text = some n ↔ IsDecimal text n.toNat := by
  refine ⟨?merged, override_self s later, value_override s later, ?kept,
    fun _ _ => readPortNumber_eq_some, fun _ _ => readLimit_eq_some⟩
  case merged =>
    refine ext_value fun v => ?_
    rw [value_override, value_override, value_override, Environment.bind_read_merge, Option.getD_or]
  case kept =>
    intro v h
    rw [value_override]
    rcases h with hunset | ⟨text, hset, hfails⟩
    · rw [hunset]
      rfl
    · rw [hset, Option.bind_some, Variable.read_eq_none.mpr hfails]
      rfl

def fullEnvironment : Environment where
  url := some "https://prtg.local"
  portNumber := some "+08443"
  key := some "key"
  allowInsecure := some "yes"
  metadataLimit := some "18446744073709551615"
  listenAddress := some "127.0.0.1:80"

def faultyEnvironment : Environment where
  portNumber := some "65536"
  key := some ""
  allowInsecure := some "TRUE"
  metadataLimit := some "+"

def fullSettings : Settings := ({} : Settings).override fullEnvironment

theorem faulty_numbers_passed_over :
    faultyEnvironment.text .portNumber = some "65536" ∧ ¬ Variable.portNumber.Takes "65536" ∧
      (fullSettings.override faultyEnvironment).portNumber = 8443 ∧
      fullSettings.override faultyEnvironment =
        ({} : Settings).override
          { fullEnvironment with key := some "", allowInsecure := some "TRUE" } := by
  have hfails : ¬ Variable.portNumber.Takes "65536" := by decide
  have hmerge : fullEnvironment.merge faultyEnvironment =
      { fullEnvironment with key := some "", allowInsecure := some "TRUE" } := by decide
  have hmerged := (override_merges {} fullEnvironment faultyEnvironment).1
  have hkept := (override_merges fullSettings {} faultyEnvironment).2.2.2.1 .portNumber
    (.inr ⟨"65536", rfl, hfails⟩)
  rw [hmerge] at hmerged
  exact ⟨rfl, hfails, hkept.trans (by decide), hmerged⟩

end Settings

end SensorFrames
