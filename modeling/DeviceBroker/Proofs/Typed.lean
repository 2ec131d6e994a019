import DeviceBroker.Proofs.Keys

/-!
# `Proofs.Typed` — which values a setting has

A setting is read from whatever stands under its name. Here it is said which values are right for it, apart from
the functions that read them, and that settings are read from a table just if all values in it are right.
Two values that are both tables are told apart in one setting only, so elsewhere one is as wrong as the other.

## Contents

* `Value.isTable`, `Value.overlay_of_not_tables` — values that lie over others as they are.
* `Settings.Takes`, `Settings.WellTyped` — **which values a setting has**; `ofEntries_eq_ok_iff`.
* `Settings.ReadAlike`, `ofEntries_congr` — values that are read alike.
-/

namespace DeviceBroker

namespace Value

/-- Whether a value is a table. -/
def isTable : Value → Bool
  | .table _ => true
  | .null | .bool _ | .integer _ | .float _ | .text _ | .list _ => false

theorem exists_of_isTable {value : Value} (h : value.isTable = true) : ∃ entries, value = .table entries := by
  cases value with
  | table entries => exact ⟨entries, rfl⟩
  | null => cases h
  | bool value => cases h
  | integer value => cases h
  | float value => cases h
  | text value => cases h
  | list items => cases h

/-- A table lies over what is no table as it is. -/
theorem overlay_table {below : Value} (h : below.isTable = false) (above : Entries) :
    overlay below (.table above) = .table above := by
  cases below with
  | table entries => cases h
  | null => rw [overlay]; simp
  | bool value => rw [overlay]; simp
  | integer value => rw [overlay]; simp
  | float value => rw [overlay]; simp
  | text value => rw [overlay]; simp
  | list items => rw [overlay]; simp

/-- What is no table lies over anything as it is. -/
theorem overlay_plain {value : Value} (h : value.isTable = false) (below : Value) :
    overlay below value = value := by
  cases value with
  | table above => cases h
  | null => rw [overlay]
  | bool value => rw [overlay]
  | integer value => rw [overlay]
  | float value => rw [overlay]
  | text value => rw [overlay]
  | list items => rw [overlay]

/-- A value lies over another one as it is, unless both are tables. -/
theorem overlay_of_not_tables {below value : Value} (h : ¬(value.isTable = true ∧ below.isTable = true)) :
    overlay below value = value := by
  cases hvalue : value.isTable with
  | false => exact overlay_plain hvalue below
  | true =>
    obtain ⟨above, rfl⟩ := exists_of_isTable hvalue
    exact overlay_table (by simpa [hvalue] using h) above

/-- A table stays a table whatever it lies over. -/
theorem isTable_overlay {value : Value} (h : value.isTable = true) (below : Value) :
    (overlay below value).isTable = true := by
  obtain ⟨above, rfl⟩ := exists_of_isTable h
  cases hbelow : below.isTable with
  | true =>
    obtain ⟨entries, rfl⟩ := exists_of_isTable hbelow
    rw [overlay]
    rfl
  | false =>
    rw [overlay_table hbelow]
    rfl

theorem laid_plain {value : Value} (h : value.isTable = false) (below : Option Value) :
    laid below (some value) = some value := by
  cases below with
  | none => rfl
  | some old => rw [laid, overlay_plain h]

end Value

namespace Settings

/-! ## Reading values -/

/-- **A value as a setting has it.** A format is named by a text, or by a table with nothing under its name. -/
def Takes (settings : Settings) (field : Field) (value : Value) : Prop :=
  match field with
  | .socketPath => value = .text settings.socketPath
  | .logFilter => value = .text settings.logFilter
  | .logFormat => value = .text settings.logFormat.name ∨
      ∃ inner, value = .table [(settings.logFormat.name, inner)] ∧ inner.found = .null
  | .verbose => value = .bool settings.verbose
  | .bufferCapacity => value = .integer settings.bufferCapacity.toNat

/-- **A value of the type of a setting**: some settings have it. -/
def WellTyped (field : Field) (value : Value) : Prop :=
  ∃ settings : Settings, settings.Takes field value

/-- A table is right for a format only. -/
theorem not_takes_of_isTable {settings : Settings} {field : Field} {value : Value} (hfield : field ≠ .logFormat)
    (h : value.isTable = true) : ¬settings.Takes field value := by
  obtain ⟨entries, rfl⟩ := Value.exists_of_isTable h
  cases field with
  | logFormat => exact absurd rfl hfield
  | socketPath => exact nofun
  | logFilter => exact nofun
  | verbose => exact nofun
  | bufferCapacity => exact nofun

/-- Settings that have the value that others show show it too. -/
theorem toValue_of_takes {settings others : Settings} {field : Field}
    (h : settings.Takes field (others.toValue field)) : settings.toValue field = others.toValue field := by
  cases field with
  | logFormat =>
    rcases h with htext | ⟨inner, htable, -⟩
    · exact htext.symm
    · cases htable
  | socketPath => exact h.symm
  | logFilter => exact h.symm
  | verbose => exact h.symm
  | bufferCapacity => exact h.symm

theorem decodeText_eq_ok_iff {expected text : String} {value : Value} :
    decodeText expected value = .ok text ↔ value = .text text := by
  cases value <;> simp [decodeText]

theorem decodeBool_eq_ok_iff {flag : Bool} {value : Value} :
    decodeBool value = .ok flag ↔ value = .bool flag := by
  cases value <;> simp [decodeBool]

theorem decodeCapacity_eq_ok_iff {capacity : UInt64} {value : Value} :
    decodeCapacity value = .ok capacity ↔ value = .integer capacity.toNat := by
  cases value with
  | integer number =>
    rw [decodeCapacity]
    split
    · next hrange =>
      obtain ⟨hnonneg, hlt⟩ := hrange
      have hsize : number.toNat < 2 ^ 64 := by
        have hpow : (Nat.pow 2 64 : Int) = ((2 ^ 64 : Nat) : Int) := rfl
        rw [hpow] at hlt
        omega
      constructor
      · intro hok
        cases hok
        rw [UInt64.toNat_ofNat_of_lt' hsize, Int.toNat_of_nonneg hnonneg]
      · intro hvalue
        cases hvalue
        rw [Int.toNat_natCast, UInt64.ofNat_toNat]
    · next hrange =>
      constructor
      · intro hok
        cases hok
      · intro hvalue
        cases hvalue
        exact absurd ⟨Int.natCast_nonneg _, Int.ofNat_lt.2 capacity.toNat_lt⟩ hrange
  | null => simp [decodeCapacity]
  | bool value => simp [decodeCapacity]
  | float value => simp [decodeCapacity]
  | text value => simp [decodeCapacity]
  | list items => simp [decodeCapacity]
  | table entries => simp [decodeCapacity]

theorem decodeFormatName_eq_ok_iff {name : String} {format : LogFormat} :
    decodeFormatName name = .ok format ↔ name = format.name := by
  unfold decodeFormatName
  constructor
  · intro h
    split at h
    · next found hfound =>
      obtain rfl : found = format := Except.ok.inj h
      have hname := List.find?_some hfound
      exact (eq_of_beq hname).symm
    · cases h
  · rintro rfl
    rw [LogFormat.ofName?_name]

/-- What stands under a format's name has to be nothing. -/
theorem unit_eq_ok_iff {found : Found} {named format : LogFormat} :
    (match found with
      | .null => .ok named
      | other => .error (.type other "unit") : Except Mismatch LogFormat) = .ok format
      ↔ named = format ∧ found = .null := by
  cases found <;> simp

theorem decodeFormat_eq_ok_iff {format : LogFormat} {value : Value} :
    decodeFormat value = .ok format ↔ value = .text format.name ∨
      ∃ inner, value = .table [(format.name, inner)] ∧ inner.found = .null := by
  unfold decodeFormat
  split
  · next name =>
    rw [decodeFormatName_eq_ok_iff]
    simp
  · next name inner =>
    constructor
    · intro h
      cases hname : decodeFormatName name with
      | error mismatch =>
        rw [hname] at h
        cases h
      | ok named =>
        rw [hname] at h
        obtain ⟨rfl, hnothing⟩ := unit_eq_ok_iff.1 h
        rw [decodeFormatName_eq_ok_iff.1 hname]
        exact Or.inr ⟨inner, rfl, hnothing⟩
    · rintro (htext | ⟨other, htable, hnothing⟩)
      · cases htext
      · cases htable
        rw [decodeFormatName_eq_ok_iff.2 rfl]
        exact unit_eq_ok_iff.2 ⟨rfl, hnothing⟩
  · next entries hentries =>
    constructor
    · intro h
      cases h
    · rintro (htext | ⟨inner, htable, -⟩)
      · cases htext
      · exact absurd (Value.table.inj htable) (hentries _ _)
  · next htext htables hother =>
    constructor
    · intro h
      cases h
    · rintro (rfl | ⟨inner, rfl, -⟩)
      · exact absurd rfl (htext _)
      · exact absurd rfl (hother _)

theorem bind_eq_ok_iff {ε α β : Type} {first : Except ε α} {next : α → Except ε β} {b : β} :
    (first >>= next) = .ok b ↔ ∃ a, first = .ok a ∧ next a = .ok b := by
  cases first with
  | error e => simp [bind, Except.bind]
  | ok a => simp [bind, Except.bind]

theorem decodeField_of_lookup {α : Type} {entries : Value.Entries} {field : Field} {value : Value}
    (h : Value.lookup? entries field.key = some value) (fallback : α) (decode : Value → Except Mismatch α) :
    decodeField entries field fallback decode = decode value := by
  rw [decodeField, h]

/-- **Settings from a table with a value for each of them** are those that have these values. -/
theorem ofEntries_eq_ok_iff {entries : Value.Entries} {values : Field → Value}
    (h : ∀ field, Value.lookup? entries field.key = some (values field)) {settings : Settings} :
    ofEntries entries = .ok settings ↔ ∀ field, settings.Takes field (values field) := by
  unfold ofEntries
  simp only [decodeField_of_lookup (h _), bind_eq_ok_iff, decodeCapacity_eq_ok_iff, decodeText_eq_ok_iff,
    decodeFormat_eq_ok_iff, decodeBool_eq_ok_iff]
  constructor
  · rintro ⟨capacity, hcapacity, filter, hfilter, format, hformat, path, hpath, flag, hflag, hsettings⟩
    cases hsettings
    intro field
    cases field with
    | socketPath => exact hpath
    | logFilter => exact hfilter
    | logFormat => exact hformat
    | verbose => exact hflag
    | bufferCapacity => exact hcapacity
  · intro htakes
    exact ⟨_, htakes .bufferCapacity, _, htakes .logFilter, _, htakes .logFormat, _, htakes .socketPath, _,
      htakes .verbose, rfl⟩

/-! ## Values that are read alike -/

/-- **Two values that are read alike**: the same, or two tables where a table is never right. -/
def ReadAlike (field : Field) (a b : Value) : Prop :=
  a = b ∨ field ≠ .logFormat ∧ a.isTable = true ∧ b.isTable = true

theorem ReadAlike.congr {field : Field} {a b : Value} (h : ReadAlike field a b) {α : Type} (decode : Value → α)
    (htable : field ≠ .logFormat → ∀ entries, decode (.table entries) = decode (.table [])) :
    decode a = decode b := by
  rcases h with rfl | ⟨hfield, ha, hb⟩
  · rfl
  · obtain ⟨above, rfl⟩ := Value.exists_of_isTable ha
    obtain ⟨below, rfl⟩ := Value.exists_of_isTable hb
    rw [htable hfield above, htable hfield below]

/-- **Tables whose values are read alike** give the same settings, or the same error. -/
theorem ofEntries_congr {a b : Value.Entries} {left right : Field → Value}
    (ha : ∀ field, Value.lookup? a field.key = some (left field))
    (hb : ∀ field, Value.lookup? b field.key = some (right field))
    (halike : ∀ field, ReadAlike field (left field) (right field)) : ofEntries a = ofEntries b := by
  unfold ofEntries
  simp only [decodeField_of_lookup (ha _), decodeField_of_lookup (hb _)]
  rw [(halike .bufferCapacity).congr decodeCapacity fun _ _ => rfl,
    (halike .logFilter).congr (decodeText textExpected) fun _ _ => rfl,
    (halike .logFormat).congr decodeFormat fun hne => absurd rfl hne,
    (halike .socketPath).congr (decodeText pathExpected) fun _ _ => rfl,
    (halike .verbose).congr decodeBool fun _ _ => rfl]

end Settings

end DeviceBroker
