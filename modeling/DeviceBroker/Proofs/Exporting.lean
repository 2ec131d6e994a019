import DeviceBroker.Proofs.Layering
import DeviceBroker.Proofs.Verbatim

/-!
# `Proofs.Exporting` — the same text behind a flag and in a variable

A text that a flag takes can be put into the variable of the same setting instead. A flag knows what it is to
read; a variable guesses. So the two need not mean the same: a list of directives becomes a list, a filter of
digits a number, and a format is not recognised unless it is written in small letters, though the flag takes it
in any. Here it is told exactly for which texts they do mean the same.

## Contents

* `Field.flag` — the flag of a setting.
* `Arguments.settings`, `SuppliesAlone` — what a command line sets, and one that sets a single setting.
* `Quiet`, `Quiet.load_flag`, `Quiet.load_variable_iff` — sources that say nothing but one text.
* `Alike`, `exists_takes_iff` — **the texts that mean the same**.
* `load_exported_iff` — a flag and a variable, and when they agree; `load_exported_differs` — a filter and a format
  for which they do not.
-/

namespace DeviceBroker

theorem LogFormat.lower_of_ofText? {text : String} {format : LogFormat} (h : ofText? text = some format) :
    text.toList.map Char.toLower = format.name.toList := by
  have hname := List.find?_some h
  exact eq_of_beq hname

namespace Settings

/-! ## Flags -/

/-- The flag of a setting. -/
def Field.flag : Field → Flag
  | .socketPath => .socketPath
  | .logFilter => .logFilter
  | .logFormat => .logFormat
  | .verbose => .verbose
  | .bufferCapacity => .bufferCapacity

/-- **The settings of a command line alone**: the defaults where it says nothing. -/
def Arguments.settings (arguments : Arguments) : Settings where
  socketPath := arguments.socketPath.getD default.socketPath
  logFilter := arguments.logFilter.getD default.logFilter
  logFormat := arguments.logFormat.getD default.logFormat
  verbose := arguments.verbose
  bufferCapacity := arguments.bufferCapacity.getD default.bufferCapacity

theorem takes_toValue (settings : Settings) (field : Field) : settings.Takes field (settings.toValue field) := by
  cases field with
  | logFormat => exact Or.inl rfl
  | socketPath => rfl
  | logFilter => rfl
  | verbose => rfl
  | bufferCapacity => rfl

theorem Arguments.toValue_settings (arguments : Arguments) (field : Field) :
    arguments.settings.toValue field = (arguments.supplied? field).getD (default.toValue field) := by
  cases field with
  | socketPath => cases hpath : arguments.socketPath <;> simp [settings, supplied?, toValue, hpath]
  | logFilter => cases hfilter : arguments.logFilter <;> simp [settings, supplied?, toValue, hfilter]
  | logFormat => cases hformat : arguments.logFormat <;> simp [settings, supplied?, toValue, hformat]
  | verbose => cases hverbose : arguments.verbose <;> simp [settings, supplied?, toValue, hverbose, default]
  | bufferCapacity => cases hcapacity : arguments.bufferCapacity <;> simp [settings, supplied?, toValue, hcapacity]

/-- A flag of a setting that takes a text sets nothing else. -/
structure SuppliesAlone (arguments : Arguments) (field : Field) : Prop where
  takesText : field ≠ .verbose
  plain : arguments.verbose = false
  unasked : arguments.configPath = none
  elsewhere : ∀ other, other ≠ field → arguments.supplied? other = none

theorem Arguments.suppliesAlone_of_accept {field : Field} {text : String} {arguments : Arguments}
    (h : ({} : Arguments).accept field.flag text = .ok arguments) : SuppliesAlone arguments field := by
  cases field with
  | socketPath =>
    cases h
    exact ⟨nofun, rfl, rfl, fun other hother => by cases other <;> first | rfl | exact absurd rfl hother⟩
  | logFilter =>
    cases h
    exact ⟨nofun, rfl, rfl, fun other hother => by cases other <;> first | rfl | exact absurd rfl hother⟩
  | logFormat =>
    simp only [accept, Field.flag] at h
    split at h
    · cases h
      exact ⟨nofun, rfl, rfl, fun other hother => by cases other <;> first | rfl | exact absurd rfl hother⟩
    · cases h
  | verbose => cases h
  | bufferCapacity =>
    simp only [accept, Field.flag] at h
    split at h
    · cases h
      exact ⟨nofun, rfl, rfl, fun other hother => by cases other <;> first | rfl | exact absurd rfl hother⟩
    · cases h

/-! ## Sources that say nothing else -/

/-- **Sources that say nothing**: no file is found, and no variable sets anything. -/
structure Quiet (tree : FileTree) (environment : Environment) : Prop where
  noFile : File.discover tree environment none = {}
  noVariable : ∀ entry ∈ environment, Environment.path? entry.1 = none

theorem Environment.addTo_of_none {name : String} (h : path? name = none) (below : Value.Entries) (text : String) :
    addTo below name text = .ok below := by
  unfold addTo
  rw [h]

theorem Environment.addTo_of_key {name key : String} (h : path? name = some [key]) (below : Value.Entries)
    (text : String) :
    addTo below name text = (Variable.read text).map fun value => Value.put below key value := by
  unfold addTo
  rw [h]
  dsimp only
  cases Variable.read text <;> rfl

theorem Environment.foldlM_addTo {environment : Environment}
    (h : ∀ entry ∈ environment, path? entry.1 = none) (below : Value.Entries) :
    environment.foldlM (fun below (name, text) => addTo below name text) below = .ok below := by
  induction environment generalizing below with
  | nil => rfl
  | cons entry rest ih =>
    have hentry := addTo_of_none (h entry List.mem_cons_self) below entry.2
    simp only [List.foldlM_cons, hentry]
    exact ih (fun other hother => h other (List.mem_cons_of_mem _ hother)) below

/-- One variable that sets something, wherever it stands, sets what its text is read as. -/
theorem Environment.toEntries_insert {before after : Environment}
    (h : ∀ entry ∈ before ++ after, path? entry.1 = none) {name key : String} (hname : path? name = some [key])
    (text : String) :
    toEntries (before ++ (name, text) :: after) = (Variable.read text).map fun value => [(key, value)] := by
  have hbefore := foldlM_addTo (fun entry hentry => h entry (List.mem_append_left _ hentry)) []
  have hafter := fun below => foldlM_addTo (fun entry hentry => h entry (List.mem_append_right _ hentry)) below
  unfold toEntries
  simp only [List.foldlM_append, List.foldlM_cons, hbefore, addTo_of_key hname]
  cases Variable.read text with
  | error cut => rfl
  | ok value => exact hafter _

theorem Environment.get?_insert {name key : String} (h : name ≠ key) (before after : Environment) (text : String) :
    get? (before ++ (name, text) :: after) key = get? (before ++ after) key := by
  unfold get?
  rw [List.find?_append, List.find?_append, List.find?_cons_of_neg (by simpa using h)]

/-- The variable of a setting says nothing about where files are. -/
theorem File.candidates_insert {name : String} {field : Field} (hname : Environment.path? name = some [field.key])
    (tree : FileTree) (before after : Environment) (text : String) :
    candidates tree (before ++ (name, text) :: after) = candidates tree (before ++ after) := by
  have hne : ∀ key, Environment.path? key ≠ some [field.key] → name ≠ key := by
    rintro key hkey rfl
    exact hkey hname
  unfold candidates
  rw [Environment.get?_insert (hne "RESMGR_CONFIG_PATH" (by cases field <;> decide +kernel)),
    Environment.get?_insert (hne "XDG_CONFIG_HOME" (by cases field <;> decide +kernel)),
    Environment.get?_insert (hne "XDG_CONFIG_DIRS" (by cases field <;> decide +kernel)),
    Environment.get?_insert (hne "HOME" (by cases field <;> decide +kernel))]

section Quiet

variable {tree : FileTree} {before after : Environment} {field : Field} {name text : String}

/-- What is said where only a flag is given. -/
theorem Quiet.reads_flag {environment : Environment} (quiet : Quiet tree environment) {words : List String}
    {arguments : Arguments} (hread : Arguments.read words = .ok arguments)
    (hpath : arguments.configPath = none) :
    Reads { tree, environment, arguments := words } { arguments } where
  parsed := hread
  exported := Environment.foldlM_addTo quiet.noVariable []
  found := ⟨none, by rw [hpath]; exact quiet.noFile, rfl⟩

/-- What is said where only a variable is set. -/
theorem Quiet.reads_variable (quiet : Quiet tree (before ++ after))
    (hname : Environment.path? name = some [field.key]) {value : Value} (hvalue : Variable.read text = .ok value) :
    Reads { tree, environment := before ++ (name, text) :: after } { environment := [(field.key, value)] } where
  parsed := rfl
  exported := by
    show Environment.toEntries (before ++ (name, text) :: after) = _
    rw [Environment.toEntries_insert quiet.noVariable hname, hvalue]
    rfl
  found := by
    refine ⟨none, ?_, rfl⟩
    show File.optional tree (File.candidates tree (before ++ (name, text) :: after)) = _
    rw [File.candidates_insert hname]
    exact quiet.noFile

/-- **A flag alone is loaded as what it says.** -/
theorem Quiet.load_flag {environment : Environment} (quiet : Quiet tree environment) {words : List String}
    {arguments : Arguments} (hread : Arguments.read words = .ok arguments) (hpath : arguments.configPath = none) :
    load { tree, environment, arguments := words } = .ok arguments.settings := by
  rw [(quiet.reads_flag hread hpath).load_eq_ok_iff]
  refine ⟨rfl, fun other _ => ?_⟩
  have hcounting : ({ arguments } : Said).counting other = arguments.settings.toValue other := by
    rw [Arguments.toValue_settings]
    unfold Said.counting Said.highest
    cases arguments.supplied? other <;> rfl
  rw [hcounting]
  exact takes_toValue _ _

theorem Field.key_injective {field other : Field} (h : field.key = other.key) : field = other := by
  have hsame := ofKey?_key field
  rw [h, ofKey?_key] at hsame
  exact (Option.some.inj hsame).symm

/-- What counts where only a variable is set. -/
theorem counting_variable (field other : Field) (value : Value) :
    ({ environment := [(field.key, value)] } : Said).counting other
      = if other = field then value else default.toValue other := by
  have hflag : ({} : Arguments).supplied? other = none := by cases other <;> rfl
  have henvironment : ({ environment := [(field.key, value)] } : Said).inEnvironment? other
      = if other = field then some value else none := by
    unfold Said.inEnvironment?
    rw [Value.lookup?_cons]
    by_cases h : other = field
    · rw [if_pos h, if_pos (by rw [h])]
    · rw [if_neg h, if_neg fun hkey => h (Field.key_injective hkey).symm]
      rfl
  have hfile : ({ environment := [(field.key, value)] } : Said).inFile? other = none := rfl
  unfold Said.counting Said.highest
  rw [hflag, henvironment, hfile]
  by_cases h : other = field
  · rw [if_pos h, if_pos h]
    rfl
  · rw [if_neg h, if_neg h]
    rfl

/-- **A variable alone is loaded** as settings with the defaults elsewhere, if what it says is right for its
    setting. -/
theorem Quiet.load_variable_iff (quiet : Quiet tree (before ++ after))
    (hname : Environment.path? name = some [field.key]) {settings : Settings} (hfield : field ≠ .verbose)
    (hverbose : settings.verbose = false)
    (helsewhere : ∀ other, other ≠ field → settings.toValue other = default.toValue other) :
    load { tree, environment := before ++ (name, text) :: after } = .ok settings ↔
      ∃ value, Variable.read text = .ok value ∧ settings.Takes field value := by
  cases hread : Variable.read text with
  | error cut =>
    refine iff_of_false ?_ nofun
    unfold load
    simp only [Environment.toEntries_insert quiet.noVariable hname, hread]
    exact nofun
  | ok value =>
    rw [(quiet.reads_variable hname hread).load_eq_ok_iff]
    constructor
    · rintro ⟨-, htakes⟩
      have hvalue := htakes field hfield
      rw [counting_variable, if_pos rfl] at hvalue
      exact ⟨value, rfl, hvalue⟩
    · rintro ⟨found, hfound, hvalue⟩
      cases hfound
      refine ⟨hverbose, fun other _ => ?_⟩
      rw [counting_variable]
      by_cases h : other = field
      · rwa [if_pos h, h]
      · rw [if_neg h, ← helsewhere other h]
        exact takes_toValue _ _

end Quiet

/-! ## Texts that mean the same -/

/-- **A text means the same** behind the flag of a setting and in its variable: a path and a filter if they stand
    for themselves, a format if it is in small letters, and a capacity always. -/
def Alike (field : Field) (text : String) : Prop :=
  match field with
  | .socketPath => Variable.StandsForItself text.toList
  | .logFilter => Variable.StandsForItself text.toList
  | .logFormat => text.toList.map Char.toLower = text.toList
  | .verbose => False
  | .bufferCapacity => True

/-- A format's name in any case is a text that stands for itself. -/
theorem Variable.read_of_format {text : String} {format : LogFormat} (h : LogFormat.ofText? text = some format) :
    read text = .ok (.text text) := by
  have hlower := LogFormat.lower_of_ofText? h
  have hmem : ∀ c ∈ text.toList, c.toLower ∈ format.name.toList := by
    intro c hc
    rw [← hlower]
    exact List.mem_map_of_mem hc
  refine read_eq_self_iff.2 (standsForItself_of_letters (fun c hc => isAlpha_of_toLower ?_) ?_ ?_ ?_)
  · have halpha : format.name.toList.all Char.isAlpha = true := by cases format <;> decide
    exact List.all_eq_true.1 halpha _ (hmem c hc)
  · have hletter : 'o' ∈ text.toList.map Char.toLower := by rw [hlower]; cases format <;> decide
    obtain ⟨c, hc, ho⟩ := List.mem_map.1 hletter
    refine ⟨c, hc, ?_⟩
    by_contra hnumeral
    have hnumeral := isNumeral_toLower (by simpa using hnumeral)
    rw [ho] at hnumeral
    cases hnumeral
  · unfold isWord
    rw [hlower]
    cases format <;> decide
  · unfold isWord
    rw [hlower]
    cases format <;> decide

/-- **What a variable says of a text that the flag takes** is right, and the same, just if the text is alike. -/
theorem exists_takes_iff {field : Field} {text : String} {arguments : Arguments}
    (h : ({} : Arguments).accept field.flag text = .ok arguments) :
    (∃ value, Variable.read text = .ok value ∧ arguments.settings.Takes field value) ↔ Alike field text := by
  cases field with
  | socketPath =>
    cases h
    exact ⟨fun ⟨value, hread, hvalue⟩ => Variable.read_eq_self_iff.1 (hread.trans (congrArg Except.ok hvalue)),
      fun halike => ⟨_, Variable.read_eq_self_iff.2 halike, rfl⟩⟩
  | logFilter =>
    cases h
    exact ⟨fun ⟨value, hread, hvalue⟩ => Variable.read_eq_self_iff.1 (hread.trans (congrArg Except.ok hvalue)),
      fun halike => ⟨_, Variable.read_eq_self_iff.2 halike, rfl⟩⟩
  | logFormat =>
    simp only [Arguments.accept, Field.flag] at h
    split at h
    · next format hformat =>
      cases h
      have hread := Variable.read_of_format hformat
      have hlower := LogFormat.lower_of_ofText? hformat
      show _ ↔ text.toList.map Char.toLower = text.toList
      rw [hlower, String.toList_inj]
      constructor
      · rintro ⟨value, hvalue, htakes⟩
        rw [hread] at hvalue
        cases hvalue
        rcases htakes with htext | ⟨inner, htable, -⟩
        · exact (Value.text.inj htext).symm
        · cases htable
      · intro hname
        exact ⟨_, hread, Or.inl (congrArg Value.text hname.symm)⟩
    · cases h
  | verbose => cases h
  | bufferCapacity =>
    simp only [Arguments.accept, Field.flag] at h
    split at h
    · next capacity hcapacity =>
      cases h
      refine iff_of_true ⟨_, Variable.read_of_natural hcapacity, ?_⟩ trivial
      show Value.integer _ = .integer ((UInt64.ofNat capacity).toNat : Int)
      rw [UInt64.toNat_ofNat_of_lt' (Natural.read_lt hcapacity)]
    · cases h

/-! ## The same text twice -/

/-- **A flag's text in a variable.** Where nothing else is said, a flag is loaded as what it says; and its text in
    the variable of the same setting is loaded as the same settings just if it is alike. -/
theorem load_exported_iff {tree : FileTree} {before after : Environment} (quiet : Quiet tree (before ++ after))
    {field : Field} {name text : String} (hname : Environment.path? name = some [field.key])
    {words : List String} {arguments : Arguments} (hread : Arguments.read words = .ok arguments)
    (haccept : ({} : Arguments).accept field.flag text = .ok arguments) :
    let flagged : Sources := { tree, environment := before ++ after, arguments := words }
    let exported : Sources := { tree, environment := before ++ (name, text) :: after }
    load flagged = .ok arguments.settings ∧ (load exported = load flagged ↔ Alike field text) := by
  intro flagged exported
  have halone := Arguments.suppliesAlone_of_accept haccept
  have hflagged : load flagged = .ok arguments.settings := quiet.load_flag hread halone.unasked
  refine ⟨hflagged, ?_⟩
  rw [hflagged, quiet.load_variable_iff hname halone.takesText halone.plain, exists_takes_iff haccept]
  intro other hother
  rw [Arguments.toValue_settings, halone.elsewhere other hother]
  rfl

/-- A filter of one word means the same in its variable as behind its flag. -/
theorem load_exported_word :
    let sources : Sources := { arguments := ["--log-filter", "debug"] }
    Quiet {} [] ∧ Environment.path? "RESMGR_LOG_FILTER" = some [Field.logFilter.key] ∧
      Arguments.read sources.arguments = .ok { logFilter := some "debug" } ∧
      ({} : Arguments).accept Field.logFilter.flag "debug" = .ok { logFilter := some "debug" } ∧
      load { environment := [("RESMGR_LOG_FILTER", "debug")] } = load sources := by
  intro sources
  have hquiet : Quiet {} [] := ⟨File.discover_nothing (by decide +kernel), nofun⟩
  have hname : Environment.path? "RESMGR_LOG_FILTER" = some [Field.logFilter.key] := by decide +kernel
  have hread : Arguments.read sources.arguments = .ok { logFilter := some "debug" } := by decide +kernel
  have halike : Alike .logFilter "debug" := Variable.read_eq_self_iff.1 rfl
  obtain ⟨-, hsame⟩ := @load_exported_iff {} [] [] hquiet _ _ "debug" hname _ _ hread rfl
  exact ⟨hquiet, hname, hread, rfl, hsame.2 halike⟩

/-- A filter of two directives is no filter in its variable, and a format in capitals is no format there. -/
theorem load_exported_differs :
    load { arguments := ["--log-filter", "info,resmgrd=debug"] } = .ok { logFilter := "info,resmgrd=debug" } ∧
      load { environment := [("RESMGR_LOG_FILTER", "info,resmgrd=debug")] }
        = .error (.single (.merge (.type .sequence textExpected))) ∧
      load { arguments := ["--log-format", "JSON"] } = .ok { logFormat := .json } ∧
      load { environment := [("RESMGR_LOG_FORMAT", "JSON")] }
        = .error (.single (.merge (.unknownVariant "JSON" LogFormat.expected))) := by
  have hquiet : Quiet {} [] := ⟨File.discover_nothing (by decide +kernel), nofun⟩
  have hfilter : Arguments.read ["--log-filter", "info,resmgrd=debug"]
      = .ok { logFilter := some "info,resmgrd=debug" } := by
    decide +kernel
  have hformat : Arguments.read ["--log-format", "JSON"] = .ok { logFormat := some .json } := by
    decide +kernel
  have hlist := @Quiet.reads_variable {} [] [] .logFilter "RESMGR_LOG_FILTER" "info,resmgrd=debug" hquiet
    (by decide +kernel) (.list [.text "info", .text "resmgrd=debug"]) rfl
  have hcapitals := @Quiet.reads_variable {} [] [] .logFormat "RESMGR_LOG_FORMAT" "JSON" hquiet (by decide +kernel)
    (.text "JSON") rfl
  exact ⟨hquiet.load_flag hfilter rfl, hlist.load, hquiet.load_flag hformat rfl, hcapitals.load⟩

end Settings

end DeviceBroker
