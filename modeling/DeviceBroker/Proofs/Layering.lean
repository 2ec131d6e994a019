import DeviceBroker.Proofs.Typed
import DeviceBroker.Proofs.Walking
import DeviceBroker.Settings.Loading

/-!
# `Proofs.Layering` — which value of a setting counts

Settings come from a file, from variables and from the command line, and each source may say something about
each setting or nothing. The settings are read from one merged table. Here they are told setting by setting,
without that table: of every setting the value of the highest source counts, and what lies below it is not
looked at, whatever it is.

There are two exceptions. A command line always says whether records are wanted in detail, so nothing below it
is ever heard about that. And a table in a variable lies over a table in the file entry by entry, which can be
seen where a setting may be a table.

## Contents

* `Arguments.supplied?`, `Settings.Said` — what each source says; `Said.highest`, `Said.counting` — **the value that
  counts**; `Said.takes_counting_iff` — it is that of the highest source, but for a table over a table.
* `Settings.Reads`, `Reads.lookup?_merged` — the merged table, setting by setting.
* `Said.AgreeOn` — two that agree as far down as is looked.
* `Settings.Resolves`, `load_resolves` — the value that counts decides, and nothing else does.
* `verbose_is_masked` — a variable that is not heard.
-/

namespace DeviceBroker

namespace Settings

/-! ## What the sources say -/

/-- **What a command line supplies.** A flag that is not given supplies nothing. -/
def Arguments.supplied? (arguments : Arguments) : Field → Option Value
  | .socketPath => arguments.socketPath.map .text
  | .logFilter => arguments.logFilter.map .text
  | .logFormat => arguments.logFormat.map (.text ·.name)
  | .verbose => if arguments.verbose then some (.bool true) else none
  | .bufferCapacity => arguments.bufferCapacity.map (.integer ·.toNat)

/-- **What the sources say.** -/
structure Said where
  file : Value.Entries := []
  environment : Value.Entries := []
  arguments : Arguments := {}

namespace Said

/-- What the file says about a setting. -/
def inFile? (said : Said) (field : Field) : Option Value :=
  Value.lookup? said.file field.key

/-- What the variables say about a setting. -/
def inEnvironment? (said : Said) (field : Field) : Option Value :=
  Value.lookup? said.environment field.key

/-- **The value of the highest source** that supplies a setting, or the default. -/
def highest (said : Said) (field : Field) : Value :=
  ((said.arguments.supplied? field).or ((said.inEnvironment? field).or (said.inFile? field))).getD
    (default.toValue field)

/-- **The value that counts**: that of the highest source, but a table in a variable lies over one in the
    file. -/
def counting (said : Said) (field : Field) : Value :=
  match said.arguments.supplied? field, said.inEnvironment? field, said.inFile? field with
  | none, some value, some below => Value.overlay below value
  | _, _, _ => said.highest field

/-- **A table over a table**: a variable has a table for a setting, the file has one too, and no flag is given. -/
def Overlaid (said : Said) (field : Field) : Prop :=
  said.arguments.supplied? field = none ∧ ∃ value below, said.inEnvironment? field = some value ∧
    said.inFile? field = some below ∧ value.isTable = true ∧ below.isTable = true

/-- The highest value is the one that counts, unless it is a table over another one. -/
theorem counting_eq_highest {said : Said} {field : Field} (h : ¬said.Overlaid field) :
    said.counting field = said.highest field := by
  unfold counting highest
  cases hsupplied : said.arguments.supplied? field with
  | some value => rfl
  | none =>
    cases henvironment : said.inEnvironment? field with
    | none => rfl
    | some value =>
      cases hfile : said.inFile? field with
      | none => rfl
      | some below =>
        refine Value.overlay_of_not_tables fun ⟨hvalue, hbelow⟩ => ?_
        exact h ⟨hsupplied, value, below, henvironment, hfile, hvalue, hbelow⟩

/-- A table over a table counts as a table. -/
theorem Overlaid.isTable {said : Said} {field : Field} (h : said.Overlaid field) :
    (said.counting field).isTable = true ∧ (said.highest field).isTable = true := by
  obtain ⟨hsupplied, value, below, henvironment, hfile, hvalue, -⟩ := h
  unfold counting highest
  rw [hsupplied, henvironment, hfile]
  exact ⟨Value.isTable_overlay hvalue below, hvalue⟩

/-- **The highest value decides**, unless it is a table for the format over another one: elsewhere a table is
    wrong whatever it lies over. -/
theorem takes_counting_iff {said : Said} {field : Field} (h : field = .logFormat → ¬said.Overlaid field)
    (settings : Settings) :
    settings.Takes field (said.counting field) ↔ settings.Takes field (said.highest field) := by
  by_cases hoverlaid : said.Overlaid field
  · have hfield : field ≠ .logFormat := fun hformat => h hformat hoverlaid
    exact iff_of_false (not_takes_of_isTable hfield hoverlaid.isTable.1)
      (not_takes_of_isTable hfield hoverlaid.isTable.2)
  · rw [counting_eq_highest hoverlaid]

end Said

/-- **Sources that can all be read**, and what they say. -/
structure Reads (sources : Sources) (said : Said) : Prop where
  parsed : Arguments.read sources.arguments = .ok said.arguments
  exported : sources.environment.toEntries = .ok said.environment
  found : ∃ found, File.discover sources.tree sources.environment said.arguments.configPath = { entries := found } ∧
    said.file = found.getD []

theorem isTable_toValue (settings : Settings) (field : Field) : (settings.toValue field).isTable = false := by
  cases field <;> rfl

/-- A command line supplies no tables. -/
theorem Arguments.isTable_supplied? {arguments : Arguments} {field : Field} {value : Value}
    (h : arguments.supplied? field = some value) : value.isTable = false := by
  cases field with
  | socketPath =>
    obtain ⟨text, -, rfl⟩ := Option.map_eq_some_iff.1 h
    rfl
  | logFilter =>
    obtain ⟨text, -, rfl⟩ := Option.map_eq_some_iff.1 h
    rfl
  | logFormat =>
    obtain ⟨format, -, rfl⟩ := Option.map_eq_some_iff.1 h
    rfl
  | verbose =>
    rw [supplied?] at h
    split at h
    · cases h
      rfl
    · cases h
  | bufferCapacity =>
    obtain ⟨capacity, -, rfl⟩ := Option.map_eq_some_iff.1 h
    rfl

theorem lookup?_append (a b : Value.Entries) (key : String) :
    Value.lookup? (a ++ b) key = (Value.lookup? a key).or (Value.lookup? b key) := by
  unfold Value.lookup?
  rw [List.find?_append]
  cases a.find? (·.1 == key) <;> rfl

/-- An entry that may be there. -/
theorem lookup?_toList (name : String) (value? : Option Value) (key : String) :
    Value.lookup? (value?.map fun value => (name, value)).toList key = if name = key then value? else none := by
  cases value? with
  | none => simp
  | some value => exact Value.lookup?_cons name value [] key

/-- What a command line has in its table: what it supplies, and in every case whether records are wanted in
    detail. -/
theorem Arguments.lookup?_toEntries (arguments : Arguments) (field : Field) :
    Value.lookup? arguments.toEntries field.key
      = if field = .verbose then some (.bool arguments.verbose) else arguments.supplied? field := by
  simp only [toEntries, lookup?_append, lookup?_toList]
  cases field <;> simp [Field.key, supplied?]

theorem keys_toList (name : String) (value? : Option Value) :
    ((value?.map fun value => (name, value)).toList.map Prod.fst).Sublist [name] := by
  cases value? with
  | none => exact List.nil_sublist _
  | some value => exact List.Sublist.refl _

theorem Arguments.distinct_toEntries (arguments : Arguments) : DistinctKeys arguments.toEntries := by
  have hkeys : (arguments.toEntries.map Prod.fst).Sublist (Field.all.map Field.key) := by
    simp only [toEntries, List.map_append]
    exact ((((keys_toList _ _).append (keys_toList _ _)).append (keys_toList _ _)).append
      (keys_toList _ _)).append (keys_toList _ _)
  exact List.Nodup.sublist hkeys (by decide)

theorem lookup?_default (field : Field) :
    Value.lookup? default.toEntries field.key = some (default.toValue field) := by
  cases field <;> rfl

/-! ## The merged table -/

section Reads

variable {sources : Sources} {said : Said}

theorem Reads.distinct_file (h : Reads sources said) : DistinctKeys said.file := by
  obtain ⟨found, hfound, hfile⟩ := h.found
  rw [hfile]
  cases found with
  | none => exact distinctKeys_nil
  | some entries =>
    have hentries := congrArg File.Discovery.entries hfound
    exact File.distinct_discover hentries

/-- The layers of what was said. -/
def Said.layers (said : Said) : Layers :=
  { file := said.file, environment := said.environment, arguments := said.arguments.toEntries }

/-- **What can be read is loaded** from one table, and an error is that of this table. -/
theorem Reads.load (h : Reads sources said) :
    load sources = (ofEntries said.layers.merged).mapError fun mismatch => .single (.merge mismatch) := by
  obtain ⟨found, hfound, hfile⟩ := h.found
  unfold Settings.load gather ofLayers Said.layers
  simp only [h.exported, h.parsed, hfound, hfile]
  generalize Layers.merged _ = merged
  cases ofEntries merged <;> rfl

/-- A value lies over the default as it is: the default is no table. -/
theorem overlay_default (field : Field) (value : Value) :
    Value.overlay (default.toValue field) value = value := by
  apply Value.overlay_of_not_tables
  simp [isTable_toValue]

/-- **What a setting's name stands for** in the merged table: the value that counts, but whether records are
    wanted in detail is what the command line says. -/
theorem Reads.lookup?_merged (h : Reads sources said) (field : Field) :
    Value.lookup? said.layers.merged field.key
      = some (if field = .verbose then .bool said.arguments.verbose else said.counting field) := by
  unfold Layers.merged Said.layers
  rw [Value.lookup?_overlayEntries said.arguments.distinct_toEntries,
    Value.lookup?_overlayEntries (Environment.distinct_toEntries h.exported),
    Value.lookup?_overlayEntries h.distinct_file, lookup?_default, Arguments.lookup?_toEntries]
  by_cases hverbose : field = .verbose
  · -- the command line always has this entry, so it does not matter what lies below
    rw [if_pos hverbose, if_pos hverbose]
    exact Value.laid_plain rfl _
  · rw [if_neg hverbose, if_neg hverbose]
    unfold Said.counting Said.highest Said.inEnvironment? Said.inFile?
    cases hsupplied : said.arguments.supplied? field with
    | some value => exact Value.laid_plain (Arguments.isTable_supplied? hsupplied) _
    | none =>
      cases Value.lookup? said.environment field.key with
      | some value =>
        cases Value.lookup? said.file field.key with
        | some below => simp only [Value.laid, overlay_default]
        | none => simp [Value.laid, overlay_default]
      | none =>
        cases Value.lookup? said.file field.key with
        | some value => simp [Value.laid, overlay_default]
        | none => rfl

end Reads

/-! ## Nothing else is looked at -/

/-- **Two that agree as far down as is looked** for a setting: on the command line; if that supplies nothing, on
    the variables; and if these supply nothing either, or a table for the format, on the file. -/
structure Said.AgreeOn (a b : Said) (field : Field) : Prop where
  supplied : a.arguments.supplied? field = b.arguments.supplied? field
  inEnvironment : a.arguments.supplied? field = none → a.inEnvironment? field = b.inEnvironment? field
  inFile : a.arguments.supplied? field = none →
    (∀ value, a.inEnvironment? field = some value → field = .logFormat ∧ value.isTable = true) →
    a.inFile? field = b.inFile? field

/-- What counts for two that agree is read alike. -/
theorem Said.AgreeOn.readAlike {a b : Said} {field : Field} (h : a.AgreeOn b field) :
    ReadAlike field (a.counting field) (b.counting field) := by
  unfold Said.counting Said.highest
  rw [← h.supplied]
  cases hsupplied : a.arguments.supplied? field with
  | some value => exact Or.inl rfl
  | none =>
    rw [← h.inEnvironment hsupplied]
    have hfile := h.inFile hsupplied
    cases henvironment : a.inEnvironment? field with
    | none =>
      rw [hfile]
      · exact Or.inl rfl
      · intro value hvalue
        rw [henvironment] at hvalue
        cases hvalue
    | some value =>
      cases htable : value.isTable with
      | false =>
        -- a value that is no table is all that counts, whatever is below it
        refine Or.inl ?_
        cases a.inFile? field <;> cases b.inFile? field <;> simp [Value.overlay_plain htable]
      | true =>
        by_cases hformat : field = .logFormat
        · rw [hfile]
          · exact Or.inl rfl
          · intro other hother
            rw [henvironment] at hother
            cases hother
            exact ⟨hformat, htable⟩
        · -- a table is wrong here, whichever tables it lies over
          refine Or.inr ⟨hformat, ?_, ?_⟩
          · cases a.inFile? field <;> simp [htable, Value.isTable_overlay htable]
          · cases b.inFile? field <;> simp [htable, Value.isTable_overlay htable]

/-! ## Loading -/

/-- **Settings are resolved one by one** from what was said. -/
structure Resolves (said : Said) (result : Except LoadError Settings) : Prop where
  /-- They are loaded just if all values that count are right, and then they are these values; whether records
      are wanted in detail is up to the command line alone. -/
  settles : ∀ settings, result = .ok settings ↔
    settings.verbose = said.arguments.verbose ∧
      ∀ field, field ≠ .verbose → settings.Takes field (said.counting field)
  succeeds : (∃ settings, result = .ok settings) ↔
    ∀ field, field ≠ .verbose → WellTyped field (said.counting field)
  /-- What counts is the value of the highest source, but for a format that is a table over another one. -/
  highest : ∀ field, (field = .logFormat → ¬said.Overlaid field) → ∀ settings : Settings,
    settings.Takes field (said.counting field) ↔ settings.Takes field (said.highest field)
  /-- A setting of which nobody speaks has its default. -/
  unsaid : ∀ settings, result = .ok settings → ∀ field, field ≠ .verbose →
    said.arguments.supplied? field = none → said.inEnvironment? field = none → said.inFile? field = none →
    settings.toValue field = default.toValue field

/-- Values of the right types are those of some settings, whatever these say about the details. -/
theorem exists_takes {values : Field → Value} (h : ∀ field, field ≠ .verbose → WellTyped field (values field))
    (verbose : Bool) :
    ∃ settings : Settings, settings.verbose = verbose ∧
      ∀ field, field ≠ .verbose → settings.Takes field (values field) := by
  obtain ⟨path, hpath⟩ := h .socketPath (by decide)
  obtain ⟨filter, hfilter⟩ := h .logFilter (by decide)
  obtain ⟨format, hformat⟩ := h .logFormat (by decide)
  obtain ⟨capacity, hcapacity⟩ := h .bufferCapacity (by decide)
  refine ⟨⟨path.socketPath, filter.logFilter, format.logFormat, verbose, capacity.bufferCapacity⟩, rfl, ?_⟩
  intro field hfield
  cases field with
  | socketPath => exact hpath
  | logFilter => exact hfilter
  | logFormat => exact hformat
  | verbose => exact absurd rfl hfield
  | bufferCapacity => exact hcapacity

theorem mapError_eq_ok_iff {ε ε' α : Type} {f : ε → ε'} {result : Except ε α} {a : α} :
    result.mapError f = .ok a ↔ result = .ok a := by
  cases result <;> simp [Except.mapError]

/-- **Settings that are loaded** have the values that count, and say of the details what the command line says. -/
theorem Reads.load_eq_ok_iff {sources : Sources} {said : Said} (h : Reads sources said) {settings : Settings} :
    Settings.load sources = .ok settings ↔ settings.verbose = said.arguments.verbose ∧
      ∀ field, field ≠ .verbose → settings.Takes field (said.counting field) := by
  rw [h.load, mapError_eq_ok_iff, ofEntries_eq_ok_iff h.lookup?_merged]
  constructor
  · intro htakes
    constructor
    · have hverbose := htakes .verbose
      rw [if_pos rfl] at hverbose
      exact (Value.bool.inj hverbose).symm
    · intro field hfield
      have hvalue := htakes field
      rwa [if_neg hfield] at hvalue
  · rintro ⟨hverbose, hothers⟩ field
    by_cases hfield : field = .verbose
    · subst hfield
      rw [if_pos rfl, ← hverbose]
      rfl
    · rw [if_neg hfield]
      exact hothers field hfield

/-- **The value that counts decides**, setting by setting: loading succeeds just if these values are right, and
    the settings are these values. Nothing else that any source says makes a difference, not even to an
    error. -/
theorem load_resolves {sources : Sources} {said : Said} (h : Reads sources said) :
    Resolves said (load sources) ∧
      ∀ (others : Sources) (told : Said), Reads others told →
        told.arguments.verbose = said.arguments.verbose →
        (∀ field, field ≠ .verbose → said.AgreeOn told field) → load others = load sources := by
  refine ⟨⟨fun settings => h.load_eq_ok_iff, ?_, fun field hfield => Said.takes_counting_iff hfield, ?_⟩, ?_⟩
  · constructor
    · rintro ⟨settings, hload⟩ field hfield
      exact ⟨settings, (h.load_eq_ok_iff.1 hload).2 field hfield⟩
    · intro hall
      obtain ⟨settings, hsettings⟩ := exists_takes hall said.arguments.verbose
      exact ⟨settings, h.load_eq_ok_iff.2 hsettings⟩
  · -- where no source says anything, the default is what counts
    intro settings hload field hfield hsupplied henvironment hfile
    have htakes := (h.load_eq_ok_iff.1 hload).2 field hfield
    have hcounting : said.counting field = default.toValue field := by
      simp [Said.counting, Said.highest, hsupplied, henvironment, hfile]
    rw [hcounting] at htakes
    exact toValue_of_takes htakes
  · intro others told htold hverbose hagree
    rw [h.load, htold.load, ofEntries_congr htold.lookup?_merged h.lookup?_merged]
    intro field
    by_cases hfield : field = .verbose
    · rw [if_pos hfield, if_pos hfield, hverbose]
      exact Or.inl rfl
    · rw [if_neg hfield, if_neg hfield]
      rcases (hagree field hfield).readAlike with heq | ⟨hformat, hsaid, hother⟩
      · exact Or.inl heq.symm
      · exact Or.inr ⟨hformat, hother, hsaid⟩

/-! ## Files in the root -/

/-- A name in the root is looked up there. -/
theorem File.lookUp_in_root (tree : FileTree) {path name : String} (hdirectory : directoryOf path = "/") :
    lookUp tree path name = tree.beneath [] name := by
  unfold lookUp
  rw [hdirectory, FileTree.locate_root]
  rfl

/-- A file in the root that is built on no other one is used as it is. -/
theorem File.discover_in_root {tree : FileTree} {path name : String} {contents : Bytes} {entries : Value.Entries}
    (hname : Path.fileName? path = some name) (hdirectory : directoryOf path = "/")
    (hbeneath : tree.beneath [] name = .ok (.file contents))
    (hlocate : tree.locate path = .ok ([name], .file contents))
    (hcontents : ofContents ⟨FileTree.render [name], contents⟩ = .ok entries)
    (hbase : Value.lookup? entries extendsKey = none) (environment : Environment) :
    discover tree environment (some path) = { entries := some entries } := by
  have hopen : openAt tree path = .ok (some ⟨FileTree.render [name], contents⟩) := by
    unfold openAt
    simp only [hname, lookUp_in_root tree hdirectory, hbeneath, hlocate]
  have hload : load? tree path = .ok (some entries) := by
    unfold load?
    simp only [hopen, build, List.contains_nil, Bool.false_eq_true, if_false, hcontents, basePath?,
      hbase]
  simp only [discover, required, hload]

/-- A file, variables and flags that speak of the same settings; a value of the file and one of the variables
    are not even of the right type. Other variables in their place make no difference. -/
theorem load_resolves_mixed :
    let text := "log_filter = \"debug\"\nlog_format = \"neither\"\n"
    let tree : FileTree := { entries := [(["c.toml"], .file (Bytes.ofString text))] }
    let arguments := ["--config-path", "/c.toml", "-b", "8"]
    let sources : Sources :=
      { tree, arguments, environment := [("RESMGR_LOG_FORMAT", "json"), ("RESMGR_BUFFER_CAPACITY", "many")] }
    let others : Sources :=
      { tree, arguments, environment := [("RESMGR_LOG_FORMAT", "json"), ("RESMGR_VERBOSE", "maybe")] }
    let said : Said :=
      { file := [("log_filter", .text "debug"), ("log_format", .text "neither")],
        environment := [("log_format", .text "json"), ("buffer_capacity", .text "many")],
        arguments := { bufferCapacity := some 8, configPath := some "/c.toml" } }
    Reads sources said ∧
      load sources = .ok { logFilter := "debug", logFormat := .json, bufferCapacity := 8 } ∧
      load others = load sources := by
  intro text tree arguments sources others said
  let told : Said := { said with environment := [("log_format", .text "json"), ("verbose", .text "maybe")] }
  have hwalk : ∀ floor, tree.walk true floor FileTree.maxLinks [] ["c.toml"]
      = .ok ⟨["c.toml"], some (.file (Bytes.ofString text))⟩ :=
    fun floor => FileTree.walk_eq_ok_iff.2
      (.down ⟨⟨_, rfl⟩, rfl, by decide, by decide⟩ rfl nofun (.arrive rfl))
  have hbeneath : tree.beneath [] "c.toml" = .ok (.file (Bytes.ofString text)) := by
    unfold FileTree.beneath
    rw [hwalk]
    rfl
  have hlocate : tree.locate "/c.toml" = .ok (["c.toml"], .file (Bytes.ofString text)) := by
    unfold FileTree.locate
    rw [FileTree.resolve_eq_ok_iff.2
      ⟨by decide, .stay rfl rfl (FileTree.walk_eq_ok_iff.1 (hwalk none))⟩]
    rfl
  have htokens : Toml.tokens? text.toList = some
      [.atom "log_filter".toList, .blank true, .symbol '=', .blank true, .text "debug" false, .newline,
       .atom "log_format".toList, .blank true, .symbol '=', .blank true, .text "neither" false, .newline] := by
    decide +kernel
  have hread : Toml.read? text.toList = some said.file := by
    unfold Toml.read?
    dsimp only
    rw [if_neg (by decide +kernel), htokens]
    rfl
  have hcontents : File.ofContents ⟨FileTree.render ["c.toml"], Bytes.ofString text⟩ = .ok said.file := by
    have hdecode : Utf8.decode? (Bytes.ofString text) = some text := by decide +kernel
    have hformat : File.unsupported? (File.formatOf (FileTree.render ["c.toml"])) = none := by decide +kernel
    unfold File.ofContents
    simp only [hdecode, hformat, hread]
  have hname : Path.fileName? "/c.toml" = some "c.toml" := by decide +kernel
  have hfound := File.discover_in_root hname (by decide +kernel) hbeneath hlocate hcontents rfl
  have hreads : Reads sources said := ⟨by decide +kernel, rfl, _, hfound _, rfl⟩
  have htold : Reads others told := ⟨by decide +kernel, rfl, _, hfound _, rfl⟩
  obtain ⟨hresolves, hsame⟩ := load_resolves hreads
  refine ⟨hreads, (hresolves.settles _).2 ⟨rfl, ?_⟩, hsame others told htold rfl ?_⟩
  · intro field hfield
    cases field with
    | socketPath => rfl
    | logFilter => rfl
    | logFormat => exact Or.inl rfl
    | verbose => exact absurd rfl hfield
    | bufferCapacity => rfl
  · intro field hfield
    cases field with
    | socketPath => exact ⟨rfl, fun _ => rfl, fun _ _ => rfl⟩
    | logFilter => exact ⟨rfl, fun _ => rfl, fun _ _ => rfl⟩
    | logFormat => exact ⟨rfl, fun _ => rfl, fun _ _ => rfl⟩
    | verbose => exact absurd rfl hfield
    | bufferCapacity => exact ⟨rfl, nofun, fun _ _ => rfl⟩

/-! ## A variable that is not heard -/

/-- Where there are no files, none is found. -/
theorem File.discover_nothing {environment : Environment}
    (h : candidates {} environment = ["/.resmgr.toml"]) : discover {} environment none = {} := by
  have hname : Path.fileName? "/.resmgr.toml" = some ".resmgr.toml" := by decide +kernel
  have hwalk : ({} : FileTree).walk true (some []) FileTree.maxLinks [] [".resmgr.toml"]
      = .ok ⟨[".resmgr.toml"], none⟩ :=
    FileTree.walk_eq_ok_iff.2 (.miss ⟨⟨_, rfl⟩, rfl, by decide, by decide⟩ rfl)
  have hbeneath : ({} : FileTree).beneath [] ".resmgr.toml" = .error FileTree.notFound := by
    unfold FileTree.beneath
    rw [hwalk]
    rfl
  have hopen : openAt {} "/.resmgr.toml" = .ok none := by
    unfold openAt
    rw [hname]
    dsimp only
    rw [lookUp_in_root {} (by decide +kernel), hbeneath]
    rfl
  unfold discover optional
  dsimp only
  rw [h, firstUsable, load?, hopen, firstUsable]
  rfl

/-- **A flag that is not given masks the variable.** The variable asks for details, no flag and no file says
    anything, and the settings that are loaded are those of nobody saying anything. -/
theorem verbose_is_masked :
    let sources : Sources := { environment := [("RESMGR_VERBOSE", "true")] }
    let said : Said := { environment := [("verbose", .bool true)] }
    Reads sources said ∧ said.highest .verbose = .bool true ∧
      (∀ field, WellTyped field (said.highest field)) ∧
      load sources = .ok default ∧ ¬default.Takes .verbose (said.highest .verbose) := by
  intro sources said
  have hreads : Reads sources said := ⟨by decide +kernel, rfl, none, File.discover_nothing (by decide +kernel), rfl⟩
  refine ⟨hreads, rfl, ?_, hreads.load_eq_ok_iff.2 ⟨rfl, ?_⟩, nofun⟩
  · intro field
    refine ⟨{ verbose := true }, ?_⟩
    cases field with
    | logFormat => exact Or.inl rfl
    | socketPath => rfl
    | logFilter => rfl
    | verbose => rfl
    | bufferCapacity => rfl
  · intro field hfield
    cases field with
    | logFormat => exact Or.inl rfl
    | socketPath => rfl
    | logFilter => rfl
    | verbose => exact absurd rfl hfield
    | bufferCapacity => rfl

end Settings

end DeviceBroker
