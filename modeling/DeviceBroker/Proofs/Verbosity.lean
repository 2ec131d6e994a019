import DeviceBroker.Proofs.Layering

/-!
# `Proofs.Verbosity` — which filter a daemon goes by

A daemon that is asked for details raises its own records, but only if the operator keeps the filter used by
default. Which source a filter came from is forgotten when the settings are loaded, so it is told from its text
alone whether the operator chose one. Every choice is respected but one: who asks for details and gives the very
text that is used by default is taken for somebody who gave none.

## Contents

* `exists_reads_of_load` — settings that are loaded come from sources that can all be read.
* `Said.uppermost?` — what the highest source says about a setting, if any source speaks of it.
* `SettlesFilter`, `load_settles_filter` — **the filter in effect**, from what the sources say.
* `default_filter_yields` — a filter that was given and is not in effect.
-/

namespace DeviceBroker

namespace Settings

/-! ## Sources of settings that are loaded -/

theorem LoadError.ofFaults?_eq_none_iff {faults : List LoadFault} :
    LoadError.ofFaults? faults = none ↔ faults = [] := by
  unfold LoadError.ofFaults?
  split
  · simp
  · simp
  · next hsome _ => exact iff_of_false (by simp) hsome

/-- Where there are settings nothing was wrong before. -/
theorem faults_of_ofLayers {layers : Layers} {faults : List LoadFault} {settings : Settings}
    (h : ofLayers layers faults = .ok settings) : faults = [] := by
  unfold ofLayers at h
  split at h
  · split at h
    · next hnone => exact LoadError.ofFaults?_eq_none_iff.1 hnone
    · cases h
  · split at h <;> cases h

/-- **Settings that are loaded** come from sources that can all be read. -/
theorem exists_reads_of_load {sources : Sources} {settings : Settings} (h : load sources = .ok settings) :
    ∃ said, Reads sources said := by
  unfold load at h
  split at h
  · cases h
  · next environment hexported =>
    unfold gather at h
    cases hparsed : Arguments.read sources.arguments with
    | error error =>
      rw [hparsed] at h
      cases faults_of_ofLayers h
    | ok arguments =>
      rw [hparsed] at h
      have hfaults : (File.discover sources.tree sources.environment arguments.configPath).faults = [] :=
        faults_of_ofLayers h
      have hfound : File.discover sources.tree sources.environment arguments.configPath
          = { entries := (File.discover sources.tree sources.environment arguments.configPath).entries } := by
        rw [← hfaults]
      exact ⟨{ file := _, environment, arguments }, hparsed, hexported, _, hfound, rfl⟩

/-! ## The highest source that speaks -/

/-- **What the highest source says** about a setting, if any source speaks of it. -/
def Said.uppermost? (said : Said) (field : Field) : Option Value :=
  (said.arguments.supplied? field).or ((said.inEnvironment? field).or (said.inFile? field))

section Reads

variable {sources : Sources} {said : Said} {settings : Settings}

/-- **The filter of settings that are loaded** is that of the highest source, or the default. -/
theorem Reads.logFilter_eq (h : Reads sources said) (hload : Settings.load sources = .ok settings) :
    (said.uppermost? .logFilter).getD (default.toValue .logFilter) = .text settings.logFilter := by
  have hcounting := (h.load_eq_ok_iff.1 hload).2 .logFilter (by decide)
  rwa [Said.takes_counting_iff (by simp)] at hcounting

/-- What two loads with the same highest filter have in common. -/
theorem Reads.logFilter_congr (h : Reads sources said) (hload : Settings.load sources = .ok settings)
    {others : Sources} {told : Said} {other : Settings} (hothers : Reads others told)
    (hother : Settings.load others = .ok other)
    (hsame : told.uppermost? .logFilter = said.uppermost? .logFilter) : other.logFilter = settings.logFilter := by
  have hfilter := hothers.logFilter_eq hother
  rw [hsame, h.logFilter_eq hload] at hfilter
  exact (Value.text.inj hfilter).symm

end Reads

/-! ## The filter in effect -/

theorem verboseFilter_ne : verboseFilter ≠ defaultLogFilter := by decide

/-- **A filter is in effect** unless details are wanted and it is the text used by default. -/
theorem effectiveFilter_eq_iff (settings : Settings) :
    settings.effectiveFilter = settings.logFilter
      ↔ ¬(settings.verbose = true ∧ settings.logFilter = defaultLogFilter) := by
  unfold effectiveFilter
  split
  · next hyields =>
    rw [hyields.2]
    exact iff_of_false verboseFilter_ne fun hnot => hnot ⟨hyields.1, rfl⟩
  · next hstays => exact iff_of_true rfl hstays

/-- With the filter used by default it is up to the details which one is in effect. -/
theorem effectiveFilter_of_default {settings : Settings} (h : settings.logFilter = defaultLogFilter) :
    settings.effectiveFilter = if settings.verbose = true then verboseFilter else defaultLogFilter := by
  simp [effectiveFilter, h]

/-- **The details matter** where the filter is the one used by default, and nowhere else. -/
theorem effectiveFilter_eq_effectiveFilter_iff {settings other : Settings} (h : other.logFilter = settings.logFilter) :
    other.effectiveFilter = settings.effectiveFilter
      ↔ other.verbose = settings.verbose ∨ settings.logFilter ≠ defaultLogFilter := by
  by_cases hdefault : settings.logFilter = defaultLogFilter
  · rw [effectiveFilter_of_default hdefault, effectiveFilter_of_default (h.trans hdefault)]
    have hne := verboseFilter_ne
    cases settings.verbose <;> cases other.verbose <;> simp [hdefault, hne, hne.symm]
  · refine iff_of_true ?_ (Or.inr hdefault)
    rw [(effectiveFilter_eq_iff settings).2 fun hyields => hdefault hyields.2,
      (effectiveFilter_eq_iff other).2 fun hyields => hdefault (h.symm.trans hyields.2), h]

/-- **The filter in effect is settled** by the highest source that has one and by the command line. -/
structure SettlesFilter (said : Said) (settings : Settings) : Prop where
  /-- Whether records are wanted in detail is up to the command line alone. -/
  verbose : settings.verbose = said.arguments.verbose
  /-- The filter of the highest source is in effect, whatever its text is and whether or not details are wanted,
      unless they are and it is the text used by default. -/
  supplied : ∀ value, said.uppermost? .logFilter = some value →
    ∃ filter, value = .text filter ∧ settings.logFilter = filter ∧
      (settings.effectiveFilter = filter ↔ ¬(settings.verbose = true ∧ filter = defaultLogFilter))
  /-- Where it is not in effect, the filter for details is. -/
  yields : settings.verbose = true → said.uppermost? .logFilter = some (.text defaultLogFilter) →
    settings.effectiveFilter = verboseFilter
  /-- Where no source has a filter, it is up to the details. -/
  unsupplied : said.uppermost? .logFilter = none →
    settings.logFilter = defaultLogFilter ∧
      (settings.effectiveFilter = verboseFilter ↔ settings.verbose = true) ∧
      (settings.effectiveFilter = defaultLogFilter ↔ settings.verbose = false)
  /-- Other sources with the same highest filter, whatever else they say, make a difference only if they differ in
      whether details are wanted, and no filter but the text used by default is given. -/
  otherwise : ∀ (others : Sources) (told : Said) (other : Settings), Reads others told → load others = .ok other →
    told.uppermost? .logFilter = said.uppermost? .logFilter →
    (other.effectiveFilter = settings.effectiveFilter ↔ other.verbose = settings.verbose ∨
      ∃ filter, said.uppermost? .logFilter = some (.text filter) ∧ filter ≠ defaultLogFilter)

/-- **Loading settles the filter.** Whatever the sources are, if settings are loaded from them, then the sources
    can be read, and the filter in effect is the one that the highest of them has. Only the text used by default
    yields to a wish for details. -/
theorem load_settles_filter {sources : Sources} {settings : Settings} (h : load sources = .ok settings) :
    (∃ said, Reads sources said) ∧ ∀ said, Reads sources said → SettlesFilter said settings := by
  refine ⟨exists_reads_of_load h, fun said hreads => ?_⟩
  have hfilter := hreads.logFilter_eq h
  refine ⟨(hreads.load_eq_ok_iff.1 h).1, ?_, ?_, ?_, ?_⟩
  · intro value hvalue
    rw [hvalue, Option.getD_some] at hfilter
    exact ⟨settings.logFilter, hfilter, rfl, effectiveFilter_eq_iff settings⟩
  · intro hverbose hvalue
    rw [hvalue, Option.getD_some] at hfilter
    rw [effectiveFilter_of_default (Value.text.inj hfilter).symm, if_pos hverbose]
  · intro hnone
    rw [hnone, Option.getD_none] at hfilter
    have hdefault : settings.logFilter = defaultLogFilter := (Value.text.inj hfilter).symm
    have hne := verboseFilter_ne
    refine ⟨hdefault, ?_⟩
    rw [effectiveFilter_of_default hdefault]
    cases settings.verbose <;> simp [hne, hne.symm]
  · intro others told other htold hother hsame
    rw [effectiveFilter_eq_effectiveFilter_iff (hreads.logFilter_congr h htold hother hsame)]
    -- a filter that is not the default was given by some source
    apply or_congr_right
    constructor
    · intro hchosen
      refine ⟨settings.logFilter, ?_, hchosen⟩
      cases hvalue : said.uppermost? .logFilter with
      | some value =>
        rw [hvalue, Option.getD_some] at hfilter
        rw [hfilter]
      | none =>
        rw [hvalue, Option.getD_none] at hfilter
        exact absurd (Value.text.inj hfilter).symm hchosen
    · rintro ⟨filter, hvalue, hchosen⟩
      rw [hvalue, Option.getD_some] at hfilter
      rwa [← Value.text.inj hfilter]

/-! ## A filter that is given -/

/-- **Settings with the values that count** are loaded, one value after the other. -/
theorem Reads.load_eq_of_counting {sources : Sources} {said : Said} {settings : Settings} (h : Reads sources said)
    (hverbose : settings.verbose = said.arguments.verbose)
    (hpath : said.counting .socketPath = settings.toValue .socketPath)
    (hfilter : said.counting .logFilter = settings.toValue .logFilter)
    (hformat : said.counting .logFormat = settings.toValue .logFormat)
    (hcapacity : said.counting .bufferCapacity = settings.toValue .bufferCapacity) :
    Settings.load sources = .ok settings := by
  refine h.load_eq_ok_iff.2 ⟨hverbose, fun field hfield => ?_⟩
  cases field with
  | socketPath => exact hpath
  | logFilter => exact hfilter
  | logFormat => exact Or.inl hformat
  | verbose => exact absurd rfl hfield
  | bufferCapacity => exact hcapacity

/-- A command line without files: what it and the variables say. -/
theorem reads_without_files {sources : Sources} {arguments : Arguments} {environment : Value.Entries}
    (htree : sources.tree = {}) (hparsed : Arguments.read sources.arguments = .ok arguments)
    (hconfig : arguments.configPath = none) (hexported : sources.environment.toEntries = .ok environment)
    (hcandidates : File.candidates {} sources.environment = ["/.resmgr.toml"]) :
    Reads sources { environment, arguments } := by
  refine ⟨hparsed, hexported, none, ?_, rfl⟩
  rw [htree, hconfig]
  exact File.discover_nothing hcandidates

/-- A flag over a variable, with details wanted by both: the filter of the flag is in effect, and without the wish
    it would be as well. -/
theorem load_settles_filter_chosen :
    let environment : Environment := [("RESMGR_LOG_FILTER", "info"), ("RESMGR_VERBOSE", "true")]
    let sources : Sources := { environment, arguments := ["-v", "-l", "resmgrd=trace"] }
    let others : Sources := { environment, arguments := ["-l", "resmgrd=trace"] }
    let settings : Settings := { logFilter := "resmgrd=trace", verbose := true }
    let other : Settings := { logFilter := "resmgrd=trace" }
    load sources = .ok settings ∧ load others = .ok other ∧ settings.effectiveFilter = "resmgrd=trace" ∧
      other.effectiveFilter = settings.effectiveFilter := by
  intro environment sources others settings other
  let said : Said :=
    { environment := [("log_filter", .text "info"), ("verbose", .bool true)],
      arguments := { verbose := true, logFilter := some "resmgrd=trace" } }
  let told : Said := { said with arguments := { logFilter := some "resmgrd=trace" } }
  have hsaid : Reads sources said :=
    reads_without_files rfl (by decide +kernel) rfl rfl (by decide +kernel)
  have htold : Reads others told :=
    reads_without_files rfl (by decide +kernel) rfl rfl (by decide +kernel)
  have hload : load sources = .ok settings := hsaid.load_eq_of_counting rfl rfl rfl rfl rfl
  have hother : load others = .ok other := htold.load_eq_of_counting rfl rfl rfl rfl rfl
  have hsettles := (load_settles_filter hload).2 said hsaid
  obtain ⟨filter, hvalue, -, heffect⟩ := hsettles.supplied (.text "resmgrd=trace") rfl
  obtain rfl := Value.text.inj hvalue
  refine ⟨hload, hother, heffect.2 (by decide), ?_⟩
  exact (hsettles.otherwise others told other htold hother rfl).2 (Or.inr ⟨_, rfl, by decide⟩)

/-- **A filter that is given and is not in effect.** The command line asks for details and has a filter, which
    happens to be the text used by default; another one is in effect. -/
theorem default_filter_yields :
    let sources : Sources := { arguments := ["-v", "-l", "info"] }
    let said : Said := { arguments := { verbose := true, logFilter := some "info" } }
    let settings : Settings := { verbose := true }
    Reads sources said ∧ said.uppermost? .logFilter = some (.text "info") ∧ load sources = .ok settings ∧
      settings.effectiveFilter = "info,resmgrd=debug" ∧ settings.effectiveFilter ≠ "info" := by
  intro sources said settings
  have hsaid : Reads sources said := reads_without_files rfl (by decide +kernel) rfl rfl (by decide +kernel)
  exact ⟨hsaid, rfl, hsaid.load_eq_of_counting rfl rfl rfl rfl rfl, by decide, by decide⟩

end Settings

end DeviceBroker
