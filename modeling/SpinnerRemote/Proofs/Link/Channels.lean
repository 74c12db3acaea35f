import Mathlib.Data.List.Induction
import SpinnerRemote.Link.Channels

/-!
The two channels among what a peripheral offers. Of the characteristics with the telemetry's identifier
the last one is found, and of the others with the config's identifier the last one. Into which services
the characteristics are divided makes no difference; with one identifier for both, no config is found.
-/
namespace SpinnerRemote.Link

open Transport (Characteristic Service)

def offered (services : List Service) : List Characteristic := services.flatMap (·.characteristics)

theorem complete?_eq_some {found : PartialChannels} {channels : Channels} :
    found.complete? = some channels ↔
      found.telemetry = some channels.telemetry ∧ found.config = some channels.config := by
  rcases found with ⟨_ | telemetry, _ | config⟩ <;> cases channels <;>
    simp [PartialChannels.complete?]

namespace PartialChannels

def telemetryAmong (config : Config) (characteristics : List Characteristic) : List Characteristic :=
  characteristics.filter fun characteristic => characteristic.uuid = config.telemetry

def configAmong (config : Config) (characteristics : List Characteristic) : List Characteristic :=
  characteristics.filter fun characteristic =>
    characteristic.uuid = config.config ∧ characteristic.uuid ≠ config.telemetry

def lastAmong (config : Config) (characteristics : List Characteristic) : PartialChannels where
  telemetry := (telemetryAmong config characteristics).getLast?
  config := (configAmong config characteristics).getLast?

theorem note_lastAmong (config : Config) (characteristics : List Characteristic)
    (characteristic : Characteristic) :
    note config (lastAmong config characteristics) characteristic =
      lastAmong config (characteristics ++ [characteristic]) := by
  -- The telemetry comes first: what has its identifier is no config, even where the config has it too.
  by_cases telemetry : characteristic.uuid = config.telemetry
  · simp [note, lastAmong, telemetryAmong, configAmong, telemetry]
  · by_cases configured : characteristic.uuid = config.config
    · have differ : config.config ≠ config.telemetry := configured ▸ telemetry
      simp [note, lastAmong, telemetryAmong, configAmong, configured, differ]
    · simp [note, lastAmong, telemetryAmong, configAmong, telemetry, configured]

theorem foldl_note (config : Config) (characteristics : List Characteristic) :
    characteristics.foldl (note config) {} = lastAmong config characteristics := by
  induction characteristics using List.reverseRecOn with
  | nil => rfl
  | append_singleton characteristics characteristic ih =>
    rw [List.foldl_append, ih]
    exact note_lastAmong config characteristics characteristic

theorem locate_eq_foldl (config : Config) (services : List Service) :
    locate config services = (offered services).foldl (note config) {} := rfl

theorem locate_telemetry (config : Config) (services : List Service) :
    (locate config services).telemetry = (telemetryAmong config (offered services)).getLast? := by
  rw [locate_eq_foldl, foldl_note, lastAmong]

theorem locate_config (config : Config) (services : List Service) :
    (locate config services).config = (configAmong config (offered services)).getLast? := by
  rw [locate_eq_foldl, foldl_note, lastAmong]

variable {config : Config} {services : List Service} {characteristic : Characteristic}

theorem mem_of_locate_telemetry (located : (locate config services).telemetry = some characteristic) :
    characteristic ∈ offered services ∧ characteristic.uuid = config.telemetry := by
  rw [locate_telemetry] at located
  have member := List.mem_of_getLast? located
  simpa [telemetryAmong] using member

theorem mem_of_locate_config (located : (locate config services).config = some characteristic) :
    characteristic ∈ offered services ∧ characteristic.uuid = config.config ∧
      characteristic.uuid ≠ config.telemetry := by
  rw [locate_config] at located
  have member := List.mem_of_getLast? located
  simpa [configAmong] using member

/-- The last of the characteristics with an identifier, or that none has it. -/
def LastWith (uuid : Uuid) (characteristics : List Characteristic) : Option Characteristic → Prop
  | none => ∀ characteristic ∈ characteristics, characteristic.uuid ≠ uuid
  | some characteristic => characteristic.uuid = uuid ∧
      ∃ before after, characteristics = before ++ characteristic :: after ∧
        ∀ other ∈ after, other.uuid ≠ uuid

variable {uuid : Uuid} {characteristics : List Characteristic}

theorem getLast?_filter_eq_iff {found : Option Characteristic} :
    (characteristics.filter (·.uuid = uuid)).getLast? = found ↔ LastWith uuid characteristics found := by
  cases found with
  | none => simp [LastWith]
  | some characteristic =>
    constructor
    · intro last
      obtain ⟨front, filtered⟩ := List.getLast?_eq_some_iff.mp last
      obtain ⟨before, rest, rfl, -, ending⟩ := List.filter_eq_append_iff.mp filtered
      obtain ⟨between, after, rfl, -, identified, nothing⟩ := List.filter_eq_cons_iff.mp ending
      refine ⟨by simpa using identified, before ++ between, after, by simp, ?_⟩
      simpa using List.filter_eq_nil_iff.mp nothing
    · rintro ⟨identified, before, after, rfl, others⟩
      have nothing : after.filter (·.uuid = uuid) = [] := by simpa using others
      simp [identified, nothing]

instance (found : Option Characteristic) : Decidable (LastWith uuid characteristics found) :=
  decidable_of_iff _ getLast?_filter_eq_iff

theorem configAmong_of_ne (differ : config.config ≠ config.telemetry) :
    configAmong config characteristics = characteristics.filter (·.uuid = config.config) := by
  refine List.filter_congr fun characteristic _ => ?_
  have telemetry : characteristic.uuid = config.config → characteristic.uuid ≠ config.telemetry :=
    fun configured => configured ▸ differ
  simpa using telemetry

theorem configAmong_of_eq (same : config.config = config.telemetry) :
    configAmong config characteristics = [] := by
  simp [configAmong, same]

theorem missing_sublist (found : PartialChannels) : found.missing.Sublist ["telemetry", "config"] := by
  rcases found with ⟨_ | telemetry, _ | config⟩ <;> simp [missing]

theorem telemetry_mem_missing_iff {found : PartialChannels} :
    "telemetry" ∈ found.missing ↔ found.telemetry = none := by
  rcases found with ⟨_ | telemetry, _ | config⟩ <;> simp [missing]

theorem config_mem_missing_iff {found : PartialChannels} :
    "config" ∈ found.missing ↔ found.config = none := by
  rcases found with ⟨_ | telemetry, _ | config⟩ <;> simp [missing]

/--
However the characteristics are divided into services, the same channels are found. The telemetry is the
last characteristic with its identifier. The config is the last one with its own, unless this is also the
telemetry's: then there is no config. The channels are complete if both were found, and only then; exactly
those that were not found are missing, the telemetry before the config.
-/
theorem locates_last_offered (config : Config) (services : List Service) :
    (∀ regrouped, offered regrouped = offered services →
      locate config regrouped = locate config services) ∧
    (∀ found, (locate config services).telemetry = found ↔
      LastWith config.telemetry (offered services) found) ∧
    (config.config ≠ config.telemetry → ∀ found, (locate config services).config = found ↔
      LastWith config.config (offered services) found) ∧
    (config.config = config.telemetry → (locate config services).config = none) ∧
    ∀ found : PartialChannels,
      (∀ channels, found.complete? = some channels ↔
        found.telemetry = some channels.telemetry ∧ found.config = some channels.config) ∧
      found.missing.Sublist ["telemetry", "config"] ∧
      ("telemetry" ∈ found.missing ↔ found.telemetry = none) ∧
      ("config" ∈ found.missing ↔ found.config = none) := by
  refine ⟨?_, ?_, ?_, ?_, ?_⟩
  · intro regrouped same
    rw [locate_eq_foldl, same, ← locate_eq_foldl]
  · intro found
    rw [locate_telemetry]
    exact getLast?_filter_eq_iff
  · intro differ found
    rw [locate_config, configAmong_of_ne differ]
    exact getLast?_filter_eq_iff
  · intro same
    rw [locate_config, configAmong_of_eq same, List.getLast?_nil]
  · intro found
    exact ⟨fun channels => complete?_eq_some, missing_sublist found, telemetry_mem_missing_iff,
      config_mem_missing_iff⟩

/-- Both channels twice, the second time in the other order, and a characteristic of another service
between them. -/
def offeringTwice : List Service :=
  [⟨serviceUuid, [⟨telemetryUuid, 10⟩, ⟨configUuid, 13⟩]⟩, ⟨⟨0x1800⟩, [⟨⟨0x2a00⟩, 3⟩]⟩,
    ⟨serviceUuid, [⟨configUuid, 23⟩, ⟨telemetryUuid, 20⟩]⟩]

def dividedOtherwise : List Service :=
  [⟨serviceUuid, [⟨telemetryUuid, 10⟩]⟩, ⟨⟨0x1800⟩, []⟩,
    ⟨serviceUuid, [⟨configUuid, 13⟩, ⟨⟨0x2a00⟩, 3⟩, ⟨configUuid, 23⟩, ⟨telemetryUuid, 20⟩]⟩]

def oneIdentifier : Config := { config := telemetryUuid }

theorem offeringTwice_located :
    offered dividedOtherwise = offered offeringTwice ∧
      locate {} dividedOtherwise = locate {} offeringTwice ∧
      (locate {} offeringTwice).complete? = some ⟨⟨telemetryUuid, 20⟩, ⟨configUuid, 23⟩⟩ ∧
      (locate oneIdentifier offeringTwice).telemetry = some ⟨telemetryUuid, 20⟩ ∧
      (locate oneIdentifier offeringTwice).config = none ∧
      "config" ∈ (locate oneIdentifier offeringTwice).missing := by
  have same : offered dividedOtherwise = offered offeringTwice := by decide
  obtain ⟨regrouped, telemetry, config, -, channels⟩ := locates_last_offered {} offeringTwice
  obtain ⟨-, shared, -, unfound, partly⟩ := locates_last_offered oneIdentifier offeringTwice
  have complete := (channels (locate {} offeringTwice)).1 ⟨⟨telemetryUuid, 20⟩, ⟨configUuid, 23⟩⟩
  have nothing : (locate oneIdentifier offeringTwice).config = none := unfound rfl
  refine ⟨same, regrouped _ same, complete.mpr ⟨?_, ?_⟩, ?_, nothing, (partly _).2.2.2.mpr nothing⟩
  · exact (telemetry _).mpr (by decide)
  · exact (config (by decide) _).mpr (by decide)
  · exact (shared _).mpr (by decide)

end PartialChannels
end SpinnerRemote.Link
