/-
Settings that are written to a file are read back from it.

The document has a table for each group and a name for each setting, so nothing is left
to its default, whatever the defaults are. What the first start writes is thus what it
then reads.
-/

import FloodMesh.Config.File
import FloodMesh.Proofs.Characters
import FloodMesh.Proofs.Document
import FloodMesh.Proofs.Filing

namespace FloodMesh

open Toml

private theorem Role.ofName?_name (role : Role) : Role.ofName? role.name = some role := by
  cases role <;> decide

private theorem Toml.texts?_strings (values : List String) :
    (Toml.array (values.map .string)).texts? = some values :=
  @Utf8.mapM_map_eq_some _ _ Toml.string Toml.text? (fun _ => rfl) values

private theorem Toml.below?_natCast {bound value : Nat} (small : value < bound) :
    (Toml.integer value).below? bound = some value := if_pos small

private theorem Toml.settingOr_of_find {α : Type} {group value : Toml} {position : Nat}
    {name : String}
    (found : group.find? position name = some value) (default : α) (read : Toml → Option α) :
    group.settingOr position name default read = read value := by
  rw [settingOr, found]

/-! ### Groups that give each of their settings -/

section Groups

variable {group : Toml} (isGroup : group.isGroup = true)
include isGroup

private theorem NodeSettings.ofToml?_of_find (default : NodeSettings) {node : NodeSettings}
    (address : group.find? 0 "address" = some (.string node.address))
    (role : group.find? 1 "role" = some (.string node.role.name)) :
    default.ofToml? group = some node := by
  simp only [ofToml?, isGroup, settingOr_of_find address, settingOr_of_find role, text?, role?,
    Role.ofName?_name]
  rfl

private theorem MeshSettings.ofToml?_of_find (default : MeshSettings) {mesh : MeshSettings}
    (knownNodes : group.find? 0 "known_nodes" = some (.array (mesh.knownNodes.map .string)))
    (ttl : group.find? 1 "ttl" = some (.integer mesh.ttl) ∧ mesh.ttl < byteBound)
    (responseTimeoutSecs : group.find? 2 "response_timeout_secs" =
      some (.integer mesh.responseTimeoutSecs) ∧ mesh.responseTimeoutSecs < countBound)
    (pollIntervalSecs : group.find? 3 "poll_interval_secs" =
      some (.integer mesh.pollIntervalSecs) ∧ mesh.pollIntervalSecs < countBound)
    (responseQueueCapacity : group.find? 4 "response_queue_capacity" =
      some (.integer mesh.responseQueueCapacity) ∧ mesh.responseQueueCapacity < countBound) :
    default.ofToml? group = some mesh := by
  simp only [ofToml?, isGroup, settingOr_of_find knownNodes, texts?_strings,
    settingOr_of_find ttl.1, below?_natCast ttl.2,
    settingOr_of_find responseTimeoutSecs.1, below?_natCast responseTimeoutSecs.2,
    settingOr_of_find pollIntervalSecs.1, below?_natCast pollIntervalSecs.2,
    settingOr_of_find responseQueueCapacity.1, below?_natCast responseQueueCapacity.2]
  rfl

private theorem RadioSettings.ofToml?_of_find (default : RadioSettings) {radio : RadioSettings}
    (interface : group.find? 0 "interface" = some (.string radio.interface))
    (port : group.find? 1 "port" = some (.integer radio.port) ∧ radio.port < portBound) :
    default.ofToml? group = some radio := by
  simp only [ofToml?, isGroup, settingOr_of_find interface, text?, settingOr_of_find port.1,
    below?_natCast port.2]
  rfl

private theorem StorageSettings.ofToml?_of_find (default : StorageSettings)
    {storage : StorageSettings}
    (dedupPath : group.find? 0 "dedup_path" = some (.string storage.dedupPath.text))
    (uplinkPath : group.find? 1 "uplink_path" = some (.string storage.uplinkPath.text)) :
    default.ofToml? group = some storage := by
  simp only [ofToml?, isGroup, settingOr_of_find dedupPath, settingOr_of_find uplinkPath, path?,
    text?]
  rfl

private theorem UplinkSettings.ofToml?_of_find (default : UplinkSettings) {uplink : UplinkSettings}
    (intervalSecs : group.find? 0 "interval_secs" = some (.integer uplink.intervalSecs) ∧
      uplink.intervalSecs < countBound) :
    default.ofToml? group = some uplink := by
  simp only [ofToml?, isGroup, settingOr_of_find intervalSecs.1, below?_natCast intervalSecs.2]
  rfl

private theorem StatusSettings.ofToml?_of_find (default : StatusSettings) {api : StatusSettings}
    (port : group.find? 0 "port" = some (.integer api.port) ∧ api.port < portBound) :
    default.ofToml? group = some api := by
  simp only [ofToml?, isGroup, settingOr_of_find port.1, below?_natCast port.2]
  rfl

end Groups

/-! ### Whole documents -/

namespace Config

structure Printable (config : Config) : Prop where
  ttl : config.mesh.ttl < byteBound
  responseTimeoutSecs : config.mesh.responseTimeoutSecs ≤ greatestInteger
  pollIntervalSecs : config.mesh.pollIntervalSecs ≤ greatestInteger
  responseQueueCapacity : config.mesh.responseQueueCapacity ≤ greatestInteger
  radioPort : config.radio.port < portBound
  intervalSecs : config.uplink.intervalSecs ≤ greatestInteger
  apiPort : config.api.port < portBound

private theorem fits_natCast {value : Nat} (small : value ≤ greatestInteger) :
    (Setting.integer value).Fits := ⟨Int.natCast_nonneg value, Int.ofNat_le.mpr small⟩

private theorem names_sections (config : Config) :
    ∀ part ∈ config.sections, Bare part.name ∧
      (∀ setting ∈ part.settings, Bare setting.1) ∧ (part.settings.map Prod.fst).Nodup := by
  simp only [sections, List.forall_mem_cons, List.not_mem_nil, false_implies, implies_true,
    and_true, List.map_cons, List.map_nil]
  decide +kernel

private theorem fits_sections {config : Config} (printable : config.Printable) :
    ∀ part ∈ config.sections, ∀ setting ∈ part.settings, setting.2.Fits := by
  have ttl : config.mesh.ttl ≤ greatestInteger :=
    Nat.le_trans (Nat.le_of_lt printable.ttl) (by decide)
  have radioPort : config.radio.port ≤ greatestInteger :=
    Nat.le_trans (Nat.le_of_lt printable.radioPort) (by decide)
  have apiPort : config.api.port ≤ greatestInteger :=
    Nat.le_trans (Nat.le_of_lt printable.apiPort) (by decide)
  simp only [sections, List.forall_mem_cons, List.not_mem_nil, false_implies, implies_true,
    and_true]
  exact ⟨⟨trivial, trivial⟩,
    ⟨trivial, fits_natCast ttl, fits_natCast printable.responseTimeoutSecs,
      fits_natCast printable.pollIntervalSecs, fits_natCast printable.responseQueueCapacity⟩,
    ⟨trivial, fits_natCast radioPort⟩, ⟨trivial, trivial⟩, fits_natCast printable.intervalSecs,
    fits_natCast apiPort⟩

private theorem sound_sections {config : Config} (printable : config.Printable) :
    ∀ part ∈ config.sections, part.Sound := by
  intro part within
  obtain ⟨bare, names, distinct⟩ := names_sections config part within
  exact ⟨bare, names, distinct, fits_sections printable part within⟩

/-- What is printed gives all settings, whatever they would be without it. -/
theorem ofToml?_tables {config : Config} (printable : config.Printable) (default : Config) :
    default.ofToml? (tables config.sections) = some config := by
  have counted : ∀ {value : Nat}, value ≤ greatestInteger → value < countBound :=
    fun small => Nat.lt_of_le_of_lt small (by decide)
  have node : (tables config.sections).settingOr 0 "node" default.node default.node.ofToml? =
      some config.node := NodeSettings.ofToml?_of_find rfl _ rfl rfl
  have mesh : (tables config.sections).settingOr 1 "mesh" default.mesh default.mesh.ofToml? =
      some config.mesh :=
    MeshSettings.ofToml?_of_find rfl _ rfl ⟨rfl, printable.ttl⟩
      ⟨rfl, counted printable.responseTimeoutSecs⟩ ⟨rfl, counted printable.pollIntervalSecs⟩
      ⟨rfl, counted printable.responseQueueCapacity⟩
  have radio : (tables config.sections).settingOr 2 "radio" default.radio
      default.radio.ofToml? = some config.radio :=
    RadioSettings.ofToml?_of_find rfl _ rfl ⟨rfl, printable.radioPort⟩
  have storage : (tables config.sections).settingOr 3 "storage" default.storage
      default.storage.ofToml? = some config.storage :=
    StorageSettings.ofToml?_of_find rfl _ rfl rfl
  have uplink : (tables config.sections).settingOr 4 "uplink" default.uplink
      default.uplink.ofToml? = some config.uplink :=
    UplinkSettings.ofToml?_of_find rfl _ ⟨rfl, counted printable.intervalSecs⟩
  have api : (tables config.sections).settingOr 5 "api" default.api default.api.ofToml? =
      some config.api := StatusSettings.ofToml?_of_find rfl _ ⟨rfl, printable.apiPort⟩
  simp only [ofToml?, node, mesh, radio, storage, uplink, api]
  rfl

/-- Printed settings are read back, whatever the defaults of the reader are. -/
theorem parse?_print {config : Config} (printable : config.Printable) (default : Config) :
    default.parse? config.print = some config := by
  rw [parse?, print, String.toList_ofList,
    read?_printSections (sound_sections printable) (by simp [sections])]
  exact ofToml?_tables printable default

end Config

/-! ### What the file of settings may be

It is missing, or it gives no text, or its text is not settings, or it is. In the first
and the last case the overrides are in force; in the other two there are no settings. -/

namespace Environment

variable {environment : Environment} {tree : FileTree}

theorem load_of_missing (missing : tree.has environment.configPath = false) :
    environment.load tree = .ok (environment.override environment.defaults) := by
  simp only [load, stored, missing, Bool.false_eq_true, if_false]
  rfl

private theorem load_of_unreadable {fault : ReadFault}
    (there : tree.has environment.configPath = true)
    (unread : tree.readText environment.configPath = .error fault) :
    environment.load tree = .error (.unreadable environment.configPath fault) := by
  simp only [load, stored, there, if_true, unread]
  rfl

private theorem load_of_unparsable {text : String} (there : tree.has environment.configPath = true)
    (read : tree.readText environment.configPath = .ok text)
    (invalid : environment.defaults.parse? text = none) :
    environment.load tree = .error (.unparsable environment.configPath) := by
  simp only [load, stored, there, if_true, read, invalid]
  rfl

theorem load_of_valid {text : String} {config : Config}
    (there : tree.has environment.configPath = true)
    (read : tree.readText environment.configPath = .ok text)
    (valid : environment.defaults.parse? text = some config) :
    environment.load tree = .ok (environment.override config) := by
  simp only [load, stored, there, if_true, read, valid]
  rfl

/-- There are no settings exactly if there is a file and it is of no use. -/
theorem load_eq_error_iff :
    (∃ error, environment.load tree = .error error) ↔
      tree.has environment.configPath = true ∧
        ((∃ fault, tree.readText environment.configPath = .error fault) ∨
          ∃ text, tree.readText environment.configPath = .ok text ∧
            environment.defaults.parse? text = none) := by
  cases there : tree.has environment.configPath with
  | false => simp [load_of_missing there]
  | true =>
      cases read : tree.readText environment.configPath with
      | error fault => simp [load_of_unreadable there read]
      | ok text =>
          cases parsed : environment.defaults.parse? text with
          | none => simp [load_of_unparsable there read parsed, parsed]
          | some config => simp [load_of_valid there read parsed, parsed]

/-! ### The first start -/

theorem printable_defaults (environment : Environment) : environment.defaults.Printable := by
  constructor
  all_goals simp only [defaults]
  all_goals decide

theorem writeDefaults_of_has (there : tree.has environment.configPath = true) :
    environment.writeDefaults tree = (.ok environment.configPath, tree) := if_pos there

/-- If the defaults could be written, the file is there and holds them. -/
theorem find_writeDefaults {path : Path} (missing : tree.has environment.configPath = false)
    (done : (environment.writeDefaults tree).1 = .ok path) :
    (environment.writeDefaults tree).2.find environment.configPath =
      .ok (.file (Utf8.ofString environment.defaults.print)) := by
  simp only [writeDefaults, missing, Bool.false_eq_true, if_false] at done ⊢
  split at done
  · rename_i written ran
    obtain ⟨between, wrote⟩ := FileStep.runAll_append_singleton ran
    simp only [FileStep.run] at wrote
    split at wrote
    · rename_i changed result
      cases wrote
      exact FileTree.find_write result
    · cases wrote
  · cases done

theorem readText_writeDefaults {path : Path} (missing : tree.has environment.configPath = false)
    (done : (environment.writeDefaults tree).1 = .ok path) :
    (environment.writeDefaults tree).2.readText environment.configPath =
      .ok environment.defaults.print := by
  rw [FileTree.readText, FileTree.read, find_writeDefaults missing done]
  simp only [bind, Except.bind, Utf8.toString?_ofString]

/-- If they could not, nothing but a directory can stand in the way. -/
theorem find_of_unwritten {error : ConfigError} {item : FileTree.Item}
    (missing : tree.has environment.configPath = false)
    (failed : (environment.writeDefaults tree).1 = .error error)
    (found : (environment.writeDefaults tree).2.find environment.configPath = .ok item) :
    item = .directory := by
  simp only [writeDefaults, missing, Bool.false_eq_true, if_false] at failed found
  split at failed
  · cases failed
  · rename_i step cause partly ran
    simp only [ran] at found
    exact FileStep.find_of_unwritten ran found

end Environment

end FloodMesh
