/-
Where each setting of a starting node comes from.

Sources of settings lie over one another: variables over the file over the defaults, and
each setting is taken from the highest source that gives it. A file that is of no use ends
this: the node then starts with the bare defaults, and its variables are not looked at.
If there is no file, the first start writes one; reading it changes nothing.
-/

import FloodMesh.Daemon
import FloodMesh.Proofs.Defaults

namespace FloodMesh

/-! ### Sources -/

structure Layer where
  address : Option String := none
  role : Option Role := none
  knownNodes : Option (List String) := none
  ttl : Option Nat := none
  responseTimeoutSecs : Option Nat := none
  pollIntervalSecs : Option Nat := none
  responseQueueCapacity : Option Nat := none
  interface : Option String := none
  radioPort : Option Nat := none
  dedupPath : Option Path := none
  uplinkPath : Option Path := none
  intervalSecs : Option Nat := none
  apiPort : Option Nat := none

/-- Settings from a source where it gives them, and from below it elsewhere. -/
def Layer.onto (layer : Layer) (below : Config) : Config where
  node :=
    { address := layer.address.getD below.node.address
      role := layer.role.getD below.node.role }
  mesh :=
    { knownNodes := layer.knownNodes.getD below.mesh.knownNodes
      ttl := layer.ttl.getD below.mesh.ttl
      responseTimeoutSecs := layer.responseTimeoutSecs.getD below.mesh.responseTimeoutSecs
      pollIntervalSecs := layer.pollIntervalSecs.getD below.mesh.pollIntervalSecs
      responseQueueCapacity := layer.responseQueueCapacity.getD below.mesh.responseQueueCapacity }
  radio :=
    { interface := layer.interface.getD below.radio.interface
      port := layer.radioPort.getD below.radio.port }
  storage :=
    { dedupPath := layer.dedupPath.getD below.storage.dedupPath
      uplinkPath := layer.uplinkPath.getD below.storage.uplinkPath }
  uplink := { intervalSecs := layer.intervalSecs.getD below.uplink.intervalSecs }
  api := { port := layer.apiPort.getD below.api.port }

namespace Environment

/-- Six settings have a variable. One whose text has no meaning gives nothing. -/
def overrides (environment : Environment) : Layer where
  address := environment.get? "AGROMESH_NODE__ADDRESS"
  role := (environment.get? "AGROMESH_NODE__ROLE").bind Role.ofName?
  knownNodes := (environment.get? "AGROMESH_MESH__KNOWN_NODES").map listed
  ttl := (environment.get? "AGROMESH_MESH__TTL").bind fun text =>
    Numeral.below? byteBound text.toList
  interface := environment.get? "AGROMESH_RADIO__INTERFACE"
  apiPort := (environment.get? "AGROMESH_API__PORT").bind fun text =>
    Numeral.below? portBound text.toList

private theorem override_eq (environment : Environment) (config : Config) :
    environment.override config = environment.overrides.onto config := rfl

end Environment

/-! ### Documents -/

namespace Toml

/-- A setting of a group, found by its position or its name. -/
def given? {α : Type} (group : Option Toml) (position : Nat) (name : String)
    (read : Toml → Option α) : Option α := do
  let value ← (← group).find? position name
  read value

variable {α : Type} {position : Nat} {name : String} {default result : α}

/-- A setting that could be read is what was given, or the default. -/
theorem settingOr_eq_some {group : Toml} {read : Toml → Option α}
    (taken : group.settingOr position name default read = some result) :
    result = (given? group position name read).getD default := by
  unfold settingOr at taken
  split at taken
  · rename_i absent
    simpa [given?, absent] using taken.symm
  · rename_i value found
    simp [given?, found, taken]

/-- So is a group. -/
theorem settingOr_group_eq_some {document : Toml} {read : Toml → Option α}
    {made : Option Toml → α} (taken : document.settingOr position name default read = some result)
    (absent : made none = default)
    (present : ∀ group result, read group = some result → result = made (some group)) :
    result = made (document.find? position name) := by
  unfold settingOr at taken
  split at taken
  · rename_i missing
    rw [missing, absent]
    exact (Option.some.inj taken).symm
  · rename_i group found
    rw [found]
    exact present group result taken

end Toml

def Layer.inDocument (document : Toml) : Layer where
  address := Toml.given? (document.find? 0 "node") 0 "address" Toml.text?
  role := Toml.given? (document.find? 0 "node") 1 "role" Toml.role?
  knownNodes := Toml.given? (document.find? 1 "mesh") 0 "known_nodes" Toml.texts?
  ttl := Toml.given? (document.find? 1 "mesh") 1 "ttl" (Toml.below? byteBound)
  responseTimeoutSecs :=
    Toml.given? (document.find? 1 "mesh") 2 "response_timeout_secs" (Toml.below? countBound)
  pollIntervalSecs :=
    Toml.given? (document.find? 1 "mesh") 3 "poll_interval_secs" (Toml.below? countBound)
  responseQueueCapacity :=
    Toml.given? (document.find? 1 "mesh") 4 "response_queue_capacity" (Toml.below? countBound)
  interface := Toml.given? (document.find? 2 "radio") 0 "interface" Toml.text?
  radioPort := Toml.given? (document.find? 2 "radio") 1 "port" (Toml.below? portBound)
  dedupPath := Toml.given? (document.find? 3 "storage") 0 "dedup_path" Toml.path?
  uplinkPath := Toml.given? (document.find? 3 "storage") 1 "uplink_path" Toml.path?
  intervalSecs := Toml.given? (document.find? 4 "uplink") 0 "interval_secs" (Toml.below? countBound)
  apiPort := Toml.given? (document.find? 5 "api") 0 "port" (Toml.below? portBound)

section Groups

open Toml

variable {group : Toml}

def NodeSettings.given (default : NodeSettings) (group : Option Toml) : NodeSettings where
  address := (given? group 0 "address" text?).getD default.address
  role := (given? group 1 "role" role?).getD default.role

private theorem NodeSettings.eq_given {default node : NodeSettings}
    (taken : default.ofToml? group = some node) : node = default.given group := by
  simp only [ofToml?, Option.bind_eq_bind, Option.bind_eq_some_iff] at taken
  obtain ⟨_, -, address, addressTaken, role, roleTaken, made⟩ := taken
  cases made
  rw [given, ← settingOr_eq_some addressTaken, ← settingOr_eq_some roleTaken]

def MeshSettings.given (default : MeshSettings) (group : Option Toml) : MeshSettings where
  knownNodes := (given? group 0 "known_nodes" texts?).getD default.knownNodes
  ttl := (given? group 1 "ttl" (below? byteBound)).getD default.ttl
  responseTimeoutSecs :=
    (given? group 2 "response_timeout_secs" (below? countBound)).getD
      default.responseTimeoutSecs
  pollIntervalSecs :=
    (given? group 3 "poll_interval_secs" (below? countBound)).getD
      default.pollIntervalSecs
  responseQueueCapacity :=
    (given? group 4 "response_queue_capacity" (below? countBound)).getD
      default.responseQueueCapacity

private theorem MeshSettings.eq_given {default mesh : MeshSettings}
    (taken : default.ofToml? group = some mesh) : mesh = default.given group := by
  simp only [ofToml?, Option.bind_eq_bind, Option.bind_eq_some_iff] at taken
  obtain ⟨_, -, knownNodes, knownNodesTaken, ttl, ttlTaken, responseTimeoutSecs,
    responseTimeoutSecsTaken, pollIntervalSecs, pollIntervalSecsTaken, responseQueueCapacity,
    responseQueueCapacityTaken, made⟩ := taken
  cases made
  rw [given, ← settingOr_eq_some knownNodesTaken, ← settingOr_eq_some ttlTaken,
    ← settingOr_eq_some responseTimeoutSecsTaken, ← settingOr_eq_some pollIntervalSecsTaken,
    ← settingOr_eq_some responseQueueCapacityTaken]

def RadioSettings.given (default : RadioSettings) (group : Option Toml) : RadioSettings where
  interface := (given? group 0 "interface" text?).getD default.interface
  port := (given? group 1 "port" (below? portBound)).getD default.port

private theorem RadioSettings.eq_given {default radio : RadioSettings}
    (taken : default.ofToml? group = some radio) : radio = default.given group := by
  simp only [ofToml?, Option.bind_eq_bind, Option.bind_eq_some_iff] at taken
  obtain ⟨_, -, interface, interfaceTaken, port, portTaken, made⟩ := taken
  cases made
  rw [given, ← settingOr_eq_some interfaceTaken, ← settingOr_eq_some portTaken]

def StorageSettings.given (default : StorageSettings) (group : Option Toml) : StorageSettings where
  dedupPath := (given? group 0 "dedup_path" path?).getD default.dedupPath
  uplinkPath := (given? group 1 "uplink_path" path?).getD default.uplinkPath

private theorem StorageSettings.eq_given {default storage : StorageSettings}
    (taken : default.ofToml? group = some storage) : storage = default.given group := by
  simp only [ofToml?, Option.bind_eq_bind, Option.bind_eq_some_iff] at taken
  obtain ⟨_, -, dedupPath, dedupPathTaken, uplinkPath, uplinkPathTaken, made⟩ := taken
  cases made
  rw [given, ← settingOr_eq_some dedupPathTaken, ← settingOr_eq_some uplinkPathTaken]

def UplinkSettings.given (default : UplinkSettings) (group : Option Toml) : UplinkSettings where
  intervalSecs := (given? group 0 "interval_secs" (below? countBound)).getD default.intervalSecs

private theorem UplinkSettings.eq_given {default uplink : UplinkSettings}
    (taken : default.ofToml? group = some uplink) : uplink = default.given group := by
  simp only [ofToml?, Option.bind_eq_bind, Option.bind_eq_some_iff] at taken
  obtain ⟨_, -, intervalSecs, intervalSecsTaken, made⟩ := taken
  cases made
  rw [given, ← settingOr_eq_some intervalSecsTaken]

def StatusSettings.given (default : StatusSettings) (group : Option Toml) : StatusSettings where
  port := (given? group 0 "port" (below? portBound)).getD default.port

private theorem StatusSettings.eq_given {default api : StatusSettings}
    (taken : default.ofToml? group = some api) : api = default.given group := by
  simp only [ofToml?, Option.bind_eq_bind, Option.bind_eq_some_iff] at taken
  obtain ⟨_, -, port, portTaken, made⟩ := taken
  cases made
  rw [given, ← settingOr_eq_some portTaken]

end Groups

/-- Settings that could be read are the document over the defaults. -/
theorem Config.eq_of_ofToml? {default config : Config} {document : Toml}
    (taken : default.ofToml? document = some config) :
    config = (Layer.inDocument document).onto default := by
  simp only [ofToml?, Option.bind_eq_bind, Option.bind_eq_some_iff] at taken
  obtain ⟨node, nodeTaken, mesh, meshTaken, radio, radioTaken, storage, storageTaken, uplink,
    uplinkTaken, api, apiTaken, made⟩ := taken
  cases made
  rw [Toml.settingOr_group_eq_some nodeTaken rfl fun _ _ => NodeSettings.eq_given,
    Toml.settingOr_group_eq_some meshTaken rfl fun _ _ => MeshSettings.eq_given,
    Toml.settingOr_group_eq_some radioTaken rfl fun _ _ => RadioSettings.eq_given,
    Toml.settingOr_group_eq_some storageTaken rfl fun _ _ => StorageSettings.eq_given,
    Toml.settingOr_group_eq_some uplinkTaken rfl fun _ _ => UplinkSettings.eq_given,
    Toml.settingOr_group_eq_some apiTaken rfl fun _ _ => StatusSettings.eq_given]
  rfl

/-! ### The file -/

namespace Environment

/-- The document in the file of settings, if the file is there and of use. -/
def document? (environment : Environment) (tree : FileTree) : Option Toml := do
  let text ← (tree.readText environment.configPath).toOption
  let document ← Toml.read? text.toList
  let _ ← environment.defaults.ofToml? document
  pure document

/-- A file that cannot be read, or is no document, or not one of settings. -/
def Useless (environment : Environment) (tree : FileTree) : Prop :=
  tree.has environment.configPath = true ∧ environment.document? tree = none

instance (environment : Environment) (tree : FileTree) :
    Decidable (environment.Useless tree) :=
  inferInstanceAs (Decidable (_ = true ∧ (_ : Option Toml) = none))

/-- What the file says; a file that is missing or of no use says nothing. -/
def inFile (environment : Environment) (tree : FileTree) : Layer :=
  ((environment.document? tree).map Layer.inDocument).getD {}

def preferred (environment : Environment) (tree : FileTree) : Config :=
  environment.overrides.onto ((environment.inFile tree).onto environment.defaults)

variable {environment : Environment} {tree : FileTree}

private theorem has_of_readText {path : Path} {text : String}
    (read : tree.readText path = .ok text) :
    tree.has path = true := by
  simp only [FileTree.readText, FileTree.read] at read
  cases found : tree.find path with
  | error cause =>
      rw [found] at read
      cases read
  | ok item =>
      rw [FileTree.has, found]
      rfl

private theorem document?_eq_some_iff {document : Toml} :
    environment.document? tree = some document ↔
      ∃ text, tree.readText environment.configPath = .ok text ∧
        Toml.read? text.toList = some document ∧
        ∃ config, environment.defaults.ofToml? document = some config := by
  cases read : tree.readText environment.configPath with
  | error cause => simp [document?, read, Except.toOption]
  | ok text =>
      simp only [document?, read, Except.toOption, Option.bind_eq_bind, Option.bind_some,
        Option.bind_eq_some_iff, Option.pure_def, Option.some.injEq, Except.ok.injEq,
        exists_eq_left']
      constructor
      · rintro ⟨found, written, config, valid, rfl⟩
        exact ⟨written, config, valid⟩
      · rintro ⟨written, config, valid⟩
        exact ⟨document, written, config, valid, rfl⟩

private theorem preferred_of_missing (missing : tree.has environment.configPath = false) :
    environment.preferred tree = environment.overrides.onto environment.defaults := by
  have none_there : environment.document? tree = none := by
    cases found : environment.document? tree with
    | none => rfl
    | some document =>
        obtain ⟨text, read, _⟩ := document?_eq_some_iff.mp found
        exact absurd (missing.symm.trans (has_of_readText read)) (by decide)
  rw [preferred, inFile, none_there]
  rfl

private theorem load_of_useless (useless : environment.Useless tree) :
    ∃ error, environment.load tree = .error error := by
  obtain ⟨there, nothing⟩ := useless
  refine load_eq_error_iff.mpr ⟨there, ?_⟩
  cases read : tree.readText environment.configPath with
  | error fault => exact .inl ⟨fault, rfl⟩
  | ok text =>
      refine .inr ⟨text, rfl, ?_⟩
      cases parsed : environment.defaults.parse? text with
      | none => rfl
      | some config =>
          obtain ⟨document, written, valid⟩ := Option.bind_eq_some_iff.mp parsed
          have found := document?_eq_some_iff.mpr ⟨text, read, written, config, valid⟩
          rw [found] at nothing
          cases nothing

/-- Otherwise loading follows the order of the sources. -/
theorem load_of_not_useless (useful : ¬ environment.Useless tree) :
    environment.load tree = .ok (environment.preferred tree) := by
  cases there : tree.has environment.configPath with
  | false =>
      rw [load_of_missing there, override_eq, preferred_of_missing there]
  | true =>
      obtain ⟨document, found⟩ :=
        Option.ne_none_iff_exists'.mp fun nothing => useful ⟨there, nothing⟩
      obtain ⟨text, read, written, config, valid⟩ := document?_eq_some_iff.mp found
      have parsed : environment.defaults.parse? text = some config := by
        rw [Config.parse?, written]
        exact valid
      rw [load_of_valid there read parsed, override_eq, Config.eq_of_ofToml? valid, preferred,
        inFile, found]
      rfl

private theorem document?_of_directory (there : tree.find environment.configPath = .ok .directory) :
    environment.document? tree = none := by
  rw [document?, FileTree.readText, FileTree.read, there]
  rfl

/-- After the defaults have been written, or tried to, there is a document that says what
holds anyway, or a directory, or nothing. -/
theorem states_writeDefaults (missing : tree.has environment.configPath = false) :
    environment.preferred (environment.writeDefaults tree).2 = environment.preferred tree ∧
      (environment.Useless (environment.writeDefaults tree).2 ↔
        (environment.writeDefaults tree).2.isDirectory environment.configPath = true) := by
  cases done : (environment.writeDefaults tree).1 with
  | ok path =>
      have read := readText_writeDefaults missing done
      have parsed : environment.defaults.parse? environment.defaults.print =
          some environment.defaults := Config.parse?_print (printable_defaults environment) _
      obtain ⟨document, written, valid⟩ := Option.bind_eq_some_iff.mp parsed
      have found := document?_eq_some_iff.mpr ⟨_, read, written, _, valid⟩
      constructor
      · rw [preferred_of_missing missing, preferred, inFile, found, Option.map_some,
          Option.getD_some, ← Config.eq_of_ofToml? valid]
      · refine iff_of_false (fun useless => ?_) fun there => ?_
        · rw [useless.2] at found
          cases found
        · rw [FileTree.isDirectory_eq_true_iff, find_writeDefaults missing done] at there
          cases there
  | error error =>
      cases found : (environment.writeDefaults tree).2.find environment.configPath with
      | error cause =>
          have absent : (environment.writeDefaults tree).2.has environment.configPath = false := by
            rw [FileTree.has, found]
            rfl
          refine ⟨?_, iff_of_false (fun useless => ?_) fun there => ?_⟩
          · rw [preferred_of_missing absent, preferred_of_missing missing]
          · exact absurd (absent.symm.trans useless.1) (by decide)
          · rw [FileTree.isDirectory_eq_true_iff, found] at there
            cases there
      | ok item =>
          obtain rfl := find_of_unwritten missing done found
          have nothing := document?_of_directory found
          refine ⟨?_, iff_of_true ⟨?_, nothing⟩ (FileTree.isDirectory_eq_true_iff.mpr found)⟩
          · rw [preferred_of_missing missing, preferred, inFile, nothing]
            rfl
          · rw [FileTree.has, found]
            rfl

end Environment

/-! ### The start -/

namespace Daemon

/-- The file is of no use, or cannot be made because a directory is in its place. -/
def Hindered (environment : Environment) (tree : FileTree) : Prop :=
  environment.Useless tree ∨
    tree.has environment.configPath = false ∧
      (environment.writeDefaults tree).2.isDirectory environment.configPath = true

instance (environment : Environment) (tree : FileTree) : Decidable (Hindered environment tree) :=
  inferInstanceAs (Decidable (_ ∨ _ = false ∧ _ = true))

private theorem hindered_iff (environment : Environment) (tree : FileTree) :
    Hindered environment tree ↔ environment.Useless (environment.writeDefaults tree).2 := by
  cases there : tree.has environment.configPath with
  | true =>
      rw [Environment.writeDefaults_of_has there, Hindered, there]
      simp
  | false =>
      have useful : ¬ environment.Useless tree := fun useless =>
        absurd (there.symm.trans useless.1) (by decide)
      rw [(Environment.states_writeDefaults there).2, Hindered]
      simp [useful, there]

private theorem preferred_writeDefaults (environment : Environment) (tree : FileTree) :
    environment.preferred (environment.writeDefaults tree).2 = environment.preferred tree := by
  cases there : tree.has environment.configPath with
  | true => rw [Environment.writeDefaults_of_has there]
  | false => exact (Environment.states_writeDefaults there).1

private theorem settings_eq (environment : Environment) (tree : FileTree) :
    settings environment tree =
      (if Hindered environment tree then environment.defaults else environment.preferred tree,
        (environment.writeDefaults tree).2) := by
  unfold settings
  split
  rename_i result written wrote
  by_cases hindered : Hindered environment tree
  · obtain ⟨error, failed⟩ :=
      Environment.load_of_useless ((hindered_iff environment tree).mp hindered)
    rw [wrote] at failed ⊢
    rw [failed, if_pos hindered]
  · have loaded := Environment.load_of_not_useless
      (mt (hindered_iff environment tree).mpr hindered)
    rw [preferred_writeDefaults, wrote] at loaded
    rw [wrote, loaded, if_neg hindered]

/-- Whether a node starts, and what it starts with, is settled by the sources in their order:
variables, file, defaults. Only if the file is of no use, or could not be made because a
directory is in its place, the defaults are all that counts. -/
theorem start_by_precedence (seed : UInt64) (present : List String) (environment : Environment)
    (tree : FileTree) :
    ∃ config written,
      start seed present environment tree =
        ((check present config).map fun (address, known) =>
          assemble seed environment written config address known, written) ∧
      config =
        if Hindered environment tree then environment.defaults
        else environment.preferred tree := by
  have chosen := settings_eq environment tree
  cases made : settings environment tree with
  | mk config written =>
      rw [made] at chosen
      refine ⟨config, written, ?_, (Prod.mk.inj chosen).1⟩
      unfold start
      rw [made]
      dsimp only
      cases check present config <;> rfl

def told : Environment where
  bindings := [("AGROMESH_CONFIG", "c"), ("AGROMESH_NODE__ADDRESS", "sn0007")]

def brokenFile : FileTree where
  items := [(["c"], .file (Utf8.ofString "[node\n"))]

theorem overrides_lost :
    told.overrides.address = some "sn0007" ∧ Hindered told brokenFile ∧
      (settings told brokenFile).1.node.address = "sn0001" := by
  decide +kernel

end Daemon

end FloodMesh
