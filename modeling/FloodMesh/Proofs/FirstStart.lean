/-
The settings that a first start writes are those it would have had without a file.

The file holds the defaults of the environment, paths and all, and is read back as them. So
a later start finds it and leaves it alone, and no other file is touched.
-/

import FloodMesh.Proofs.Defaults
import FloodMesh.Proofs.Disk

namespace FloodMesh.Environment

def overriding : List String :=
  [ "AGROMESH_NODE__ADDRESS", "AGROMESH_NODE__ROLE", "AGROMESH_MESH__TTL",
    "AGROMESH_MESH__KNOWN_NODES", "AGROMESH_RADIO__INTERFACE", "AGROMESH_API__PORT" ]

variable {environment : Environment} {tree written : FileTree} {path : Path}

private theorem override_of_unset (unset : ∀ name ∈ overriding, environment.get? name = none)
    (config : Config) : environment.override config = config := by
  simp only [overriding, List.forall_mem_cons] at unset
  obtain ⟨address, role, ttl, knownNodes, interface, port, -⟩ := unset
  simp only [override, numberOr, address, role, ttl, knownNodes, interface, port,
    Option.bind_none, Option.map_none, Option.getD_none]

private theorem path_of_written (missing : tree.has environment.configPath = false)
    (wrote : environment.writeDefaults tree = (.ok path, written)) :
    path = environment.configPath := by
  rw [writeDefaults, missing, if_neg Bool.false_ne_true] at wrote
  split at wrote
  · cases wrote
    rfl
  · cases wrote

private theorem has_of_written (missing : tree.has environment.configPath = false)
    (wrote : environment.writeDefaults tree = (.ok path, written)) :
    written.has environment.configPath = true := by
  have found := find_writeDefaults missing (congrArg Prod.fst wrote)
  rw [wrote] at found
  rw [FileTree.has, found]
  rfl

private theorem writeDefaults_of_missing (missing : tree.has environment.configPath = false) :
    (environment.writeDefaults tree).2 =
      (Disk.plain.runAll environment.defaultSteps tree).2 := by
  rw [writeDefaults, missing, Disk.plain_runAll, if_neg Bool.false_ne_true]
  split
  · rename_i ran
    rw [ran]
  · rename_i ran
    rw [ran]

/-- Whether they can be written or not, the defaults go nowhere else. -/
theorem fileAt_writeDefaults (environment : Environment) (tree : FileTree) {place : Place}
    (apart : (environment.writeDefaults tree).2.resolve environment.configPath ≠ .ok place) :
    (environment.writeDefaults tree).2.fileAt place = tree.fileAt place := by
  cases there : tree.has environment.configPath with
  | true => rw [writeDefaults_of_has there]
  | false =>
      rw [writeDefaults_of_missing there] at apart ⊢
      cases ran : Disk.plain.runAll environment.defaultSteps tree with
      | mk result later =>
          rw [ran] at apart
          cases result with
          | error failed =>
              obtain above | ⟨between, above, unwritten⟩ := Disk.runAll_append_eq_error ran
              · exact (Disk.made_of_runAll above).fileAt place
              · have made := Disk.made_of_runAll above
                have refused := Disk.runAll_singleton_eq_error unwritten
                exact (Disk.fileAt_of_write_run refused apart).trans (made.fileAt place)
          | ok done =>
              obtain ⟨between, above, wrote⟩ := Disk.runAll_append_eq_ok ran
              have made := Disk.made_of_runAll above
              have done := Disk.runAll_singleton_eq_ok wrote
              exact (Disk.fileAt_of_write_run done apart).trans (made.fileAt place)

/-- Defaults that could be written are loaded again, by this start and every later one; a file
that was there stays as it is. -/
theorem defaults_round_trip (environment : Environment) (tree : FileTree)
    (unset : ∀ name ∈ overriding, environment.get? name = none) :
    (∀ path written, tree.has environment.configPath = false →
      environment.writeDefaults tree = (.ok path, written) →
        environment.load written = .ok environment.defaults ∧
        written.read environment.configPath = .ok (Utf8.ofString environment.defaults.print) ∧
        environment.writeDefaults written = (.ok path, written)) ∧
      (tree.has environment.configPath = true →
        environment.writeDefaults tree = (.ok environment.configPath, tree)) ∧
      ∀ place, (environment.writeDefaults tree).2.resolve environment.configPath ≠ .ok place →
        (environment.writeDefaults tree).2.fileAt place = tree.fileAt place := by
  refine ⟨fun path written missing wrote => ?_, writeDefaults_of_has,
    fun _ => fileAt_writeDefaults environment tree⟩
  have done : (environment.writeDefaults tree).1 = .ok path := congrArg Prod.fst wrote
  have there := has_of_written missing wrote
  have found := find_writeDefaults missing done
  have text := readText_writeDefaults missing done
  rw [wrote] at found text
  refine ⟨?_, ?_, ?_⟩
  · have parsed : environment.defaults.parse? environment.defaults.print =
        some environment.defaults := Config.parse?_print (printable_defaults environment) _
    rw [load_of_valid there text parsed, override_of_unset unset]
  · rw [FileTree.read, found]
    rfl
  · rw [writeDefaults_of_has there, path_of_written missing wrote]

def quotedHome : Environment where
  bindings := [("HOME", "\"a\\b\"\n\x01\x7f=#"), ("XDG_DATA_HOME", "\t[x]\n\"\"\"")]

theorem defaults_round_trip_quotedHome :
    (∀ name ∈ overriding, quotedHome.get? name = none) ∧
      ∃ written, quotedHome.writeDefaults {} = (.ok quotedHome.configPath, written) ∧
        quotedHome.load written = .ok quotedHome.defaults ∧
        quotedHome.defaults.storage.dedupPath.text = "\t[x]\n\"\"\"/agromesh/dedup.json" := by
  have unset : ∀ name ∈ overriding, quotedHome.get? name = none := by decide +kernel
  have missing : FileTree.has {} quotedHome.configPath = false := by decide +kernel
  have done : (quotedHome.writeDefaults {}).1.toOption = some quotedHome.configPath := by
    decide +kernel
  cases wrote : quotedHome.writeDefaults {} with
  | mk result written =>
      rw [wrote] at done
      cases result with
      | error cause => cases done
      | ok path =>
          cases done
          have round := (defaults_round_trip quotedHome {} unset).1 _ written missing wrote
          exact ⟨unset, written, rfl, round.1, by decide +kernel⟩

end FloodMesh.Environment
