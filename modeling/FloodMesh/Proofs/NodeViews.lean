/-
One row and all rows of a node's status table.

The path to one row ends in the node's address, which may hold any character that means
something in a path. Escaped, it is one segment of the path and is read back as it was, so
whoever asks for it is shown the row that a listing of all rows shows for this address. A
segment that stands for anything but an address is refused.
-/

import FloodMesh.Proofs.Collector
import FloodMesh.Proofs.Lifespan
import FloodMesh.Proofs.Parents
import FloodMesh.StatusView

namespace FloodMesh

/-! ### Escapes -/

namespace Percent

def written (data : Bytes) : List Char := (encode data).map fun byte => Char.ofNat byte.toNat

private theorem hexValue?_hexByte :
    ∀ value : Fin 16, hexValue? (hexByte value) = some value.val := by
  decide

private theorem isUnreserved_hexByte : ∀ value : Fin 16, isUnreserved (hexByte value) = true := by
  decide

private theorem decode_cons_of_ne {byte : UInt8} (literal : byte ≠ sign) (rest : Bytes) :
    decode (byte :: rest) = byte :: decode rest := by
  match rest with
  | [] => rfl
  | [_] => rfl
  | _ :: _ :: _ => rw [decode, escaped?, if_neg literal]

private theorem escaped?_hexByte (byte : UInt8) :
    escaped? sign (hexByte (byte.toNat / 16)) (hexByte (byte.toNat % 16)) = some byte := by
  have below : byte.toNat < 256 := byte.toNat_lt
  have upper := hexValue?_hexByte ⟨byte.toNat / 16, by omega⟩
  have lower := hexValue?_hexByte ⟨byte.toNat % 16, by omega⟩
  have whole : UInt8.ofNat (16 * (byte.toNat / 16) + byte.toNat % 16) = byte := by
    rw [Nat.div_add_mod, UInt8.ofNat_toNat]
  rw [escaped?, if_pos rfl, upper, lower]
  exact congrArg some whole

private theorem decode_encode (data : Bytes) : decode (encode data) = data := by
  induction data with
  | nil => rfl
  | cons byte rest ih =>
      rw [encode]
      split
      · rename_i unreserved
        have literal : byte ≠ sign := by
          rintro rfl
          exact absurd unreserved (by decide)
        rw [decode_cons_of_ne literal, ih]
      · rw [decode, escaped?_hexByte]
        exact congrArg (byte :: ·) ih

private theorem mem_encode {data : Bytes} {byte : UInt8} (among : byte ∈ encode data) :
    byte = sign ∨ isUnreserved byte = true := by
  induction data with
  | nil => cases among
  | cons first rest ih =>
      rw [encode] at among
      split at among
      · rename_i unreserved
        rcases List.mem_cons.mp among with rfl | behind
        · exact .inr unreserved
        · exact ih behind
      · have below : first.toNat < 256 := first.toNat_lt
        simp only [List.mem_cons] at among
        rcases among with rfl | rfl | rfl | behind
        · exact .inl rfl
        · exact .inr (isUnreserved_hexByte ⟨first.toNat / 16, by omega⟩)
        · exact .inr (isUnreserved_hexByte ⟨first.toNat % 16, by omega⟩)
        · exact ih behind

private theorem harmless_of_isUnreserved : ∀ value : Fin 256,
    isUnreserved (UInt8.ofNat value) = true →
      value.val < 0x80 ∧ Char.ofNat value ≠ '/' ∧ Char.ofNat value ≠ '?' ∧
        Char.ofNat value ≠ '#' := by
  decide +kernel

private theorem harmless_of_mem_encode {data : Bytes} {byte : UInt8} (among : byte ∈ encode data) :
    byte.toNat < 0x80 ∧ Char.ofNat byte.toNat ≠ '/' ∧ Char.ofNat byte.toNat ≠ '?' ∧
      Char.ofNat byte.toNat ≠ '#' := by
  rcases mem_encode among with rfl | unreserved
  · decide
  · refine harmless_of_isUnreserved ⟨byte.toNat, byte.toNat_lt⟩ ?_
    rwa [UInt8.ofNat_toNat]

end Percent

namespace StatusView

structure IsSegment (segment : List Char) : Prop where
  filled : segment ≠ []
  plain : ∀ char ∈ segment, char ≠ '/' ∧ char ≠ '?' ∧ char ≠ '#'

/-- Escaped bytes are one segment of a path, whatever they are. -/
theorem isSegment_written {data : Bytes} (filled : data ≠ []) :
    IsSegment (Percent.written data) where
  filled := by
    cases data with
    | nil => exact absurd rfl filled
    | cons byte rest =>
        rw [Percent.written, Percent.encode]
        split <;> exact List.cons_ne_nil _ _
  plain := by
    intro char among
    obtain ⟨byte, behind, rfl⟩ := List.mem_map.mp among
    exact (Percent.harmless_of_mem_encode behind).2

/-- They are read back as they were. -/
theorem decode_written (data : Bytes) :
    Percent.decode (Utf8.encode (Percent.written data)) = data := by
  have ascii : ∀ byte ∈ Percent.encode data, byte.toNat < 0x80 := fun byte among =>
    (Percent.harmless_of_mem_encode among).1
  rw [Percent.written, Utf8.encode_of_ascii ascii, Percent.decode_encode]

example : Percent.written [0x61, 0x2F, 0x25, 0x3F, 0x20, 0x23] = "a%2f%25%3f%20%23".toList := by
  decide

/-! ### One row -/

private theorem ofTarget?_node {segment : List Char} (whole : IsSegment segment) :
    Resource.ofTarget? ("/api/nodes/".toList ++ segment) = some (.node segment) := by
  have near : behindHost? ("/api/nodes/".toList ++ segment) = none := rfl
  have front : ∀ char ∈ "/api/nodes/".toList, char ≠ '?' ∧ char ≠ '#' := by simp
  have kept : bare ("/api/nodes/".toList ++ segment) = "/api/nodes/".toList ++ segment := by
    refine List.takeWhile_eq_self_iff.mpr fun char among => decide_eq_true ?_
    rcases List.mem_append.mp among with before | inside
    · exact front char before
    · exact (whole.plain char inside).2
  have parts : Pieces.split '/' ("/api/nodes".toList ++ '/' :: segment) =
      ["".toList, "api".toList, "nodes".toList, segment] := by
    rw [Pieces.split_append, Pieces.split_of_not_mem fun among => (whole.plain '/' among).1 rfl]
    rfl
  have named : segments ("/api/nodes/".toList ++ segment) =
      ["", "api", "nodes", String.ofList segment] := by
    rw [segments, near, Option.getD_none, kept]
    exact congrArg (List.map String.ofList) parts
  have filled : ¬ String.ofList segment = "" := fun empty =>
    whole.filled (by simpa using congrArg String.toList empty)
  simp only [Resource.ofTarget?, named, if_neg filled, String.toList_ofList]

private theorem reply_node (view : StatusView) {segment : List Char} (whole : IsSegment segment) :
    view.reply "GET" ("/api/nodes/" ++ String.ofList segment) =
      { code := (view.nodeAnswer segment).code, body := (view.nodeAnswer segment).body } := by
  have resource : Resource.ofTarget? ("/api/nodes/" ++ String.ofList segment).toList =
      some (.node segment) := by
    rw [String.toList_append, String.toList_ofList (l := segment)]
    exact ofTarget?_node whole
  rw [reply, resource, if_neg (by decide)]
  exact if_pos rfl

private theorem nodeAnswer_of_address (view : StatusView) {segment : List Char} {address : Address}
    (spelled : Percent.decode (Utf8.encode segment) = address.bytes) :
    view.nodeAnswer segment =
      match view.nodes.get? address with
      | some row => { code := 200, body := .json row.toJson }
      | none => { code := 404, body := .text ("node " ++ address.text ++ " not tracked") } := by
  have read : Utf8.toString? (Percent.decode (Utf8.encode segment)) = some address.text := by
    rw [spelled, ← address.encode_text]
    exact Utf8.toString?_ofString address.text
  cases found : view.nodes.get? address <;>
    simp only [nodeAnswer, read, Address.ofString?_text, found]

private theorem nodeAnswer_of_text (view : StatusView) {segment : List Char} {text : String}
    (spelled : Percent.decode (Utf8.encode segment) = Utf8.ofString text)
    (foreign : ∀ address : Address, address.text ≠ text) :
    view.nodeAnswer segment =
      { code := 400, body := .text ("invalid node address: " ++ Quoted.quote text) } := by
  have read : Utf8.toString? (Percent.decode (Utf8.encode segment)) = some text := by
    rw [spelled, Utf8.toString?_ofString]
  have refused : Address.ofString? text = none := by
    cases taken : Address.ofString? text with
    | none => rfl
    | some address => exact absurd (Address.text_of_ofString? taken) (foreign address)
  simp only [nodeAnswer, read, refused]

/-! ### All rows -/

private theorem reply_nodes (view : StatusView) :
    view.reply "GET" "/api/nodes" = { code := 200, body := .json view.nodesJson } := by
  have resource : Resource.ofTarget? "/api/nodes".toList = some .nodes := by decide
  rw [reply, resource, if_neg (by decide)]
  exact if_pos rfl

private theorem address_toJson (row : NodeStatus) :
    row.toJson.get? "address" = some (.string row.address.text) := rfl

/-- The listing shows one row of an address if the table has it, and none else. -/
theorem shown_iff {table : StatusTable} (distinct : (table.rows.map NodeStatus.address).Nodup)
    (address : Address) (row : Json) :
    (row ∈ table.listing.map NodeStatus.toJson ∧
        row.get? "address" = some (.string address.text)) ↔
      ∃ status, table.get? address = some status ∧ row = status.toJson := by
  constructor
  · rintro ⟨among, named⟩
    obtain ⟨status, listed, rfl⟩ := List.mem_map.mp among
    rw [address_toJson] at named
    have own : status.address = address :=
      Address.text_injective (Json.string.inj (Option.some.inj named))
    refine ⟨status, ?_, rfl⟩
    rw [← own]
    exact (StatusTable.mem_listing_iff distinct status).mp listed
  · rintro ⟨status, found, rfl⟩
    have own := StatusTable.address_of_get? found
    refine ⟨List.mem_map_of_mem ((StatusTable.mem_listing_iff distinct status).mpr ?_), ?_⟩
    · rwa [own]
    · rw [address_toJson, own]

private theorem nodup_shown {table : StatusTable}
    (distinct : (table.rows.map NodeStatus.address).Nodup) :
    ((table.listing.map NodeStatus.toJson).map fun row => row.get? "address").Nodup := by
  have apart : (table.listing.map NodeStatus.address).Nodup :=
    ((List.mergeSort_perm table.rows _).map _).nodup_iff.mpr distinct
  have named : (table.listing.map NodeStatus.toJson).map (fun row => row.get? "address") =
      (table.listing.map NodeStatus.address).map fun address => some (.string address.text) := by
    rw [List.map_map, List.map_map]
    rfl
  rw [named]
  exact apart.map fun _ _ same => Address.text_injective (Json.string.inj (Option.some.inj same))

/-- Both views of a status table, after any events, tell the same of every address. A
listing of all rows has at most one row for each. However the address is written as a
segment of the path, escaped or not, the answer to it is this row if there is one and
otherwise that the node is not tracked. Each address can be written so, and a segment
that stands for any other text is refused. -/
theorem node_views_agree (view : StatusView) (events : List StatusTable.Event) :
    let view := { view with nodes := StatusTable.after events }
    let answer segment := view.reply "GET" ("/api/nodes/" ++ String.ofList segment)
    ∃ rows,
      view.reply "GET" "/api/nodes" =
          { code := 200, body := .json (.object [("nodes", .array rows)]) } ∧
        (rows.map fun row => row.get? "address").Nodup ∧
        (∀ (address : Address) (segment : List Char), IsSegment segment →
          Percent.decode (Utf8.encode segment) = address.bytes →
          (∀ row ∈ rows, row.get? "address" = some (.string address.text) →
            answer segment = { code := 200, body := .json row }) ∧
          ((∀ row ∈ rows, row.get? "address" ≠ some (.string address.text)) →
            answer segment =
              { code := 404, body := .text ("node " ++ address.text ++ " not tracked") })) ∧
        (∀ address : Address,
          IsSegment (Percent.written address.bytes) ∧
            Percent.decode (Utf8.encode (Percent.written address.bytes)) = address.bytes) ∧
        ∀ (segment : List Char) (text : String), IsSegment segment →
          Percent.decode (Utf8.encode segment) = Utf8.ofString text →
          (∀ address : Address, address.text ≠ text) →
          answer segment =
            { code := 400, body := .text ("invalid node address: " ++ Quoted.quote text) } := by
  intro view answer
  have distinct := StatusTable.nodup_after events
  refine ⟨_, reply_nodes view, nodup_shown distinct, ?_,
    fun address => ⟨?_, decode_written address.bytes⟩, ?_⟩
  · intro address segment whole spelled
    have told : answer segment = _ := reply_node view whole
    rw [nodeAnswer_of_address view spelled] at told
    refine ⟨fun row among named => ?_, fun unlisted => ?_⟩
    · obtain ⟨status, found, rfl⟩ := (shown_iff distinct address row).mp ⟨among, named⟩
      have present : view.nodes.get? address = some status := found
      rw [told, present]
    · have absent : view.nodes.get? address = none := by
        cases found : view.nodes.get? address with
        | none => rfl
        | some status =>
            obtain ⟨among, named⟩ := (shown_iff distinct address _).mpr ⟨status, found, rfl⟩
            exact absurd named (unlisted _ among)
      rw [told, absent]
  · refine isSegment_written fun empty => ?_
    have six := address.length_eq
    rw [empty] at six
    cases six
  · intro segment text whole spelled foreign
    have told : answer segment = _ := reply_node view whole
    rw [told, nodeAnswer_of_text view spelled foreign]

end StatusView

end FloodMesh
