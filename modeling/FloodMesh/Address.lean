/-
Node addresses: six ASCII bytes, none of them NUL.

An address is its bytes; its text is those bytes read as characters. Order is
byte order, first difference first.
-/

import FloodMesh.Text.Utf8

namespace FloodMesh

structure Address where
  bytes : Bytes
  length_eq : bytes.length = 6
  ascii : ∀ byte ∈ bytes, byte ≠ 0 ∧ byte < 0x80
  deriving DecidableEq

namespace Address

def byteLength : Nat := 6

def fits (byte : UInt8) : Bool := byte ≠ 0 && byte < 0x80

theorem ascii_of_fits {data : Bytes} (fit : data.all fits = true) :
    ∀ byte ∈ data, byte ≠ 0 ∧ byte < 0x80 := by
  intro byte present
  simpa [fits] using List.all_eq_true.1 fit byte present

theorem fits_bytes (address : Address) : address.bytes.all fits = true := by
  refine List.all_eq_true.2 fun byte present => ?_
  simpa [fits] using address.ascii byte present

/-- Addresses are the strings of six ASCII bytes without NUL. -/
def ofBytes? (data : Bytes) : Option Address :=
  if length_eq : data.length = 6 then
    if fit : data.all fits then
      some { bytes := data, length_eq, ascii := ascii_of_fits fit }
    else none
  else none

def ofString? (text : String) : Option Address := ofBytes? (Utf8.ofString text)

def text (address : Address) : String :=
  String.ofList (address.bytes.map fun byte => Char.ofNat byte.toNat)

def precedes (first second : Address) : Bool := decide (first.bytes ≤ second.bytes)

theorem ofBytes?_bytes (address : Address) : ofBytes? address.bytes = some address := by
  simp only [ofBytes?, address.length_eq, dite_true]
  rw [dif_pos address.fits_bytes]

theorem ofBytes?_eq_some_iff {data : Bytes} {address : Address} :
    ofBytes? data = some address ↔ address.bytes = data := by
  constructor
  · intro accepted
    simp only [ofBytes?] at accepted
    split at accepted
    · split at accepted
      · cases accepted
        rfl
      · cases accepted
    · cases accepted
  · intro same
    subst same
    exact ofBytes?_bytes address

end Address

end FloodMesh
