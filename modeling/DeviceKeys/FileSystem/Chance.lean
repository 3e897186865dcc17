import DeviceKeys.FileSystem.Fault

/-! # What a process cannot foresee

`Chance` is what decides the fate of a temporary file beside the tree: the names drawn for it, and
whether the medium takes what is written. It is a part of the state, so that a statement about every
file system is one about every draw and every fault of the medium.
-/

namespace DeviceKeys

/-- The count of characters drawn for a name. -/
def tagLength : Nat := 6

/-- The byte is a letter or a digit. -/
def isAlphanumeric (b : UInt8) : Bool :=
  0x30 ≤ b && b ≤ 0x39 || 0x41 ≤ b && b ≤ 0x5A || 0x61 ≤ b && b ≤ 0x7A

/-- Letters and digits drawn for a name. -/
structure Tag where
  bytes : Bytes
  length_eq : bytes.length = tagLength
  alphanumeric : ∀ b ∈ bytes, isAlphanumeric b = true
  deriving DecidableEq

/-- The last six decimal digits of a number. -/
def Tag.ofNat (n : Nat) : Tag where
  bytes := [100000, 10000, 1000, 100, 10, 1].map fun d => UInt8.ofNat (0x30 + n / d % 10)
  length_eq := rfl
  alphanumeric := by
    intro b hb
    obtain ⟨d, -, rfl⟩ := List.mem_map.mp hb
    have hdigit : ∀ d < 10, isAlphanumeric (UInt8.ofNat (0x30 + d)) = true := by decide
    exact hdigit _ (Nat.mod_lt _ (by decide))

/-- The draws and faults of a run: the fault, if any, of writing to a temporary file, of setting its
    permission bits and of bringing it to the medium, and the tags drawn for its name. -/
structure Chance where
  writeFault : Option IoFault
  modeFault : Option IoFault
  syncFault : Option IoFault
  draw : Nat → Tag

/-- A medium without faults; the tags count up. -/
def Chance.plain : Chance := ⟨none, none, none, Tag.ofNat⟩

end DeviceKeys
