namespace Scoreboard

namespace Archive

/-- The bytes of an archive without members: the record that ends it alone. -/
def emptyBytes : ByteArray :=
  ⟨#[0x50, 0x4b, 0x05, 0x06] ++ Array.replicate 18 0⟩

/-- The number that `width` bytes hold from a place on, the lowest byte first. -/
def number? (bytes : ByteArray) (start : Nat) : Nat → Option Nat
  | 0 => some 0
  | width + 1 => do
    let low ← bytes[start]?
    let high ← number? bytes (start + 1) width
    return low.toNat + 256 * high

def slice? (bytes : ByteArray) (start length : Nat) : Option ByteArray :=
  if start + length ≤ bytes.size then some (bytes.extract start (start + length)) else none

/-- The place of the record that ends an archive: the last at or before the given one. -/
def trailer? (bytes : ByteArray) : Nat → Option Nat
  | 0 => if number? bytes 0 4 = some 0x06054b50 then some 0 else none
  | start + 1 =>
    if number? bytes (start + 1) 4 = some 0x06054b50 then some (start + 1)
    else trailer? bytes start

def content? (bytes : ByteArray) (start length : Nat) : Option ByteArray := do
  let signature ← number? bytes start 4
  guard (signature = 0x04034b50)
  let nameLength ← number? bytes (start + 26) 2
  let extraLength ← number? bytes (start + 28) 2
  slice? bytes (start + 30 + nameLength + extraLength) length

def members? (bytes : ByteArray) (entry : Nat) : Nat → Option (List (String × ByteArray))
  | 0 => some []
  | count + 1 => do
    let signature ← number? bytes entry 4
    guard (signature = 0x02014b50)
    let method ← number? bytes (entry + 10) 2
    guard (method = 0)
    let length ← number? bytes (entry + 24) 4
    let nameLength ← number? bytes (entry + 28) 2
    let extraLength ← number? bytes (entry + 30) 2
    let commentLength ← number? bytes (entry + 32) 2
    let start ← number? bytes (entry + 42) 4
    let name ← String.fromUTF8? (← slice? bytes (entry + 46) nameLength)
    let content ← content? bytes start length
    let others ← members? bytes (entry + 46 + nameLength + extraLength + commentLength) count
    return (name, content) :: others

/-- The members of an archive with their names, in the order of its directory. -/
def ofBytes? (bytes : ByteArray) : Option (List (String × ByteArray)) := do
  let trailer ← trailer? bytes (bytes.size - 22)
  let count ← number? bytes (trailer + 10) 2
  let start ← number? bytes (trailer + 16) 4
  members? bytes start count

end Archive

end Scoreboard
