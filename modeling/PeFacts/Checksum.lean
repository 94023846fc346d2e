import PeFacts.Bytes

/-!
# Image checksum

The checksum adds the 32-bit words of the file, carrying what overflows back into the sum, folds
the sum to 16 bits and adds the length. The word that holds the stored checksum is left out.
-/

namespace PeFacts.Checksum

/-- Adds a word; a carry out of 32 bits is added back. -/
def addWord (sum word : Nat) : Nat :=
  let total := sum + word
  if total > 0xFFFFFFFF then total % 0x100000000 + total / 0x100000000 else total

/-- The sum of the 32-bit words, the last one filled up with zeros, without the word `skip`. -/
def wordSum (data : Bytes) (skip : Int) : Nat :=
  (List.range ((data.size + 3) / 4)).foldl
    (fun sum (i : Nat) => if (i : Int) = skip then sum else addWord sum (data.number (4 * i) 4)) 0

/-- A 32-bit sum folded to 16 bits. -/
def fold (sum : Nat) : Nat :=
  let once := sum % 0x10000 + sum / 0x10000
  (once + once / 0x10000) % 0x10000

/-- The checksum of an image whose stored checksum stands at `offset`. -/
def calculate (data : Bytes) (offset : Int) : Nat :=
  (fold (wordSum data (offset / 4)) + data.size) % 0x100000000

end PeFacts.Checksum
