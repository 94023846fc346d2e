import PeFacts.Asn1.Reader
import PeFacts.Asn1.Scalar

/-!
# Algorithm identifiers

An algorithm is named by an object identifier and may have parameters. The parameters of the
algorithms listed here have a fixed form; those of any other algorithm are free.
-/

namespace PeFacts.Algorithm

open Asn1

/-- The form of an algorithm's parameters. -/
inductive Parameters
  /-- There are none. -/
  | absent
  /-- There are none, or a null stands for them. -/
  | nullOrAbsent
  /-- The choices of a probabilistic signature, if any. -/
  | probabilistic
  /-- An elliptic curve: its name, a null or its numbers. -/
  | curve
  /-- Anything, if anything. -/
  | free
  deriving Repr, DecidableEq

/-- Algorithms without parameters: the Edwards and Montgomery curves. -/
def bareAlgorithms : List ObjectId :=
  [⟨[1, 3, 101, 110]⟩, ⟨[1, 3, 101, 111]⟩, ⟨[1, 3, 101, 112]⟩, ⟨[1, 3, 101, 113]⟩]

/-- The families of algorithms whose parameters are a null at most: hashes, RSA, elliptic curves,
DSA and keyed hashes, each with the last arcs of its members. -/
def nullFamilies : List (List Nat × List Nat) := [
  ([1, 3, 14, 3, 2], [26, 29]),
  ([2, 16, 840, 1, 101, 3, 4, 2], [1, 2, 3, 4, 7, 8, 9, 10]),
  ([1, 2, 840, 113549, 1, 1], [1, 4, 5, 11, 12, 13, 14]),
  ([2, 16, 840, 1, 101, 3, 4, 3], [1, 2, 3, 4, 9, 10, 11, 12, 13, 14, 15, 16]),
  ([1, 2, 840, 10045, 4, 3], [1, 2, 3, 4]),
  ([1, 2, 840, 113549, 2], [7, 8, 9, 10, 11])]

/-- Signs with a random salt. -/
def probabilisticRsa : ObjectId := ⟨[1, 2, 840, 113549, 1, 1, 10]⟩

/-- A key on an elliptic curve. -/
def curveKey : ObjectId := ⟨[1, 2, 840, 10045, 2, 1]⟩

/-- The hash that a probabilistic signature uses when it names none: SHA-1, with a null. -/
def usualHash : ObjectId × Bool := (⟨[1, 3, 14, 3, 2, 26]⟩, true)

/-- The mask that a probabilistic signature uses when it names none. -/
def usualMask : ObjectId := ⟨[1, 2, 840, 113549, 1, 1, 8]⟩

/-- The form of the parameters of an algorithm. -/
def parametersOf (id : ObjectId) : Parameters :=
  if bareAlgorithms.contains id then .absent
  else if id = probabilisticRsa then .probabilistic
  else if id = curveKey then .curve
  else if nullFamilies.any fun f => f.1 == id.arcs.dropLast && f.2.contains (id.arcs.getLastD 0) then
    .nullOrAbsent
  else .free

/-- The names under which signature algorithms are reported. -/
def signatureNames : List (ObjectId × String) := [
  (⟨[1, 2, 840, 113549, 1, 1, 4]⟩, "md5WithRSAEncryption"),
  (⟨[1, 2, 840, 113549, 1, 1, 5]⟩, "sha1WithRSAEncryption"),
  (⟨[1, 2, 840, 113549, 1, 1, 14]⟩, "sha224WithRSAEncryption"),
  (⟨[1, 2, 840, 113549, 1, 1, 11]⟩, "sha256WithRSAEncryption"),
  (⟨[1, 2, 840, 113549, 1, 1, 12]⟩, "sha384WithRSAEncryption"),
  (⟨[1, 2, 840, 113549, 1, 1, 13]⟩, "sha512WithRSAEncryption"),
  (⟨[1, 2, 840, 113549, 1, 1, 10]⟩, "RSASSA-PSS"),
  (⟨[1, 2, 840, 10045, 4, 1]⟩, "ecdsa-with-SHA1"),
  (⟨[1, 2, 840, 10045, 4, 3, 1]⟩, "ecdsa-with-SHA224"),
  (⟨[1, 2, 840, 10045, 4, 3, 2]⟩, "ecdsa-with-SHA256"),
  (⟨[1, 2, 840, 10045, 4, 3, 3]⟩, "ecdsa-with-SHA384"),
  (⟨[1, 2, 840, 10045, 4, 3, 4]⟩, "ecdsa-with-SHA512"),
  (⟨[1, 2, 840, 10040, 4, 3]⟩, "dsa-with-sha1"),
  (⟨[2, 16, 840, 1, 101, 3, 4, 3, 1]⟩, "dsa-with-sha224"),
  (⟨[2, 16, 840, 1, 101, 3, 4, 3, 2]⟩, "dsa-with-sha256"),
  (⟨[1, 3, 101, 112]⟩, "ed25519"),
  (⟨[1, 3, 101, 113]⟩, "ed448")]

/-- The name of a signature algorithm, or else its path. -/
def signatureName (id : ObjectId) : String :=
  ((signatureNames.find? fun s => s.1 == id).map (·.2)).getD id.text

end PeFacts.Algorithm
