import Lanewise.FileTree.Basic
import Lanewise.Text.Quoted

/-!
# Listings

A listing shows a tree: every directory and every file with its size and a digest of its bytes, in
the order of the paths.
-/

namespace Lanewise

namespace FileTree

/-- The digest FNV-1a of some bytes, with 64 bits. -/
def digest (content : ByteArray) : UInt64 :=
  content.data.foldl (fun hash byte => (hash ^^^ byte.toUInt64) * 0x100000001b3) 0xcbf29ce484222325

/-- A digest in sixteen hexadecimal digits. -/
def digestText (content : ByteArray) : String :=
  String.ofList (Text.hexDigits 16 (digest content).toNat)

/-- The text of a location. -/
def locationText (location : Location) : String :=
  "/".intercalate location

/-- All nodes below the top with their paths, in the order of the paths. -/
def listing (t : FileTree) : List (String × Node) :=
  (t.entries.map fun entry => (locationText entry.1, entry.2)).mergeSort fun a b =>
    decide (a.1 ≤ b.1)

end FileTree

end Lanewise
