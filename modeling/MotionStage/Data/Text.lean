import Mathlib.Data.BitVec

/-!
This module contains the operations of Rust's `str` and of the `uuid` crate that the repository
relies on.
-/

namespace Text

/--
`char::is_whitespace`, that is the Unicode property `White_Space`.
-/
def isWhitespace (c : Char) : Bool :=
  let n := c.toNat
  (9 ≤ n && n ≤ 13) || n == 0x20 || n == 0x85 || n == 0xA0 || n == 0x1680
    || (0x2000 ≤ n && n ≤ 0x200A) || n == 0x2028 || n == 0x2029 || n == 0x202F || n == 0x205F
    || n == 0x3000

def trim (s : String) : String :=
  String.ofList ((s.toList.dropWhile isWhitespace).reverse.dropWhile isWhitespace).reverse

def stripPrefix? (s start : String) : Option String :=
  if start.toList.isPrefixOf s.toList then
    some (String.ofList (s.toList.drop start.toList.length))
  else
    none

end Text

structure Uuid where
  bits : BitVec 128
  deriving DecidableEq, Repr

namespace Uuid

instance (n : Nat) : OfNat Uuid n where
  ofNat := ⟨BitVec.ofNat 128 n⟩

/--
The 32 lower case hexadecimal digits, most significant first.
-/
def hexDigits (u : Uuid) : List Char :=
  (List.range 32).map fun i => Nat.digitChar (u.bits.toNat / 16 ^ (31 - i) % 16)

/--
The `Display` form: the digits in hyphenated groups of 8, 4, 4, 4 and 12.
-/
def display (u : Uuid) : String :=
  let ds := u.hexDigits
  String.ofList (ds.take 8 ++ '-' :: (ds.drop 8).take 4 ++ '-' :: (ds.drop 12).take 4
    ++ '-' :: (ds.drop 16).take 4 ++ '-' :: ds.drop 20)

end Uuid
