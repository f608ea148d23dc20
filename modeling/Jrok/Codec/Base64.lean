import Mathlib.Data.List.Basic

/-!
# Base64

The standard alphabet with padding. Three bytes become four characters; a last group of one or
two bytes is padded with `=`. `decode` accepts exactly what `encode` produces: the padding has to
be there, and the bits that it leaves over have to be zero.
-/

namespace Base64

/-- The character for six bits. -/
def symbol (n : Nat) : Char :=
  if n < 26 then Char.ofNat (65 + n)
  else if n < 52 then Char.ofNat (71 + n)
  else if n < 62 then Char.ofNat (n - 4)
  else if n = 62 then '+'
  else '/'

/-- The six bits of a character of the alphabet. -/
def value (c : Char) : Option Nat :=
  if 'A' ≤ c ∧ c ≤ 'Z' then some (c.toNat - 65)
  else if 'a' ≤ c ∧ c ≤ 'z' then some (c.toNat - 71)
  else if '0' ≤ c ∧ c ≤ '9' then some (c.toNat + 4)
  else if c = '+' then some 62
  else if c = '/' then some 63
  else none

theorem value_symbol : ∀ n < 64, value (symbol n) = some n := by decide

theorem symbol_ne_pad : ∀ n < 64, symbol n ≠ '=' := by decide

def encodeChars : List UInt8 → List Char
  | [] => []
  | [a] => [symbol (a.toNat / 4), symbol (a.toNat % 4 * 16), '=', '=']
  | [a, b] =>
    [symbol (a.toNat / 4), symbol (a.toNat % 4 * 16 + b.toNat / 16),
      symbol (b.toNat % 16 * 4), '=']
  | a :: b :: c :: rest =>
    symbol (a.toNat / 4) :: symbol (a.toNat % 4 * 16 + b.toNat / 16) ::
      symbol (b.toNat % 16 * 4 + c.toNat / 64) :: symbol (c.toNat % 64) :: encodeChars rest

/-- The last group of a text that ends in two padding characters. -/
def decodeOne (w x : Char) : Option (List UInt8) := do
  let w ← value w
  let x ← value x
  if x % 16 = 0 then some [.ofNat (w * 4 + x / 16)] else none

/-- The last group of a text that ends in one padding character. -/
def decodeTwo (w x y : Char) : Option (List UInt8) := do
  let w ← value w
  let x ← value x
  let y ← value y
  if y % 4 = 0 then some [.ofNat (w * 4 + x / 16), .ofNat (x % 16 * 16 + y / 4)] else none

def decodeThree (w x y z : Char) : Option (List UInt8) := do
  let w ← value w
  let x ← value x
  let y ← value y
  let z ← value z
  some [.ofNat (w * 4 + x / 16), .ofNat (x % 16 * 16 + y / 4), .ofNat (y % 4 * 64 + z)]

def decodeChars : List Char → Option (List UInt8)
  | [] => some []
  | w :: x :: y :: z :: rest =>
    if rest = [] ∧ z = '=' then
      if y = '=' then decodeOne w x else decodeTwo w x y
    else do
      let group ← decodeThree w x y z
      let bytes ← decodeChars rest
      some (group ++ bytes)
  | _ => none

def encode (bytes : List UInt8) : String := String.ofList (encodeChars bytes)

def decode (text : String) : Option (List UInt8) := decodeChars text.toList

theorem decodeOne_symbol (a : UInt8) :
    decodeOne (symbol (a.toNat / 4)) (symbol (a.toNat % 4 * 16)) = some [a] := by
  have ha : a.toNat < 256 := a.toNat_lt
  rw [decodeOne, value_symbol _ (by omega), value_symbol _ (by omega)]
  have hbyte : a.toNat / 4 * 4 + a.toNat % 4 * 16 / 16 = a.toNat := by omega
  have hrest : a.toNat % 4 * 16 % 16 = 0 := by omega
  simp only [Option.bind_eq_bind, Option.bind_some, hrest, hbyte, if_true, UInt8.ofNat_toNat]

theorem decodeTwo_symbol (a b : UInt8) :
    decodeTwo (symbol (a.toNat / 4)) (symbol (a.toNat % 4 * 16 + b.toNat / 16))
      (symbol (b.toNat % 16 * 4)) = some [a, b] := by
  have ha : a.toNat < 256 := a.toNat_lt
  have hb : b.toNat < 256 := b.toNat_lt
  rw [decodeTwo, value_symbol _ (by omega), value_symbol _ (by omega), value_symbol _ (by omega)]
  have hfirst : a.toNat / 4 * 4 + (a.toNat % 4 * 16 + b.toNat / 16) / 16 = a.toNat := by omega
  have hsecond : (a.toNat % 4 * 16 + b.toNat / 16) % 16 * 16 + b.toNat % 16 * 4 / 4 = b.toNat := by
    omega
  have hrest : b.toNat % 16 * 4 % 4 = 0 := by omega
  simp only [Option.bind_eq_bind, Option.bind_some, hrest, hfirst, hsecond, if_true,
    UInt8.ofNat_toNat]

theorem decodeThree_symbol (a b c : UInt8) :
    decodeThree (symbol (a.toNat / 4)) (symbol (a.toNat % 4 * 16 + b.toNat / 16))
      (symbol (b.toNat % 16 * 4 + c.toNat / 64)) (symbol (c.toNat % 64)) = some [a, b, c] := by
  have ha : a.toNat < 256 := a.toNat_lt
  have hb : b.toNat < 256 := b.toNat_lt
  have hc : c.toNat < 256 := c.toNat_lt
  rw [decodeThree, value_symbol _ (by omega), value_symbol _ (by omega),
    value_symbol _ (by omega), value_symbol _ (by omega)]
  have hfirst : a.toNat / 4 * 4 + (a.toNat % 4 * 16 + b.toNat / 16) / 16 = a.toNat := by omega
  have hsecond : (a.toNat % 4 * 16 + b.toNat / 16) % 16 * 16 +
      (b.toNat % 16 * 4 + c.toNat / 64) / 4 = b.toNat := by omega
  have hthird : (b.toNat % 16 * 4 + c.toNat / 64) % 4 * 64 + c.toNat % 64 = c.toNat := by omega
  simp only [Option.bind_eq_bind, Option.bind_some, hfirst, hsecond, hthird, UInt8.ofNat_toNat]

theorem decodeChars_encodeChars (bytes : List UInt8) :
    decodeChars (encodeChars bytes) = some bytes := by
  induction bytes using encodeChars.induct with
  | case1 => rfl
  | case2 a => simp [encodeChars, decodeChars, decodeOne_symbol]
  | case3 a b =>
    have hb : b.toNat < 256 := b.toNat_lt
    have hpad := symbol_ne_pad (b.toNat % 16 * 4) (by omega)
    simp [encodeChars, decodeChars, hpad, decodeTwo_symbol]
  | case4 a b c rest ih =>
    have hc : c.toNat < 256 := c.toNat_lt
    have hpad := symbol_ne_pad (c.toNat % 64) (by omega)
    simp [encodeChars, decodeChars, hpad, decodeThree_symbol, ih]

/-- Decoding inverts encoding. -/
theorem decode_encode (bytes : List UInt8) : decode (encode bytes) = some bytes := by
  rw [decode, encode, String.toList_ofList, decodeChars_encodeChars]

/-- The test vectors with each kind of padding. -/
example : (["", "f", "fo", "foo", "foob"].map fun s =>
    encodeChars (s.toList.map fun c => .ofNat c.toNat)) =
    ["", "Zg==", "Zm8=", "Zm9v", "Zm9vYg=="].map String.toList := by decide

end Base64
