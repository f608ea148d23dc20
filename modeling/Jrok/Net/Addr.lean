/-!
# Socket addresses

`str::parse::<SocketAddr>` of the standard library: an IPv4 address and a port, or an IPv6 address
in brackets, with an optional scope id, and a port. Each reader takes a prefix of the text and
gives the rest back; the whole text has to be used up. The scope id is read and dropped.
-/

namespace Net

inductive IpAddr where
  | v4 (a b c d : UInt8)
  | v6 (groups : List UInt16)
  deriving DecidableEq, Repr

structure SocketAddr where
  ip : IpAddr
  port : UInt16
  deriving DecidableEq, Repr

/-- A packet that was handed to `send_to`, and what that returned. -/
structure Packet where
  bytes : List UInt8
  remote : SocketAddr
  result : Except String Nat

/-- The `Display` text of an IPv4 address. -/
def textV4 (a b c d : UInt8) : String :=
  ".".intercalate ([a, b, c, d].map fun octet => toString octet.toNat)

/-- A reader of a prefix of the text. -/
abbrev Reader (α : Type) := List Char → Option (α × List Char)

def readChar (c : Char) : Reader Unit
  | c' :: rest => if c' = c then some ((), rest) else none
  | [] => none

/-- `char::to_digit`. -/
def toDigit (radix : Nat) (c : Char) : Option Nat :=
  let d :=
    if '0' ≤ c ∧ c ≤ '9' then some (c.toNat - 48)
    else if 'a' ≤ c ∧ c ≤ 'z' then some (c.toNat - 87)
    else if 'A' ≤ c ∧ c ≤ 'Z' then some (c.toNat - 55)
    else none
  d.filter (· < radix)

/-- The longest prefix of digits. -/
def readDigits (radix : Nat) : List Char → List Nat × List Char
  | [] => ([], [])
  | c :: rest =>
    match toDigit radix c with
    | some d => (d :: (readDigits radix rest).1, (readDigits radix rest).2)
    | none => ([], c :: rest)

/-- `read_number`: at least one digit, at most `maxDigits`, and a value below `bound`. -/
def readNumber (radix : Nat) (maxDigits : Option Nat) (allowZeroPrefix : Bool) (bound : Nat) :
    Reader Nat := fun text =>
  let (digits, rest) := readDigits radix text
  let value := digits.foldl (fun n d => n * radix + d) 0
  let tooLong := maxDigits.any (· < digits.length)
  let zeroPrefix := digits.head? = some 0 ∧ 1 < digits.length
  if digits = [] ∨ tooLong ∨ (!allowZeroPrefix ∧ zeroPrefix) ∨ bound ≤ value then none
  else some (value, rest)

/-- `read_separator`: the separator stands before every item but the first. -/
def readSeparated {α : Type} (sep : Char) (first : Bool) (item : Reader α) : Reader α := fun text =>
  if first then item text
  else (readChar sep text).bind fun (_, rest) => item rest

/-- `read_ipv4_addr`. -/
def readIpv4 : Reader (UInt8 × UInt8 × UInt8 × UInt8) := fun text => do
  let octet := readNumber 10 (some 3) false 256
  let (a, text) ← octet text
  let (b, text) ← readSeparated '.' false octet text
  let (c, text) ← readSeparated '.' false octet text
  let (d, text) ← readSeparated '.' false octet text
  return ((.ofNat a, .ofNat b, .ofNat c, .ofNat d), text)

/-- `read_groups`: up to `limit` groups, of which an IPv4 address may be the last two, whether
    it is, and the rest. -/
def readGroups : Nat → Bool → List Char → List UInt16 × Bool × List Char
  | 0, _, text => ([], false, text)
  | limit + 1, first, text =>
    let ipv4 := if limit = 0 then none else readSeparated ':' first readIpv4 text
    match ipv4 with
    | some ((a, b, c, d), rest) =>
      ([a.toUInt16 * 256 + b.toUInt16, c.toUInt16 * 256 + d.toUInt16], true, rest)
    | none =>
      match readSeparated ':' first (readNumber 16 (some 4) true 65536) text with
      | some (group, rest) =>
        let (groups, ipv4, rest) := readGroups limit false rest
        (.ofNat group :: groups, ipv4, rest)
      | none => ([], false, text)

/-- `read_ipv6_addr`: eight groups, or fewer around one `::`. -/
def readIpv6 : Reader (List UInt16) := fun text =>
  let (head, headIpv4, text) := readGroups 8 true text
  if head.length = 8 then some (head, text)
  else if headIpv4 then none
  else do
    let (_, text) ← readChar ':' text
    let (_, text) ← readChar ':' text
    let (tail, _, text) := readGroups (8 - (head.length + 1)) true text
    return (head ++ List.replicate (8 - head.length - tail.length) 0 ++ tail, text)

/-- `read_port`. -/
def readPort : Reader UInt16 := fun text => do
  let (_, text) ← readChar ':' text
  let (port, text) ← readNumber 10 none true 65536 text
  return (.ofNat port, text)

/-- `read_scope_id`, where there is one. -/
def skipScopeId (text : List Char) : List Char :=
  match (readChar '%' text).bind fun (_, rest) => readNumber 10 none true 4294967296 rest with
  | some (_, rest) => rest
  | none => text

def readSocketAddrV4 : Reader SocketAddr := fun text => do
  let ((a, b, c, d), text) ← readIpv4 text
  let (port, text) ← readPort text
  return (⟨.v4 a b c d, port⟩, text)

def readSocketAddrV6 : Reader SocketAddr := fun text => do
  let (_, text) ← readChar '[' text
  let (groups, text) ← readIpv6 text
  let (_, text) ← readChar ']' (skipScopeId text)
  let (port, text) ← readPort text
  return (⟨.v6 groups, port⟩, text)

/-- `str::parse::<SocketAddr>`. -/
def SocketAddr.parse (text : String) : Option SocketAddr :=
  match (readSocketAddrV4 text.toList).orElse fun _ => readSocketAddrV6 text.toList with
  | some (addr, []) => some addr
  | _ => none

example : ["10.0.0.1:80", "[::1%7]:00443", "[1:2:3::1.2.3.4]:1", "010.0.0.1:80", "10.0.0.1",
      "[1::2::3]:1", "1.2.3.4:65536"].map SocketAddr.parse =
    [some ⟨.v4 10 0 0 1, 80⟩, some ⟨.v6 [0, 0, 0, 0, 0, 0, 0, 1], 443⟩,
      some ⟨.v6 [1, 2, 3, 0, 0, 0, 258, 772], 1⟩, none, none, none, none] := by decide

end Net
