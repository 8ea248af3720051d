import PalBeacon.Lib.Text

namespace PalBeacon.Lib
set_option autoImplicit true

structure Ipv4Addr where
  octets : List UInt8
  length_octets : octets.length = 4
deriving DecidableEq

structure Ipv6Addr where
  segments : List UInt16
  length_segments : segments.length = 8
deriving DecidableEq

inductive IpAddr
  | v4 (address : Ipv4Addr)
  | v6 (address : Ipv6Addr)
deriving DecidableEq

inductive SocketAddr
  | v4 (address : Ipv4Addr) (port : UInt16)
  | v6 (address : Ipv6Addr) (port : UInt16) (flowinfo scopeId : UInt32)
deriving DecidableEq

def SocketAddr.new : IpAddr → UInt16 → SocketAddr
  | .v4 address, port => .v4 address port
  | .v6 address, port => .v6 address port 0 0

/-- The value of a digit in a radix of at most sixteen. -/
def toDigit (radix : Nat) (c : Char) : Option Nat :=
  let value :=
    if '0' ≤ c ∧ c ≤ '9' then c.toNat - 48
    else if 'a' ≤ c ∧ c ≤ 'f' then c.toNat - 87
    else if 'A' ≤ c ∧ c ≤ 'F' then c.toNat - 55
    else radix
  if value < radix then some value else none

/-- A number of at most so many digits at the front of a text. -/
def readNumber (radix maxDigits bound : Nat) (allowZeroPrefix : Bool) (text : List Char) :
    Option (Nat × List Char) :=
  let digits := text.takeWhile fun c => (toDigit radix c).isSome
  let value := digits.foldl (fun value c => value * radix + (toDigit radix c).getD 0) 0
  if digits.length = 0 ∨ maxDigits < digits.length ∨ bound ≤ value ∨
      (allowZeroPrefix = false ∧ digits.head? = some '0' ∧ 1 < digits.length) then none
  else some (value, text.drop digits.length)

/-- An item of a separated list: every item but the first follows a separator. -/
def readSeparator (separator : Char) (index : Nat) (read : List Char → Option (α × List Char))
    (text : List Char) : Option (α × List Char) :=
  if index = 0 then read text
  else
    match text with
    | c :: rest => if c = separator then read rest else none
    | [] => none

def readOctet (index : Nat) : List Char → Option (Nat × List Char) :=
  readSeparator '.' index (readNumber 10 3 256 false)

def readIpv4Addr (text : List Char) : Option (Ipv4Addr × List Char) := do
  let (a, text) ← readOctet 0 text
  let (b, text) ← readOctet 1 text
  let (c, text) ← readOctet 2 text
  let (d, text) ← readOctet 3 text
  return (⟨[.ofNat a, .ofNat b, .ofNat c, .ofNat d], rfl⟩, text)

def segmentOf (high low : UInt8) : UInt16 := .ofNat (high.toNat * 256 + low.toNat)

/-- Up to `limit` more groups, the first of them at an index. The groups come with what follows
them and whether they end in an embedded address of the older version. -/
def readGroups : Nat → Nat → List Char → List UInt16 × Bool × List Char
  | 0, _, text => ([], false, text)
  | limit + 1, index, text =>
    let embedded := if limit = 0 then none else readSeparator ':' index readIpv4Addr text
    match embedded with
    | some (⟨[a, b, c, d], _⟩, rest) => ([segmentOf a b, segmentOf c d], true, rest)
    | none =>
      match readSeparator ':' index (readNumber 16 4 65536 true) text with
      | some (group, rest) =>
        let (groups, ipv4, rest) := readGroups limit (index + 1) rest
        (.ofNat group :: groups, ipv4, rest)
      | none => ([], false, text)

/-- A full address, or the groups around one `::`. -/
def readIpv6Addr (text : List Char) : Option (Ipv6Addr × List Char) :=
  match readGroups 8 0 text with
  | (head, ipv4, rest) =>
    if full : head.length = 8 then some (⟨head, full⟩, rest)
    else if ipv4 then none
    else
      match rest with
      | ':' :: ':' :: rest =>
        match readGroups (7 - head.length) 0 rest with
        | (tail, _, rest) =>
          let zeros := List.replicate (8 - head.length - tail.length) (0 : UInt16)
          if full : (head ++ zeros ++ tail).length =
            8 then some (⟨head ++ zeros ++ tail, full⟩, rest)
          else none
      | _ => none

def IpAddr.parse (text : String) : Option IpAddr :=
  match readIpv4Addr text.toList with
  | some (address, []) => some (.v4 address)
  | some (_, _ :: _) => none
  | none =>
    match readIpv6Addr text.toList with
    | some (address, []) => some (.v6 address)
    | _ => none

example : IpAddr.parse "192.168.0.7" = some (.v4 ⟨[192, 168, 0, 7], rfl⟩) := by decide
example : IpAddr.parse "fe80::1:0:c" = some (.v6 ⟨[0xfe80, 0, 0, 0, 0, 1, 0, 12], rfl⟩) := by
  decide
example : IpAddr.parse "::ffff:10.0.0.1" = some
    (.v6 ⟨[0, 0, 0, 0, 0, 0xffff, 0x0a00, 1], rfl⟩) := by
  decide
example : IpAddr.parse "1.2.3.04" = none := by decide

/-- The older address that an address of the form `::ffff:a.b.c.d` stands for. -/
def Ipv6Addr.toIpv4Mapped (address : Ipv6Addr) : Option Ipv4Addr :=
  match address.segments with
  | [0, 0, 0, 0, 0, 0xffff, ab, cd] =>
    some ⟨[.ofNat (ab.toNat / 256), .ofNat ab.toNat, .ofNat (cd.toNat / 256), .ofNat cd.toNat], rfl⟩
  | _ => none

def IpAddr.isUnspecified : IpAddr → Bool
  | .v4 address => address.octets = [0, 0, 0, 0]
  | .v6 address => address.segments = [0, 0, 0, 0, 0, 0, 0, 0]

def IpAddr.isMulticast : IpAddr → Bool
  | .v4 address => address.octets.head?.any fun octet => 224 ≤ octet && octet ≤ 239
  | .v6 address => address.segments.head?.any fun segment => segment &&& 0xff00 = 0xff00

def Ipv4Addr.broadcast : Ipv4Addr := ⟨[255, 255, 255, 255], rfl⟩

def Ipv4Addr.display (address : Ipv4Addr) : String :=
  ".".intercalate (address.octets.map fun octet => toString octet.toNat)

/-- The start and the length of a run of segments. -/
structure Span where
  start : Nat
  length : Nat

def longestZeroSpan (segments : List UInt16) : Span :=
  (segments.zipIdx.foldl (fun (spans : Span × Span) (segment, index) =>
    if segment = 0 then
      let current : Span :=
        if spans.2.length = 0 then ⟨index, 1⟩ else ⟨spans.2.start, spans.2.length + 1⟩
      (if current.length > spans.1.length then current else spans.1, current)
    else (spans.1, ⟨0, 0⟩)) (⟨0, 0⟩, ⟨0, 0⟩)).1

def displaySegments (segments : List UInt16) : String :=
  ":".intercalate (segments.map fun segment => .ofList (Nat.toDigits 16 segment.toNat))

def Ipv6Addr.display (address : Ipv6Addr) : String :=
  match address.toIpv4Mapped with
  | some mapped => "::ffff:" ++ mapped.display
  | none =>
    let zeroes := longestZeroSpan address.segments
    if zeroes.length > 1 then
      displaySegments (address.segments.take zeroes.start) ++ "::" ++
        displaySegments (address.segments.drop (zeroes.start + zeroes.length))
    else displaySegments address.segments

def SocketAddr.display : SocketAddr → String
  | .v4 address port => address.display ++ ":" ++ toString port.toNat
  | .v6 address port _ scopeId =>
    if scopeId = 0 then "[" ++ address.display ++ "]:" ++ toString port.toNat
    else "[" ++ address.display ++ "%" ++ toString scopeId.toNat ++ "]:" ++ toString port.toNat

example : Ipv6Addr.display ⟨[0xfe80, 0, 0, 0, 0, 1, 0, 12], rfl⟩ = "fe80::1:0:c" := by decide

end PalBeacon.Lib
