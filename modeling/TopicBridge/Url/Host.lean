import TopicBridge.Text.Split
import TopicBridge.Unicode.Category
import TopicBridge.Unicode.Fold
import TopicBridge.Url.Fault
import TopicBridge.Url.Percent
import TopicBridge.Url.Punycode

/-! # Hosts

A host is a domain name or an address of four bytes or of eight pieces of two bytes. Under a known
scheme a name is put into lower case and into ASCII, and what ends like a number has to be an
address. Under any other scheme a name is taken as it is.
-/

namespace TopicBridge

/-- A host. -/
inductive Host
  | domain (name : String)
  | ipv4 (address : Nat)
  | ipv6 (pieces : List Nat)
  deriving DecidableEq, Repr

namespace Host

/-! ## Addresses of four bytes -/

/-- The value of a hexadecimal, octal or decimal number. -/
def baseValue (base : Nat) (cs : List Char) : Nat :=
  cs.foldl (fun n c => base * n + Unicode.hexValue c) 0

/-- A part of an address: octal behind a zero, hexadecimal behind `0x`, else decimal. -/
def ipv4Number? (cs : List Char) : Option Nat :=
  match cs with
  | [] => none
  | '0' :: 'x' :: ds => if ds.all Url.isHexDigit then some (baseValue 16 ds) else none
  | '0' :: 'X' :: ds => if ds.all Url.isHexDigit then some (baseValue 16 ds) else none
  | '0' :: d :: ds =>
    if (d :: ds).all fun c => '0' ≤ c && c ≤ '7' then some (baseValue 8 (d :: ds)) else none
  | ds => if ds.all Char.isDigit then some (baseValue 10 ds) else none

/-- The parts of a name between points, less an empty one at the end. -/
def nameParts (cs : List Char) : List (List Char) :=
  let parts := Text.split '.' cs
  if parts.getLast? = some [] then parts.dropLast else parts

/-- Whether the last part of a name is a number. -/
def endsInNumber (cs : List Char) : Bool :=
  match (nameParts cs).getLast? with
  | none => false
  | some last => (!last.isEmpty && last.all Char.isDigit) || (ipv4Number? last).isSome

/-- The address of up to four parts; the last part takes all bytes that are left. -/
def ipv4? (cs : List Char) : Option Nat := do
  let parts := nameParts cs
  if 4 < parts.length then none
  let numbers ← parts.mapM ipv4Number?
  let last ← numbers.getLast?
  let front := numbers.dropLast
  if Nat.pow 256 (4 - front.length) ≤ last ∨ front.any (255 < ·) then none
  return front.zipIdx.foldl (fun sum (n, i) => sum + n * Nat.pow 256 (3 - i)) last

/-- An address with its four bytes in decimal. -/
def renderIpv4 (n : Nat) : List Char :=
  Text.join '.' ([3, 2, 1, 0].map fun i => (toString (n / Nat.pow 256 i % 256)).toList)

/-! ## Addresses of eight pieces -/

/-- A byte in decimal without leading zeros. -/
def decimalByte? (cs : List Char) : Option Nat :=
  if cs.isEmpty || !cs.all Char.isDigit || (cs.head? = some '0' && 1 < cs.length) then none
  else if baseValue 10 cs < 256 then some (baseValue 10 cs) else none

/-- Two pieces written as four bytes in decimal. -/
def ipv4Pieces? (cs : List Char) : Option (List Nat) :=
  match (Text.split '.' cs).mapM decimalByte? with
  | some [a, b, c, d] => some [256 * a + b, 256 * c + d]
  | _ => none

/-- Reads pieces and the place of the gap, which holds at least one piece. -/
def readPieces : Nat → (acc : List Nat) → (gap : Option Nat) → List Char →
    Option (List Nat × Option Nat)
  | 0, _, _, _ => none
  | fuel + 1, acc, gap, cs =>
    if cs.isEmpty then some (acc, gap)
    else if 8 ≤ acc.length then none
    else
      match cs with
      | ':' :: rest =>
        if gap.isSome then none else readPieces fuel (acc ++ [0]) (some (acc.length + 1)) rest
      | _ =>
        let ds := (cs.take 4).takeWhile Url.isHexDigit
        match cs.drop ds.length with
        | [] => some (acc ++ [baseValue 16 ds], gap)
        | '.' :: _ =>
          if ds.isEmpty ∨ 6 < acc.length then none
          else (ipv4Pieces? cs).map fun pieces => (acc ++ pieces, gap)
        | ':' :: rest =>
          if rest.isEmpty then none else readPieces fuel (acc ++ [baseValue 16 ds]) gap rest
        | _ => none

/-- The address of eight pieces; one gap stands for zeros. -/
def ipv6? (cs : List Char) : Option (List Nat) := do
  let start : Option (List Nat × Option Nat × List Char) :=
    match cs with
    | ':' :: ':' :: rest => some ([0], some 1, rest)
    | ':' :: _ => none
    | [] => none
    | [_] => none
    | cs => some ([], none, cs)
  let (acc, gap, rest) ← start
  let (pieces, gap) ← readPieces (cs.length + 1) acc gap rest
  match gap with
  | none => if pieces.length = 8 then some pieces else none
  | some k =>
    if 8 < pieces.length then none
    else some (pieces.take k ++ List.replicate (8 - pieces.length) 0 ++ pieces.drop k)

/-- The lengths of the runs of zeros that start at each place. -/
def zeroRuns : List Nat → List Nat
  | [] => []
  | p :: ps =>
    let runs := zeroRuns ps
    (if p = 0 then runs.head?.getD 0 + 1 else 0) :: runs

/-- The place and the length of the first longest run of at least two zeros. -/
def longestRun? (pieces : List Nat) : Option (Nat × Nat) :=
  let runs := zeroRuns pieces
  let longest := runs.foldl max 0
  if longest < 2 then none else some (runs.idxOf longest, longest)

/-- Pieces in hexadecimal with colons between them. -/
def renderPieces (pieces : List Nat) : List Char :=
  Text.join ':' (pieces.map fun p => Nat.toDigits 16 p)

/-- An address with its longest run of zeros left out. -/
def renderIpv6 (pieces : List Nat) : List Char :=
  match longestRun? pieces with
  | none => renderPieces pieces
  | some (i, n) =>
    renderPieces (pieces.take i) ++ ':' :: ':' :: renderPieces (pieces.drop (i + n))

/-! ## Names -/

/-- The characters that no domain name may hold. -/
def forbidden : List Char :=
  ['%', '#', '/', ':', '<', '>', '?', '@', '[', '\\', ']', '^', '|', ' ', '\x7f']

/-- Whether a character may stand in a domain name. -/
def isNameChar (c : Char) : Bool := 0x20 ≤ c.toNat && !forbidden.contains c

/-- Whether a character in a name counts for nothing: soft hyphens, joiners of words, blanks without
width and selectors of variants. -/
def isSilent (c : Char) : Bool :=
  let n := c.toNat
  n = 0xad || n = 0x34f || (0x180b ≤ n && n ≤ 0x180d) || n = 0x180f || n = 0x200b || n = 0x2060 ||
    n = 0x2064 || (0xfe00 ≤ n && n ≤ 0xfe0f) || n = 0xfeff || (0xe0100 ≤ n && n ≤ 0xe01ef)

/-- A character of a name in lower case and of usual width; some characters stand for a point or for
nothing. A final sigma stays what it is. -/
def foldNameChar (c : Char) : List Char :=
  if isSilent c then []
  else if c = '\u3002' ∨ c = '\uff61' then ['.']
  else if '\uff01' ≤ c ∧ c ≤ '\uff5e' then [(Char.ofNat (c.toNat - 0xfee0)).toLower]
  else if c.toNat < 0x80 then [c.toLower]
  else if c = 'ς' then [c]
  else [Char.ofNat (Unicode.fold c.toNat)]

/-- Whether a character beyond ASCII may stand in a name: none that controls something, separates
something or is not assigned. -/
def isAssigned (c : Char) : Bool :=
  c.toNat < 0x80 ||
    !(["C", "Z"].any fun group => (Unicode.categoryRanges group).holds c.toNat)

/-- A label of a name in ASCII. One that is in ASCII already has to stand for another one. -/
def asciiLabel? (label : List Char) : Option (List Char) :=
  match label with
  | 'x' :: 'n' :: '-' :: '-' :: rest =>
    match Url.Punycode.decode? rest with
    | some decoded =>
      if rest.all (·.toNat < 0x80) && decoded.any (0x80 ≤ ·.toNat) &&
          decoded.flatMap foldNameChar = decoded && decoded.all isAssigned then some label
      else none
    | none => none
  | _ =>
    if label.all (·.toNat < 0x80) then some label
    else if label.all isAssigned then some ("xn--".toList ++ Url.Punycode.encode label)
    else none

/-- A domain name in ASCII. -/
def asciiName? (cs : List Char) : Option (List Char) := do
  let folded := cs.flatMap foldNameChar
  if !folded.all isNameChar then none
  return Text.join '.' (← (Text.split '.' folded).mapM asciiLabel?)

/-- The address between brackets. -/
def bracketed (cs : List Char) : Except UrlFault Host :=
  if cs.getLast? = some ']' then
    match ipv6? cs.dropLast with
    | some pieces => .ok (.ipv6 pieces)
    | none => .error .invalidIpv6
  else .error .invalidIpv6

/-- Reads a host under a known scheme. -/
def readKnown (cs : List Char) : Except UrlFault Host :=
  match cs with
  | '[' :: rest => bracketed rest
  | _ =>
    match (Text.Utf8.decode? (Url.decode cs)).bind fun s => asciiName? s.toList with
    | none => .error .invalidDomain
    | some name =>
      if name.isEmpty then .error .emptyHost
      else if endsInNumber name then
        match ipv4? name with
        | some n => .ok (.ipv4 n)
        | none => .error .invalidIpv4
      else .ok (.domain (String.ofList name))

/-- The characters that no host under another scheme may hold. -/
def forbiddenElsewhere : List Char :=
  ['\x00', '\t', '\n', '\r', ' ', '#', '/', ':', '<', '>', '?', '@', '[', '\\', ']', '^', '|']

/-- Reads a host under any other scheme. -/
def readOther (cs : List Char) : Except UrlFault Host :=
  match cs with
  | '[' :: rest => bracketed rest
  | _ =>
    if cs.any forbiddenElsewhere.contains then .error .invalidDomainCharacter
    else .ok (.domain (String.ofList (Url.encode [] cs)))

/-- The text of a host. -/
def render : Host → List Char
  | domain name => name.toList
  | ipv4 n => renderIpv4 n
  | ipv6 pieces => '[' :: renderIpv6 pieces ++ [']']

end Host

end TopicBridge
