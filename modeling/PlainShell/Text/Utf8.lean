import PlainShell.Text

/-!
Between bytes and symbols. One reader goes over the bytes, octet by octet, and cuts them into
chunks: whole characters, and broken pieces. A broken piece is as much of a well-formed sequence as
stands there before the octet that cannot continue it, or a single octet that starts none. Texts
keep the octets of broken pieces as stray bytes, so that `encode` gives them back; where only
characters are allowed a broken piece becomes one replacement character.
-/

namespace PlainShell.Utf8

inductive Chunk where
  | character (value : Char)
  | broken (octets : Bytes)
  deriving DecidableEq, Repr

/-- A sequence that has begun. The next octet must lie between `low` and `high`; after it, `left`
more are owed, each from `0x80` to `0xBF`. The bounds on the second octet shut out overlong forms,
the surrogate block and everything above the last code point. -/
structure Pending where
  seen : Bytes
  value : Nat
  low : Nat
  high : Nat
  left : Nat
  deriving DecidableEq, Repr

def Pending.accepts (pending : Pending) (octet : UInt8) : Bool :=
  pending.low ≤ octet.toNat && octet.toNat ≤ pending.high

/-- What stands ready after an octet, and the sequence that is then unfinished. -/
abbrev Step := List Chunk × Option Pending

def Pending.advance (pending : Pending) (octet : UInt8) : Step :=
  let value := pending.value * 64 + (octet.toNat - 0x80)
  match pending.left with
  | 0 => ([.character (Char.ofNat value)], none)
  | left + 1 => ([], some ⟨pending.seen ++ [octet], value, 0x80, 0xBF, left⟩)

/-- An octet where a character has to begin. -/
def start (octet : UInt8) : Step :=
  let code := octet.toNat
  if code < 0x80 then ([.character (Char.ofNat code)], none)
  else if code < 0xC2 then ([.broken [octet]], none)
  else if code < 0xE0 then ([], some ⟨[octet], code - 0xC0, 0x80, 0xBF, 0⟩)
  else if code < 0xF0 then
    ([], some ⟨[octet], code - 0xE0, if code = 0xE0 then 0xA0 else 0x80,
      if code = 0xED then 0x9F else 0xBF, 1⟩)
  else if code < 0xF5 then
    ([], some ⟨[octet], code - 0xF0, if code = 0xF0 then 0x90 else 0x80,
      if code = 0xF4 then 0x8F else 0xBF, 2⟩)
  else ([.broken [octet]], none)

/-- An octet that cannot continue the sequence ends it and begins anew. -/
def step : Option Pending → UInt8 → Step
  | none, octet => start octet
  | some pending, octet =>
    if pending.accepts octet then pending.advance octet
    else (.broken pending.seen :: (start octet).1, (start octet).2)

def chunksFrom : Option Pending → Bytes → List Chunk
  | none, [] => []
  | some pending, [] => [.broken pending.seen]
  | state, octet :: rest => (step state octet).1 ++ chunksFrom (step state octet).2 rest

def chunks (octets : Bytes) : List Chunk := chunksFrom none octets

/-- The stray byte of an octet from `0x80` on. -/
def strayOf (octet : UInt8) : Symbol := .stray ⟨octet.toNat % 128, Nat.mod_lt _ (by decide)⟩

def Chunk.symbols : Chunk → Text
  | .character value => [.char value]
  | .broken octets => octets.map strayOf

/-- The text that the octets spell. -/
def decode (octets : Bytes) : Text := (chunks octets).flatMap Chunk.symbols

def replacement : Char := '\uFFFD'

def Chunk.shown : Chunk → Char
  | .character value => value
  | .broken _ => replacement

/-- The octets as characters only, one replacement character for each broken piece. -/
def decodeReplacing (octets : Bytes) : Text := (chunks octets).map fun chunk => .char chunk.shown

def Chunk.isCharacter : Chunk → Bool
  | .character _ => true
  | .broken _ => false

/-- Whether the octets spell characters throughout. -/
def isWellFormed (octets : Bytes) : Bool := (chunks octets).all Chunk.isCharacter

def encodeChar (value : Char) : Bytes :=
  let code := value.toNat
  if code < 0x80 then [UInt8.ofNat code]
  else if code < 0x800 then [UInt8.ofNat (0xC0 + code / 64), UInt8.ofNat (0x80 + code % 64)]
  else if code < 0x10000 then
    [UInt8.ofNat (0xE0 + code / 4096), UInt8.ofNat (0x80 + code / 64 % 64),
     UInt8.ofNat (0x80 + code % 64)]
  else
    [UInt8.ofNat (0xF0 + code / 262144), UInt8.ofNat (0x80 + code / 4096 % 64),
     UInt8.ofNat (0x80 + code / 64 % 64), UInt8.ofNat (0x80 + code % 64)]

def encodeSymbol : Symbol → Bytes
  | .char value => encodeChar value
  | .stray low => [UInt8.ofNat (0x80 + low.val)]

/-- The octets of a text, a stray byte standing for itself. -/
def encode (text : Text) : Bytes := text.flatMap encodeSymbol

end PlainShell.Utf8
