import InvertedIndex.Bytes

namespace InvertedIndex.Utf8

def encode (cs : List Char) : Bytes := cs.flatMap String.utf8EncodeChar

/-- What stands at the front of a byte string. -/
inductive Head where
  | char (c : Char) (width : Nat)
  /-- `width` bytes that can be no part of a character. -/
  | invalid (width : Nat)
  /-- A character that the end of the bytes cuts off. -/
  | truncated
  deriving DecidableEq, Repr

def isContinuation (b : UInt8) : Bool := 0x80 ≤ b && b < 0xC0

/-- The low six bits of a continuation byte. -/
def payload (b : UInt8) : Nat := b.toNat % 64

/-- The second bytes that may follow a first byte of three or four. -/
def secondRange (b : UInt8) : UInt8 × UInt8 :=
  if b = 0xE0 then (0xA0, 0xBF)
  else if b = 0xED then (0x80, 0x9F)
  else if b = 0xF0 then (0x90, 0xBF)
  else if b = 0xF4 then (0x80, 0x8F)
  else (0x80, 0xBF)

def isSecond (b c : UInt8) : Bool := (secondRange b).1 ≤ c && c ≤ (secondRange b).2

def head2 (b : UInt8) : Bytes → Head
  | [] => .truncated
  | c :: _ =>
    if isContinuation c then .char (.ofNat (b.toNat % 32 * 64 + payload c)) 2 else .invalid 1

def head3 (b : UInt8) : Bytes → Head
  | [] => .truncated
  | c :: r =>
    if !isSecond b c then .invalid 1
    else match r with
      | [] => .truncated
      | d :: _ =>
        if isContinuation d then
          .char (.ofNat ((b.toNat % 16 * 64 + payload c) * 64 + payload d)) 3
        else .invalid 2

def head4 (b : UInt8) : Bytes → Head
  | [] => .truncated
  | c :: r =>
    if !isSecond b c then .invalid 1
    else match r with
      | [] => .truncated
      | d :: r' =>
        if !isContinuation d then .invalid 2
        else match r' with
          | [] => .truncated
          | e :: _ =>
            if isContinuation e then
              .char (.ofNat (((b.toNat % 8 * 64 + payload c) * 64 + payload d) * 64 + payload e)) 4
            else .invalid 3

def head? : Bytes → Option Head
  | [] => none
  | b :: r =>
    some <|
      if b < 0x80 then .char (.ofNat b.toNat) 1
      else if 0xC2 ≤ b && b ≤ 0xDF then head2 b r
      else if 0xE0 ≤ b && b ≤ 0xEF then head3 b r
      else if 0xF0 ≤ b && b ≤ 0xF4 then head4 b r
      else .invalid 1

inductive Fault where
  | invalid (width : Nat) (index : Nat)
  | truncated (index : Nat)
  deriving DecidableEq, Repr

def Fault.reason : Fault → String
  | .invalid width index => s!"invalid utf-8 sequence of {width} bytes from index {index}"
  | .truncated index => s!"incomplete utf-8 byte sequence from index {index}"

/-- Decodes at most `fuel` characters from index `index`. -/
def decodeFrom : Nat → Nat → Bytes → Except Fault (List Char)
  | 0, _, _ => .ok []
  | fuel + 1, index, bs =>
    match head? bs with
    | none => .ok []
    | some (.char c width) =>
      match decodeFrom fuel (index + width) (bs.drop width) with
      | .ok cs => .ok (c :: cs)
      | .error e => .error e
    | some (.invalid width) => .error (.invalid width index)
    | some .truncated => .error (.truncated index)

/-- Strict decoding. Only the shortest form of a scalar value is well formed; surrogates and values past
`10FFFF` are not. -/
def decode (bs : Bytes) : Except Fault (List Char) := decodeFrom bs.length 0 bs

def isValid (bs : Bytes) : Bool := (decode bs).toBool

/-- Decodes with `U+FFFD` for every run of bytes that is no character. -/
def decodeLossyFrom : Nat → Bytes → List Char
  | 0, _ => []
  | fuel + 1, bs =>
    match head? bs with
    | none => []
    | some (.char c width) => c :: decodeLossyFrom fuel (bs.drop width)
    | some (.invalid width) => '\uFFFD' :: decodeLossyFrom fuel (bs.drop width)
    | some .truncated => ['\uFFFD']

/-- Decoding with a replacement for what is not well formed. -/
def decodeLossy (bs : Bytes) : String := .ofList (decodeLossyFrom bs.length bs)

@[simp] theorem encode_nil : encode [] = [] := rfl

@[simp] theorem encode_cons (c : Char) (cs : List Char) :
    encode (c :: cs) = String.utf8EncodeChar c ++ encode cs := rfl

end InvertedIndex.Utf8
