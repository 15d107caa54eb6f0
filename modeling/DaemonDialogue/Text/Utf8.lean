/-!
# Text in byte streams

A byte stream is read as UTF-8 by a machine that takes one byte at a time.
Every maximal invalid part becomes one U+FFFD, so reading never fails;
`strictDecode` reads the same language but reports the first invalid part
instead. The machine carries at most one unfinished character, hence what
it emits for a piece of the stream depends on the piece and that character
alone.
-/

namespace DaemonDialogue.Utf8

/-- Where the reader stands inside a character: nowhere, or after some bytes of
one, with the value so far, the number of bytes owed and the range of the next. -/
inductive Progress
  | boundary
  | inside (value owed : Nat) (low high : UInt8)
  deriving DecidableEq, Repr

/-- The character that stands for an invalid part. -/
def replacement : Char := '\uFFFD'

/-- The progress after the first byte of a character of several bytes. -/
def Progress.ofLead? (b : UInt8) : Option Progress :=
  if 0xC2 ≤ b ∧ b ≤ 0xDF then some (.inside (b.toNat - 0xC0) 1 0x80 0xBF)
  else if b = 0xE0 then some (.inside 0 2 0xA0 0xBF)
  else if b = 0xED then some (.inside 0xD 2 0x80 0x9F)
  else if 0xE1 ≤ b ∧ b ≤ 0xEF then some (.inside (b.toNat - 0xE0) 2 0x80 0xBF)
  else if b = 0xF0 then some (.inside 0 3 0x90 0xBF)
  else if 0xF1 ≤ b ∧ b ≤ 0xF3 then some (.inside (b.toNat - 0xF0) 3 0x80 0xBF)
  else if b = 0xF4 then some (.inside 4 3 0x80 0x8F)
  else none

def lead (b : UInt8) : List Char × Progress :=
  if b < 0x80 then ([Char.ofNat b.toNat], .boundary)
  else match Progress.ofLead? b with
    | some p => ([], p)
    | none => ([replacement], .boundary)

/-- Reads one byte. A byte that cannot continue the open character closes it as
invalid and is read anew. -/
def step : Progress → UInt8 → List Char × Progress
  | .boundary, b => lead b
  | .inside value owed low high, b =>
    if low ≤ b ∧ b ≤ high then
      let value := value * 64 + (b.toNat - 0x80)
      if owed ≤ 1 then ([Char.ofNat value], .boundary)
      else ([], .inside value (owed - 1) 0x80 0xBF)
    else
      let (out, p) := lead b
      (replacement :: out, p)

/-- What the end of the stream adds: an open character is invalid. -/
def flush : Progress → List Char
  | .boundary => []
  | .inside .. => [replacement]

/-- Reads all bytes from a given progress, in front of what was read before (in reverse). -/
def decodeOnto (read : List Char) : Progress → List UInt8 → List Char
  | p, [] => read.reverseAux (flush p)
  | p, b :: rest =>
    let (out, q) := step p b
    decodeOnto (out.reverseAux read) q rest

/-- The characters of a byte stream, one U+FFFD for each maximal invalid part. -/
def decodeChars (bytes : List UInt8) : List Char :=
  decodeOnto [] .boundary bytes

/-- The text of a byte stream, one U+FFFD for each maximal invalid part. -/
def decode (bytes : List UInt8) : String :=
  String.ofList (decodeChars bytes)

def encodeChars (text : List Char) : List UInt8 :=
  text.flatMap String.utf8EncodeChar

def encode (text : String) : List UInt8 :=
  encodeChars text.toList

def width : List Char → Nat
  | [] => 0
  | c :: rest => c.utf8Size + width rest

/-- Why bytes are not a text: an invalid part of some length, or an end inside a character. -/
inductive Fault
  | invalid (length validUpTo : Nat)
  | incomplete (validUpTo : Nat)
  deriving DecidableEq, Repr

def Fault.message : Fault → String
  | .invalid length at_ =>
    s!"invalid utf-8 sequence of {length} bytes from index {at_}"
  | .incomplete at_ => s!"incomplete utf-8 byte sequence from index {at_}"

/-- Strict reading: `start` is where the open character began and `length` how many
bytes of it are read. -/
def strictOnto (read : List Char) (start length : Nat) :
    Progress → List UInt8 → Except Fault (List Char)
  | .boundary, [] => .ok read.reverse
  | .inside .., [] => .error (.incomplete start)
  | .boundary, b :: rest =>
    if b < 0x80 then
      strictOnto (Char.ofNat b.toNat :: read) (start + 1) 0 .boundary rest
    else match Progress.ofLead? b with
      | some p => strictOnto read start 1 p rest
      | none => .error (.invalid 1 start)
  | .inside value owed low high, b :: rest =>
    if low ≤ b ∧ b ≤ high then
      let value := value * 64 + (b.toNat - 0x80)
      if owed ≤ 1 then
        strictOnto (Char.ofNat value :: read) (start + length + 1) 0 .boundary rest
      else strictOnto read start (length + 1) (.inside value (owed - 1) 0x80 0xBF) rest
    else .error (.invalid length start)

def strictDecode (bytes : List UInt8) : Except Fault String :=
  (strictOnto [] 0 0 .boundary bytes).map String.ofList

end DaemonDialogue.Utf8
