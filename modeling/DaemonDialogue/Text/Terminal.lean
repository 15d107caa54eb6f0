import DaemonDialogue.Text.Utf8

/-!
# Text without control sequences

What a terminal would obey instead of show is left out of a text: control sequences and
control characters, but not blanks. A sequence that is not finished ends where a byte
comes that can only be shown.
-/

namespace DaemonDialogue.Terminal

/-- Where a reader of bytes stands: in plain text or in some part of a sequence. -/
inductive Place
  | ground
  | escape
  | escapeMiddle
  | control
  | controlParameters
  | controlMiddle
  | controlIgnored
  | device
  | deviceParameters
  | deviceMiddle
  | deviceIgnored
  | deviceData
  | command
  | ignored
  deriving DecidableEq, Repr

def isPlain (b : UInt8) : Bool :=
  (0x20 ≤ b && b < 0x7F) || (0xC2 ≤ b && b ≤ 0xF4)

def isBlankControl (b : UInt8) : Bool :=
  b == 0x09 || b == 0x0A || b == 0x0C || b == 0x0D

def isContinuation (b : UInt8) : Bool :=
  0x80 ≤ b && b < 0xC0

/-- Are control characters obeyed inside of a sequence at this place? -/
def Place.obeys : Place → Bool
  | .ground | .escape | .escapeMiddle => true
  | .control | .controlParameters | .controlMiddle | .controlIgnored => true
  | _ => false

/-- Where a byte that is no control character leads. -/
def Place.over (place : Place) (b : UInt8) : Place :=
  let within (low high : UInt8) : Bool := low ≤ b && b ≤ high
  match place with
  | .ground => .ground
  | .escape =>
    if within 0x20 0x2F then .escapeMiddle
    else if b == 0x5B then .control
    else if b == 0x5D then .command
    else if b == 0x50 then .device
    else if b == 0x58 || b == 0x5E || b == 0x5F then .ignored
    else if within 0x30 0x7E then .ground
    else .escape
  | .escapeMiddle => if within 0x30 0x7E then .ground else .escapeMiddle
  | .control =>
    if within 0x20 0x2F then .controlMiddle
    else if within 0x30 0x3F then .controlParameters
    else if within 0x40 0x7E then .ground
    else .control
  | .controlParameters =>
    if within 0x20 0x2F then .controlMiddle
    else if within 0x3C 0x3F then .controlIgnored
    else if within 0x40 0x7E then .ground
    else .controlParameters
  | .controlMiddle =>
    if within 0x30 0x3F then .controlIgnored
    else if within 0x40 0x7E then .ground
    else .controlMiddle
  | .controlIgnored => if within 0x40 0x7E then .ground else .controlIgnored
  | .device =>
    if within 0x20 0x2F then .deviceMiddle
    else if within 0x40 0x7E then .deviceData
    else if within 0x30 0x3F then .deviceParameters
    else .device
  | .deviceParameters =>
    if within 0x20 0x2F then .deviceMiddle
    else if within 0x3C 0x3F then .deviceIgnored
    else if within 0x40 0x7E then .deviceData
    else .deviceParameters
  | .deviceMiddle =>
    if within 0x30 0x3F then .deviceIgnored
    else if within 0x40 0x7E then .deviceData
    else .deviceMiddle
  | .deviceIgnored => .deviceIgnored
  | .deviceData => .deviceData
  | .command => if b == 0x07 then .ground else .command
  | .ignored => .ignored

def Place.shows (place : Place) (b : UInt8) : Bool :=
  isContinuation b || (place.obeys && isBlankControl b) || (place == .ground && isPlain b)

def shown : Place → List UInt8 → List UInt8
  | _, [] => []
  | place, b :: rest =>
    if place.shows b then b :: shown .ground rest
    else if b == 0x18 || b == 0x1A then shown .ground rest
    else if b == 0x1B then shown .escape rest
    else shown (place.over b) rest

def plain (text : String) : String :=
  Utf8.decode (shown .ground (Utf8.encode text))

end DaemonDialogue.Terminal
