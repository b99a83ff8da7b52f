import DbSchema.Json.Token
import DbSchema.Text.Bytes

/-!
# Quoted JSON texts

A quoted text is scanned into characters and escaped code units first, which is all that passing
over it takes. The units are then decoded: a pair of surrogates is one character, and a surrogate
without its partner is a fault.
-/

namespace DbSchema.Json

/-- A character that stands for itself or is named by a short escape, or a code unit of four
hexadecimal digits. -/
inductive TextUnit where
  | plain (character : Char)
  | code (unit : Nat)
  deriving DecidableEq, Repr

/-- Where a scanned text ends: at its closing quote, at the end of the input, at a control
character, at an escape with an unknown letter, or at a code unit that is not hexadecimal. -/
inductive TextEnd where
  | closed
  | cutOff
  | control
  | unknownEscape
  | notHexadecimal
  deriving DecidableEq, Repr

/-- The fault of a text that ends there. -/
def TextEnd.fault : TextEnd → Option Fault
  | closed => none
  | cutOff => some .endOfText
  | control => some .controlCharacter
  | unknownEscape | notHexadecimal => some .invalidEscape

/-- What scanning found: the units, the end, and the input behind the end. -/
structure TextScan where
  units : List TextUnit
  ending : TextEnd
  rest : List Char

/-- The scan with one more unit in front. -/
def TextScan.cons (unit : TextUnit) (scan : TextScan) : TextScan :=
  { scan with units := unit :: scan.units }

/-- The character that a short escape names. -/
def shortEscape : Char → Option Char
  | '"' => some '"'
  | '\\' => some '\\'
  | '/' => some '/'
  | 'b' => some '\x08'
  | 'f' => some '\x0c'
  | 'n' => some '\n'
  | 'r' => some '\r'
  | 't' => some '\t'
  | _ => none

/-- The value of a hexadecimal digit of either case. -/
def hexValue (digit : Char) : Option Nat :=
  if digit.isDigit then some (digit.toNat - '0'.toNat)
  else if 'a' ≤ digit && digit ≤ 'f' then some (digit.toNat - 'a'.toNat + 10)
  else if 'A' ≤ digit && digit ≤ 'F' then some (digit.toNat - 'A'.toNat + 10)
  else none

/-- The code unit that four hexadecimal digits spell. -/
def codeUnit (first second third fourth : Char) : Option Nat := do
  return (((← hexValue first) * 16 + (← hexValue second)) * 16 + (← hexValue third)) * 16
    + (← hexValue fourth)

/-- How a code unit of fewer than four characters ends: the input counts as cut off unless at least
four bytes are left of it. -/
def shortCodeEnd (rest : List Char) : TextEnd :=
  if Text.shorterThan 4 rest then .cutOff else .notHexadecimal

/-- Scans the input behind an opening quote. -/
def scanText : List Char → TextScan
  | [] => ⟨[], .cutOff, []⟩
  | character :: rest =>
    if character = '"' then ⟨[], .closed, rest⟩
    else if character = '\\' then
      match rest with
      | [] => ⟨[], .cutOff, []⟩
      | letter :: rest =>
        if letter = 'u' then
          match rest with
          | first :: second :: third :: fourth :: rest =>
            match codeUnit first second third fourth with
            | some unit => (scanText rest).cons (.code unit)
            | none => ⟨[], .notHexadecimal, []⟩
          | rest => ⟨[], shortCodeEnd rest, []⟩
        else
          match shortEscape letter with
          | some named => (scanText rest).cons (.plain named)
          | none => ⟨[], .unknownEscape, []⟩
    else if character < ' ' then ⟨[], .control, []⟩
    else (scanText rest).cons (.plain character)

/-- Whether a code unit is the first half of a pair of surrogates. -/
def isHighSurrogate (unit : Nat) : Bool :=
  0xD800 ≤ unit && unit ≤ 0xDBFF

/-- Whether a code unit is the second half of a pair of surrogates. -/
def isLowSurrogate (unit : Nat) : Bool :=
  0xDC00 ≤ unit && unit ≤ 0xDFFF

/-- The character of a pair of surrogates. -/
def pairedCharacter (high low : Nat) : Char :=
  .ofNat ((high - 0xD800) * 0x400 + (low - 0xDC00) + 0x10000)

/-- The fault of a high surrogate behind which the text ends. -/
def TextEnd.surrogateFault : TextEnd → Fault
  | cutOff => .endOfText
  | notHexadecimal => .invalidEscape
  | closed | control | unknownEscape => .unpairedSurrogate

/-- Decodes units up to the end. The first fault counts. -/
def decodeUnits (ending : TextEnd) : List TextUnit → Except Fault (List Char)
  | [] =>
    match ending.fault with
    | none => .ok []
    | some fault => .error fault
  | .plain character :: rest => (decodeUnits ending rest).map (character :: ·)
  | .code unit :: rest =>
    if isLowSurrogate unit then .error .loneSurrogate
    else if isHighSurrogate unit then
      match rest with
      | [] => .error ending.surrogateFault
      | .plain _ :: _ => .error .unpairedSurrogate
      | .code next :: rest =>
        if isLowSurrogate next then
          (decodeUnits ending rest).map (pairedCharacter unit next :: ·)
        else .error .loneSurrogate
    else (decodeUnits ending rest).map (Char.ofNat unit :: ·)

/-- The quoted text that a scan found. -/
def TextScan.quoted (scan : TextScan) : Quoted :=
  ⟨(decodeUnits scan.ending scan.units).map .ofList, scan.ending.fault⟩

/-- Scanning never lengthens the input. -/
theorem scanText_rest_length (text : List Char) : (scanText text).rest.length ≤ text.length := by
  fun_induction scanText text <;> simp_all [TextScan.cons] <;> omega

end DbSchema.Json
