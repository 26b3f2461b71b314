import Mathlib.Data.Nat.Digits.Defs
import WapitiStew.Framework.Memory
import WapitiStew.Impl.Log.AsyncLogRuntime

/-!
# The text of a log record

`renderLogParts`, `timestampPrefix` and `defaultFormat` of `core/wse/utility/AsyncLogRuntime.cpp`,
with `formatLogMessage` of `core/wse/utility/wse_Log.cpp` and `getLogSuffix` of
`api/wse/utility/wse_Log.h`. The line end is the platform's, and so is the local time of a
timestamp. Streams format numbers as in the classic locale.
-/

namespace WSE.Impl.Log

open WSE.Framework

/-! ## Parts -/

/-- A character of a text part: `"\\n"`, `"\\r"` and `"\\0"` stand for the three that are not
printed. -/
def escapeByte (character : Byte) : Bytes :=
  if character = 10 then [92, 110]
  else if character = 13 then [92, 114]
  else if character = 0 then [92, 48]
  else [character]

def renderLogPart (endLine : Bytes) (part : LogPart) : Bytes :=
  if part.kind = .newLine then endLine else part.text.flatMap escapeByte

def renderLogParts (endLine : Bytes) (parts : List LogPart) : Bytes :=
  parts.flatMap (renderLogPart endLine)

/-! ## The layout of a line -/

def getLogSuffix (endLine : Bytes) (suffix : Int32) : Bytes := if suffix = 1 then endLine else []

/-- What stands after the last separator of a path; `defaultFormat` finds its own the same way. -/
def extractFileName (path : Bytes) : Bytes :=
  (path.reverse.takeWhile fun c => c ≠ 47 && c ≠ 92).reverse

/-- The decimal digits of a number. -/
def decimal (n : Nat) : Bytes :=
  if n = 0 then [48] else (Nat.digits 10 n).reverse.map fun d => 48 + UInt8.ofNat d

def decimalInt (n : Int) : Bytes := if n < 0 then 45 :: decimal n.natAbs else decimal n.natAbs

/-- A field of a width, aligned to the left. -/
def padRight (width : Nat) (text : Bytes) : Bytes :=
  text ++ List.replicate (width - text.length) 32

def getLineTag (line : Int32) : Bytes := padRight 6 (decimalInt line.toInt)

/-- `formatLogMessage`, with what `getLogPrefix` gives. A C string ends before its first zero. -/
def formatLogMessage (endLine tag pre : Bytes) (suffix : Int32) (message file : Bytes)
    (line : Int32) : Bytes :=
  let logTag := [60] ++ tag ++ [62]
  let fileTag := if file.isEmpty then []
    else [40, 32] ++ extractFileName (file.takeWhile (· ≠ 0)) ++ [32, 41, 32]
  let lineTag := if line = 0 then [] else getLineTag line
  logTag ++ pre ++ fileTag ++ lineTag ++ message ++ getLogSuffix endLine suffix

/-! ## The default format -/

/-- The fields of `std::tm` that the prefix prints. -/
structure LocalTime where
  year : Int
  month : Nat
  day : Nat
  hour : Nat
  minute : Nat
  second : Nat
  deriving DecidableEq

/-- The digit of a place. -/
def digitAt (place n : Nat) : Byte := 48 + UInt8.ofNat (n / place % 10)

def twoDigits (n : Nat) : Bytes := [digitAt 10 n, digitAt 1 n]

/-- The milliseconds of a timestamp inside its second. -/
def millisecondsOf (timestamp : Int) : Nat :=
  let milliseconds := (timestamp.tdiv 1000000).tmod 1000
  (if milliseconds < 0 then milliseconds + 1000 else milliseconds).toNat

/-- `%y/%m/%d`. -/
def putDate (t : LocalTime) : Bytes :=
  twoDigits (t.year % 100).toNat ++ [47] ++ twoDigits t.month ++ [47] ++ twoDigits t.day

/-- `%H:%M:%S`. -/
def putTime (t : LocalTime) : Bytes :=
  twoDigits t.hour ++ [58] ++ twoDigits t.minute ++ [58] ++ twoDigits t.second

/-- The prefixes are `NONE`, `TIME`, `DATE` and `FULL`. -/
def timestampPrefix (localTime : Int → LocalTime) (timestamp : Int) (logPrefix : Int32) : Bytes :=
  if logPrefix = 0 then []
  else
    let time := localTime timestamp
    let milliseconds := millisecondsOf timestamp
    [91, 32] ++
      (if logPrefix = 2 ∨ logPrefix = 3 then putDate time else []) ++
      (if logPrefix = 3 then [45] else []) ++
      (if logPrefix = 1 ∨ logPrefix = 3 then
        putTime time ++ [46, digitAt 100 milliseconds] ++ twoDigits milliseconds else []) ++
      [32, 93]

/-- `std::string::insert`; a position past the end throws. -/
def insertAt (text : Bytes) (position : Nat) (inserted : Bytes) : Option Bytes :=
  if position ≤ text.length then
    some (text.take position ++ inserted ++ text.drop position)
  else none

def defaultFormat (endLine : Bytes) (localTime : Int → LocalTime) (record : AsyncLogRecord)
    (settings : AsyncLogSettings) : Option Bytes :=
  let safeTag := renderLogParts endLine [{ kind := .text, text := record.tag }]
  let safeFile :=
    renderLogParts endLine [{ kind := .text, text := extractFileName record.file }]
  let location := (if record.file.isEmpty then [] else [40, 32] ++ safeFile ++ [32, 41, 32]) ++
    (if record.line = 0 then [] else padRight 6 (decimalInt record.line.toInt))
  let text := formatLogMessage endLine safeTag [] settings.suffix
    (location ++ renderLogParts endLine record.parts) [] 0
  insertAt text (safeTag.length + 2) (timestampPrefix localTime record.timestamp settings.logPrefix)

/-!
## The builder of a log message

`LogMessageBuilder` and `AsyncLogLine` of `core/wse/utility/LogMessageBuilder.cpp`, with
`getLogSeparator` of `api/wse/utility/wse_Log.h`. A result that is `none` stands for a size that
wraps. An allocation or a conversion fails where the environment says so; the exception leaves the
builder invalid. What `std::to_string`, `toHex` and `wstring2UTF8` give is the environment's, and a
C string is what stands before its terminator.
-/

def getLogSeparator (separate : Int32) : Bytes :=
  if separate = 0 then [44]
  else if separate = 1 then [32]
  else if separate = 2 then [9]
  else if separate = 3 then [58]
  else if separate = 4 then [59]
  else []

/-- `limit - used`, in `std::size_t`. -/
def remaining (limit used : Nat) : Option Nat :=
  if used ≤ limit then some (limit - used) else none

/-- Where an allocation of `append` fails. -/
inductive AppendFailure
  | copy | part | separator | text
  deriving DecidableEq

structure LogMessageBuilder where
  parts : List LogPart := []
  separator : Bytes
  byteLimit : Nat
  partLimit : Nat
  bytes : Nat := 0
  isValid : Bool
  deriving DecidableEq

namespace LogMessageBuilder

def make (separate : Int32) (byteLimit partLimit : UInt64) : LogMessageBuilder where
  separator := getLogSeparator separate
  byteLimit := byteLimit.toNat
  partLimit := partLimit.toNat
  isValid := !(getLogSeparator separate).isEmpty && byteLimit > 0 && partLimit > 0

def invalidate (b : LogMessageBuilder) : LogMessageBuilder := { b with isValid := false }

/-- `parts.empty() || parts.back().kind != eLogPartKind::Text`. -/
def needsPart (b : LogMessageBuilder) : Bool := b.parts.getLast?.all (·.kind ≠ .text)

/-- `parts.back().text.append( text )`. -/
def appendBack (parts : List LogPart) (text : Bytes) : List LogPart :=
  parts.dropLast ++ parts.getLast?.toList.map fun p => { p with text := p.text ++ text }

def appendText (b : LogMessageBuilder) (text : Bytes) (fails : Option AppendFailure) :
    Option LogMessageBuilder := do
  if !b.isValid then return b
  let available ← remaining b.byteLimit b.bytes
  if text.length > available then return b.invalidate
  let available ← remaining available text.length
  if b.separator.length > available then return b.invalidate
  if fails = some .copy then return b.invalidate
  if b.needsPart && b.parts.length ≥ b.partLimit then return b.invalidate
  if b.needsPart && fails = some .part then return b.invalidate
  let parts := if b.needsPart then b.parts ++ [{ kind := .text }] else b.parts
  if fails = some .separator then return { b with parts := parts, isValid := false }
  let parts := appendBack parts b.separator
  if fails = some .text then return { b with parts := parts, isValid := false }
  let added ← add64 b.separator.length text.length
  let bytes ← add64 b.bytes added
  return { b with parts := appendBack parts text, bytes := bytes }

/-- The loop that measures a C string, up to one character more than there is room for. -/
def scanLength {α : Type} (available : Nat) : Nat → List α → Nat
  | length, [] => length
  | length, _ :: rest => if length ≤ available then scanLength available (length + 1) rest else length

/-- `append( const char* )`; `none` is a null pointer. -/
def appendCText (b : LogMessageBuilder) (text : Option Bytes) (fails : Option AppendFailure) :
    Option LogMessageBuilder :=
  match text with
  | none => some b.invalidate
  | some text => do
    let available ← remaining b.byteLimit b.bytes
    let length := scanLength available 0 text
    if length > available then return b.invalidate
    b.appendText (text.take length) fails

/-- `append( const std::wstring& )`, with what the conversion gives. -/
def appendWide (b : LogMessageBuilder) (text : List UInt32) (utf8 : Option Bytes)
    (fails : Option AppendFailure) : Option LogMessageBuilder := do
  let available ← remaining b.byteLimit b.bytes
  if text.length > available then return b.invalidate
  match utf8 with
  | none => return b.invalidate
  | some utf8 => b.appendText utf8 fails

/-- `append( const wchar_t* )`. -/
def appendWideC (b : LogMessageBuilder) (text : Option (List UInt32)) (utf8 : Option Bytes)
    (fails : Option AppendFailure) : Option LogMessageBuilder :=
  match text with
  | none => some b.invalidate
  | some text => do
    let available ← remaining b.byteLimit b.bytes
    let length := scanLength available 0 text
    if length > available then return b.invalidate
    b.appendWide (text.take length) utf8 fails

/-- `"true"` and `"false"`. -/
def boolText (value : Bool) : Bytes :=
  if value then [116, 114, 117, 101] else [102, 97, 108, 115, 101]

/-- `append` of a number and `appendEnum`, with the text of the value. -/
def appendValue (b : LogMessageBuilder) (text : Option Bytes) (fails : Option AppendFailure) :
    Option LogMessageBuilder :=
  match text with
  | none => some b.invalidate
  | some text => b.appendText text fails

/-- `append( eLogControl )`; the control 0 is `NewLine`. -/
def appendControl (endLine : Bytes) (b : LogMessageBuilder) (control : Int32) (fails : Bool) :
    Option LogMessageBuilder := do
  if !b.isValid || control ≠ 0 then return b.invalidate
  let available ← remaining b.byteLimit b.bytes
  if endLine.length > available || b.parts.length ≥ b.partLimit then return b.invalidate
  if fails then return b.invalidate
  let bytes ← add64 b.bytes endLine.length
  return { b with parts := b.parts ++ [{ kind := .newLine }], bytes := bytes }

end LogMessageBuilder

inductive LogAppend
  | text (text : Bytes) (fails : Option AppendFailure)
  | cText (text : Option Bytes) (fails : Option AppendFailure)
  | wide (text : List UInt32) (utf8 : Option Bytes) (fails : Option AppendFailure)
  | wideC (text : Option (List UInt32)) (utf8 : Option Bytes) (fails : Option AppendFailure)
  | bool (value : Bool) (fails : Option AppendFailure)
  | value (text : Option Bytes) (fails : Option AppendFailure)
  | control (control : Int32) (fails : Bool)
  deriving DecidableEq

def builderStep (endLine : Bytes) (b : LogMessageBuilder) : LogAppend → Option LogMessageBuilder
  | .text text fails => b.appendText text fails
  | .cText text fails => b.appendCText text fails
  | .wide text utf8 fails => b.appendWide text utf8 fails
  | .wideC text utf8 fails => b.appendWideC text utf8 fails
  | .bool value fails => b.appendCText (some (LogMessageBuilder.boolText value)) fails
  | .value text fails => b.appendValue text fails
  | .control control fails => b.appendControl endLine control fails

/-- The record that `~AsyncLogLine` hands to the runtime. -/
def lineRecord (b : LogMessageBuilder) (record : AsyncLogRecord) : AsyncLogRecord :=
  { record with parts := if b.isValid then b.parts else b.parts ++ [{ kind := .other }] }

end WSE.Impl.Log
