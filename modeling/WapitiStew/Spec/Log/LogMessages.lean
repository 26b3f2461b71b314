import WapitiStew.Framework.Transition
import WapitiStew.Impl.Log.LogMessageBuilder

/-!
# Log messages

The limits that a message keeps while it is built, and the line that it is rendered to.
-/

namespace WSE.Spec.Log

open WSE.Framework WSE.Impl.Log

/-!
## The limits of a log message

The bytes of the parts are those of their texts and of the line ends. A builder that is valid counts
them exactly, is inside both limits, and its parts give the runtime no reason to refuse a record.
-/

def bytesOf (endLine : Bytes) (parts : List LogPart) : Nat :=
  (parts.map fun p => if p.kind = .newLine then endLine.length else p.text.length).sum

structure Agrees (endLine : Bytes) (b : LogMessageBuilder) : Prop where
  counted : b.bytes = bytesOf endLine b.parts
  bytes : b.bytes ≤ b.byteLimit
  parts : b.parts.length ≤ b.partLimit
  accepted : ∀ (record : AsyncLogRecord) (settings : AsyncLogSettings),
    settings.recordByteLimit = b.byteLimit → settings.recordPartLimit = b.partLimit →
      validRecord endLine { record with parts := b.parts } settings =
        validRecord endLine { record with parts := [] } settings

/-- The text that an append adds after the separator, if it gets to that. -/
def textOf : LogAppend → Option Bytes
  | .text text _ => some text
  | .cText text _ => text
  | .wide _ utf8 _ => utf8
  | .wideC _ utf8 _ => utf8
  | .bool value _ => some (LogMessageBuilder.boolText value)
  | .value text _ => text
  | .control _ _ => none

/-- The append would exceed a limit. -/
def Exceeds (endLine : Bytes) (b : LogMessageBuilder) (a : LogAppend) : Prop :=
  (∃ text, textOf a = some text ∧
    (b.byteLimit < b.bytes + b.separator.length + text.length ∨
      b.needsPart = true ∧ b.partLimit ≤ b.parts.length)) ∨
  ∃ fails, a = .control 0 fails ∧
    (b.byteLimit < b.bytes + endLine.length ∨ b.partLimit ≤ b.parts.length)

/-!
## What a rendered line holds

A line is its tag, its prefix, the place it comes from, one piece for each part and its end. Only
the piece of an explicit new line and the end of the line have a line feed, a carriage return or a
zero, whatever the texts of the record hold.
-/

/-- A line feed, a carriage return or a zero. -/
def LineControl (b : Byte) : Prop := b = 10 ∨ b = 13 ∨ b = 0

instance (b : Byte) : Decidable (LineControl b) :=
  inferInstanceAs (Decidable (b = 10 ∨ b = 13 ∨ b = 0))

def Clean (text : Bytes) : Prop := ∀ b ∈ text, ¬LineControl b

/-- A piece that may stand for a part. -/
def Rendered (endLine : Bytes) (part : LogPart) (piece : Bytes) : Prop :=
  if part.kind = .newLine then piece = endLine else Clean piece

def RenderedParts (endLine : Bytes) (parts : List LogPart) (text : Bytes) : Prop :=
  ∃ pieces, List.Forall₂ (Rendered endLine) parts pieces ∧ text = pieces.flatten

/-- The line ends that a line with these parts has. -/
def lineEnds (suffix : Int32) (parts : List LogPart) : Nat :=
  parts.countP (·.kind = .newLine) + if suffix = 1 then 1 else 0

structure SafeLine (endLine : Bytes) (suffix : Int32) (stamp : Bytes) (parts : List LogPart)
    (line : Bytes) : Prop where
  laid_out : ∃ tag place body, line = [60] ++ tag ++ [62] ++ stamp ++ place ++ body ++
    (if suffix = 1 then endLine else []) ∧ Clean tag ∧ Clean place ∧
    RenderedParts endLine parts body
  stamp_clean : Clean stamp
  counted : ∀ b, LineControl b → line.count b = lineEnds suffix parts * endLine.count b

end WSE.Spec.Log
