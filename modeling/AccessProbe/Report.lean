import AccessProbe.Text.Utf8

/-! The report of the program, which may be limited to a number of bytes. -/

namespace AccessProbe

/-- The bytes written so far and the room that is left. -/
structure Report where
  written : List UInt8
  /-- How many more bytes may be written, if there is a limit. -/
  room : Option Nat
  deriving DecidableEq, Repr

namespace Report

/-- An empty report. -/
def empty (room : Option Nat) : Report := ⟨[], room⟩

/-- Appends as many of the bytes as there is room for. -/
def append (report : Report) (bytes : List UInt8) : Report :=
  match report.room with
  | none => ⟨report.written ++ bytes, none⟩
  | some room => ⟨report.written ++ bytes.take room, some (room - bytes.length)⟩

/-- Whether there is room for a number of bytes. -/
def fits (report : Report) (size : Nat) : Bool := report.room.all (size ≤ ·)

/-- The report as a string. -/
def text (report : Report) : String := String.ofList (Utf8.decodeLossy report.written)

end Report

end AccessProbe
