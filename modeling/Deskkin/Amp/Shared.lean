/-
# The memory the two cores share

The service core and the renderer core exchange values through structures in a
common region of memory. Each structure is laid out as the C compiler lays it out:
its fields follow one another without gaps, least significant byte first.
-/

import Deskkin.Lib.Layout
import Mathlib.Tactic.Common

namespace Deskkin.Amp

open Layout

def heartbeatMagic : UInt32 := 0x44534b4e

def worldMagic : UInt32 := 0x4453574c

def worldSchema : UInt8 := 2

def worldValueMask : UInt8 := 0x7f

def worldFilterBilinear : UInt8 := 0x80

def channelSchema : UInt8 := 1

def shellPaired : UInt8 := 4

/-! ## The world snapshot -/

structure WorldSnapshot where
  magic : UInt32
  generation : UInt32
  observedYaw : Int64
  sas : UInt32
  schema : UInt8
  shell : UInt8
  availability : UInt8
  notice : UInt8
  deriving DecidableEq

def WorldSnapshot.size : ℕ := 24

def WorldSnapshot.fields (s : WorldSnapshot) : List (ℕ × ℕ) :=
  [(4, s.magic.toNat), (4, s.generation.toNat), (8, s.observedYaw.toUInt64.toNat),
    (4, s.sas.toNat), (1, s.schema.toNat), (1, s.shell.toNat), (1, s.availability.toNat),
    (1, s.notice.toNat)]

def WorldSnapshot.bytes (s : WorldSnapshot) : List UInt8 := packed s.fields

def WorldSnapshot.ofBytes (bytes : List UInt8) : WorldSnapshot where
  magic := .ofNat (number bytes 0 4)
  generation := .ofNat (number bytes 4 4)
  observedYaw := (UInt64.ofNat (number bytes 8 8)).toInt64
  sas := .ofNat (number bytes 16 4)
  schema := .ofNat (number bytes 20 1)
  shell := .ofNat (number bytes 21 1)
  availability := .ofNat (number bytes 22 1)
  notice := .ofNat (number bytes 23 1)

theorem byte_lt (x : UInt8) : x.toNat < 256 ^ 1 := x.toNat_lt

theorem half_lt (x : UInt16) : x.toNat < 256 ^ 2 := x.toNat_lt

theorem word_lt (x : UInt32) : x.toNat < 256 ^ 4 := x.toNat_lt

theorem double_lt (x : UInt64) : x.toNat < 256 ^ 8 := x.toNat_lt

theorem WorldSnapshot.length_bytes (s : WorldSnapshot) : s.bytes.length = WorldSnapshot.size :=
  length_packed _

/-- What is stored is read back. -/
theorem WorldSnapshot.ofBytes_bytes (s : WorldSnapshot) : WorldSnapshot.ofBytes s.bytes = s := by
  have magic : number s.bytes 0 4 = _ := number_packed s.fields 0 rfl rfl (word_lt _)
  have generation : number s.bytes 4 4 = _ := number_packed s.fields 1 rfl rfl (word_lt _)
  have yaw : number s.bytes 8 8 = _ := number_packed s.fields 2 rfl rfl (double_lt _)
  have sas : number s.bytes 16 4 = _ := number_packed s.fields 3 rfl rfl (word_lt _)
  have schema : number s.bytes 20 1 = _ := number_packed s.fields 4 rfl rfl (byte_lt _)
  have shell : number s.bytes 21 1 = _ := number_packed s.fields 5 rfl rfl (byte_lt _)
  have availability : number s.bytes 22 1 = _ := number_packed s.fields 6 rfl rfl (byte_lt _)
  have notice : number s.bytes 23 1 = _ := number_packed s.fields 7 rfl rfl (byte_lt _)
  simp [ofBytes, magic, generation, yaw, sas, schema, shell, availability, notice]

/-! ## The touch sample -/

/-- A touch sample without its publication number, which stands before it. -/
structure TouchSample where
  generation : UInt32
  x : Int16
  y : Int16
  pressed : UInt8
  schema : UInt8
  deriving DecidableEq

def TouchSample.size : ℕ := 12

/-- The last two bytes are reserved. -/
def TouchSample.fields (s : TouchSample) : List (ℕ × ℕ) :=
  [(4, s.generation.toNat), (2, s.x.toUInt16.toNat), (2, s.y.toUInt16.toNat),
    (1, s.pressed.toNat), (1, s.schema.toNat), (2, 0)]

def TouchSample.bytes (s : TouchSample) : List UInt8 := packed s.fields

def TouchSample.ofBytes (bytes : List UInt8) : TouchSample where
  generation := .ofNat (number bytes 0 4)
  x := (UInt16.ofNat (number bytes 4 2)).toInt16
  y := (UInt16.ofNat (number bytes 6 2)).toInt16
  pressed := .ofNat (number bytes 8 1)
  schema := .ofNat (number bytes 9 1)

theorem TouchSample.length_bytes (s : TouchSample) : s.bytes.length = TouchSample.size :=
  length_packed _

theorem TouchSample.ofBytes_bytes (s : TouchSample) : TouchSample.ofBytes s.bytes = s := by
  have generation : number s.bytes 0 4 = _ := number_packed s.fields 0 rfl rfl (word_lt _)
  have x : number s.bytes 4 2 = _ := number_packed s.fields 1 rfl rfl (half_lt _)
  have y : number s.bytes 6 2 = _ := number_packed s.fields 2 rfl rfl (half_lt _)
  have pressed : number s.bytes 8 1 = _ := number_packed s.fields 3 rfl rfl (byte_lt _)
  have schema : number s.bytes 9 1 = _ := number_packed s.fields 4 rfl rfl (byte_lt _)
  simp [ofBytes, generation, x, y, pressed, schema]

/-! ## The command of the user interface -/

structure UiCommand where
  generation : UInt32
  command : UInt8
  schema : UInt8
  deriving DecidableEq

def UiCommand.size : ℕ := 8

/-- The last two bytes are reserved. -/
def UiCommand.fields (c : UiCommand) : List (ℕ × ℕ) :=
  [(4, c.generation.toNat), (1, c.command.toNat), (1, c.schema.toNat), (2, 0)]

def UiCommand.bytes (c : UiCommand) : List UInt8 := packed c.fields

def UiCommand.ofBytes (bytes : List UInt8) : UiCommand where
  generation := .ofNat (number bytes 0 4)
  command := .ofNat (number bytes 4 1)
  schema := .ofNat (number bytes 5 1)

theorem UiCommand.length_bytes (c : UiCommand) : c.bytes.length = UiCommand.size :=
  length_packed _

theorem UiCommand.ofBytes_bytes (c : UiCommand) : UiCommand.ofBytes c.bytes = c := by
  have generation : number c.bytes 0 4 = _ := number_packed c.fields 0 rfl rfl (word_lt _)
  have command : number c.bytes 4 1 = _ := number_packed c.fields 1 rfl rfl (byte_lt _)
  have schema : number c.bytes 5 1 = _ := number_packed c.fields 2 rfl rfl (byte_lt _)
  simp [ofBytes, generation, command, schema]

/-! ## The target yaw -/

structure TargetYaw where
  generation : UInt32
  schema : UInt8
  value : Int64
  deriving DecidableEq

def TargetYaw.size : ℕ := 16

/-- Three reserved bytes stand before the value. -/
def TargetYaw.fields (t : TargetYaw) : List (ℕ × ℕ) :=
  [(4, t.generation.toNat), (1, t.schema.toNat), (3, 0), (8, t.value.toUInt64.toNat)]

def TargetYaw.bytes (t : TargetYaw) : List UInt8 := packed t.fields

def TargetYaw.ofBytes (bytes : List UInt8) : TargetYaw where
  generation := .ofNat (number bytes 0 4)
  schema := .ofNat (number bytes 4 1)
  value := (UInt64.ofNat (number bytes 8 8)).toInt64

theorem TargetYaw.length_bytes (t : TargetYaw) : t.bytes.length = TargetYaw.size :=
  length_packed _

theorem TargetYaw.ofBytes_bytes (t : TargetYaw) : TargetYaw.ofBytes t.bytes = t := by
  have generation : number t.bytes 0 4 = _ := number_packed t.fields 0 rfl rfl (word_lt _)
  have schema : number t.bytes 4 1 = _ := number_packed t.fields 1 rfl rfl (byte_lt _)
  have value : number t.bytes 8 8 = _ := number_packed t.fields 3 rfl rfl (double_lt _)
  simp [ofBytes, generation, schema, value]

/-! ## The renderer heartbeat -/

/-- What the renderer reports in a heartbeat, in the order of the structure: the
fields from the completed frames to the dirty rectangles, and those behind the
schema. -/
structure Measures where
  counters : List UInt8
  further : List UInt8
  counters_length : counters.length = 29
  further_length : further.length = 86

/-- The fields of a heartbeat that its reader checks. -/
structure Heartbeat where
  magic : UInt32
  generation : UInt32
  schema : UInt8
  deriving DecidableEq

def Heartbeat.size : ℕ := 124

def Heartbeat.bytes (h : Heartbeat) (measures : Measures) : List UInt8 :=
  little 4 h.magic.toNat ++ (little 4 h.generation.toNat ++ (measures.counters ++
    (little 1 h.schema.toNat ++ measures.further)))

def Heartbeat.ofBytes (bytes : List UInt8) : Heartbeat where
  magic := .ofNat (number bytes 0 4)
  generation := .ofNat (number bytes 4 4)
  schema := .ofNat (number bytes 37 1)

theorem Heartbeat.length_bytes (h : Heartbeat) (measures : Measures) :
    (h.bytes measures).length = Heartbeat.size := by
  simp [bytes, size, measures.counters_length, measures.further_length]

end Deskkin.Amp
