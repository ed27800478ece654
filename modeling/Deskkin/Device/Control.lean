/-
# Control commands of the device

What the supervisor thread asks of the service worker and what the worker
answers.
-/

import Mathlib.Tactic.Common

namespace Deskkin.Device

inductive ServiceStatus
  | success
  | invalid
  | alreadyInitialized
  | missing
  | storeFailed
  | peerMismatch
  | busy
  deriving DecidableEq

inductive ControlCommand
  | identityInit
  | identityList
  | identityUnpair
  | wifiProvision
  | wifiStatus
  | wifiClear
  | run
  | status
  | shutdown
  | worldBenchmarkStart
  deriving DecidableEq

/-- A decoded control frame, less the command id that its answer repeats. -/
structure ControlFrame where
  command : ControlCommand
  ownerGeneration : ℕ
  payload : List UInt8
  deriving DecidableEq

/-- A command that ends a connection, to be answered once it is closed. -/
inductive ActiveControl
  | shutdown
  | unpair
  deriving DecidableEq

/-- Why a session of the worker ended. -/
inductive SessionFailure
  | store
  | wifi
  | dhcp
  | tcp
  | noise
  | protocol
  | rejected
  | incompatible
  | authorizationDenied
  | sessionBusy
  | cancelled
  | control (active : ActiveControl)
  deriving DecidableEq

end Deskkin.Device
