/-
# Peer states

What an identity record says about the peer. A pairing takes the record from
unpaired over pending and committing to paired, always for the same remote key
and the same pairing transaction; an unpair takes it over revoking back to
unpaired. Keys and transactions are parameters: the hosted store writes both in
hexadecimal, the pairing exchange compares raw values.
-/

import Mathlib.Tactic.Common

namespace Deskkin

inductive PeerState (κ τ : Type*)
  | unpaired
  | pending (remotePublicKey : κ) (pairingTransactionId : τ)
  | committing (remotePublicKey : κ) (pairingTransactionId : τ)
  | paired (remotePublicKey : κ) (pairingTransactionId : τ)
  | revoking (remotePublicKey : κ) (previousPairingTransactionId : τ)
  deriving DecidableEq

namespace PeerState

variable {κ τ : Type*}

/-- The remote key and the transaction a state names. -/
def names : PeerState κ τ → Option (κ × τ)
  | .unpaired => none
  | .pending key transaction | .committing key transaction | .paired key transaction
  | .revoking key transaction => some (key, transaction)

variable [DecidableEq κ] [DecidableEq τ]

/-- The transitions `set_peer` accepts. An unpair does not go through it. -/
def validTransition (current next : PeerState κ τ) : Bool :=
  match current, next with
  | .unpaired, .pending _ _ => true
  | .pending currentKey currentTransaction, .committing nextKey nextTransaction
  | .committing currentKey currentTransaction, .paired nextKey nextTransaction =>
      decide (currentKey = nextKey ∧ currentTransaction = nextTransaction)
  | _, _ => false

/-- A transition advances the pairing by one stage and keeps what the record
names. -/
theorem validTransition_iff {current next : PeerState κ τ} :
    validTransition current next = true ↔
      (∃ key transaction, current = .unpaired ∧ next = .pending key transaction) ∨
      (∃ key transaction, current = .pending key transaction ∧
        next = .committing key transaction) ∨
      ∃ key transaction, current = .committing key transaction ∧
        next = .paired key transaction := by
  cases current <;> cases next <;> simp [validTransition]

end PeerState

end Deskkin
