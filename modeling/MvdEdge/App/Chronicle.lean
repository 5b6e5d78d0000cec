import MvdEdge.App.Journaled
import MvdEdge.Health.Status

/-! What a run of the agent has in its journal when it keeps one of what happened to the
reader and of the heartbeats, each with the state of the moment. -/

set_option autoImplicit false

namespace MvdEdge

open Lib

structure Entry where
  happening : Happening
  world : World

/-- What the answer of `read_inventory_events` tells of the inventory. -/
def InventoryRead.happening (read : InventoryRead) : Happening :=
  if read.readerState = .DISCONNECTED then .lost
  else if read.message = InventoryStatus.NO_RESPONSE.value then .answered .NO_RESPONSE
  else if read.message = InventoryStatus.MALFORMED.value then .answered .MALFORMED
  else .answered .VALID

theorem readInventoryEvents_happening (call : InventoryCall) (state : PresenceState)
    (healthState : Option HealthState) (readerId : Option Str) :
    (readInventoryEvents call state healthState readerId).happening =
      match call.inventory with
      | .ok result => .answered result.status
      | .error _ => .lost := by
  have apart : InventoryStatus.MALFORMED.value ≠ InventoryStatus.NO_RESPONSE.value := by decide
  have silent : ([] : Str) ≠ InventoryStatus.NO_RESPONSE.value := by decide
  have formed : ([] : Str) ≠ InventoryStatus.MALFORMED.value := by decide
  have ready : ReaderState.READY ≠ .DISCONNECTED := by decide
  obtain ⟨inventory, now, stamp, mint⟩ := call
  cases inventory with
  | error message => exact if_pos rfl
  | ok result =>
      obtain ⟨status, tags⟩ := result
      cases status with
      | VALID => exact (if_neg ready).trans ((if_neg silent).trans (if_neg formed))
      | NO_RESPONSE => exact (if_neg ready).trans (if_pos rfl)
      | MALFORMED => exact (if_neg ready).trans ((if_neg apart).trans (if_pos rfl))

/-- The status once the loop has taken over the state that was read. -/
def InventoryRead.status (read : InventoryRead) : Option ReaderStatus :=
  read.healthState.map fun health => (health.setReaderState read.readerState).readerStatus

theorem readInventoryEvents_status (call : InventoryCall) (state : PresenceState)
    (health : HealthState) (readerId : Option Str) :
    let read := readInventoryEvents call state (some health) readerId
    read.status = some (health.readerStatus.step read.happening) := by
  intro read
  rw [readInventoryEvents_happening]
  obtain ⟨inventory, now, stamp, mint⟩ := call
  cases inventory with
  | error message => rfl
  | ok result =>
      obtain ⟨status, tags⟩ := result
      cases status with
      | VALID | NO_RESPONSE | MALFORMED => rfl

theorem InventoryRead.status_readerState {read : InventoryRead} {status : ReaderStatus}
    (shown : read.status = some status) : status.readerState = read.readerState := by
  obtain ⟨health, known, rfl⟩ := Option.map_eq_some_iff.mp shown
  rfl

theorem InventoryRead.live {read : InventoryRead} {history : List Happening}
    (kept : read.readerState = .READY) (live : Live history) :
    Live (read.happening :: history) := by
  unfold happening
  rw [if_neg (by simp [kept])]
  split
  · exact .answered _ live
  · split
    · exact .answered _ live
    · exact .answered _ live

/-- What a chronicle notes: the attempts to connect, the answers to inventories, and the
heartbeats before they are sent. -/
def Chronicle.note : Mark → World → Option Entry
  | .tried, world => some ⟨.attempted world.readerState, world⟩
  | .answered read, world => some ⟨read.happening, world⟩
  | .beating, world => some ⟨.heartbeat, world⟩
  | _, _ => none

end MvdEdge
