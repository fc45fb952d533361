import EspNmeaBridge.Config
import Mathlib.Data.List.FinRange
import Mathlib.Logic.Function.Basic

/-!
# TCP NMEA server

The client slots of `tcp_nmea_server.c`, the functions on them, and the positions
of its threads.  A section under `clients_lock` is one step.
-/

namespace EspNmeaBridge

/-- Positions inside `client_thread`, from its entry to its return.  `logging` is
the last `LOG_INF`, after `close_client` has released `clients_lock`. -/
inductive ClientPc where
  | enter
  | session
  | clearFd
  | closeFd
  | clearActive
  | logging
  deriving DecidableEq, Repr

/-- `struct client_slot`.  The kernel thread object and its stack are in use from
`k_thread_create` until the entry function has returned. -/
structure ClientSlot where
  fd : Int := -1
  active : Bool := false
  thread : Option ClientPc := none
  deriving DecidableEq, Repr

/-- `struct tcp_nmea_server_stats` -/
structure TcpNmeaServerStats where
  activeClients : UInt32 := 0
  maxClients : UInt32
  deriving DecidableEq, Repr

/-- Positions inside `server_thread`; `stopped` before it is created, or after it
has given up. -/
inductive ServerPc (config : Config) where
  | stopped
  | socket
  | bind
  | listen
  | closeListener
  | accept
  | allocClient (fd : Int)
  | reject (fd : Int)
  | setFd (i : Fin config.tcpNmeaServerMaxClients) (fd : Int)
  | createThread (i : Fin config.tcpNmeaServerMaxClients)
  deriving DecidableEq, Repr

namespace TcpNmeaServer

variable {config : Config}

/-- `clients` -/
abbrev Clients (config : Config) := Fin config.tcpNmeaServerMaxClients → ClientSlot

/-- `alloc_client` -/
def allocClient (clients : Clients config) :
    Clients config × Option (Fin config.tcpNmeaServerMaxClients) :=
  match (List.finRange _).find? fun i => !(clients i).active with
  | some i =>
      (Function.update clients i { clients i with fd := -1, active := true }, some i)
  | none => (clients, none)

/-- The first part of `close_client`, up to `clients_lock`. -/
def closeClientFd (client : ClientSlot) : ClientSlot :=
  if client.fd ≥ 0 then { client with fd := -1 } else client

/-- `tcp_nmea_server_get_stats` -/
def getStats (clients : Clients config) : TcpNmeaServerStats where
  activeClients := UInt32.ofNat ((List.finRange _).countP fun i => (clients i).active)
  maxClients := UInt32.ofNat config.tcpNmeaServerMaxClients

@[simp] theorem closeClientFd_active (client : ClientSlot) :
    (closeClientFd client).active = client.active := by
  unfold closeClientFd
  split <;> rfl

/-- `alloc_client` hands out the first slot that is not active. -/
theorem allocClient_cases (clients : Clients config) :
    (∃ i, (clients i).active = false ∧ allocClient clients =
      (Function.update clients i { clients i with fd := -1, active := true }, some i)) ∨
    ((∀ i, (clients i).active = true) ∧ allocClient clients = (clients, none)) := by
  unfold allocClient
  cases found : (List.finRange _).find? fun i => !(clients i).active with
  | some i =>
      have := List.find?_some found
      exact Or.inl ⟨i, by simpa using this, rfl⟩
  | none => exact Or.inr ⟨by simpa using found, rfl⟩

end TcpNmeaServer

end EspNmeaBridge
