import EspNmeaBridge.WifiManager
import EspNmeaBridge.Library.Latch

/-!
# The station's view of its link

Histories of network events, readiness polls and address-table updates, handled
in any order.  The two flags of the station are latches over the history
(`staConnected_iff`, `staHasAddr_iff`): `sta_connected` is set by a successful
connect of the station, but also by an address event of any interface while the
table shows a DHCP entry, and the scan does not look at `is_used`.
-/

namespace EspNmeaBridge

open Library

/-- What happens to the station: a handler runs, the readiness is polled, or the
network stack changes the address table to any content. -/
inductive StationEvent where
  | wifi (event : WifiMgmtEvent) (iface : NetIf)
  | ipv4 (event : Ipv4MgmtEvent) (iface : NetIf)
  | poll
  | setTable (ipv4 : Ipv4Config)
  deriving DecidableEq, Repr

/-- The module's variables together with the STA interface's address table. -/
structure Station where
  manager : WifiManager
  table : Ipv4Config
  deriving DecidableEq, Repr

namespace Station

def step (station : Station) : StationEvent → Station
  | .wifi event iface =>
      { station with manager := station.manager.wifiEventHandler station.table event iface }
  | .ipv4 event iface =>
      { station with manager := station.manager.ipv4EventHandler station.table event iface }
  | .poll => { station with manager := (station.manager.staReady station.table).1 }
  | .setTable ipv4 => { station with table := ipv4 }

/-- The module after start-up: the STA interface is known, all flags are clear. -/
def start (staIface : Option NetIf) (ipv4 : Ipv4Config) : Station where
  manager := { staIface }
  table := ipv4

/-- The station after a history. -/
def after (staIface : Option NetIf) (ipv4 : Ipv4Config) (history : List StationEvent) : Station :=
  history.foldl step (start staIface ipv4)

/-- What a poll answers. -/
def ready (station : Station) : Bool := (station.manager.staReady station.table).2

/-- The scan finds a DHCP entry, in use or not. -/
def seesDhcp (station : Station) : Bool := station.manager.seesDhcpAddr station.table

end Station

/-- The STA interface's table holds a specified DHCP address in use. -/
def HasDhcpAddr (ipv4 : Ipv4Config) : Prop :=
  ∃ unicast entry, ipv4 = some unicast ∧ entry ∈ unicast ∧ entry.isUsed = true ∧
    entry.addrType = .dhcp ∧ entry.address ≠ 0

/-- Outcome of a link event of the station. -/
inductive LinkState where
  | up
  | down
  deriving DecidableEq, Repr

namespace StationEvent

/-- The station link event this is, if it is one. -/
def staLink (staIface : Option NetIf) : StationEvent → Option LinkState
  | .wifi (.connectResult status) iface =>
      if some iface ≠ staIface then none
      else if WifiManager.connectFailed status then some .down else some .up
  | .wifi .disconnectResult iface => if some iface ≠ staIface then none else some .down
  | _ => none

/-- The table is scanned on behalf of an address event, of whatever interface. -/
def isAddrEvent : StationEvent → Bool
  | .ipv4 .addrAdd _ => true
  | .ipv4 .dhcpBound _ => true
  | _ => false

/-- The DHCP client of the STA interface stopped. -/
def isStaStop (staIface : Option NetIf) : StationEvent → Bool
  | .ipv4 .dhcpStop iface => decide (some iface = staIface)
  | _ => false

/-- A link event of the station is nothing else. -/
theorem only_staLink {staIface : Option NetIf} {event : StationEvent} {state : LinkState}
    (link : event.staLink staIface = some state) :
    event.isAddrEvent = false ∧ event.isStaStop staIface = false ∧ event ≠ .poll := by
  cases event with
  | wifi event iface => exact ⟨rfl, rfl, StationEvent.noConfusion⟩
  | ipv4 event iface => simp [staLink] at link
  | poll => simp [staLink] at link
  | setTable ipv4 => simp [staLink] at link

/-- Address events and polls do not stop the DHCP client. -/
theorem not_isStaStop {staIface : Option NetIf} {event : StationEvent}
    (scans : event.isAddrEvent = true ∨ event = .poll) : event.isStaStop staIface = false := by
  rcases scans with addr | rfl
  · cases event with
    | ipv4 event iface => cases event <;> first | rfl | simp [isAddrEvent] at addr
    | wifi event iface => rfl
    | poll => rfl
    | setTable ipv4 => rfl
  · rfl

end StationEvent

section Flags

variable (staIface : Option NetIf) (ipv4 : Ipv4Config)

/-- The most recently handled station link event. -/
def lastStaLink (history : List StationEvent) : Option LinkState :=
  history.foldl (fun last event => (event.staLink staIface).or last) none

/-- Events that mark the station connected. -/
def MarksConnected (before : List StationEvent) (event : StationEvent) : Prop :=
  event.staLink staIface = some .up ∨
    event.isAddrEvent = true ∧ (Station.after staIface ipv4 before).seesDhcp = true

/-- The station is marked connected: some event has done so since the last
disconnect or failed connect of the station. -/
def LinkMarked (history : List StationEvent) : Prop :=
  Latched (MarksConnected staIface ipv4) (fun event => event.staLink staIface = some .down) history

/-- Events at which the table is scanned and shows a DHCP entry. -/
def MarksAddr (before : List StationEvent) (event : StationEvent) : Prop :=
  (Station.after staIface ipv4 before).seesDhcp = true ∧
    (event.staLink staIface = some .up ∨ event.isAddrEvent = true ∨
      event = .poll ∧ LinkMarked staIface ipv4 before)

/-- An address is taken for present: a scan has shown one since the last
disconnect, failed connect or DHCP stop of the station. -/
def AddrMarked (history : List StationEvent) : Prop :=
  Latched (MarksAddr staIface ipv4)
    (fun event => event.staLink staIface = some .down ∨ event.isStaStop staIface = true) history

end Flags

namespace Station

section Step

variable (station : Station)

/-- No event changes which interface is the station's. -/
@[simp] theorem step_staIface (event : StationEvent) :
    (station.step event).manager.staIface = station.manager.staIface := by
  cases event with
  | wifi event iface =>
      cases event <;> simp only [step, WifiManager.wifiEventHandler]
      all_goals repeat' split
      all_goals simp
  | ipv4 event iface =>
      cases event <;> simp only [step, WifiManager.ipv4EventHandler]
      case dhcpStop => split <;> rfl
      all_goals simp
  | poll =>
      simp only [step, WifiManager.staReady]
      split <;> simp
  | setTable ipv4 => rfl

/-- How an event changes `sta_connected`. -/
theorem step_staConnected (event : StationEvent) :
    (station.step event).manager.staConnected =
      match event.staLink station.manager.staIface with
      | some .up => true
      | some .down => false
      | none => station.manager.staConnected || (event.isAddrEvent && station.seesDhcp) := by
  cases event with
  | wifi event iface =>
      cases event with
      | connectResult status =>
          by_cases own : some iface = station.manager.staIface <;>
            cases failed : WifiManager.connectFailed status <;>
            simp [step, WifiManager.wifiEventHandler, StationEvent.staLink,
              StationEvent.isAddrEvent, own, failed]
      | disconnectResult =>
          by_cases own : some iface = station.manager.staIface <;>
            simp [step, WifiManager.wifiEventHandler, StationEvent.staLink,
              StationEvent.isAddrEvent, own]
      | apEnableResult | apDisableResult | apStaConnected | apStaDisconnected =>
          simp [step, WifiManager.wifiEventHandler, StationEvent.staLink,
            StationEvent.isAddrEvent]
  | ipv4 event iface =>
      cases event with
      | addrAdd | dhcpBound =>
          simp [step, WifiManager.ipv4EventHandler, StationEvent.staLink,
            StationEvent.isAddrEvent, seesDhcp]
      | dhcpStop =>
          simp only [step, WifiManager.ipv4EventHandler, StationEvent.staLink,
            StationEvent.isAddrEvent]
          split <;> simp
  | poll =>
      simp only [step, WifiManager.staReady, StationEvent.staLink, StationEvent.isAddrEvent]
      cases connected : station.manager.staConnected <;>
        cases station.manager.staHasAddr <;> simp [connected]
  | setTable ipv4 => simp [step, StationEvent.staLink, StationEvent.isAddrEvent]

/-- How an event changes `sta_has_addr`. -/
theorem step_staHasAddr (event : StationEvent) :
    (station.step event).manager.staHasAddr =
      match event.staLink station.manager.staIface with
      | some .up => station.manager.staHasAddr || station.seesDhcp
      | some .down => false
      | none =>
          !event.isStaStop station.manager.staIface &&
            (station.manager.staHasAddr ||
              (station.seesDhcp &&
                (event.isAddrEvent || (event == .poll && station.manager.staConnected)))) := by
  cases event with
  | wifi event iface =>
      cases event with
      | connectResult status =>
          by_cases own : some iface = station.manager.staIface <;>
            cases failed : WifiManager.connectFailed status <;>
            simp [step, WifiManager.wifiEventHandler, StationEvent.staLink,
              StationEvent.isAddrEvent, StationEvent.isStaStop, own, failed, seesDhcp]
          -- the scan reads nothing the handler has written before it
          rfl
      | disconnectResult =>
          by_cases own : some iface = station.manager.staIface <;>
            simp [step, WifiManager.wifiEventHandler, StationEvent.staLink,
              StationEvent.isAddrEvent, StationEvent.isStaStop, own]
      | apEnableResult | apDisableResult | apStaConnected | apStaDisconnected =>
          simp [step, WifiManager.wifiEventHandler, StationEvent.staLink,
            StationEvent.isAddrEvent, StationEvent.isStaStop]
  | ipv4 event iface =>
      cases event with
      | addrAdd | dhcpBound =>
          simp [step, WifiManager.ipv4EventHandler, StationEvent.staLink,
            StationEvent.isAddrEvent, StationEvent.isStaStop, seesDhcp]
      | dhcpStop =>
          by_cases own : some iface = station.manager.staIface <;>
            simp [step, WifiManager.ipv4EventHandler, StationEvent.staLink,
              StationEvent.isAddrEvent, StationEvent.isStaStop, own]
  | poll =>
      simp only [step, WifiManager.staReady, StationEvent.staLink, StationEvent.isAddrEvent,
        StationEvent.isStaStop, seesDhcp]
      cases connected : station.manager.staConnected <;>
        cases has : station.manager.staHasAddr <;> simp [has]
  | setTable ipv4 =>
      simp [step, StationEvent.staLink, StationEvent.isAddrEvent, StationEvent.isStaStop]

/-- How an event changes `sta_connect_requested`: every link event of the station
clears it. -/
theorem step_staConnectRequested (event : StationEvent) :
    (station.step event).manager.staConnectRequested =
      (station.manager.staConnectRequested &&
        (event.staLink station.manager.staIface).isNone) := by
  cases event with
  | wifi event iface =>
      cases event with
      | connectResult status =>
          by_cases own : some iface = station.manager.staIface <;>
            cases failed : WifiManager.connectFailed status <;>
            simp [step, WifiManager.wifiEventHandler, StationEvent.staLink, own, failed]
      | disconnectResult =>
          by_cases own : some iface = station.manager.staIface <;>
            simp [step, WifiManager.wifiEventHandler, StationEvent.staLink, own]
      | apEnableResult | apDisableResult | apStaConnected | apStaDisconnected =>
          simp [step, WifiManager.wifiEventHandler, StationEvent.staLink]
  | ipv4 event iface =>
      cases event with
      | addrAdd | dhcpBound =>
          simp [step, WifiManager.ipv4EventHandler, StationEvent.staLink]
      | dhcpStop =>
          simp only [step, WifiManager.ipv4EventHandler, StationEvent.staLink]
          split <;> simp
  | poll =>
      simp only [step, WifiManager.staReady, StationEvent.staLink]
      split <;> simp
  | setTable ipv4 => simp [step, StationEvent.staLink]

end Step

variable {staIface : Option NetIf} {ipv4 : Ipv4Config}

@[simp] theorem after_nil : after staIface ipv4 [] = start staIface ipv4 := rfl

@[simp] theorem after_concat (history : List StationEvent) (event : StationEvent) :
    after staIface ipv4 (history ++ [event]) = (after staIface ipv4 history).step event := by
  simp [after]

@[simp] theorem after_staIface (history : List StationEvent) :
    (after staIface ipv4 history).manager.staIface = staIface := by
  induction history using List.reverseRecOn with
  | nil => rfl
  | append_singleton history event ih => simp [ih]

/-- `sta_connected` as a latch over the history. -/
theorem staConnected_iff (history : List StationEvent) :
    (after staIface ipv4 history).manager.staConnected = true ↔
      LinkMarked staIface ipv4 history := by
  induction history using List.reverseRecOn with
  | nil => simp [LinkMarked, start]
  | append_singleton history event ih =>
      rw [LinkMarked, latched_concat, after_concat, step_staConnected, after_staIface]
      change _ ↔ _ ∨ LinkMarked staIface ipv4 history ∧ _
      rw [← ih, MarksConnected]
      cases link : event.staLink staIface with
      | none => simp [Or.comm]
      | some state =>
          obtain ⟨noAddr, _, _⟩ := StationEvent.only_staLink link
          cases state <;> simp [noAddr]

/-- `sta_has_addr` as a latch over the history. -/
theorem staHasAddr_iff (history : List StationEvent) :
    (after staIface ipv4 history).manager.staHasAddr = true ↔
      AddrMarked staIface ipv4 history := by
  induction history using List.reverseRecOn with
  | nil => simp [AddrMarked, start]
  | append_singleton history event ih =>
      rw [AddrMarked, latched_concat, after_concat, step_staHasAddr, after_staIface]
      change _ ↔ _ ∨ AddrMarked staIface ipv4 history ∧ _
      rw [← ih, MarksAddr, ← staConnected_iff]
      cases link : event.staLink staIface with
      | none =>
          by_cases scans : event.isAddrEvent = true ∨ event = .poll
          · rw [StationEvent.not_isStaStop scans]
            simp [Or.comm]
          · rw [not_or] at scans
            simp [scans, And.comm]
      | some state =>
          obtain ⟨noAddr, noStop, noPoll⟩ := StationEvent.only_staLink link
          cases state <;> simp [noAddr, noStop, noPoll, Or.comm]

end Station

/-! ## The link flag -/

/-- At every moment of the history at which the most recent link event of the
station is a disconnect or a failed connect, `sta_connected` is false. -/
def LinkTracked (staIface : Option NetIf) (ipv4 : Ipv4Config)
    (history : List StationEvent) : Prop :=
  ∀ earlier, earlier <+: history → lastStaLink staIface earlier = some .down →
    (Station.after staIface ipv4 earlier).manager.staConnected = false

/-- No address event, of any interface, is handled while the link is down and the
STA table shows a DHCP entry, in use or not. -/
def NoAddrEventWhileDown (staIface : Option NetIf) (ipv4 : Ipv4Config)
    (history : List StationEvent) : Prop :=
  ∀ earlier event, earlier ++ [event] <+: history → event.isAddrEvent = true →
    lastStaLink staIface earlier = some .down →
    (Station.after staIface ipv4 earlier).seesDhcp = false

section Link

variable {staIface : Option NetIf} {ipv4 : Ipv4Config}

@[simp] theorem lastStaLink_concat (history : List StationEvent) (event : StationEvent) :
    lastStaLink staIface (history ++ [event]) =
      (event.staLink staIface).or (lastStaLink staIface history) := by
  simp [lastStaLink]

/-- One event keeps a disconnected station unmarked, unless it is an address
event that finds a DHCP entry in the table. -/
theorem unmarked_concat {history : List StationEvent} {event : StationEvent}
    (unmarked : lastStaLink staIface history = some .down →
      (Station.after staIface ipv4 history).manager.staConnected = false)
    (quiet : event.isAddrEvent = true → lastStaLink staIface history = some .down →
      (Station.after staIface ipv4 history).seesDhcp = false)
    (down : lastStaLink staIface (history ++ [event]) = some .down) :
    (Station.after staIface ipv4 (history ++ [event])).manager.staConnected = false := by
  rw [lastStaLink_concat] at down
  rw [Station.after_concat, Station.step_staConnected, Station.after_staIface]
  cases link : event.staLink staIface with
  | some state =>
      rw [link] at down
      obtain rfl : state = .down := by simpa using down
      rfl
  | none =>
      rw [link] at down
      simp only [Option.none_or] at down
      cases addr : event.isAddrEvent with
      | true => simp [unmarked down, quiet addr down]
      | false => simp [unmarked down]

end Link

/-- The link flag follows the station's link if and only if no address event is
handled while the link is down and the table shows a DHCP entry. -/
theorem linkTracked_iff (staIface : Option NetIf) (ipv4 : Ipv4Config)
    (history : List StationEvent) :
    LinkTracked staIface ipv4 history ↔ NoAddrEventWhileDown staIface ipv4 history := by
  constructor
  · intro tracked earlier event within addr down
    have noLink : event.staLink staIface = none := by
      cases link : event.staLink staIface with
      | none => rfl
      | some state => simp [(StationEvent.only_staLink link).1] at addr
    have after := tracked _ within (by simp [noLink, down])
    rw [Station.after_concat, Station.step_staConnected, Station.after_staIface, noLink] at after
    simp only [addr, Bool.true_and, Bool.or_eq_false_iff] at after
    exact after.2
  · intro quiet
    induction history using List.reverseRecOn with
    | nil =>
        intro earlier within
        rw [List.prefix_nil.mp within]
        exact fun _ => rfl
    | append_singleton history event ih =>
        have tracked := ih fun earlier event within =>
          quiet earlier event (within.trans (List.prefix_append _ _))
        intro earlier within
        rcases List.prefix_concat_iff.mp within with rfl | shorter
        · exact unmarked_concat (tracked history List.prefix_rfl)
            (quiet history event List.prefix_rfl)
        · exact tracked earlier shorter

section Example

/-- The STA interface of the counterexamples. -/
def exampleSta : NetIf := ⟨1⟩

/-- The SoftAP interface of the counterexamples. -/
def exampleAp : NetIf := ⟨2⟩

/-- A table with one bound DHCP address. -/
def boundTable : Ipv4Config := some [⟨.dhcp, 0x0501a8c0, true⟩]

/-- `net_if_ipv4_addr_rm`: the entry is no longer in use and otherwise kept. -/
def releasedTable (ipv4 : Ipv4Config) : Ipv4Config :=
  ipv4.map fun unicast => unicast.map fun entry => { entry with isUsed := false }

end Example

/-- After a disconnect, an address event of the SoftAP finds the released DHCP
entry and marks the station connected. -/
theorem link_not_tracked :
    ¬∀ staIface ipv4 history, LinkTracked staIface ipv4 history := by
  intro tracked
  have marked := tracked (some exampleSta) boundTable
    [.wifi (.connectResult (some 0)) exampleSta, .ipv4 .dhcpBound exampleSta,
      .wifi .disconnectResult exampleSta, .setTable (releasedTable boundTable),
      .ipv4 .addrAdd exampleAp] _ List.prefix_rfl (by decide)
  exact absurd marked (by decide)

/-! ## Readiness -/

/-- Whenever a poll of the history answers ready, the STA table holds a DHCP
address in use. -/
def ReadySound (staIface : Option NetIf) (ipv4 : Ipv4Config) (history : List StationEvent) : Prop :=
  ∀ earlier, earlier ++ [.poll] <+: history →
    (Station.after staIface ipv4 earlier).ready = true →
    HasDhcpAddr (Station.after staIface ipv4 earlier).table

/-- No poll is made without a DHCP address in use while the station is marked
connected and either an earlier scan's address still counts or the table still
shows a released entry. -/
def NoPollAfterRelease (staIface : Option NetIf) (ipv4 : Ipv4Config)
    (history : List StationEvent) : Prop :=
  ∀ earlier, earlier ++ [.poll] <+: history →
    ¬HasDhcpAddr (Station.after staIface ipv4 earlier).table →
    LinkMarked staIface ipv4 earlier →
    ¬AddrMarked staIface ipv4 earlier ∧ (Station.after staIface ipv4 earlier).seesDhcp = false

theorem Station.ready_eq (station : Station) :
    station.ready =
      (station.manager.staConnected && (station.manager.staHasAddr || station.seesDhcp)) := by
  simp only [ready, WifiManager.staReady, seesDhcp]
  cases connected : station.manager.staConnected <;>
    cases has : station.manager.staHasAddr <;> simp [connected, has]

/-- Readiness is sound if and only if no poll falls into the time between the
release of the last DHCP address and the station hearing of it. -/
theorem readySound_iff (staIface : Option NetIf) (ipv4 : Ipv4Config)
    (history : List StationEvent) :
    ReadySound staIface ipv4 history ↔ NoPollAfterRelease staIface ipv4 history := by
  have answers : ∀ earlier, (Station.after staIface ipv4 earlier).ready = true ↔
      LinkMarked staIface ipv4 earlier ∧ (AddrMarked staIface ipv4 earlier ∨
        (Station.after staIface ipv4 earlier).seesDhcp = true) := by
    intro earlier
    rw [Station.ready_eq, Bool.and_eq_true, Bool.or_eq_true, Station.staConnected_iff,
      Station.staHasAddr_iff]
  constructor
  · intro sound earlier within none linked
    constructor
    · exact fun addr => none (sound earlier within ((answers earlier).mpr ⟨linked, Or.inl addr⟩))
    · rw [Bool.eq_false_iff]
      exact fun sees => none (sound earlier within ((answers earlier).mpr ⟨linked, Or.inr sees⟩))
  · intro quiet earlier within ready
    obtain ⟨linked, addr⟩ := (answers earlier).mp ready
    by_contra none
    obtain ⟨noAddr, unseen⟩ := quiet earlier within none linked
    rcases addr with marked | sees
    · exact noAddr marked
    · simp [unseen] at sees

/-- The station connects, gets an address, and loses it without a DHCP stop. -/
def releaseHistory : List StationEvent :=
  [.wifi (.connectResult (some 0)) exampleSta, .ipv4 .dhcpBound exampleSta,
    .setTable (releasedTable boundTable)]

/-- An address that is removed without a DHCP stop leaves the station ready. -/
theorem ready_not_sound :
    ¬∀ staIface ipv4 history, ReadySound staIface ipv4 history := by
  intro sound
  have held := sound (some exampleSta) boundTable (releaseHistory ++ [.poll]) releaseHistory
    List.prefix_rfl (by decide)
  obtain ⟨unicast, entry, table, member, used, _⟩ := held
  obtain rfl : unicast = [⟨.dhcp, 0x0501a8c0, false⟩] := Option.some.inj table.symm
  rw [List.mem_singleton.mp member] at used
  exact absurd used (by decide)

end EspNmeaBridge
