import EspNmeaBridge.TcpNmeaServer.SlotReuse
import EspNmeaBridge.TcpNmeaSession.Sinks

/-!
# Sinks suffice for every session

A sink is held only by an owner whose thread is inside `tcp_nmea_session_run`: the
session closes its sink before its slot is given back.  Owners are therefore enough
to bound the open sinks, and `BUILD_ASSERT` provides a sink for each
(`sinkCapacity`).  A thread created in a slot whose thread has not returned yet takes
the place of the one running there, which by then holds no sink.
-/

namespace EspNmeaBridge

open Library

variable {config : Config}

/-- The owners whose threads the configuration creates. -/
def owners (config : Config) : List (Owner config) :=
  (if config.tcpNmeaServerEnable then (List.finRange _).map some else []) ++
    if config.tcpNmeaClientEnable then [none] else []

/-- The build assertion: there is a sink for each owner. -/
theorem owners_length_le : (owners config).length ≤ config.nmeaSinksMax := by
  have cover := config.sinks_cover
  unfold owners
  revert cover
  cases config.tcpNmeaServerEnable <;> cases config.tcpNmeaClientEnable <;> simp

namespace Firmware

/-- The owner's thread is inside `tcp_nmea_session_run`. -/
def InSession (firmware : Firmware config) : Owner config → Prop
  | some i => (firmware.clients i).thread = some .session
  | none => firmware.outbound.pc = .session

/-- The owner's slot is active; the outbound client has no slot. -/
def OwnerActive (firmware : Firmware config) : Owner config → Prop
  | some i => (firmware.clients i).active = true
  | none => True

/-- The threads of a part that is not enabled do not exist. -/
structure ThreadsEnabled (firmware : Firmware config) : Prop where
  server : config.tcpNmeaServerEnable = true ∨
    firmware.server = .stopped ∧ ∀ i, (firmware.clients i).thread = none
  client : config.tcpNmeaClientEnable = true ∨ firmware.outbound.pc = .stopped

/-- Every open sink is held by a session that is running, and no session has found
the sinks exhausted. -/
structure SinksCovered (firmware : Firmware config) : Prop where
  owned : SinksOwned firmware.pipeline.shared.bridge firmware.pipeline.sessions
  running : ∀ owner, (firmware.pipeline.sessions owner).pc.holdsSink = true →
    firmware.InSession owner
  available : ∀ owner, (firmware.pipeline.sessions owner).pc ≠ .closeUnopened ∧
    (firmware.pipeline.sessions owner).result ≠ .sinkUnavailable

section Steps

variable {firmware next : Firmware config} {sys : SysReturn} {action : FirmwareAction config}

theorem ThreadsEnabled.of_initial (initial : firmware.Initial) : firmware.ThreadsEnabled := by
  obtain ⟨pipeline, _, rfl⟩ := initial
  constructor
  · cases config.tcpNmeaServerEnable <;> simp
  · cases config.tcpNmeaClientEnable <;> simp

/-- A thread that takes a step belongs to an enabled part. -/
theorem ThreadsEnabled.step (enabled : firmware.ThreadsEnabled)
    (taken : firmware.step action = some next) : next.ThreadsEnabled := by
  cases action with
  | uart ch sys =>
      obtain rfl := Option.some.inj taken
      exact ⟨enabled.server, enabled.client⟩
  | dispatcher =>
      obtain ⟨pipeline, _, rfl⟩ := step_dispatcher taken
      exact ⟨enabled.server, enabled.client⟩
  | server sys =>
      rcases enabled.server with server | ⟨stopped, _⟩
      · obtain ⟨_, outbound, _⟩ := stepServer_others taken
        exact ⟨Or.inl server, outbound ▸ enabled.client⟩
      · simp [Firmware.step, stepServer, stopped] at taken
  | client i sys =>
      rcases enabled.server with server | ⟨_, none⟩
      · obtain ⟨client, pipeline, _, rfl⟩ := stepClient_moves taken
        exact ⟨Or.inl server, enabled.client⟩
      · simp [Firmware.step, stepClient, none] at taken
  | outbound sys =>
      rcases enabled.client with client | stopped
      · obtain ⟨outbound, pipeline, nextFd, _, rfl⟩ := stepOutbound_moves taken
        exact ⟨enabled.server, Or.inl client⟩
      · simp [Firmware.step, stepOutbound, stopped] at taken

/-- An owner in a session is one of those the configuration provides for. -/
theorem ThreadsEnabled.mem_owners (enabled : firmware.ThreadsEnabled) {owner : Owner config}
    (inSession : firmware.InSession owner) : owner ∈ owners config := by
  cases owner with
  | some i =>
      rcases enabled.server with server | ⟨_, none⟩
      · simp [owners, server]
      · simp [InSession, none] at inSession
  | none =>
      rcases enabled.client with client | stopped
      · simp [owners, client]
      · simp [InSession, stopped] at inSession

/-- An owner about to open its sink finds one free. -/
theorem SinksCovered.exists_freeSlot (covered : firmware.SinksCovered)
    (enabled : firmware.ThreadsEnabled) {owner : Owner config}
    (inSession : firmware.InSession owner)
    (pc : (firmware.pipeline.sessions owner).pc = .sinkOpen) :
    ∃ j, firmware.pipeline.shared.bridge.freeSlot = some j := by
  have holderEnabled : ∀ holder j, (firmware.pipeline.sessions holder).ownedSink = some j →
      holder ∈ owners config := by
    intro holder j owned
    exact enabled.mem_owners (covered.running holder (TcpNmeaSession.holds_of_ownedSink owned))
  obtain ⟨j, free⟩ := covered.owned.exclusive.exists_free owners_length_le holderEnabled
    (enabled.mem_owners inSession) (TcpNmeaSession.ownedSink_eq_none (by rw [pc]; rfl))
  apply Option.ne_none_iff_exists'.mp
  intro full
  apply free
  exact NmeaBridge.freeSlot_eq_none_iff.mp full j

theorem SinksCovered.of_initial (initial : firmware.Initial) : firmware.SinksCovered := by
  obtain ⟨_, ⟨fd, name, sink, rfl⟩, rfl⟩ := initial
  refine ⟨⟨.start (by simp) fun owner => ?_, fun owner holds => ?_⟩, fun owner holds => ?_,
    fun owner => by simp⟩
  · exact TcpNmeaSession.ownedSink_eq_none rfl
  · simp [SessionPc.holdsSink] at holds
  · simp [SessionPc.holdsSink] at holds

/-- Steps that leave the sessions and the active sinks as they are, and no session
that holds a sink. -/
theorem SinksCovered.congr (covered : firmware.SinksCovered)
    (sessions : next.pipeline.sessions = firmware.pipeline.sessions)
    (active : ∀ j, (next.pipeline.shared.bridge.sinks j).active =
      (firmware.pipeline.shared.bridge.sinks j).active)
    (running : ∀ owner, (firmware.pipeline.sessions owner).pc.holdsSink = true →
      firmware.InSession owner → next.InSession owner) : next.SinksCovered where
  owned := sessions ▸ covered.owned.congr active
  running owner holds := by
    rw [sessions] at holds
    exact running owner holds (covered.running owner holds)
  available owner := by
    rw [sessions]
    exact covered.available owner

/-- The call of `tcp_nmea_session_run` by an owner that was not in a session. -/
theorem SinksCovered.startSession (covered : firmware.SinksCovered) {owner : Owner config}
    (pipeline : Pipeline config (Owner config)) {fd : Int} {name : String} {sink : NmeaBridgeSink}
    (outside : ¬ firmware.InSession owner)
    (sessions : pipeline.sessions = firmware.pipeline.sessions)
    (bridge : pipeline.shared.bridge = firmware.pipeline.shared.bridge)
    (started : next.pipeline = pipeline.startSession owner fd name sink)
    (others : ∀ other, other ≠ owner → firmware.InSession other → next.InSession other) :
    next.SinksCovered := by
  have idle : (firmware.pipeline.sessions owner).pc.holdsSink = false := by
    by_contra holds
    exact outside (covered.running owner (by simpa using holds))
  have updated : next.pipeline.sessions = Function.update firmware.pipeline.sessions owner
      { fd, sinkName := some name, sink } := by
    rw [started, ← sessions]
    rfl
  have same : next.pipeline.shared.bridge = firmware.pipeline.shared.bridge := by
    rw [started, ← bridge]
    rfl
  refine ⟨?_, fun other holds => ?_, fun other => ?_⟩
  · rw [updated, same]
    exact covered.owned.replace idle rfl
  all_goals
    by_cases isOwner : other = owner
    · subst isOwner
      simp_all [SessionPc.holdsSink]
  · rw [updated, Function.update_of_ne isOwner] at holds
    exact others other isOwner (covered.running other holds)
  · rw [updated, Function.update_of_ne isOwner]
    exact covered.available other

/-- A step of the session an owner is in. -/
theorem SinksCovered.stepSession (covered : firmware.SinksCovered)
    (enabled : firmware.ThreadsEnabled) (owner : Owner config)
    (inSession : firmware.InSession owner)
    (moved : firmware.pipeline.stepSession owner sys = some next.pipeline)
    (same : ∀ other, firmware.InSession other → next.InSession other) : next.SinksCovered := by
  obtain ⟨shared, session, taken, pipeline⟩ := Pipeline.stepSession_cases moved
  have change := TcpNmeaSession.step_sinks (covered.owned.holderOwns owner) taken
  have available := TcpNmeaSession.step_available
    (covered.exists_freeSlot enabled inSession) (covered.available owner).1
    (covered.available owner).2 taken
  refine ⟨?_, fun other holds => ?_, fun other => ?_⟩
  · rw [pipeline]
    exact covered.owned.step change
  · by_cases isOwner : other = owner
    · exact same other (isOwner ▸ inSession)
    · rw [pipeline] at holds
      simp only [Function.update_of_ne isOwner] at holds
      exact same other (covered.running other holds)
  · by_cases isOwner : other = owner
    · subst isOwner
      rw [pipeline]
      simpa using available
    · rw [pipeline]
      simpa [isOwner] using covered.available other

/-- A thread in its session keeps its slot active. -/
theorem Kept.ownerActive (kept : firmware.Kept) {owner : Owner config}
    (inSession : firmware.InSession owner) : firmware.OwnerActive owner := by
  cases owner with
  | none => trivial
  | some i =>
      rcases kept.running i .session inSession with active | logging
      · exact active
      · contradiction

/-- The server thread does not touch a slot whose thread is in its session. -/
theorem Kept.stepServer_inSession (kept : firmware.Kept)
    (taken : firmware.stepServer sys = some next) (owner : Owner config)
    (inSession : firmware.InSession owner) : next.InSession owner := by
  obtain ⟨_, outbound, _⟩ := stepServer_others taken
  cases owner with
  | none => exact (congrArg Outbound.pc outbound).trans inSession
  | some i =>
      have thread : (firmware.clients i).thread = some .session := inSession
      cases stepServer_moves taken with
      | socket | bind | listen | closeListener | acceptFails | accepts | full | reject =>
          exact inSession
      | @allocates fd j server inactive =>
          have active : firmware.OwnerActive (some i) := kept.ownerActive inSession
          have other : i ≠ j := by
            rintro rfl
            rw [OwnerActive, inactive] at active
            contradiction
          simpa [InSession, other] using thread
      | @setFd fd j server =>
          have other : i ≠ j := by
            rintro rfl
            exact kept.not_reserves thread (by decide) (Or.inl ⟨fd, server⟩)
          simpa [InSession, setClient, other] using thread
      | @createThread j server =>
          have other : i ≠ j := by
            rintro rfl
            exact kept.not_reserves thread (by decide) (Or.inr server)
          simpa [InSession, setClient, other] using thread

theorem SinksCovered.stepClient (covered : firmware.SinksCovered)
    (enabled : firmware.ThreadsEnabled) {i : Fin config.tcpNmeaServerMaxClients}
    (taken : firmware.stepClient i sys = some next) : next.SinksCovered := by
  obtain ⟨client, pipeline, moves, rfl⟩ := stepClient_moves taken
  -- The other owners stay in their sessions, whatever this thread does.
  have others : ∀ other, other ≠ some i → firmware.InSession other →
      Firmware.InSession { firmware.setClient i client with pipeline } other := by
    intro other different inSession
    cases other with
    | none => exact inSession
    | some j =>
        have apart : j ≠ i := fun same => different (congrArg some same)
        simpa [InSession, setClient, apart] using inSession
  have outside : ∀ pc, (firmware.clients i).thread = some pc → pc ≠ .session →
      ¬ firmware.InSession (some i) := by
    intro pc thread different inSession
    exact different (Option.some.inj (thread.symm.trans inSession))
  have leaves : ∀ pc, (firmware.clients i).thread = some pc → pc ≠ .session →
      ∀ owner, (firmware.pipeline.sessions owner).pc.holdsSink = true →
      firmware.InSession owner → owner ≠ some i := by
    rintro pc thread different owner _ inSession rfl
    exact outside pc thread different inSession
  cases moves with
  | enter thread =>
      exact covered.startSession firmware.pipeline (outside _ thread (by decide)) rfl rfl rfl others
  | session thread moved =>
      apply covered.stepSession enabled (some i) thread moved
      intro other inSession
      by_cases same : other = some i
      · subst same
        simpa [InSession, setClient] using thread
      · exact others other same inSession
  | returned thread ended =>
      refine covered.congr rfl (fun _ => rfl) fun owner holds inSession =>
        others owner ?_ inSession
      rintro rfl
      rw [ended] at holds
      contradiction
  | clearFd thread | closeFd thread | clearActive thread | logging thread =>
      exact covered.congr rfl (fun _ => rfl) fun owner holds inSession =>
        others owner (leaves _ thread (by decide) owner holds inSession) inSession

theorem SinksCovered.stepOutbound (covered : firmware.SinksCovered)
    (enabled : firmware.ThreadsEnabled) (taken : firmware.stepOutbound sys = some next) :
    next.SinksCovered := by
  obtain ⟨outbound, pipeline, nextFd, moves, rfl⟩ := stepOutbound_moves taken
  have others : ∀ other, other ≠ none → firmware.InSession other →
      Firmware.InSession { firmware with pipeline, outbound, nextFd } other := by
    intro other different inSession
    cases other with
    | none => exact (different rfl).elim
    | some j => exact inSession
  cases moves with
  | waits before after bridge =>
      refine covered.congr rfl (fun _ => by rw [bridge]) fun owner _ inSession =>
        others owner ?_ inSession
      rintro rfl
      exact before inSession
  | @enter fd shared pc bridge =>
      refine covered.startSession { firmware.pipeline with shared } ?_ rfl bridge rfl others
      intro inSession
      exact absurd (pc.symm.trans inSession) (by simp)
  | session pc moved =>
      apply covered.stepSession enabled none pc moved
      intro other inSession
      cases other with
      | none => exact inSession
      | some j => exact inSession
  | returned pc ended =>
      refine covered.congr rfl (fun _ => rfl) fun owner holds inSession =>
        others owner ?_ inSession
      rintro rfl
      rw [ended] at holds
      contradiction

/-- Every step leaves a sink for each session. -/
theorem SinksCovered.step (covered : firmware.SinksCovered) (kept : firmware.Kept)
    (enabled : firmware.ThreadsEnabled) (taken : firmware.step action = some next) :
    next.SinksCovered := by
  cases action with
  | uart ch sys =>
      obtain rfl := Option.some.inj taken
      obtain ⟨sessions, _, sinks⟩ := firmware.pipeline.stepUart_others ch sys
      exact covered.congr sessions (fun j => by simp only [sinks]) fun _ _ inSession => inSession
  | dispatcher =>
      obtain ⟨pipeline, moved, rfl⟩ := step_dispatcher taken
      obtain ⟨bridge, dispatcher, dispatched, rfl⟩ := Pipeline.step_dispatcher_cases moved
      exact covered.congr rfl (NmeaBridge.stepDispatcher_active dispatched)
        fun _ _ inSession => inSession
  | server sys =>
      obtain ⟨pipeline, _, _⟩ := stepServer_others taken
      exact covered.congr (by rw [pipeline]) (fun j => by rw [pipeline]) fun owner _ =>
        kept.stepServer_inSession taken owner
  | client i sys => exact covered.stepClient enabled taken
  | outbound sys => exact covered.stepOutbound enabled taken

/-- The three invariants hold together in every reachable state. -/
theorem reachable_covered (reachable : (machine config).Reachable firmware) :
    firmware.Kept ∧ firmware.ThreadsEnabled ∧ firmware.SinksCovered := by
  refine reachable.invariant
    (fun firmware => firmware.Kept ∧ firmware.ThreadsEnabled ∧ firmware.SinksCovered)
    (fun _ initial => ⟨.of_initial initial, .of_initial initial, .of_initial initial⟩) ?_
  intro firmware action next ⟨kept, enabled, covered⟩ taken
  exact ⟨kept.step taken, enabled.step taken, covered.step kept enabled taken⟩

end Steps

/-- In every reachable state each open sink belongs to exactly one running session,
whose owner is an active slot or the outbound client; a session about to open its
sink succeeds, and no session has ended for want of one. -/
theorem sinkCapacity {firmware : Firmware config}
    (reachable : (machine config).Reachable firmware) :
    (∀ j, (firmware.pipeline.shared.bridge.sinks j).active = true →
      ∃! owner, firmware.InSession owner ∧ firmware.OwnerActive owner ∧
        (firmware.pipeline.sessions owner).pc.holdsSink = true ∧
        (firmware.pipeline.sessions owner).sink.id = j.val) ∧
    (∀ owner, firmware.InSession owner → (firmware.pipeline.sessions owner).pc = .sinkOpen →
      (firmware.pipeline.shared.bridge.sinkOpen (some (firmware.pipeline.sessions owner).sink)
        (firmware.pipeline.sessions owner).sinkName).2.2 = .ok ()) ∧
    ∀ owner, (firmware.pipeline.sessions owner).pc ≠ .closeUnopened ∧
      (firmware.pipeline.sessions owner).result ≠ .sinkUnavailable := by
  obtain ⟨kept, enabled, covered⟩ := reachable_covered reachable
  refine ⟨fun j active => ?_, fun owner inSession pc => ?_, covered.available⟩
  · obtain ⟨owner, owned, unique⟩ := covered.owned.exclusive.existsUnique_owner active
    have holds := TcpNmeaSession.holds_of_ownedSink owned
    have inSession := covered.running owner holds
    rw [TcpNmeaSession.ownedSink_of_holds holds, NmeaBridge.slotOf_eq_some_iff] at owned
    refine ⟨owner, ⟨inSession, kept.ownerActive inSession, holds, owned⟩, ?_⟩
    rintro other ⟨_, _, otherHolds, named⟩
    apply unique other
    rw [TcpNmeaSession.ownedSink_of_holds otherHolds]
    exact NmeaBridge.slotOf_eq_some_iff.mpr named
  · obtain ⟨j, free⟩ := covered.exists_freeSlot enabled inSession pc
    simp [NmeaBridge.sinkOpen, free]

/-- The slot of a closed connection is reused at once, and the new thread opens its
sink while the outbound client has its own open. -/
def slotReused : List (FirmwareAction Config.committed) :=
  List.replicate 2 (.outbound { ret := 1 }) ++ List.replicate 6 (.outbound {}) ++
    reconnectAtOnce ++ List.replicate 2 (.client 0 {})

theorem sinkCapacity_slotReused :
    ∃ firmware, (machine Config.committed).exec atStart slotReused = some firmware ∧
      ∀ j : Fin 4, j = 0 ∨ j = 1 → ∃! owner, firmware.InSession owner ∧
        firmware.OwnerActive owner ∧ (firmware.pipeline.sessions owner).pc.holdsSink = true ∧
        (firmware.pipeline.sessions owner).sink.id = j.val := by
  have opened : ((machine Config.committed).exec atStart slotReused).any (fun firmware =>
      (firmware.pipeline.shared.bridge.sinks 0).active &&
        (firmware.pipeline.shared.bridge.sinks 1).active) = true := by decide
  obtain ⟨firmware, ran, active⟩ := (Option.any_eq_true _ _).mp opened
  rw [Bool.and_eq_true] at active
  have capacity := sinkCapacity ⟨atStart, slotReused, ⟨_, ⟨_, _, _, rfl⟩, rfl⟩, ran⟩
  refine ⟨firmware, ran, ?_⟩
  rintro j (rfl | rfl)
  · exact capacity.1 0 active.1
  · exact capacity.1 1 active.2

end Firmware

end EspNmeaBridge
