import EspNmeaBridge.Firmware.UartContract
import EspNmeaBridge.Library.Counter
import EspNmeaBridge.Library.Thinning
import EspNmeaBridge.NmeaBridge.SinkHistory
import EspNmeaBridge.Pipeline.QueueViews
import EspNmeaBridge.Pipeline.Stream

/-!
# No line is lost uncounted

Between the UART and the socket of a session a line is lost only where
`put_drop_oldest` makes room, and each such loss is counted: at once, or with the next
operation of the call (`unsettled`).  What was on its way to a session when it
registered its sink, and what has been published since, is therefore sent, still on
its way, or counted by one of the two counters of its path.
-/

namespace EspNmeaBridge

open Library

variable {config : Config} {ι : Type}

section Queues

/-- The operation increments the drop counter. -/
def PutPc.counts : PutPc → Bool
  | .count | .countAgain => true
  | .put | .get | .putAgain => false

/-- Frames a call has taken out of its queue and not counted yet. -/
def PutPc.unsettled : Option PutPc → Nat
  | some .count => 1
  | _ => 0

/-- An operation of `put_drop_oldest` loses a frame only against the counter. -/
theorem PutPc.step_thins {α : Type} {capacity : Nat} (frame : α) (msgq : BoundedQueue α capacity)
    (dropCounter : UInt32) (pc : PutPc) :
    (∃ lost, Thins (msgq.items ++ [frame])
        ((pc.step frame msgq dropCounter).1.items ++
          undelivered frame (pc.step frame msgq dropCounter).2.2) lost ∧
      lost + unsettled (some pc) ≤
        pc.counts.toNat + unsettled (pc.step frame msgq dropCounter).2.2) ∧
      (pc.step frame msgq dropCounter).2.1 =
        dropCounter + UInt32.ofNat pc.counts.toNat := by
  have delivered : ∀ next, msgq.put frame = some next → next.items = msgq.items ++ [frame] :=
    fun next stored => (BoundedQueue.put_eq_some_iff.mp stored).2
  cases pc with
  | put | putAgain =>
      cases stored : msgq.put frame with
      | some next =>
          simp only [step, stored, undelivered, List.append_nil]
          exact ⟨⟨0, .of_eq (delivered next stored), Nat.le_refl _⟩, (add_zero _).symm⟩
      | none =>
          simp only [step, stored, undelivered]
          exact ⟨⟨0, .refl _, Nat.le_refl _⟩, (add_zero _).symm⟩
  | get =>
      cases got : msgq.get with
      | some pair =>
          have head := BoundedQueue.get_eq_some_iff.mp got
          simp only [step, got, undelivered, head]
          exact ⟨⟨1, .lose [] pair.1 _, Nat.le_refl _⟩, (add_zero _).symm⟩
      | none =>
          simp only [step, got, undelivered]
          exact ⟨⟨0, .refl _, Nat.zero_le _⟩, (add_zero _).symm⟩
  | count => exact ⟨⟨0, .refl _, Nat.le_refl _⟩, rfl⟩
  | countAgain => exact ⟨⟨1, .lose msgq.items frame [], Nat.le_refl _⟩, rfl⟩

/-- An operation on the ingest queue. -/
theorem NmeaBridge.ingestPut_thins {bridge next : NmeaBridge config} {frame : NmeaFrame config}
    {pc : PutPc} {later : Option PutPc} (taken : bridge.ingestPut frame pc = (next, later)) :
    (∃ lost, Thins (bridge.ingestMsgq.items ++ [frame])
        (next.ingestMsgq.items ++ PutPc.undelivered frame later) lost ∧
      lost + PutPc.unsettled (some pc) ≤ pc.counts.toNat + PutPc.unsettled later) ∧
      next.bridgeStats.ingestDroppedOldest =
        bridge.bridgeStats.ingestDroppedOldest + UInt32.ofNat pc.counts.toNat := by
  have put := pc.step_thins frame bridge.ingestMsgq bridge.bridgeStats.ingestDroppedOldest
  obtain ⟨rfl, rfl⟩ := Prod.mk.inj taken
  exact put

/-- The dispatcher's operation increments the drop counter of slot `i`. -/
def DispatcherPc.counts (i : Fin config.nmeaSinksMax) : DispatcherPc config → Bool
  | .putting _ j _ _ pc => i = j && pc.counts
  | .waiting | .locking _ | .scanning .. | .accounting .. => false

/-- Frames the dispatcher has taken out of the queue of slot `i` and not counted yet. -/
def DispatcherPc.unsettled (i : Fin config.nmeaSinksMax) : DispatcherPc config → Nat
  | .putting _ j _ _ pc => if i = j then PutPc.unsettled (some pc) else 0
  | .waiting | .locking _ | .scanning .. | .accounting .. => 0

namespace NmeaBridge

variable {bridge next : NmeaBridge config} {pc nextPc : DispatcherPc config}
  {i : Fin config.nmeaSinksMax}

/-- A step loses a frame on its way to slot `i` only against the counter of the slot. -/
structure ThinsFor (i : Fin config.nmeaSinksMax) (bridge : NmeaBridge config)
    (pc : DispatcherPc config) (next : NmeaBridge config) (nextPc : DispatcherPc config) :
    Prop where
  lines : ∃ lost, Thins (bridge.flow pc i) (next.flow nextPc i) lost ∧
    lost + pc.unsettled i ≤ (pc.counts i).toNat + nextPc.unsettled i
  dropped : (next.sinks i).stats.droppedOldest =
    (bridge.sinks i).stats.droppedOldest + UInt32.ofNat (pc.counts i).toNat

/-- Steps that have nothing to do with slot `i`. -/
theorem ThinsFor.of_same (flow : next.flow nextPc i = bridge.flow pc i)
    (silent : pc.counts i = false) (settled : pc.unsettled i = 0)
    (dropped : (next.sinks i).stats.droppedOldest = (bridge.sinks i).stats.droppedOldest) :
    ThinsFor i bridge pc next nextPc := by
  constructor
  · rw [silent, settled]
    exact ⟨0, .of_eq flow, Nat.zero_le _⟩
  · rw [silent, dropped]
    exact (add_zero _).symm

/-- An operation of a call of `put_drop_oldest` on the queue of slot `j`, after which the
call goes on, or has returned. -/
theorem thinsFor_put {frame : NmeaFrame config} {j : Fin config.nmeaSinksMax}
    {slots : List (Fin config.nmeaSinksMax)} {before droppedOldest : UInt32} {stage : PutPc}
    {msgq : BoundedQueue (NmeaFrame config) config.sinkQueueDepth} {later : Option PutPc}
    (once : (j :: slots).Nodup)
    (moved : stage.step frame (bridge.sinks j).msgq (bridge.sinks j).stats.droppedOldest =
      (msgq, droppedOldest, later)) :
    ThinsFor i bridge (.putting frame j slots before stage)
      (bridge.setSlot j { bridge.sinks j with msgq, stats.droppedOldest := droppedOldest })
      (later.elim (.accounting frame j slots before) (.putting frame j slots before)) := by
  by_cases here : i = j
  · subst here
    have fresh := (List.nodup_cons.mp once).1
    have put := stage.step_thins frame (bridge.sinks i).msgq (bridge.sinks i).stats.droppedOldest
    rw [moved] at put
    obtain ⟨⟨lost, thins, settled⟩, dropped⟩ := put
    have passed := thins.append_right bridge.ingestMsgq.items
    constructor
    · use lost
      cases later with
      | none =>
          constructor
          · simpa [flow, DispatcherPc.pendingFor, PutPc.undelivered, fresh] using passed
          · simpa [DispatcherPc.counts, DispatcherPc.unsettled, PutPc.unsettled] using settled
      | some later =>
          constructor
          · simpa [flow, DispatcherPc.pendingFor, PutPc.undelivered] using passed
          · simpa [DispatcherPc.counts, DispatcherPc.unsettled] using settled
    · simpa [DispatcherPc.counts] using dropped
  · apply ThinsFor.of_same
    · cases later <;> simp [flow, DispatcherPc.pendingFor, here]
    · simp [DispatcherPc.counts, here]
    · simp [DispatcherPc.unsettled, here]
    · simp [here]

/-- The steps of the dispatcher, for an active slot. -/
theorem stepDispatcher_thins (once : pc.VisitsOnce) (active : (bridge.sinks i).active = true)
    (taken : bridge.stepDispatcher pc = some (next, nextPc)) :
    ThinsFor i bridge pc next nextPc := by
  cases stepDispatcher_cases taken with
  | takes head => exact .of_same (by simp [flow, DispatcherPc.pendingFor, head]) rfl rfl rfl
  | locks frame => exact .of_same (by simp [flow, DispatcherPc.pendingFor]) rfl rfl rfl
  | endsUnsent | ends => exact .of_same (by simp [flow, DispatcherPc.pendingFor]) rfl rfl rfl
  | @skips frame j slots any inactive =>
      have elsewhere : i ≠ j := by
        intro same
        rw [same, inactive] at active
        contradiction
      exact .of_same (by simp [flow, DispatcherPc.pendingFor, elsewhere]) rfl rfl rfl
  | calls => exact .of_same (by simp [flow, DispatcherPc.pendingFor]) rfl rfl rfl
  | operates moved | returns moved => exact thinsFor_put once moved
  | accounts frame j slots before =>
      by_cases here : i = j
      · subst here
        exact .of_same (by simp [flow, DispatcherPc.pendingFor, sinkAccount]) rfl rfl
          (by simp [sinkAccount])
      · exact .of_same (by simp [flow, DispatcherPc.pendingFor, sinkAccount, here]) rfl rfl
          (by simp [sinkAccount, here])

end NmeaBridge

end Queues

section Sessions

variable {shared shared' : SessionShared config} {session session' : TcpNmeaSession config}
  {sys : SysReturn} {delivered : List (List Byte)} {i : Fin config.nmeaSinksMax}

/-- A session on slot `i` that has sent the lines `delivered` and a part of the one it has
in hand. -/
structure Sends (session : TcpNmeaSession config) (i : Fin config.nmeaSinksMax)
    (delivered : List (List Byte)) : Prop where
  streaming : session.pc.phase = .streaming
  named : session.sink.id = i.val
  reads : session.pc.Reads i
  accepted : session.accepted = delivered.flatten ++ session.pc.sent

namespace Sends

/-- The session moves on with the same lines in hand and sent. -/
theorem move (sends : Sends session i delivered) {pc : SessionPc config}
    (phase : pc.phase = .streaming) (sent : pc.sent = session.pc.sent) (reads : pc.Reads i) :
    Sends { session with pc } i delivered where
  streaming := phase
  named := sends.named
  reads := reads
  accepted := by
    rw [sent]
    exact sends.accepted

/-- Reading the socket leaves the lines where they are, or ends the session. -/
theorem drainSocketRx (sends : Sends session i delivered) (hand : session.pc.inHand = [])
    (sent : session.pc.sent = []) (continuation : SessionPc config)
    (phase : continuation.phase = .streaming) (quiet : continuation.inHand = [])
    (unsent : continuation.sent = []) (reads : continuation.Reads i)
    (after : (session.drainSocketRx continuation sys).pc.phase = .streaming) :
    Sends (session.drainSocketRx continuation sys) i delivered ∧
      (session.drainSocketRx continuation sys).pc.inHand = session.pc.inHand := by
  unfold TcpNmeaSession.drainSocketRx at after ⊢
  split
  · exact ⟨sends, rfl⟩
  split
  · simp_all [SessionPc.phase]
  split
  · exact ⟨sends.move phase (unsent.trans sent.symm) reads, quiet.trans hand.symm⟩
  · simp_all [SessionPc.phase]

/-- A pass of `send_all` sends more of the line in hand, or has sent it all. -/
theorem sendAll (sends : Sends session i delivered) {frame : NmeaFrame config} {sentTotal : Nat}
    (pc : session.pc = .send frame sentTotal)
    (taken : session.sendAll frame sentTotal sys = some session')
    (after : session'.pc.phase = .streaming) :
    ∃ delivered', Sends session' i delivered' ∧
      delivered' ++ session'.pc.inHand = delivered ++ session.pc.inHand := by
  have accepted := sends.accepted
  rw [pc, SessionPc.sent] at accepted
  unfold TcpNmeaSession.sendAll at taken
  split at taken
  · split at taken
    · contradiction
    split at taken
    · -- The socket accepts more of the line.
      cases taken
      refine ⟨delivered, ⟨rfl, sends.named, trivial, ?_⟩, by rw [pc]; rfl⟩
      simp only [SessionPc.sent, accepted, List.append_assoc, List.take_add]
    split at taken
    · cases taken
      exact ⟨delivered, sends, rfl⟩
    · cases taken
      contradiction
  · -- The whole line has been sent.
    rename_i finished
    cases taken
    refine ⟨delivered ++ [frame.data], ⟨rfl, sends.named, trivial, ?_⟩, ?_⟩
    · rw [List.take_of_length_le (Nat.le_of_not_lt finished)] at accepted
      simp [SessionPc.sent, accepted]
    · simp [SessionPc.inHand, pc]

/-- A step of a session that goes on sending loses nothing. -/
theorem step (sends : Sends session i delivered) (dispatcher : DispatcherPc config)
    (behind : List (List Byte))
    (taken : session.step shared sys = some (shared', session'))
    (after : session'.pc.phase = .streaming) :
    ∃ delivered', Sends session' i delivered' ∧
      delivered' ++ session'.pc.inHand ++ shared'.bridge.toward dispatcher behind i =
        delivered ++ session.pc.inHand ++ shared.bridge.toward dispatcher behind i := by
  have phase := sends.streaming
  cases pc : session.pc with
  | sinkOpen | closeUnopened | ledSendFailed | ledEnded | decActive | sinkClose | closeFd
  | returned =>
      rw [pc] at phase
      contradiction
  | incActive | ledStarted | ledForwarded =>
      simp only [TcpNmeaSession.step, pc, Option.some.injEq, Prod.mk.injEq] at taken
      obtain ⟨rfl, rfl⟩ := taken
      refine ⟨delivered, sends.move rfl (by rw [pc]; rfl) trivial, ?_⟩
      simp [SessionPc.inHand]
  | drain =>
      simp only [TcpNmeaSession.step, pc, Option.some.injEq, Prod.mk.injEq] at taken
      obtain ⟨rfl, rfl⟩ := taken
      obtain ⟨kept, hand⟩ := sends.drainSocketRx (by rw [pc]; rfl) (by rw [pc]; rfl) .takeCheck
        rfl rfl rfl trivial after
      exact ⟨delivered, kept, by rw [hand, pc]⟩
  | drainAfter =>
      simp only [TcpNmeaSession.step, pc, Option.some.injEq, Prod.mk.injEq] at taken
      obtain ⟨rfl, rfl⟩ := taken
      obtain ⟨kept, hand⟩ := sends.drainSocketRx (by rw [pc]; rfl) (by rw [pc]; rfl) .drain
        rfl rfl rfl trivial after
      exact ⟨delivered, kept, by rw [hand, pc]⟩
  | takeCheck =>
      obtain ⟨rfl, ⟨slot, checked, rfl⟩ | rfl | rfl⟩ := TcpNmeaSession.step_takeCheck pc taken
      · have named := (NmeaBridge.takeCheck_eq_ok_iff.mp checked).1
        have same : slot = i := by
          apply Fin.ext
          exact Int.ofNat.inj (named.symm.trans sends.named)
        exact ⟨delivered, sends.move rfl (by rw [pc]; rfl) same, rfl⟩
      · contradiction
      · exact ⟨delivered, sends.move rfl (by rw [pc]; rfl) trivial, rfl⟩
  | takeGet slot =>
      have reads := sends.reads
      rw [pc] at reads
      obtain rfl : slot = i := reads
      rcases TcpNmeaSession.step_takeGet pc taken with ⟨frame, msgq, head, rfl, rfl⟩ | ⟨rfl, rfl⟩
      · refine ⟨delivered, sends.move rfl (by rw [pc]; rfl) rfl, ?_⟩
        simp [SessionPc.inHand, NmeaBridge.toward, NmeaBridge.flow, head]
      · exact ⟨delivered, sends.move rfl (by rw [pc]; rfl) trivial, rfl⟩
  | takeCount slot frame =>
      have reads := sends.reads
      rw [pc] at reads
      obtain rfl : slot = i := reads
      simp only [TcpNmeaSession.step, pc, Option.some.injEq, Prod.mk.injEq] at taken
      obtain ⟨rfl, rfl⟩ := taken
      refine ⟨delivered, sends.move rfl (by rw [pc]; rfl) trivial, ?_⟩
      simp [SessionPc.inHand, NmeaBridge.toward, NmeaBridge.flow, NmeaBridge.takeCount]
  | send frame sentTotal =>
      obtain ⟨rfl, sent⟩ := TcpNmeaSession.step_send pc taken
      obtain ⟨delivered', kept, same⟩ := sends.sendAll pc sent after
      exact ⟨delivered', kept, by rw [same, pc]⟩

/-- Nor does it touch the drop counter. -/
theorem step_dropped (sends : Sends session i delivered)
    (taken : session.step shared sys = some (shared', session')) :
    (shared'.bridge.sinks i).stats.droppedOldest =
      (shared.bridge.sinks i).stats.droppedOldest := by
  have phase := sends.streaming
  cases needs : session.needsSinksLock with
  | false => exact ((TcpNmeaSession.step_queues taken).2.2 needs i).dropped
  | true =>
      cases pc : session.pc with
      | sinkOpen | sinkClose =>
          rw [pc] at phase
          contradiction
      | takeCheck =>
          obtain ⟨rfl, -⟩ := TcpNmeaSession.step_takeCheck pc taken
          rfl
      | _ => simp [TcpNmeaSession.needsSinksLock, pc] at needs

end Sends

/-- A session that does not own slot `i` leaves its queue alone. -/
theorem TcpNmeaSession.step_elsewhere {lines : List (List Byte)}
    {upstream : Fin config.nmeaSinksMax → List (List Byte)}
    (inOrder : InOrder lines upstream session) (active : (shared.bridge.sinks i).active = true)
    (elsewhere : session.ownedSink ≠ some i)
    (taken : session.step shared sys = some (shared', session')) :
    (shared'.bridge.sinks i).msgq = (shared.bridge.sinks i).msgq ∧
      (shared'.bridge.sinks i).stats.droppedOldest =
        (shared.bridge.sinks i).stats.droppedOldest := by
  cases pc : session.pc with
  | sinkOpen =>
      rcases step_sinkOpen pc taken with ⟨j, free, rfl, rfl⟩ | ⟨_, rfl, rfl⟩
      · have inactive := NmeaBridge.active_of_freeSlot free
        have other : i ≠ j := by
          intro same
          rw [same, inactive] at active
          contradiction
        simp [other]
      · exact ⟨rfl, rfl⟩
  | takeCheck =>
      obtain ⟨rfl, -⟩ := step_takeCheck pc taken
      exact ⟨rfl, rfl⟩
  | takeGet slot =>
      rw [InOrder, pc] at inOrder
      obtain ⟨j, delivered, streaming⟩ := inOrder
      have reads := streaming.reads
      rw [pc] at reads
      obtain rfl : slot = j := reads
      have other : i ≠ slot := by
        rintro rfl
        apply elsewhere
        rw [ownedSink_of_holds (by rw [pc]; rfl), streaming.named]
        simp
      rcases step_takeGet pc taken with ⟨frame, msgq, head, rfl, rfl⟩ | ⟨rfl, rfl⟩
      · simp [other]
      · exact ⟨rfl, rfl⟩
  | takeCount slot frame =>
      simp only [step, pc, Option.some.injEq, Prod.mk.injEq] at taken
      obtain ⟨rfl, rfl⟩ := taken
      by_cases here : i = slot
      · subst here
        simp [NmeaBridge.takeCount]
      · simp [NmeaBridge.takeCount, here]
  | send frame sentTotal =>
      obtain ⟨rfl, -⟩ := step_send pc taken
      exact ⟨rfl, rfl⟩
  | sinkClose =>
      rcases step_sinkClose pc taken with ⟨j, found, rfl, rfl⟩ | ⟨missing, rfl, rfl⟩
      · have other : i ≠ j := by
          rintro rfl
          exact elsewhere ((ownedSink_of_holds (by rw [pc]; rfl)).trans found)
        simp [other]
      · exact ⟨rfl, rfl⟩
  | closeUnopened | incActive | ledStarted | drain | drainAfter | ledSendFailed | ledForwarded
  | ledEnded | decActive | closeFd =>
      simp only [step, pc, Option.some.injEq, Prod.mk.injEq] at taken
      obtain ⟨rfl, -⟩ := taken
      simp
  | returned => simp [step, pc] at taken

/-- A session that sends owns its slot. -/
theorem Sends.ownedSink (sends : Sends session i delivered) : session.ownedSink = some i := by
  have phase := sends.streaming
  have holds : session.pc.holdsSink = true := by
    cases pc : session.pc <;> rw [pc] at phase <;> first | rfl | contradiction
  rw [TcpNmeaSession.ownedSink_of_holds holds, sends.named]
  simp

/-- A session that has registered its sink never goes back, and one that has ended does
not go on. -/
theorem TcpNmeaSession.step_phase (begun : session.pc.phase ≠ .before)
    (taken : session.step shared sys = some (shared', session')) :
    session'.pc.phase ≠ .before ∧
      (session'.pc.phase = .streaming → session.pc.phase = .streaming) := by
  cases pc : session.pc with
  | sinkOpen | closeUnopened =>
      rw [pc] at begun
      contradiction
  | returned => simp [step, pc] at taken
  | incActive | ledStarted | ledForwarded | takeCount | ledSendFailed | ledEnded | decActive
  | closeFd =>
      simp only [step, pc, Option.some.injEq, Prod.mk.injEq] at taken
      obtain ⟨-, rfl⟩ := taken
      simp [SessionPc.phase]
  | drain | drainAfter =>
      simp only [step, pc, Option.some.injEq, Prod.mk.injEq] at taken
      obtain ⟨-, rfl⟩ := taken
      unfold drainSocketRx
      refine ⟨?_, fun _ => rfl⟩
      repeat' split
      all_goals simp [pc, SessionPc.phase]
  | takeCheck =>
      obtain ⟨-, ⟨slot, -, rfl⟩ | rfl | rfl⟩ := step_takeCheck pc taken <;> simp [SessionPc.phase]
  | takeGet slot =>
      rcases step_takeGet pc taken with ⟨frame, msgq, -, -, rfl⟩ | ⟨-, rfl⟩ <;>
        simp [SessionPc.phase]
  | send frame sentTotal =>
      obtain ⟨-, sent⟩ := step_send pc taken
      unfold sendAll at sent
      refine ⟨?_, fun _ => rfl⟩
      repeat' split at sent
      all_goals first
        | contradiction
        | cases sent
          simp [pc, SessionPc.phase]
  | sinkClose =>
      rcases step_sinkClose pc taken with ⟨j, -, -, rfl⟩ | ⟨-, -, rfl⟩ <;> simp [SessionPc.phase]

end Sessions

/-- Frames the UART thread has taken out of the ingest queue and not counted yet. -/
def UartPc.unsettled : UartPc config → Nat
  | .put _ pc => PutPc.unsettled (some pc)
  | .poll | .publish _ | .ledReceived => 0

namespace Pipeline

/-- The lines the UART thread has completed so far. -/
def published (pipeline : Pipeline config ι) : List (List Byte) :=
  (uartRxThread config [pipeline.received]).published

/-- The step increments the drop counter of the ingest queue. -/
def countsIngest (pipeline : Pipeline config ι) : PipelineAction ι → Bool
  | .uart .. =>
      match pipeline.uartPc with
      | .put _ pc => pc.counts
      | .poll | .publish _ | .ledReceived => false
  | .dispatcher | .session .. => false

/-- The step increments the drop counter of slot `i`. -/
def countsSink (i : Fin config.nmeaSinksMax) (pipeline : Pipeline config ι) :
    PipelineAction ι → Bool
  | .dispatcher => pipeline.dispatcher.counts i
  | .uart .. | .session .. => false

/-- Lines that the dispatcher has not taken yet, oldest first. -/
def incoming (pipeline : Pipeline config ι) : List (List Byte) :=
  pipeline.shared.bridge.ingestMsgq.items.map NmeaFrame.data ++ pipeline.uartPc.inHand

/-- Frames lost on the way to slot `i` that the next operation will count. -/
def unsettled (pipeline : Pipeline config ι) (i : Fin config.nmeaSinksMax) : Nat :=
  pipeline.uartPc.unsettled + pipeline.dispatcher.unsettled i

section Steps

variable {pipeline next : Pipeline config ι} {action : PipelineAction ι}
  {i : Fin config.nmeaSinksMax}

/-- The stream is in order, the bridge accepts what is published, and the sinks have one
owner each. -/
structure Delivers (pipeline : Pipeline config ι) : Prop where
  order : pipeline.StreamOrder
  inStep : pipeline.UartInStep
  owned : SinksOwned pipeline.shared.bridge pipeline.sessions

theorem delivers_of_reachable [DecidableEq ι] (reachable : (machine config ι).Reachable pipeline) :
    pipeline.Delivers := by
  apply reachable.invariant Delivers
  · intro start initial
    refine ⟨.of_initial initial, .of_initial initial, ?_⟩
    obtain ⟨fd, name, sink, rfl⟩ := initial
    refine ⟨.start (by simp) fun id => ?_, fun id holds => ?_⟩
    · exact TcpNmeaSession.ownedSink_eq_none rfl
    · contradiction
  · intro pipeline action next delivers taken
    refine ⟨delivers.order.step taken, delivers.inStep.step taken, ?_⟩
    cases action with
    | uart ch sys =>
        cases taken
        obtain ⟨sessions, -, sinks⟩ := pipeline.stepUart_others ch sys
        rw [sessions]
        exact delivers.owned.congr fun j => by rw [sinks]
    | dispatcher =>
        obtain ⟨bridge, dispatcher, moved, rfl⟩ := step_dispatcher_cases taken
        exact delivers.owned.congr (NmeaBridge.stepDispatcher_active moved)
    | session id sys =>
        obtain ⟨shared, session, moved, rfl⟩ := stepSession_cases taken
        exact delivers.owned.step
          (TcpNmeaSession.step_sinks (delivers.owned.holderOwns id) moved)

/-- What a step makes of the two drop counters on the way to slot `i`. -/
structure CountsDrops (pipeline : Pipeline config ι) (action : PipelineAction ι)
    (i : Fin config.nmeaSinksMax) (next : Pipeline config ι) : Prop where
  ingest : next.shared.bridge.bridgeStats.ingestDroppedOldest =
    pipeline.shared.bridge.bridgeStats.ingestDroppedOldest +
      UInt32.ofNat (pipeline.countsIngest action).toNat
  sink : (next.shared.bridge.sinks i).stats.droppedOldest =
    (pipeline.shared.bridge.sinks i).stats.droppedOldest +
      UInt32.ofNat (pipeline.countsSink i action).toNat

/-- What a step makes of the lines on their way to slot `i`, of those published, and of
the drop counters. -/
structure Passes (pipeline : Pipeline config ι) (action : PipelineAction ι)
    (i : Fin config.nmeaSinksMax) (next : Pipeline config ι) : Prop where
  lines : ∃ completed lost, next.published = pipeline.published ++ completed ∧
    Thins (pipeline.upstream i ++ completed) (next.upstream i) lost ∧
      lost + pipeline.unsettled i ≤ (pipeline.countsIngest action).toNat +
        (pipeline.countsSink i action).toNat + next.unsettled i
  counts : pipeline.CountsDrops action i next

/-- A byte adds the line it completes. -/
theorem published_concat (inStep : pipeline.UartInStep) (ch : Byte) :
    (uartRxThread config [pipeline.received ++ [ch]]).published =
      pipeline.published ++ (uartRxByte config pipeline.uart ch).2.toList := by
  change ((pipeline.received ++ [ch]).foldl (UartRun.read config) {}).published = _
  rw [List.foldl_append, inStep.thread]
  rfl

/-- What a step of the UART thread makes of the lines that come in, and of the drop counter
of the ingest queue. -/
structure Receives (pipeline : Pipeline config ι) (ch : Byte) (sys : SysReturn)
    (next : Pipeline config ι) : Prop where
  lines : ∃ completed lost, next.published = pipeline.published ++ completed ∧
    Thins (pipeline.incoming ++ completed) next.incoming lost ∧
      lost + pipeline.uartPc.unsettled ≤
        (pipeline.countsIngest (.uart ch sys)).toNat + next.uartPc.unsettled
  ingest : next.shared.bridge.bridgeStats.ingestDroppedOldest =
    pipeline.shared.bridge.bridgeStats.ingestDroppedOldest +
      UInt32.ofNat (pipeline.countsIngest (.uart ch sys)).toNat

theorem receives_stepUart (inStep : pipeline.UartInStep) (ch : Byte) (sys : SysReturn) :
    Receives pipeline ch sys (pipeline.stepUart ch sys) := by
  have byte := published_concat inStep ch
  have step := pipeline.stepUart_cases ch sys
  generalize pipeline.stepUart ch sys = next at step
  cases step with
  | reads pc read =>
      rw [read] at byte
      refine ⟨⟨[], 0, byte, ?_, ?_⟩, ?_⟩
      · rw [List.append_nil]
        exact .refl _
      · simp [countsIngest, pc]
      · simp [countsIngest, pc]
  | @completes uart line pc read =>
      rw [read] at byte
      refine ⟨⟨[line], 0, byte, .of_eq ?_, ?_⟩, ?_⟩
      · simp [incoming, UartPc.inHand, pc]
      · simp [countsIngest, UartPc.unsettled, pc]
      · simp [countsIngest, pc]
  | @rejects line bridge errno pc checked =>
      obtain ⟨frame, accepted⟩ := pipeline.shared.bridge.publishCheck_of_published
        (inStep.calls line pc)
      rw [accepted] at checked
      cases checked
  | @accepts line bridge frame pc checked =>
      have sameLine := (NmeaBridge.publishCheck_flow checked).2 frame rfl
      obtain ⟨queue, dropped⟩ := pipeline.shared.bridge.publishCheck_ingest (some line)
      rw [checked] at queue dropped
      change bridge.ingestMsgq = pipeline.shared.bridge.ingestMsgq at queue
      refine ⟨⟨[], 0, (List.append_nil _).symm, .of_eq ?_, ?_⟩, ?_⟩
      · simp [incoming, UartPc.inHand, pc, queue, sameLine]
      · simp [countsIngest, UartPc.unsettled, PutPc.unsettled, pc]
      · simpa [countsIngest, pc] using dropped
  | @operates frame stage bridge later pc moved =>
      obtain ⟨⟨lost, thins, settled⟩, dropped⟩ := NmeaBridge.ingestPut_thins moved
      refine ⟨⟨[], lost, (List.append_nil _).symm, ?_, ?_⟩, ?_⟩
      · simpa [incoming, UartPc.inHand, pc, PutPc.undelivered] using thins.map NmeaFrame.data
      · simpa [countsIngest, UartPc.unsettled, pc] using settled
      · simpa [countsIngest, pc] using dropped
  | @returns frame stage bridge pc moved =>
      obtain ⟨⟨lost, thins, settled⟩, dropped⟩ := NmeaBridge.ingestPut_thins moved
      refine ⟨⟨[], lost, (List.append_nil _).symm, ?_, ?_⟩, ?_⟩
      · simpa [incoming, UartPc.inHand, pc, PutPc.undelivered] using thins.map NmeaFrame.data
      · simpa [countsIngest, UartPc.unsettled, PutPc.unsettled, pc] using settled
      · simpa [countsIngest, pc] using dropped
  | reports pc =>
      refine ⟨⟨[], 0, (List.append_nil _).symm, .of_eq ?_, ?_⟩, ?_⟩
      · simp [incoming, UartPc.inHand, pc]
      · simp [countsIngest, UartPc.unsettled, pc]
      · simp [countsIngest, pc]

/-- The way to slot `i` begins with the lines that come in. -/
theorem upstream_eq (pipeline : Pipeline config ι) (i : Fin config.nmeaSinksMax) :
    pipeline.upstream i =
      ((pipeline.shared.bridge.sinks i).msgq.items ++ pipeline.dispatcher.pendingFor i).map
        NmeaFrame.data ++ pipeline.incoming := by
  simp [upstream, NmeaBridge.toward, NmeaBridge.flow, incoming]

theorem passes_stepUart (inStep : pipeline.UartInStep) (ch : Byte) (sys : SysReturn)
    (i : Fin config.nmeaSinksMax) :
    Passes pipeline (.uart ch sys) i (pipeline.stepUart ch sys) := by
  obtain ⟨⟨completed, lost, published, thins, settled⟩, ingest⟩ :=
    receives_stepUart inStep ch sys
  have others : (pipeline.stepUart ch sys).sessions = pipeline.sessions ∧ _ ∧ _ :=
    stepUart_others ch sys
  refine ⟨⟨completed, lost, published, ?_, ?_⟩, ingest, ?_⟩
  · rw [upstream_eq, upstream_eq, others.2.1, others.2.2, List.append_assoc]
    exact thins.append_left _
  · simp only [countsSink, unsettled, others.2.1, Bool.toNat_false]
    omega
  · rw [others.2.2]
    exact (add_zero _).symm

theorem passes_stepDispatcher [DecidableEq ι] (delivers : pipeline.Delivers)
    (active : (pipeline.shared.bridge.sinks i).active = true)
    (taken : pipeline.step .dispatcher = some next) : Passes pipeline .dispatcher i next := by
  obtain ⟨bridge, dispatcher, moved, rfl⟩ := step_dispatcher_cases taken
  obtain ⟨⟨lost, thins, settled⟩, dropped⟩ :=
    NmeaBridge.stepDispatcher_thins delivers.order.flowing.visitsOnce active moved
  refine ⟨⟨[], lost, (List.append_nil _).symm, ?_, ?_⟩, ?_, dropped⟩
  · rw [List.append_nil]
    exact (thins.map NmeaFrame.data).append_right _
  · simp only [countsIngest, countsSink, unsettled, Bool.toNat_false]
    omega
  · rw [(NmeaBridge.stepDispatcher_ingest moved).1]
    exact (add_zero _).symm

/-- The other sessions leave the way to slot `i` alone. -/
theorem passes_stepSession [DecidableEq ι] (delivers : pipeline.Delivers) {id : ι}
    {sys : SysReturn} (active : (pipeline.shared.bridge.sinks i).active = true)
    (elsewhere : (pipeline.sessions id).ownedSink ≠ some i)
    (taken : pipeline.step (.session id sys) = some next) :
    Passes pipeline (.session id sys) i next := by
  obtain ⟨shared, session, moved, rfl⟩ := stepSession_cases taken
  obtain ⟨queue, stats, -⟩ := TcpNmeaSession.step_queues moved
  obtain ⟨msgq, dropped⟩ :=
    TcpNmeaSession.step_elsewhere (delivers.order.sessions id) active elsewhere moved
  refine ⟨⟨[], 0, (List.append_nil _).symm, .of_eq ?_, ?_⟩, ?_, ?_⟩
  · simp [upstream, NmeaBridge.toward, NmeaBridge.flow, queue, msgq]
  · simp [countsIngest, countsSink, unsettled]
  · rw [stats]
    exact (add_zero _).symm
  · rw [dropped]
    exact (add_zero _).symm

/-- A step of another thread leaves a session alone. -/
theorem sessions_of_other [DecidableEq ι] {id : ι} (other : ∀ sys, action ≠ .session id sys)
    (taken : pipeline.step action = some next) : next.sessions id = pipeline.sessions id := by
  cases action with
  | uart ch sys =>
      cases taken
      exact congrFun (pipeline.stepUart_others ch sys).1 id
  | dispatcher =>
      obtain ⟨bridge, dispatcher, -, rfl⟩ := step_dispatcher_cases taken
      rfl
  | session id' sys =>
      obtain ⟨shared, session, -, rfl⟩ := stepSession_cases taken
      apply Function.update_of_ne
      intro same
      exact other sys (by rw [same])

/-- A step of another thread than that of the owner of slot `i`. -/
theorem passes_step [DecidableEq ι] (delivers : pipeline.Delivers) {id : ι}
    (owned : (pipeline.sessions id).ownedSink = some i)
    (other : ∀ sys, action ≠ .session id sys) (taken : pipeline.step action = some next) :
    Passes pipeline action i next := by
  have active : (pipeline.shared.bridge.sinks i).active = true :=
    delivers.owned.exclusive.busy_of_owns owned
  cases action with
  | uart ch sys =>
      cases taken
      exact passes_stepUart delivers.inStep ch sys i
  | dispatcher => exact passes_stepDispatcher delivers active taken
  | session id' sys =>
      have elsewhere : (pipeline.sessions id').ownedSink ≠ some i := by
        intro owns
        apply other sys
        rw [delivers.owned.exclusive.unique owns owned]
      exact passes_stepSession delivers active elsewhere taken

end Steps

section Runs

variable [DecidableEq ι]

/-- Increments of the drop counter of the ingest queue in a run. -/
def ingestCounted (opened : Pipeline config ι) (actions : List (PipelineAction ι)) : Nat :=
  ((machine config ι).trail opened actions).countP fun entry => entry.1.countsIngest entry.2

/-- Increments of the drop counter of slot `i` in a run. -/
def sinkCounted (i : Fin config.nmeaSinksMax) (opened : Pipeline config ι)
    (actions : List (PipelineAction ι)) : Nat :=
  ((machine config ι).trail opened actions).countP fun entry => entry.1.countsSink i entry.2

/-- The lines `since` have been published since the session registered with slot `i`, and
it has sent the lines `delivered`: what it has not sent is on its way or counted. -/
structure Supplied (opened : Pipeline config ι) (actions : List (PipelineAction ι)) (id : ι)
    (i : Fin config.nmeaSinksMax) (since delivered : List (List Byte))
    (pipeline : Pipeline config ι) : Prop where
  published : pipeline.published = opened.published ++ since
  sends : Sends (pipeline.sessions id) i delivered
  thins : Thins (opened.upstream i ++ since)
    (delivered ++ (pipeline.sessions id).pc.inHand ++ pipeline.upstream i)
    (ingestCounted opened actions + sinkCounted i opened actions + pipeline.unsettled i)
  ingest : pipeline.shared.bridge.bridgeStats.ingestDroppedOldest =
    opened.shared.bridge.bridgeStats.ingestDroppedOldest +
      UInt32.ofNat (ingestCounted opened actions)
  sink : (pipeline.shared.bridge.sinks i).stats.droppedOldest =
    (opened.shared.bridge.sinks i).stats.droppedOldest +
      UInt32.ofNat (sinkCounted i opened actions)

variable {opened pipeline next : Pipeline config ι} {actions : List (PipelineAction ι)}
  {action : PipelineAction ι} {id : ι} {i : Fin config.nmeaSinksMax}
  {since delivered : List (List Byte)}

/-- A step that is not the session's. -/
theorem Supplied.pass (supplied : Supplied opened actions id i since delivered pipeline)
    (reached : (machine config ι).exec opened actions = some pipeline)
    (passes : Passes pipeline action i next)
    (same : next.sessions id = pipeline.sessions id) :
    ∃ since, Supplied opened (actions ++ [action]) id i since delivered next := by
  obtain ⟨completed, lost, published, thins, settled⟩ := passes.lines
  use since ++ completed
  constructor
  · rw [published, supplied.published, List.append_assoc]
  · rw [same]
    exact supplied.sends
  · have before := supplied.thins.append_right completed
    rw [List.append_assoc, List.append_assoc _ (pipeline.upstream i)] at before
    rw [same]
    apply (before.trans (thins.append_left _)).mono
    simp only [ingestCounted, sinkCounted, Machine.trail_concat action reached,
      PutState.countP_concat]
    omega
  · rw [passes.counts.ingest, supplied.ingest]
    simp only [ingestCounted, Machine.trail_concat action reached, PutState.countP_concat,
      UInt32.ofNat_add, UInt32.add_assoc]
  · rw [passes.counts.sink, supplied.sink]
    simp only [sinkCounted, Machine.trail_concat action reached, PutState.countP_concat,
      UInt32.ofNat_add, UInt32.add_assoc]

/-- A step of the session itself. -/
theorem Supplied.send (supplied : Supplied opened actions id i since delivered pipeline)
    (reached : (machine config ι).exec opened actions = some pipeline) {sys : SysReturn}
    (taken : pipeline.step (.session id sys) = some next)
    (after : (next.sessions id).pc.phase = .streaming) :
    ∃ delivered, Supplied opened (actions ++ [.session id sys]) id i since delivered next := by
  obtain ⟨shared, session, moved, shape⟩ := stepSession_cases taken
  have self : next.sessions id = session := by
    rw [shape]
    exact Function.update_self id session pipeline.sessions
  have upstream : next.upstream i =
      shared.bridge.toward pipeline.dispatcher pipeline.uartPc.inHand i := by
    rw [shape]
    rfl
  rw [self] at after
  obtain ⟨delivered, sends, same⟩ :=
    supplied.sends.step pipeline.dispatcher pipeline.uartPc.inHand moved after
  use delivered
  have ingestCounts : ingestCounted opened (actions ++ [.session id sys]) =
      ingestCounted opened actions := by
    simp [ingestCounted, Machine.trail_concat _ reached, countsIngest]
  have sinkCounts : sinkCounted i opened (actions ++ [.session id sys]) =
      sinkCounted i opened actions := by
    simp [sinkCounted, Machine.trail_concat _ reached, countsSink]
  constructor
  · rw [shape]
    exact supplied.published
  · rw [self]
    exact sends
  · rw [self, upstream, same, ingestCounts, sinkCounts, shape]
    exact supplied.thins
  · rw [shape, (TcpNmeaSession.step_queues moved).2.1, ingestCounts]
    exact supplied.ingest
  · rw [shape, supplied.sends.step_dropped moved, sinkCounts]
    exact supplied.sink

theorem Supplied.step (supplied : Supplied opened actions id i since delivered pipeline)
    (reached : (machine config ι).exec opened actions = some pipeline)
    (delivers : pipeline.Delivers) (taken : pipeline.step action = some next)
    (after : (next.sessions id).pc.phase = .streaming) :
    ∃ since delivered, Supplied opened (actions ++ [action]) id i since delivered next := by
  by_cases own : ∃ sys, action = .session id sys
  · obtain ⟨sys, rfl⟩ := own
    obtain ⟨delivered, supplied⟩ := supplied.send reached taken after
    exact ⟨since, delivered, supplied⟩
  · have others : ∀ sys, action ≠ .session id sys := fun sys own' => own ⟨sys, own'⟩
    have passes := passes_step delivers supplied.sends.ownedSink others taken
    obtain ⟨since, supplied⟩ := supplied.pass reached passes (sessions_of_other others taken)
    exact ⟨since, delivered, supplied⟩

/-- A session that is sending after a step of any thread was sending before. -/
theorem step_phase (begun : (pipeline.sessions id).pc.phase ≠ .before)
    (taken : pipeline.step action = some next) :
    (next.sessions id).pc.phase ≠ .before ∧
      ((next.sessions id).pc.phase = .streaming →
        (pipeline.sessions id).pc.phase = .streaming) := by
  by_cases own : ∃ sys, action = .session id sys
  · obtain ⟨sys, rfl⟩ := own
    obtain ⟨shared, session, moved, rfl⟩ := stepSession_cases taken
    simp only [Function.update_self]
    exact TcpNmeaSession.step_phase begun moved
  · rw [sessions_of_other (fun sys own' => own ⟨sys, own'⟩) taken]
    exact ⟨begun, fun streaming => streaming⟩

/-- The step from `start` to `opened` registers a sink for a session, in slot `i`. -/
structure Registers (start : Pipeline config ι) (id : ι) (i : Fin config.nmeaSinksMax)
    (opened : Pipeline config ι) : Prop where
  reachable : (machine config ι).Reachable start
  opens : (start.sessions id).pc = .sinkOpen
  taken : ∃ sys, start.step (.session id sys) = some opened
  named : (opened.sessions id).sink.id = i.val

/-- What holds when a session has just registered. -/
structure Registered (opened : Pipeline config ι) (id : ι) (i : Fin config.nmeaSinksMax) :
    Prop where
  reachable : (machine config ι).Reachable opened
  unlocked : opened.dispatcher.locked = false
  none : (opened.shared.bridge.sinks i).stats.droppedOldest = 0
  supplied : Supplied opened [] id i [] [] opened

theorem Registers.registered {start : Pipeline config ι} (registers : Registers start id i opened) :
    Registered opened id i := by
  obtain ⟨reachable, opens, ⟨sys, taken⟩, named⟩ := registers
  have reached : (machine config ι).Reachable opened := by
    have last : (machine config ι).step start (.session id sys) = some opened := taken
    exact reachable.step last
  have unsent : (start.sessions id).accepted = [] := by
    have inOrder := (delivers_of_reachable reachable).order.sessions id
    rw [InOrder, opens] at inOrder
    exact inOrder
  have unlocked : start.dispatcher.locked = false := by
    by_contra locked
    simp [step, stepSession, TcpNmeaSession.needsSinksLock, opens, locked] at taken
  obtain ⟨shared, session, moved, shape⟩ := stepSession_cases taken
  have self : opened.sessions id = session := by
    rw [shape]
    exact Function.update_self id session start.sessions
  rw [self] at named
  rcases TcpNmeaSession.step_sinkOpen opens moved with ⟨j, -, rfl, rfl⟩ | ⟨-, -, rfl⟩
  · obtain rfl : j = i := Fin.ext (Int.ofNat.inj named)
    constructor
    · exact reached
    · rw [shape]
      exact unlocked
    · rw [shape]
      simp
    · constructor
      · rw [List.append_nil]
      · rw [self]
        exact ⟨rfl, rfl, trivial, unsent⟩
      · rw [self]
        apply (Thins.of_eq _).mono (Nat.zero_le _)
        simp [SessionPc.inHand]
      · exact (add_zero _).symm
      · exact (add_zero _).symm
  · contradiction

/-- Until it ends, everything the session is owed is sent, on its way, or counted. -/
theorem Registered.supplied_of_exec (registered : Registered opened id i)
    (run : (machine config ι).exec opened actions = some pipeline) :
    pipeline.Delivers ∧ (pipeline.sessions id).pc.phase ≠ .before ∧
      ((pipeline.sessions id).pc.phase = .streaming →
        ∃ since delivered, Supplied opened actions id i since delivered pipeline) := by
  have delivers : ∀ {actions pipeline}, (machine config ι).exec opened actions = some pipeline →
      pipeline.Delivers :=
    fun later => delivers_of_reachable (registered.reachable.exec later)
  apply Machine.exec_induction (motive := fun actions pipeline => pipeline.Delivers ∧
    (pipeline.sessions id).pc.phase ≠ .before ∧
      ((pipeline.sessions id).pc.phase = .streaming →
        ∃ since delivered, Supplied opened actions id i since delivered pipeline)) _ _ run
  · refine ⟨delivers_of_reachable registered.reachable, ?_,
      fun _ => ⟨[], [], registered.supplied⟩⟩
    rw [registered.supplied.sends.streaming]
    simp
  · intro actions pipeline action next reached holds taken
    obtain ⟨order, begun, earlier⟩ := holds
    have phases := step_phase begun taken
    refine ⟨delivers (Machine.exec_concat_eq_some.mpr ⟨pipeline, reached, taken⟩), phases.1,
      fun after => ?_⟩
    obtain ⟨since, delivered, supplied⟩ := earlier (phases.2 after)
    exact supplied.step reached order taken after

/-- The session on slot `i` has sent, in order, every line that was on its way to it in the
state `opened` or has been published since, except those still on their way. -/
def MissesNothing (opened : Pipeline config ι) (id : ι) (i : Fin config.nmeaSinksMax)
    (finish : Pipeline config ι) : Prop :=
  ∃ since delivered, finish.published = opened.published ++ since ∧
    (finish.sessions id).accepted = delivered.flatten ++ (finish.sessions id).pc.sent ∧
    delivered ++ (finish.sessions id).pc.inHand ++ finish.upstream i = opened.upstream i ++ since

/-- Where nothing was lost, nothing is missing. -/
theorem Supplied.missesNothing (supplied : Supplied opened actions id i since delivered pipeline)
    (ingest : ingestCounted opened actions = 0) (sink : sinkCounted i opened actions = 0)
    (settled : pipeline.unsettled i = 0) : MissesNothing opened id i pipeline := by
  have thins := supplied.thins
  rw [ingest, sink, settled] at thins
  exact ⟨since, delivered, supplied.published, supplied.sends.accepted, thins.eq_of_lossless⟩

/-- What the session on slot `i` has sent of the lines that were on their way to it in the
state `opened` or have been published since. -/
structure LossesCounted (opened : Pipeline config ι) (actions : List (PipelineAction ι)) (id : ι)
    (i : Fin config.nmeaSinksMax) (finish : Pipeline config ι) : Prop where
  /-- What is not sent is on its way, or it is counted or about to be. -/
  lines : ∃ since delivered, finish.published = opened.published ++ since ∧
    (finish.sessions id).accepted = delivered.flatten ++ (finish.sessions id).pc.sent ∧
    Thins (opened.upstream i ++ since)
      (delivered ++ (finish.sessions id).pc.inHand ++ finish.upstream i)
      (ingestCounted opened actions + sinkCounted i opened actions + finish.unsettled i)
  ingest : finish.shared.bridge.bridgeStats.ingestDroppedOldest =
    opened.shared.bridge.bridgeStats.ingestDroppedOldest +
      UInt32.ofNat (ingestCounted opened actions)
  sink : (finish.shared.bridge.sinks i).stats.droppedOldest =
    UInt32.ofNat (sinkCounted i opened actions)
  /-- While both counters stand still, every line is sent or on its way. -/
  lossless : actions.length < 2 ^ 32 →
    finish.shared.bridge.bridgeStats.ingestDroppedOldest =
      opened.shared.bridge.bridgeStats.ingestDroppedOldest →
    (finish.shared.bridge.sinks i).stats.droppedOldest = 0 → finish.unsettled i = 0 →
    MissesNothing opened id i finish

/-- A run has fewer increments than steps, so a counter that has not moved counted none. -/
theorem counted_eq_zero {counts : Pipeline config ι → PipelineAction ι → Bool}
    (short : actions.length < 2 ^ 32)
    (zero : UInt32.ofNat (((machine config ι).trail opened actions).countP fun entry =>
      counts entry.1 entry.2) = 0) :
    (((machine config ι).trail opened actions).countP fun entry =>
      counts entry.1 entry.2) = 0 := by
  apply (counter_eq_zero_iff _).mp zero
  apply Nat.lt_of_le_of_lt _ short
  exact Nat.le_trans List.countP_le_length (Machine.length_trail_le opened actions)

/-- From the moment a session has registered its sink until it ends, it misses no line
that is not counted by the ingest queue or by its sink. -/
theorem lossesCounted {start finish : Pipeline config ι} (registers : Registers start id i opened)
    (run : (machine config ι).exec opened actions = some finish)
    (streaming : (finish.sessions id).pc.phase = .streaming) :
    LossesCounted opened actions id i finish := by
  have registered := registers.registered
  obtain ⟨since, delivered, supplied⟩ := (registered.supplied_of_exec run).2.2 streaming
  have sink : (finish.shared.bridge.sinks i).stats.droppedOldest =
      UInt32.ofNat (sinkCounted i opened actions) := by
    rw [supplied.sink, registered.none, zero_add]
  refine ⟨⟨since, delivered, supplied.published, supplied.sends.accepted, supplied.thins⟩,
    supplied.ingest, sink, fun short still none settled => ?_⟩
  have ingestNone : ingestCounted opened actions = 0 :=
    counted_eq_zero short (add_eq_left.mp (supplied.ingest.symm.trans still))
  have sinkNone : sinkCounted i opened actions = 0 :=
    counted_eq_zero short (sink.symm.trans none)
  exact supplied.missesNothing ingestNone sinkNone settled

end Runs

/-- A session about to begin on a bridge with the smallest queues. -/
def waiting : Pipeline BridgeRun.narrow Unit where
  sessions := fun _ => { fd := 3, sinkName := none, sink := ⟨0⟩ }

/-- Three lines come in while the dispatcher does not run: the first is thrown away.  The
second is dispatched and sent in part. -/
def crowded : List (PipelineAction Unit) :=
  [.uart 65 {}, .uart newline {}, .uart 0 {}, .uart 0 {}, .uart 0 {}] ++
    [.uart 66 {}, .uart newline {}, .uart 0 {}, .uart 0 {}, .uart 0 {}] ++
    [.uart 67 {}, .uart newline {}] ++ List.replicate 6 (.uart 0 {}) ++
    List.replicate 9 .dispatcher ++
    [.session () {}, .session () {}, .session () { ret := -1 }, .session () {}, .session () {},
      .session () {}, .session () { ret := 1 }]

theorem lossesCounted_crowded :
    ∃ opened finish, waiting.step (.session () {}) = some opened ∧
      (machine BridgeRun.narrow Unit).exec opened crowded = some finish ∧
      (finish.sessions ()).accepted = [66] ∧ finish.upstream 0 = [[67, 10]] ∧
      finish.shared.bridge.bridgeStats.ingestDroppedOldest = 1 ∧
      LossesCounted opened crowded () 0 finish := by
  refine ⟨_, _, rfl, rfl, by decide, by decide, by decide, ?_⟩
  have registers : Registers waiting () 0 _ :=
    ⟨⟨waiting, [], ⟨_, _, _, rfl⟩, rfl⟩, rfl, ⟨{}, rfl⟩, rfl⟩
  exact lossesCounted registers rfl rfl

end Pipeline

end EspNmeaBridge
