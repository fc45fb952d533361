import EspNmeaBridge.Pipeline

/-!
# Stream integrity

Lines move from the UART thread's hands through the ingest queue, the dispatcher's
hands and a sink's queue into a session's hands.  `Pipeline.upstream` is what is on
its way to a slot, oldest first.  No step reorders it: a step either moves a line
along or loses one (`Feeds`).  What a session has sent followed by what is still
upstream of it is therefore always a subsequence of the stream's short lines.
-/

namespace EspNmeaBridge

open Library

variable {config : Config} {ι : Type}

/-- The lines of a stream that fit a frame. -/
def shortLines (config : Config) (received : List Byte) : List (List Byte) :=
  (segments newline received).filter fun line => line.length ≤ config.nmeaFrameMaxLen

theorem shortLines_sublist (received : List Byte) (ch : Byte) :
    (shortLines config received).Sublist (shortLines config (received ++ [ch])) := by
  apply List.Sublist.filter
  rw [segments_concat]
  split
  · exact List.sublist_append_left _ _
  · exact List.Sublist.refl _

section Framer

/-- Unless it is dropping a line, the framer holds the unfinished line. -/
def HoldsRest (uart : UartRx) (received : List Byte) : Prop :=
  uart.droppingOverlong = false → uart.line = openRest newline received

/-- A byte either completes a short line, which the thread then publishes, or
publishes nothing. -/
theorem uartRxByte_line {uart next : UartRx} {received : List Byte} {ch : Byte}
    {line : Option (List Byte)} (holds : HoldsRest uart received)
    (read : uartRxByte config uart ch = (next, line)) :
    HoldsRest next (received ++ [ch]) ∧ ∀ published, line = some published →
      shortLines config (received ++ [ch]) = shortLines config received ++ [published] := by
  unfold uartRxByte at read
  cases dropping : uart.droppingOverlong with
  | true =>
      by_cases closes : ch = newline
      · subst closes
        simp only [dropping, if_true, Prod.mk.injEq] at read
        obtain ⟨rfl, rfl⟩ := read
        exact ⟨fun _ => by simp, by simp⟩
      · simp only [dropping, closes, if_true, if_false, Prod.mk.injEq] at read
        obtain ⟨rfl, rfl⟩ := read
        exact ⟨fun kept => by simp_all, by simp⟩
  | false =>
      have rest := holds dropping
      by_cases room : uart.line.length < config.nmeaFrameMaxLen
      · by_cases closes : ch = newline
        · subst closes
          simp only [dropping, room, if_true, Bool.false_eq_true, if_false, Prod.mk.injEq] at read
          obtain ⟨rfl, rfl⟩ := read
          refine ⟨fun _ => by simp, fun published equal => ?_⟩
          obtain rfl := Option.some.inj equal
          rw [rest] at room ⊢
          have fits : (openRest newline received).length + 1 ≤ config.nmeaFrameMaxLen := room
          simp [shortLines, fits]
        · simp only [dropping, room, closes, if_true, Bool.false_eq_true, if_false,
            Prod.mk.injEq] at read
          obtain ⟨rfl, rfl⟩ := read
          refine ⟨fun _ => ?_, by simp⟩
          rw [openRest_concat_of_ne _ closes, rest]
      · simp only [dropping, room, Bool.false_eq_true, if_false, Prod.mk.injEq] at read
        obtain ⟨rfl, rfl⟩ := read
        exact ⟨fun kept => by simp at kept, by simp⟩

end Framer

section Queues

/-- The frame `put_drop_oldest` still has to deliver. -/
def PutPc.undelivered {α : Type} (frame : α) : Option PutPc → List α
  | some _ => [frame]
  | none => []

/-- No operation of `put_drop_oldest` reorders or repeats anything. -/
theorem PutPc.step_sublist {α : Type} {capacity : Nat} (frame : α)
    (msgq : BoundedQueue α capacity) (dropCounter : UInt32) (pc : PutPc) :
    ((pc.step frame msgq dropCounter).1.items ++
      undelivered frame (pc.step frame msgq dropCounter).2.2).Sublist (msgq.items ++ [frame]) := by
  have delivered : ∀ next, msgq.put frame = some next → next.items = msgq.items ++ [frame] :=
    fun next stored => (BoundedQueue.put_eq_some_iff.mp stored).2
  cases pc with
  | put | putAgain =>
      cases stored : msgq.put frame with
      | some next => simp [step, stored, undelivered, delivered next stored]
      | none => simp [step, stored, undelivered]
  | get =>
      cases got : msgq.get with
      | some pair =>
          simp only [step, got, undelivered, BoundedQueue.get_eq_some_iff.mp got]
          exact (List.sublist_cons_self _ _).append_right [frame]
      | none => simp [step, got, undelivered]
  | count => simp [step, undelivered]
  | countAgain => simp [step, undelivered]

/-- Frames in the dispatcher's hands that are still to be put into slot `i`. -/
def DispatcherPc.pendingFor (i : Fin config.nmeaSinksMax) :
    DispatcherPc config → List (NmeaFrame config)
  | .waiting => []
  | .locking frame => [frame]
  | .scanning frame slots _ => if i ∈ slots then [frame] else []
  | .putting frame j slots _ _ => if i = j ∨ i ∈ slots then [frame] else []
  | .accounting frame _ slots _ => if i ∈ slots then [frame] else []

/-- The loop visits each slot once. -/
def DispatcherPc.VisitsOnce : DispatcherPc config → Prop
  | .waiting | .locking _ => True
  | .scanning _ slots _ => slots.Nodup
  | .putting _ i slots _ _ | .accounting _ i slots _ => (i :: slots).Nodup

/-- Frames on their way from the ingest queue to a session on slot `i`. -/
def NmeaBridge.flow (bridge : NmeaBridge config) (dispatcher : DispatcherPc config)
    (i : Fin config.nmeaSinksMax) : List (NmeaFrame config) :=
  (bridge.sinks i).msgq.items ++ dispatcher.pendingFor i ++ bridge.ingestMsgq.items

theorem singleton_sublist_of_imp {α : Type} {stronger weaker : Prop} [Decidable stronger]
    [Decidable weaker] (implies : stronger → weaker) (item : α) :
    (if stronger then [item] else []).Sublist (if weaker then [item] else []) := by
  by_cases holds : stronger
  · simp [holds, implies holds]
  · simp [holds]

/-- A dispatcher step moves its frame along or loses it. -/
theorem NmeaBridge.stepDispatcher_flow {bridge next : NmeaBridge config}
    {pc nextPc : DispatcherPc config} (once : pc.VisitsOnce)
    (taken : bridge.stepDispatcher pc = some (next, nextPc)) :
    nextPc.VisitsOnce ∧ ∀ i, (next.flow nextPc i).Sublist (bridge.flow pc i) := by
  cases stepDispatcher_cases taken with
  | takes head =>
      refine ⟨trivial, fun i => ?_⟩
      simp [flow, DispatcherPc.pendingFor, head]
  | locks frame => exact ⟨List.nodup_finRange _, fun i => by simp [flow, DispatcherPc.pendingFor]⟩
  | endsUnsent | ends => exact ⟨trivial, fun i => by simp [flow, DispatcherPc.pendingFor]⟩
  | @skips frame j slots any inactive =>
      refine ⟨(List.nodup_cons.mp once).2, fun i => ?_⟩
      have fewer := singleton_sublist_of_imp
        (fun later : i ∈ slots => List.mem_cons_of_mem j later) frame
      exact (fewer.append_left _).append_right _
  | calls => exact ⟨once, fun i => by simp [flow, DispatcherPc.pendingFor]⟩
  | @operates frame j slots before pc msgq droppedOldest later moved =>
      have kept := pc.step_sublist frame (bridge.sinks j).msgq (bridge.sinks j).stats.droppedOldest
      rw [moved] at kept
      refine ⟨once, fun i => ?_⟩
      by_cases same : i = j
      · subst same
        simpa [flow, DispatcherPc.pendingFor, PutPc.undelivered] using kept
      · simp [flow, DispatcherPc.pendingFor, same]
  | @returns frame j slots before pc msgq droppedOldest moved =>
      have fresh := (List.nodup_cons.mp once).1
      have kept := pc.step_sublist frame (bridge.sinks j).msgq (bridge.sinks j).stats.droppedOldest
      rw [moved] at kept
      refine ⟨once, fun i => ?_⟩
      by_cases same : i = j
      · subst same
        simpa [flow, DispatcherPc.pendingFor, fresh, PutPc.undelivered] using
          kept.append_right bridge.ingestMsgq.items
      · simp [flow, DispatcherPc.pendingFor, same]
  | accounts frame j slots before =>
      refine ⟨(List.nodup_cons.mp once).2, fun i => ?_⟩
      by_cases same : i = j
      · subst same
        simp [flow, DispatcherPc.pendingFor, sinkAccount]
      · simp [flow, DispatcherPc.pendingFor, sinkAccount, same]

/-- The checks of a publish leave the queues alone and pass the line on unchanged. -/
theorem NmeaBridge.publishCheck_flow {bridge next : NmeaBridge config} {line : List Byte}
    {result : Except Errno (NmeaFrame config)}
    (checked : bridge.publishCheck (some line) = (next, result)) :
    (∀ dispatcher i, next.flow dispatcher i = bridge.flow dispatcher i) ∧
      ∀ frame, result = .ok frame → frame.data = line := by
  simp only [publishCheck] at checked
  split at checked
  · obtain ⟨rfl, rfl⟩ := Prod.mk.inj checked
    exact ⟨fun _ _ => rfl, by simp⟩
  · split at checked
    · obtain ⟨rfl, rfl⟩ := Prod.mk.inj checked
      exact ⟨fun _ _ => rfl, by simp⟩
    · obtain ⟨rfl, rfl⟩ := Prod.mk.inj checked
      exact ⟨fun _ _ => rfl, fun frame equal => by rw [← Except.ok.inj equal]⟩

theorem NmeaBridge.ingestPut_flow {bridge next : NmeaBridge config} {frame : NmeaFrame config}
    {pc : PutPc} {later : Option PutPc} (taken : bridge.ingestPut frame pc = (next, later))
    (dispatcher : DispatcherPc config) (i : Fin config.nmeaSinksMax) :
    (next.flow dispatcher i ++ PutPc.undelivered frame later).Sublist
      (bridge.flow dispatcher i ++ [frame]) := by
  have kept := pc.step_sublist frame bridge.ingestMsgq bridge.bridgeStats.ingestDroppedOldest
  obtain ⟨rfl, rfl⟩ := Prod.mk.inj taken
  simp only [flow, List.append_assoc]
  exact (kept.append_left _).append_left _

end Queues

section Sessions

/-- Lines on their way to slot `i`: those in the bridge, then those behind it. -/
def NmeaBridge.toward (dispatcher : DispatcherPc config) (behind : List (List Byte))
    (bridge : NmeaBridge config) (i : Fin config.nmeaSinksMax) : List (List Byte) :=
  (bridge.flow dispatcher i).map NmeaFrame.data ++ behind

/-- Parts of a session: nothing sent yet, sending what it takes, past sending. -/
inductive SessionPhase where
  | before
  | streaming
  | ended
  deriving DecidableEq, Repr

namespace SessionPc

def phase : SessionPc config → SessionPhase
  | .sinkOpen | .closeUnopened => .before
  | .incActive | .ledStarted | .drain | .takeCheck | .takeGet _ | .takeCount _ _ | .send _ _
  | .ledForwarded | .drainAfter => .streaming
  | .ledSendFailed | .ledEnded | .decActive | .sinkClose | .closeFd | .returned => .ended

/-- The line the session has taken and not finished sending. -/
def inHand : SessionPc config → List (List Byte)
  | .takeCount _ frame | .send frame _ => [frame.data]
  | _ => []

/-- The part of that line the socket has accepted. -/
def sent : SessionPc config → List Byte
  | .send frame sentTotal => frame.data.take sentTotal
  | _ => []

/-- The slot a take is working on, if there is one, is `i`. -/
def Reads (i : Fin config.nmeaSinksMax) : SessionPc config → Prop
  | .takeGet slot | .takeCount slot _ => slot = i
  | _ => True

end SessionPc

/-- A session that has sent the lines `delivered` and takes from slot `i`. -/
structure Streaming (lines : List (List Byte))
    (upstream : Fin config.nmeaSinksMax → List (List Byte)) (session : TcpNmeaSession config)
    (i : Fin config.nmeaSinksMax) (delivered : List (List Byte)) : Prop where
  named : session.sink.id = i.val
  reads : session.pc.Reads i
  ordered : (delivered ++ session.pc.inHand ++ upstream i).Sublist lines
  accepted : session.accepted = delivered.flatten ++ session.pc.sent

/-- A session past sending: it has sent whole lines, and after a failed send perhaps
a proper prefix of one more. -/
def Over (lines : List (List Byte)) (session : TcpNmeaSession config) : Prop :=
  ∃ delivered part, session.accepted = delivered.flatten ++ part ∧
    (part = [] ∧ delivered.Sublist lines ∨
      session.result = .sendFailed ∧ ∃ line, part <+: line ∧ part ≠ line ∧
        (delivered ++ [line]).Sublist lines)

/-- A session's bytes are in stream order. -/
def InOrder (lines : List (List Byte)) (upstream : Fin config.nmeaSinksMax → List (List Byte))
    (session : TcpNmeaSession config) : Prop :=
  match session.pc.phase with
  | .before => session.accepted = []
  | .streaming => ∃ i delivered, Streaming lines upstream session i delivered
  | .ended => Over lines session

variable {lines : List (List Byte)} {upstream : Fin config.nmeaSinksMax → List (List Byte)}
  {session : TcpNmeaSession config}

/-- What others do keeps a session in order. -/
theorem InOrder.feed {lines' : List (List Byte)}
    {upstream' : Fin config.nmeaSinksMax → List (List Byte)}
    (inOrder : InOrder lines upstream session) (more : lines.Sublist lines')
    (feeds : ∀ i front, (front ++ upstream i).Sublist lines →
      (front ++ upstream' i).Sublist lines') : InOrder lines' upstream' session := by
  unfold InOrder at inOrder ⊢
  cases phase : session.pc.phase with
  | before => simpa only [phase] using inOrder
  | streaming =>
      simp only [phase] at inOrder ⊢
      obtain ⟨i, delivered, streaming⟩ := inOrder
      exact ⟨i, delivered, streaming.named, streaming.reads, feeds i _ streaming.ordered,
        streaming.accepted⟩
  | ended =>
      simp only [phase] at inOrder ⊢
      obtain ⟨delivered, part, accepted, whole | ⟨failed, line, prefixes⟩⟩ := inOrder
      · exact ⟨delivered, part, accepted, Or.inl ⟨whole.1, whole.2.trans more⟩⟩
      · exact ⟨delivered, part, accepted,
          Or.inr ⟨failed, line, prefixes.1, prefixes.2.1, prefixes.2.2.trans more⟩⟩

/-- A streaming session with nothing in hand can stop. -/
theorem Streaming.ended {i : Fin config.nmeaSinksMax} {delivered : List (List Byte)}
    (streaming : Streaming lines upstream session i delivered) (none : session.pc.sent = [])
    {stopped : TcpNmeaSession config} (accepted : stopped.accepted = session.accepted) :
    Over lines stopped := by
  refine ⟨delivered, [], ?_, Or.inl ⟨rfl, ?_⟩⟩
  · rw [accepted, streaming.accepted, none]
  · have ordered := streaming.ordered
    rw [List.append_assoc] at ordered
    exact (List.sublist_append_left _ _).trans ordered

/-- A streaming session moves on with the same lines in hand and sent. -/
theorem Streaming.move {i : Fin config.nmeaSinksMax} {delivered : List (List Byte)}
    (streaming : Streaming lines upstream session i delivered) {pc : SessionPc config}
    (hand : pc.inHand = session.pc.inHand) (sent : pc.sent = session.pc.sent)
    (reads : pc.Reads i) : Streaming lines upstream { session with pc } i delivered where
  named := streaming.named
  reads := reads
  ordered := by
    rw [hand]
    exact streaming.ordered
  accepted := by
    rw [sent]
    exact streaming.accepted

/-- A session past sending sends nothing more. -/
theorem Over.stay (ended : Over lines session) {later : TcpNmeaSession config}
    (accepted : later.accepted = session.accepted) (result : later.result = session.result) :
    Over lines later := by
  obtain ⟨delivered, part, shape, cause⟩ := ended
  refine ⟨delivered, part, accepted.trans shape, ?_⟩
  rw [result]
  exact cause

/-- Reading the socket sends nothing. -/
theorem Streaming.drainSocketRx {i : Fin config.nmeaSinksMax} {delivered : List (List Byte)}
    (streaming : Streaming lines upstream session i delivered)
    (phase : session.pc.phase = .streaming) (hand : session.pc.inHand = [])
    (sent : session.pc.sent = []) {continuation : SessionPc config}
    (quiet : continuation.phase = .streaming ∧ continuation.inHand = [] ∧
      continuation.sent = [] ∧ continuation.Reads i) (recv : SysReturn) :
    InOrder lines upstream (session.drainSocketRx continuation recv) := by
  unfold TcpNmeaSession.drainSocketRx
  split
  · rw [InOrder, phase]
    exact ⟨i, delivered, streaming⟩
  split
  · exact streaming.ended sent rfl
  split
  · rw [InOrder, quiet.1]
    exact ⟨i, delivered, streaming.move (quiet.2.1.trans hand.symm)
      (quiet.2.2.1.trans sent.symm) quiet.2.2.2⟩
  · exact streaming.ended sent rfl

/-- One pass of `send_all`. -/
theorem Streaming.sendAll {i : Fin config.nmeaSinksMax} {delivered : List (List Byte)}
    (streaming : Streaming lines upstream session i delivered) {frame : NmeaFrame config}
    {sentTotal : Nat} (pc : session.pc = .send frame sentTotal) {send : SysReturn}
    {next : TcpNmeaSession config} (taken : session.sendAll frame sentTotal send = some next) :
    InOrder lines upstream next := by
  have ordered := streaming.ordered
  have accepted := streaming.accepted
  simp only [pc, SessionPc.inHand, SessionPc.sent] at ordered accepted
  unfold TcpNmeaSession.sendAll at taken
  split at taken
  · rename_i unfinished
    split at taken
    · simp at taken
    split at taken
    · -- The socket accepts more of the line.
      obtain rfl := Option.some.inj taken
      refine ⟨i, delivered, streaming.named, trivial, ordered, ?_⟩
      simp only [SessionPc.sent, accepted, List.append_assoc, List.take_add]
    split at taken
    · obtain rfl := Option.some.inj taken
      rw [InOrder, pc]
      exact ⟨i, delivered, streaming⟩
    · -- The send fails and the line stays a proper prefix.
      obtain rfl := Option.some.inj taken
      refine ⟨delivered, _, accepted, Or.inr ⟨rfl, frame.data, List.take_prefix _ _, ?_, ?_⟩⟩
      · intro whole
        have := congrArg List.length whole
        rw [List.length_take] at this
        omega
      · exact (List.sublist_append_left _ _).trans ordered
  · -- The whole line has been sent.
    rename_i finished
    obtain rfl := Option.some.inj taken
    refine ⟨i, delivered ++ [frame.data], streaming.named, trivial, ?_, ?_⟩
    · simpa [SessionPc.inHand] using ordered
    · rw [List.take_of_length_le (by omega)] at accepted
      simp [SessionPc.sent, accepted]

variable {dispatcher : DispatcherPc config} {behind : List (List Byte)}

/-- A slot whose queue lost frames, or none, has no more lines upstream. -/
theorem NmeaBridge.setSlot_toward {bridge : NmeaBridge config} {j : Fin config.nmeaSinksMax}
    {slot : SinkSlot config} (fewer : slot.msgq.items.Sublist (bridge.sinks j).msgq.items)
    (i : Fin config.nmeaSinksMax) :
    ((bridge.setSlot j slot).toward dispatcher behind i).Sublist
      (bridge.toward dispatcher behind i) := by
  refine List.Sublist.append_right (List.Sublist.map _ ?_) behind
  by_cases same : i = j
  · subst same
    simp only [flow, setSlot_sinks, Function.update_self, setSlot_ingestMsgq]
    exact (fewer.append_right _).append_right _
  · simp [flow, same]

/-- A step of a session takes lines out of the queues at most. -/
theorem TcpNmeaSession.step_toward {shared shared' : SessionShared config}
    {session' : TcpNmeaSession config} {sys : SysReturn}
    (taken : session.step shared sys = some (shared', session'))
    (i : Fin config.nmeaSinksMax) :
    (shared'.bridge.toward dispatcher behind i).Sublist
      (shared.bridge.toward dispatcher behind i) := by
  cases pc : session.pc with
  | sinkOpen =>
      rcases step_sinkOpen pc taken with ⟨j, _, rfl, _⟩ | ⟨_, rfl, _⟩
      · exact NmeaBridge.setSlot_toward (List.nil_sublist _) i
      · exact List.Sublist.refl _
  | takeCheck =>
      obtain ⟨rfl, _⟩ := step_takeCheck pc taken
      exact List.Sublist.refl _
  | takeGet slot =>
      rcases step_takeGet pc taken with ⟨frame, msgq, head, rfl, _⟩ | ⟨rfl, _⟩
      · exact NmeaBridge.setSlot_toward (head ▸ List.sublist_cons_self _ _) i
      · exact List.Sublist.refl _
  | takeCount slot frame =>
      simp only [step, pc, Option.some.injEq, Prod.mk.injEq] at taken
      obtain ⟨rfl, _⟩ := taken
      refine NmeaBridge.setSlot_toward ?_ i
      exact List.Sublist.refl _
  | send frame sentTotal =>
      obtain ⟨rfl, _⟩ := step_send pc taken
      exact List.Sublist.refl _
  | sinkClose =>
      rcases step_sinkClose pc taken with ⟨j, _, rfl, _⟩ | ⟨_, rfl, _⟩
      · exact NmeaBridge.setSlot_toward (List.nil_sublist _) i
      · exact List.Sublist.refl _
  | closeUnopened | incActive | ledStarted | drain | ledSendFailed | ledForwarded | drainAfter
  | ledEnded | decActive | closeFd =>
      simp only [step, pc, Option.some.injEq, Prod.mk.injEq] at taken
      obtain ⟨rfl, _⟩ := taken
      simp
  | returned => simp [step, pc] at taken

/-- A step of a session keeps its own bytes in order. -/
theorem InOrder.step {shared shared' : SessionShared config} {session' : TcpNmeaSession config}
    {sys : SysReturn} (inOrder : InOrder lines (shared.bridge.toward dispatcher behind) session)
    (ordered : ∀ i, (shared.bridge.toward dispatcher behind i).Sublist lines)
    (taken : session.step shared sys = some (shared', session')) :
    InOrder lines (shared'.bridge.toward dispatcher behind) session' := by
  have fewer : ∀ i, (shared'.bridge.toward dispatcher behind i).Sublist
      (shared.bridge.toward dispatcher behind i) := TcpNmeaSession.step_toward taken
  -- Except for a line just taken, the session is where it was with respect to the
  -- queues after the step.
  have moved : InOrder lines (shared'.bridge.toward dispatcher behind) session :=
    inOrder.feed (List.Sublist.refl _) fun i front before =>
      ((fewer i).append_left front).trans before
  rw [InOrder] at inOrder moved
  cases pc : session.pc with
  | sinkOpen =>
      rw [pc] at moved
      rcases TcpNmeaSession.step_sinkOpen pc taken with ⟨i, _, _, rfl⟩ | ⟨_, _, rfl⟩
      · exact ⟨i, [], rfl, trivial, (fewer i).trans (ordered i), moved⟩
      · exact moved
  | closeUnopened =>
      rw [pc] at moved
      simp only [TcpNmeaSession.step, pc, Option.some.injEq, Prod.mk.injEq] at taken
      obtain ⟨_, rfl⟩ := taken
      exact ⟨[], [], moved, Or.inl ⟨rfl, List.nil_sublist _⟩⟩
  | incActive | ledStarted | ledForwarded =>
      rw [pc] at moved
      obtain ⟨i, delivered, streaming⟩ := moved
      simp only [TcpNmeaSession.step, pc, Option.some.injEq, Prod.mk.injEq] at taken
      obtain ⟨_, rfl⟩ := taken
      exact ⟨i, delivered, streaming.move (by rw [pc]; rfl) (by rw [pc]; rfl) trivial⟩
  | drain | drainAfter =>
      rw [pc] at moved
      obtain ⟨i, delivered, streaming⟩ := moved
      simp only [TcpNmeaSession.step, pc, Option.some.injEq, Prod.mk.injEq] at taken
      obtain ⟨_, rfl⟩ := taken
      refine streaming.drainSocketRx (by rw [pc]; rfl) (by rw [pc]; rfl) (by rw [pc]; rfl) ?_ sys
      exact ⟨rfl, rfl, rfl, trivial⟩
  | takeCheck =>
      rw [pc] at moved
      obtain ⟨i, delivered, streaming⟩ := moved
      obtain ⟨_, ⟨slot, checked, rfl⟩ | rfl | rfl⟩ := TcpNmeaSession.step_takeCheck pc taken
      · have named := (NmeaBridge.takeCheck_eq_ok_iff.mp checked).1
        have same : slot = i := Fin.ext (by have := streaming.named; omega)
        exact ⟨i, delivered, streaming.move (by rw [pc]; rfl) (by rw [pc]; rfl) same⟩
      · exact streaming.ended (by rw [pc]; rfl) rfl
      · exact ⟨i, delivered, streaming.move (by rw [pc]; rfl) (by rw [pc]; rfl) trivial⟩
  | takeGet slot =>
      rw [pc] at inOrder moved
      rcases TcpNmeaSession.step_takeGet pc taken with ⟨frame, msgq, head, rfl, rfl⟩ | ⟨_, rfl⟩
      · obtain ⟨i, delivered, streaming⟩ := inOrder
        have reads := streaming.reads
        have before := streaming.ordered
        have accepted := streaming.accepted
        rw [pc] at reads before accepted
        obtain rfl : slot = i := reads
        refine ⟨slot, delivered, streaming.named, rfl, ?_, accepted⟩
        simpa [SessionPc.inHand, NmeaBridge.toward, NmeaBridge.flow, head] using before
      · obtain ⟨i, delivered, streaming⟩ := moved
        exact ⟨i, delivered, streaming.move (by rw [pc]; rfl) (by rw [pc]; rfl) trivial⟩
  | takeCount slot frame =>
      rw [pc] at moved
      obtain ⟨i, delivered, streaming⟩ := moved
      simp only [TcpNmeaSession.step, pc, Option.some.injEq, Prod.mk.injEq] at taken
      obtain ⟨_, rfl⟩ := taken
      exact ⟨i, delivered, streaming.move (by rw [pc]; rfl) (by rw [pc]; rfl) trivial⟩
  | send frame sentTotal =>
      rw [pc] at moved
      obtain ⟨i, delivered, streaming⟩ := moved
      exact streaming.sendAll pc (TcpNmeaSession.step_send pc taken).2
  | ledSendFailed | ledEnded | decActive | closeFd =>
      rw [pc] at moved
      simp only [TcpNmeaSession.step, pc, Option.some.injEq, Prod.mk.injEq] at taken
      obtain ⟨_, rfl⟩ := taken
      exact Over.stay moved rfl rfl
  | sinkClose =>
      rw [pc] at moved
      rcases TcpNmeaSession.step_sinkClose pc taken with ⟨i, _, _, rfl⟩ | ⟨_, _, rfl⟩
      · exact Over.stay moved rfl rfl
      · exact Over.stay moved rfl rfl
  | returned => simp [TcpNmeaSession.step, pc] at taken

end Sessions

namespace UartPc

/-- The line the UART thread is publishing. -/
def inHand : UartPc config → List (List Byte)
  | .poll | .ledReceived => []
  | .publish line => [line]
  | .put frame _ => [frame.data]

end UartPc

namespace Pipeline

/-- Lines on their way to a session on slot `i`, oldest first. -/
def upstream (pipeline : Pipeline config ι) (i : Fin config.nmeaSinksMax) : List (List Byte) :=
  pipeline.shared.bridge.toward pipeline.dispatcher pipeline.uartPc.inHand i

/-- The short lines received so far. -/
def lines (pipeline : Pipeline config ι) : List (List Byte) :=
  shortLines config pipeline.received

/-- From one state to a later one, what follows what a session already has stays in
stream order: lines are lost or appended at the stream's end, nothing else. -/
structure Feeds (pipeline next : Pipeline config ι) : Prop where
  lines : pipeline.lines.Sublist next.lines
  upstream : ∀ i front, (front ++ pipeline.upstream i).Sublist pipeline.lines →
    (front ++ next.upstream i).Sublist next.lines

namespace Feeds

variable {pipeline next : Pipeline config ι}

/-- Nothing was received, and lines upstream only moved or got lost. -/
theorem of_sublist (lines : next.lines = pipeline.lines)
    (upstream : ∀ i, (next.upstream i).Sublist (pipeline.upstream i)) : Feeds pipeline next where
  lines := lines ▸ List.Sublist.refl _
  upstream i front ordered := lines ▸ ((upstream i).append_left front).trans ordered

end Feeds

/-- What holds of the UART thread and the dispatcher between steps. -/
structure Flowing (pipeline : Pipeline config ι) : Prop where
  holdsRest : HoldsRest pipeline.uart pipeline.received
  visitsOnce : pipeline.dispatcher.VisitsOnce
  ordered : ∀ i, (pipeline.upstream i).Sublist pipeline.lines

section Steps

variable {pipeline next : Pipeline config ι}

theorem feeds_stepUart (flowing : pipeline.Flowing) (ch : Byte) (sys : SysReturn) :
    Feeds pipeline (pipeline.stepUart ch sys) ∧
      HoldsRest (pipeline.stepUart ch sys).uart (pipeline.stepUart ch sys).received := by
  have step := pipeline.stepUart_cases ch sys
  generalize pipeline.stepUart ch sys = next at step
  cases step with
  | reads pc read =>
      obtain ⟨holds, -⟩ := uartRxByte_line flowing.holdsRest read
      refine ⟨⟨shortLines_sublist _ _, fun i front ordered => ?_⟩, holds⟩
      exact ordered.trans (shortLines_sublist _ _)
  | completes pc read =>
      obtain ⟨holds, completes⟩ := uartRxByte_line flowing.holdsRest read
      refine ⟨⟨shortLines_sublist _ _, fun i front ordered => ?_⟩, holds⟩
      simp only [upstream, NmeaBridge.toward, pc, UartPc.inHand, lines,
        completes _ rfl] at ordered ⊢
      simpa using ordered.append_right _
  | rejects pc checked =>
      obtain ⟨sameFlow, -⟩ := NmeaBridge.publishCheck_flow checked
      refine ⟨.of_sublist rfl fun i => ?_, flowing.holdsRest⟩
      simp [upstream, NmeaBridge.toward, pc, UartPc.inHand, sameFlow]
  | @accepts line bridge frame pc checked =>
      obtain ⟨sameFlow, sameLine⟩ := NmeaBridge.publishCheck_flow checked
      refine ⟨.of_sublist rfl fun i => ?_, flowing.holdsRest⟩
      simp [upstream, NmeaBridge.toward, pc, UartPc.inHand, sameFlow, sameLine frame rfl]
  | operates pc moved | returns pc moved =>
      refine ⟨.of_sublist rfl fun i => ?_, flowing.holdsRest⟩
      have kept := (NmeaBridge.ingestPut_flow moved pipeline.dispatcher i).map NmeaFrame.data
      simpa [upstream, NmeaBridge.toward, pc, UartPc.inHand, PutPc.undelivered] using kept
  | reports pc =>
      refine ⟨.of_sublist rfl fun i => ?_, flowing.holdsRest⟩
      simp [upstream, NmeaBridge.toward, pc, UartPc.inHand]

theorem feeds_stepDispatcher {bridge : NmeaBridge config} {dispatcher : DispatcherPc config}
    (flowing : pipeline.Flowing)
    (taken : pipeline.shared.bridge.stepDispatcher pipeline.dispatcher =
      some (bridge, dispatcher)) :
    Feeds pipeline { pipeline with shared.bridge := bridge, dispatcher } ∧
      dispatcher.VisitsOnce := by
  obtain ⟨once, flow⟩ := NmeaBridge.stepDispatcher_flow flowing.visitsOnce taken
  refine ⟨.of_sublist rfl fun i => ?_, once⟩
  exact ((flow i).map NmeaFrame.data).append_right _

/-- After a step that feeds the sessions, everything still flows in order. -/
theorem Flowing.feed (flowing : pipeline.Flowing) (feeds : Feeds pipeline next)
    (holdsRest : HoldsRest next.uart next.received) (visitsOnce : next.dispatcher.VisitsOnce) :
    next.Flowing where
  holdsRest := holdsRest
  visitsOnce := visitsOnce
  ordered i := feeds.upstream i [] (flowing.ordered i)

/-- The flow and all sessions are in stream order. -/
structure StreamOrder (pipeline : Pipeline config ι) : Prop where
  flowing : pipeline.Flowing
  sessions : ∀ id, InOrder pipeline.lines pipeline.upstream (pipeline.sessions id)

/-- A step that feeds the sessions and is not one of theirs keeps the order. -/
theorem StreamOrder.feed (order : pipeline.StreamOrder) (feeds : Feeds pipeline next)
    (holdsRest : HoldsRest next.uart next.received) (visitsOnce : next.dispatcher.VisitsOnce)
    (sessions : next.sessions = pipeline.sessions) : next.StreamOrder where
  flowing := order.flowing.feed feeds holdsRest visitsOnce
  sessions id := sessions ▸ (order.sessions id).feed feeds.lines feeds.upstream

theorem StreamOrder.stepSession [DecidableEq ι] (order : pipeline.StreamOrder) {id : ι}
    {sys : SysReturn} (taken : pipeline.stepSession id sys = some next) : next.StreamOrder := by
  obtain ⟨shared, session, moved, rfl⟩ := stepSession_cases taken
  have feeds : Feeds pipeline { pipeline with
      shared, sessions := Function.update pipeline.sessions id session } :=
    .of_sublist rfl fun i => TcpNmeaSession.step_toward moved i
  refine ⟨order.flowing.feed feeds order.flowing.holdsRest order.flowing.visitsOnce,
    fun other => ?_⟩
  by_cases same : other = id
  · subst same
    simp only [Function.update_self]
    exact (order.sessions other).step order.flowing.ordered moved
  · simp only [Function.update_of_ne same]
    exact (order.sessions other).feed feeds.lines feeds.upstream

/-- Every step of every thread keeps the stream's order. -/
theorem StreamOrder.step [DecidableEq ι] (order : pipeline.StreamOrder)
    {action : PipelineAction ι} (taken : pipeline.step action = some next) : next.StreamOrder := by
  cases action with
  | uart ch sys =>
      obtain ⟨feeds, holds⟩ := feeds_stepUart order.flowing ch sys
      have others := pipeline.stepUart_others ch sys
      obtain rfl := Option.some.inj taken
      exact order.feed feeds holds (others.2.1 ▸ order.flowing.visitsOnce) others.1
  | dispatcher =>
      obtain ⟨bridge, dispatcher, moved, rfl⟩ := step_dispatcher_cases taken
      obtain ⟨feeds, once⟩ := feeds_stepDispatcher order.flowing moved
      exact order.feed feeds order.flowing.holdsRest once rfl
  | session id sys => exact order.stepSession taken

theorem StreamOrder.of_initial (initial : pipeline.Initial) : pipeline.StreamOrder := by
  obtain ⟨fd, name, sink, rfl⟩ := initial
  refine ⟨⟨fun _ => rfl, trivial, fun i => ?_⟩, fun id => rfl⟩
  exact List.nil_sublist _

end Steps

end Pipeline

section Integrity

/-- Closed lines of a stream that fit a frame, at strictly increasing offsets. -/
def LinesPlaced (config : Config) (received : List Byte) (placed : List (Nat × List Byte)) :
    Prop :=
  Placed newline received placed ∧
    ∀ entry ∈ placed, 1 ≤ entry.2.length ∧ entry.2.length ≤ config.nmeaFrameMaxLen

/-- The socket has accepted whole lines of the stream, in stream order, followed by
at most a proper prefix of one further line, which a returned session leaves behind
only after a failed send. -/
def SendsWholeLines (received : List Byte) (session : TcpNmeaSession config) : Prop :=
  ∃ placed part, session.accepted = (placed.map Prod.snd).flatten ++ part ∧
    (part = [] ∧ LinesPlaced config received placed ∨
      ∃ further, LinesPlaced config received (placed ++ [further]) ∧
        part <+: further.2 ∧ part ≠ further.2) ∧
    (session.pc = .returned → part ≠ [] → session.result = .sendFailed)

theorem exists_linesPlaced {received : List Byte} {chosen : List (List Byte)}
    (sublist : chosen.Sublist (shortLines config received)) :
    ∃ placed, LinesPlaced config received placed ∧ placed.map Prod.snd = chosen := by
  obtain ⟨placed, located, names⟩ := exists_placed_of_sublist (sublist.trans List.filter_sublist)
  refine ⟨placed, ⟨located, fun entry member => ⟨?_, ?_⟩⟩, names⟩
  · obtain ⟨body, _, shape⟩ := (located.2 entry member).1
    simp [shape]
  · have chosenMember : entry.2 ∈ chosen := names ▸ List.mem_map_of_mem member
    have := List.mem_filter.mp (sublist.subset chosenMember)
    simpa using this.2

variable {received : List Byte} {session : TcpNmeaSession config}

theorem sendsWholeLines_of_whole {delivered : List (List Byte)}
    (accepted : session.accepted = delivered.flatten)
    (ordered : delivered.Sublist (shortLines config received)) :
    SendsWholeLines received session := by
  obtain ⟨placed, located, rfl⟩ := exists_linesPlaced ordered
  exact ⟨placed, [], by simpa using accepted, Or.inl ⟨rfl, located⟩, fun _ some => (some rfl).elim⟩

theorem sendsWholeLines_of_part {delivered : List (List Byte)} {line part : List Byte}
    (accepted : session.accepted = delivered.flatten ++ part)
    (ordered : (delivered ++ [line]).Sublist (shortLines config received))
    (starts : part <+: line) (proper : part ≠ line)
    (failed : session.pc = .returned → session.result = .sendFailed) :
    SendsWholeLines received session := by
  obtain ⟨placed, located, names⟩ := exists_linesPlaced ordered
  obtain ⟨earlier, last, rfl, rfl, named⟩ := List.map_eq_append_iff.mp names
  obtain ⟨further, rfl, rfl⟩ := List.map_eq_singleton_iff.mp named
  exact ⟨earlier, part, accepted, Or.inr ⟨further, located, starts, proper⟩,
    fun returned _ => failed returned⟩

theorem InOrder.wholeLines {upstream : Fin config.nmeaSinksMax → List (List Byte)}
    (inOrder : InOrder (shortLines config received) upstream session) :
    SendsWholeLines received session := by
  rw [InOrder] at inOrder
  cases phase : session.pc.phase with
  | before =>
      rw [phase] at inOrder
      have nothing : session.accepted = ([] : List (List Byte)).flatten := inOrder
      exact sendsWholeLines_of_whole nothing (List.nil_sublist _)
  | streaming =>
      rw [phase] at inOrder
      obtain ⟨i, delivered, streaming⟩ := inOrder
      have ordered := streaming.ordered
      have accepted := streaming.accepted
      cases pc : session.pc with
      | send frame sentTotal =>
          rw [pc] at ordered accepted
          have inHand : (delivered ++ [frame.data]).Sublist (shortLines config received) :=
            (List.sublist_append_left _ _).trans ordered
          by_cases unfinished : sentTotal < frame.data.length
          · apply sendsWholeLines_of_part accepted inHand (List.take_prefix _ _)
            · intro whole
              have := congrArg List.length whole
              rw [SessionPc.sent, List.length_take] at this
              omega
            · simp [pc]
          · rw [SessionPc.sent, List.take_of_length_le (by omega)] at accepted
            exact sendsWholeLines_of_whole (by simpa using accepted) inHand
      | _ =>
          have none : session.pc.sent = [] := by rw [pc]; rfl
          rw [none, List.append_nil] at accepted
          rw [List.append_assoc] at ordered
          exact sendsWholeLines_of_whole accepted ((List.sublist_append_left _ _).trans ordered)
  | ended =>
      rw [phase] at inOrder
      obtain ⟨delivered, part, accepted, whole | broken⟩ := inOrder
      · obtain ⟨rfl, ordered⟩ := whole
        exact sendsWholeLines_of_whole (by simpa using accepted) ordered
      · obtain ⟨failed, line, starts, proper, ordered⟩ := broken
        exact sendsWholeLines_of_part accepted ordered starts proper fun _ => failed

namespace Pipeline

/-- At every moment of every run, every socket has accepted whole lines of the UART
stream, in stream order, and at most a part of one more. -/
theorem sendsWholeLines [DecidableEq ι] {pipeline : Pipeline config ι}
    (reachable : (machine config ι).Reachable pipeline) (id : ι) :
    SendsWholeLines pipeline.received (pipeline.sessions id) := by
  have order : pipeline.StreamOrder :=
    reachable.invariant StreamOrder (fun _ initial => StreamOrder.of_initial initial)
      fun _ _ _ order taken => StreamOrder.step order taken
  exact (order.sessions id).wholeLines

/-- One session, not yet begun. -/
def oneSession : Pipeline Config.committed Unit where
  sessions := fun _ => { fd := 3, sinkName := none, sink := ⟨0⟩ }

/-- A line is received and dispatched; the session sends its first byte and fails. -/
def failingSend : List (PipelineAction Unit) :=
  List.replicate 3 (.session () {}) ++
    [.uart 65 {}, .uart newline {}, .uart 0 {}, .uart 0 {}, .uart 0 {}] ++
    List.replicate 9 .dispatcher ++
    [.session () { ret := -1 }, .session () {}, .session () {}, .session () {},
      .session () { ret := 1 }, .session () { ret := -1, errno := .other 104 }] ++
    List.replicate 5 (.session () {})

theorem sendsWholeLines_failingSend :
    ∃ pipeline, (machine Config.committed Unit).exec oneSession failingSend = some pipeline ∧
      (pipeline.sessions ()).accepted = [65] ∧ (pipeline.sessions ()).pc = .returned ∧
      SendsWholeLines pipeline.received (pipeline.sessions ()) := by
  refine ⟨_, rfl, rfl, rfl, ?_⟩
  exact sendsWholeLines ⟨oneSession, failingSend, ⟨_, _, _, rfl⟩, rfl⟩ ()

end Pipeline

end Integrity

end EspNmeaBridge
