import EspNmeaBridge.Library.Ownership
import EspNmeaBridge.TcpNmeaSession

/-!
# Sinks held by sessions

A session holds the sink it has opened until the step that closes it.  Sessions own
the active sinks of the bridge exclusively (`SinksOwned`), whatever order they take
their steps in.
-/

namespace EspNmeaBridge

open Library

variable {config : Config}

/-- The session is between its open and its close of the sink. -/
def SessionPc.holdsSink : SessionPc config → Bool
  | .incActive | .ledStarted | .drain | .takeCheck | .takeGet _ | .takeCount _ _ | .send _ _
  | .ledSendFailed | .ledForwarded | .drainAfter | .ledEnded | .decActive | .sinkClose => true
  | .sinkOpen | .closeUnopened | .closeFd | .returned => false

namespace TcpNmeaSession

/-- The sink a session holds. -/
def ownedSink (session : TcpNmeaSession config) : Option (Fin config.nmeaSinksMax) :=
  if session.pc.holdsSink then NmeaBridge.slotOf session.sink.id else none

theorem ownedSink_of_holds {session : TcpNmeaSession config}
    (holds : session.pc.holdsSink = true) :
    session.ownedSink = NmeaBridge.slotOf session.sink.id := by
  simp [ownedSink, holds]

theorem holds_of_ownedSink {session : TcpNmeaSession config} {j : Fin config.nmeaSinksMax}
    (owned : session.ownedSink = some j) : session.pc.holdsSink = true := by
  by_contra free
  simp [ownedSink, free] at owned

theorem ownedSink_eq_none {session : TcpNmeaSession config}
    (free : session.pc.holdsSink = false) : session.ownedSink = none := by
  simp [ownedSink, free]

/-- How a step changes which sinks are active and which one its session holds. -/
inductive SinkStep (bridge bridge' : NmeaBridge config)
    (session session' : TcpNmeaSession config) : Prop where
  | opens (j : Fin config.nmeaSinksMax) (pc : session.pc = .sinkOpen)
      (inactive : (bridge.sinks j).active = false) (owns : session'.ownedSink = some j)
      (active : ∀ k, (bridge'.sinks k).active = true ↔ k = j ∨ (bridge.sinks k).active = true)
  | closes (j : Fin config.nmeaSinksMax) (owned : session.ownedSink = some j)
      (released : session'.pc.holdsSink = false)
      (active : ∀ k, (bridge'.sinks k).active = true ↔ (bridge.sinks k).active = true ∧ k ≠ j)
  | keeps (holds : session'.pc.holdsSink = session.pc.holdsSink)
      (sink : session.pc.holdsSink = true → session'.sink = session.sink)
      (active : ∀ k, (bridge'.sinks k).active = (bridge.sinks k).active)

variable {shared shared' : SessionShared config} {session session' : TcpNmeaSession config}
  {sys : SysReturn}

/-- Sending leaves the sink alone. -/
theorem sendAll_sink {frame : NmeaFrame config} {sentTotal : Nat}
    (pc : session.pc = .send frame sentTotal)
    (taken : session.sendAll frame sentTotal sys = some session') :
    session'.pc.holdsSink = true ∧ session'.sink = session.sink := by
  unfold sendAll at taken
  repeat' split at taken
  all_goals first
    | contradiction
    | obtain rfl := Option.some.inj taken
      exact ⟨by simp [pc, SessionPc.holdsSink], rfl⟩

theorem drainSocketRx_sink (held : session.pc.holdsSink = true) (sys : SysReturn)
    (continuation : SessionPc config) (continues : continuation.holdsSink = true) :
    (session.drainSocketRx continuation sys).pc.holdsSink = true ∧
      (session.drainSocketRx continuation sys).sink = session.sink := by
  unfold drainSocketRx
  split
  · exact ⟨held, rfl⟩
  split
  · exact ⟨rfl, rfl⟩
  split
  · exact ⟨continues, rfl⟩
  · exact ⟨rfl, rfl⟩

/-- Every step opens a sink, closes the one held, or keeps it. -/
theorem step_sinks (owns : session.pc.holdsSink = true → ∃ j, session.ownedSink = some j)
    (taken : session.step shared sys = some (shared', session')) :
    SinkStep shared.bridge shared'.bridge session session' := by
  cases pc : session.pc with
  | sinkOpen =>
      rcases step_sinkOpen pc taken with ⟨j, free, rfl, rfl⟩ | ⟨_, rfl, rfl⟩
      · have inactive := NmeaBridge.active_of_freeSlot free
        apply SinkStep.opens j pc inactive (by simp [ownedSink, SessionPc.holdsSink])
        intro k
        by_cases same : k = j <;> simp [Function.update, same]
      · exact .keeps (by simp [pc, SessionPc.holdsSink]) (by simp [pc, SessionPc.holdsSink])
          fun _ => rfl
  | takeCheck =>
      obtain ⟨rfl, ⟨slot, _, rfl⟩ | rfl | rfl⟩ := step_takeCheck pc taken <;>
        exact .keeps (by simp [pc, SessionPc.holdsSink]) (fun _ => rfl) fun _ => rfl
  | takeGet slot =>
      rcases step_takeGet pc taken with ⟨frame, msgq, _, rfl, rfl⟩ | ⟨rfl, rfl⟩
      · apply SinkStep.keeps
        · simp [pc, SessionPc.holdsSink]
        · intro _
          rfl
        · intro k
          by_cases same : k = slot <;> simp [Function.update, same]
      · exact .keeps (by simp [pc, SessionPc.holdsSink]) (fun _ => rfl) fun _ => rfl
  | takeCount slot frame =>
      simp only [step, pc, Option.some.injEq, Prod.mk.injEq] at taken
      obtain ⟨rfl, rfl⟩ := taken
      apply SinkStep.keeps
      · simp [pc, SessionPc.holdsSink]
      · intro _
        rfl
      · intro k
        by_cases same : k = slot <;> simp [NmeaBridge.takeCount, Function.update, same]
  | send frame sentTotal =>
      obtain ⟨rfl, sent⟩ := step_send pc taken
      obtain ⟨holds, sink⟩ := sendAll_sink pc sent
      exact .keeps (holds.trans (by rw [pc]; rfl)) (fun _ => sink) fun _ => rfl
  | drain =>
      simp only [step, pc, Option.some.injEq, Prod.mk.injEq] at taken
      obtain ⟨rfl, rfl⟩ := taken
      have held : session.pc.holdsSink = true := by rw [pc]; rfl
      obtain ⟨holds, sink⟩ := drainSocketRx_sink held sys .takeCheck rfl
      exact .keeps (holds.trans held.symm) (fun _ => sink) fun _ => rfl
  | drainAfter =>
      simp only [step, pc, Option.some.injEq, Prod.mk.injEq] at taken
      obtain ⟨rfl, rfl⟩ := taken
      have held : session.pc.holdsSink = true := by rw [pc]; rfl
      obtain ⟨holds, sink⟩ := drainSocketRx_sink held sys .drain rfl
      exact .keeps (holds.trans held.symm) (fun _ => sink) fun _ => rfl
  | sinkClose =>
      have held : session.pc.holdsSink = true := by rw [pc]; rfl
      obtain ⟨j, owned⟩ := owns held
      rcases step_sinkClose pc taken with ⟨i, found, rfl, rfl⟩ | ⟨missing, _⟩
      · rw [ownedSink_of_holds held, found] at owned
        obtain rfl := Option.some.inj owned
        apply SinkStep.closes i ((ownedSink_of_holds held).trans found) rfl
        intro k
        by_cases same : k = i <;> simp [Function.update, same]
      · rw [ownedSink_of_holds held, missing] at owned
        contradiction
  | closeUnopened | incActive | ledStarted | ledSendFailed | ledForwarded | ledEnded | decActive
  | closeFd =>
      simp only [step, pc, Option.some.injEq, Prod.mk.injEq] at taken
      obtain ⟨rfl, rfl⟩ := taken
      exact .keeps (by simp [pc, SessionPc.holdsSink]) (fun _ => rfl) fun _ => by simp
  | returned => simp [step, pc] at taken

/-- A session that always finds a free sink neither abandons its socket unopened nor
reports the sinks exhausted. -/
theorem step_available (free : session.pc = .sinkOpen → ∃ j, shared.bridge.freeSlot = some j)
    (opened : session.pc ≠ .closeUnopened) (available : session.result ≠ .sinkUnavailable)
    (taken : session.step shared sys = some (shared', session')) :
    session'.pc ≠ .closeUnopened ∧ session'.result ≠ .sinkUnavailable := by
  have drained : ∀ continuation : SessionPc config, continuation ≠ .closeUnopened →
      (session.drainSocketRx continuation sys).pc ≠ .closeUnopened ∧
        (session.drainSocketRx continuation sys).result ≠ .sinkUnavailable := by
    intro continuation continues
    unfold drainSocketRx
    repeat' split
    all_goals simp_all
  cases pc : session.pc with
  | sinkOpen =>
      obtain ⟨j, found⟩ := free pc
      rcases step_sinkOpen pc taken with ⟨_, _, _, rfl⟩ | ⟨full, _⟩
      · exact ⟨by simp, available⟩
      · rw [found] at full
        contradiction
  | closeUnopened => exact (opened pc).elim
  | takeCheck =>
      obtain ⟨_, ⟨slot, _, rfl⟩ | rfl | rfl⟩ := step_takeCheck pc taken <;>
        exact ⟨by simp, available⟩
  | takeGet slot =>
      rcases step_takeGet pc taken with ⟨frame, msgq, _, _, rfl⟩ | ⟨_, rfl⟩ <;>
        exact ⟨by simp, available⟩
  | send frame sentTotal =>
      obtain ⟨_, sent⟩ := step_send pc taken
      unfold sendAll at sent
      repeat' split at sent
      all_goals first
        | contradiction
        | obtain rfl := Option.some.inj sent
          simp_all
  | drain =>
      simp only [step, pc, Option.some.injEq, Prod.mk.injEq] at taken
      exact taken.2 ▸ drained .takeCheck (by simp)
  | drainAfter =>
      simp only [step, pc, Option.some.injEq, Prod.mk.injEq] at taken
      exact taken.2 ▸ drained .drain (by simp)
  | sinkClose =>
      rcases step_sinkClose pc taken with ⟨i, _, _, rfl⟩ | ⟨_, _, rfl⟩ <;>
        exact ⟨by simp, available⟩
  | incActive | ledStarted | takeCount slot frame | ledSendFailed | ledForwarded | ledEnded
  | decActive | closeFd =>
      simp only [step, pc, Option.some.injEq, Prod.mk.injEq] at taken
      rw [← taken.2]
      exact ⟨by simp, available⟩
  | returned => simp [step, pc] at taken

end TcpNmeaSession

/-- The active sinks are exclusively owned by the sessions that have them open. -/
structure SinksOwned {ι : Type} (bridge : NmeaBridge config)
    (sessions : ι → TcpNmeaSession config) : Prop where
  exclusive : Exclusive (fun j => (bridge.sinks j).active = true) fun id =>
    (sessions id).ownedSink
  holderOwns : ∀ id, (sessions id).pc.holdsSink = true → ∃ j, (sessions id).ownedSink = some j

namespace SinksOwned

variable {ι : Type} {bridge bridge' : NmeaBridge config} {sessions : ι → TcpNmeaSession config}

/-- Steps that open and close no sink. -/
theorem congr (owned : SinksOwned bridge sessions)
    (active : ∀ j, (bridge'.sinks j).active = (bridge.sinks j).active) :
    SinksOwned bridge' sessions where
  exclusive := owned.exclusive.congr (fun j => by rw [active]) fun _ => rfl
  holderOwns := owned.holderOwns

variable [DecidableEq ι]

/-- A session that holds no sink is replaced by one that holds none either. -/
theorem replace (owned : SinksOwned bridge sessions) {id : ι} {session : TcpNmeaSession config}
    (before : (sessions id).pc.holdsSink = false) (after : session.pc.holdsSink = false) :
    SinksOwned bridge (Function.update sessions id session) where
  exclusive := by
    apply owned.exclusive.congr (fun _ => Iff.rfl)
    intro other
    by_cases same : other = id
    · subst same
      rw [Function.update_self, TcpNmeaSession.ownedSink_eq_none before,
        TcpNmeaSession.ownedSink_eq_none after]
    · rw [Function.update_of_ne same]
  holderOwns other holds := by
    by_cases same : other = id
    · subst same
      rw [Function.update_self, after] at holds
      contradiction
    · rw [Function.update_of_ne same] at holds ⊢
      exact owned.holderOwns other holds

/-- A step of one session. -/
theorem step (owned : SinksOwned bridge sessions) {id : ι} {session : TcpNmeaSession config}
    (change : TcpNmeaSession.SinkStep bridge bridge' (sessions id) session) :
    SinksOwned bridge' (Function.update sessions id session) := by
  have others : ∀ other, other ≠ id →
      (Function.update sessions id session other).ownedSink = (sessions other).ownedSink := by
    intro other same
    rw [Function.update_of_ne same]
  have self : (Function.update sessions id session id).ownedSink = session.ownedSink := by
    rw [Function.update_self]
  have ownOthers : ∀ other, other ≠ id →
      (Function.update sessions id session other).pc.holdsSink = true →
      ∃ j, (Function.update sessions id session other).ownedSink = some j := by
    intro other same holds
    rw [Function.update_of_ne same] at holds ⊢
    exact owned.holderOwns other holds
  cases change with
  | opens j pc inactive owns active =>
      have idle : (sessions id).ownedSink = none :=
        TcpNmeaSession.ownedSink_eq_none (by rw [pc]; rfl)
      refine ⟨owned.exclusive.acquire idle (by simp [inactive]) active (self.trans owns) others,
        fun other holds => ?_⟩
      by_cases same : other = id
      · exact ⟨j, same ▸ self.trans owns⟩
      · exact ownOthers other same holds
  | closes j owns released active =>
      have gone := TcpNmeaSession.ownedSink_eq_none released
      refine ⟨owned.exclusive.release owns active (self.trans gone) others, fun other holds => ?_⟩
      by_cases same : other = id
      · subst same
        rw [Function.update_self, released] at holds
        contradiction
      · exact ownOthers other same holds
  | keeps holds sink active =>
      have same : session.ownedSink = (sessions id).ownedSink := by
        cases held : (sessions id).pc.holdsSink with
        | false =>
            rw [TcpNmeaSession.ownedSink_eq_none held,
              TcpNmeaSession.ownedSink_eq_none (holds.trans held)]
        | true =>
            rw [TcpNmeaSession.ownedSink_of_holds held,
              TcpNmeaSession.ownedSink_of_holds (holds.trans held), sink held]
      refine ⟨owned.exclusive.congr (fun j => by rw [active]) fun other => ?_,
        fun other held => ?_⟩
      · by_cases isSelf : other = id
        · rw [isSelf, self, same]
        · exact others other isSelf
      · by_cases isSelf : other = id
        · subst isSelf
          rw [Function.update_self, holds] at held
          rw [self, same]
          exact owned.holderOwns other held
        · exact ownOthers other isSelf held

end SinksOwned

end EspNmeaBridge
