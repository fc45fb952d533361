import EspNmeaBridge.Pipeline.Losses

/-!
# What a session's result says

`tcp_nmea_session_run` returns why it ended.  Here the result is compared with what the
session met on its way: whether a sink was free when it opened one, and what the calls on
its socket returned.  `nmea_bridge_sink_take` has a way out of the loop as well, for a sink
that is not open, which would leave the result at its initial value; no run takes it.
-/

namespace EspNmeaBridge

open Library

variable {config : Config}

/-- A call on the socket, with what it returned. -/
inductive SocketCall where
  | recv (returned : SysReturn)
  | send (returned : SysReturn)
  deriving DecidableEq, Repr

/-- What a session meets. -/
inductive SessionEvent where
  /-- It asks for a sink, which is free or not. -/
  | opens (free : Bool)
  | socket (call : SocketCall)
  /-- `status_led_nmea_send_failed` -/
  | reportsFailure
  deriving DecidableEq, Repr

namespace SocketCall

/-- What the call says about the connection, if that is at its end. -/
def ends : SocketCall → Option TcpNmeaSessionResult
  | .recv returned =>
      if returned.ret > 0 then none
      else if returned.ret = 0 then some .peerClosed
      else if returned.errno.wouldBlock then none
      else some .rxFailed
  | .send returned =>
      if returned.ret > 0 then none
      else if returned.ret < 0 && (returned.errno.wouldBlock || returned.errno = .eintr) then none
      else some .sendFailed

/-- None of the calls ended the connection. -/
def Quiet (calls : List SocketCall) : Prop :=
  ∀ call ∈ calls, call.ends = none

theorem Quiet.concat {calls : List SocketCall} (quiet : Quiet calls) {call : SocketCall}
    (continues : call.ends = none) : Quiet (calls ++ [call]) := by
  intro other member
  rcases List.mem_append.mp member with earlier | last
  · exact quiet other earlier
  · rw [List.mem_singleton.mp last]
    exact continues

end SocketCall

/-- The log of a session that got a sink. -/
def servedLog (calls : List SocketCall) : List SessionEvent :=
  .opens true :: calls.map .socket

theorem servedLog_concat (calls : List SocketCall) (call : SocketCall) :
    servedLog (calls ++ [call]) = servedLog calls ++ [.socket call] := by
  simp [servedLog]

/-- Only a failed transmission is reported to the status LED. -/
def TcpNmeaSessionResult.reports : TcpNmeaSessionResult → List SessionEvent
  | .sendFailed => [.reportsFailure]
  | .peerClosed | .sinkUnavailable | .rxFailed => []

/-- The result is the reason for which the session met its end: there was no sink for it, or
the last call on its socket, and none before, ended the connection. -/
inductive Explains : List SessionEvent → TcpNmeaSessionResult → Prop where
  | refused : Explains [.opens false] .sinkUnavailable
  | ended {calls : List SocketCall} {last : SocketCall} {result : TcpNmeaSessionResult}
      (quiet : SocketCall.Quiet calls) (verdict : last.ends = some result) :
      Explains (servedLog (calls ++ [last]) ++ result.reports) result

namespace SessionPc

/-- The session has its sink and has not been told to end. -/
def Working : SessionPc config → Prop
  | .incActive | .ledStarted | .drain | .takeCheck | .takeGet _ | .takeCount _ _ | .send _ _
  | .ledForwarded | .drainAfter => True
  | .sinkOpen | .closeUnopened | .ledSendFailed | .ledEnded | .decActive | .sinkClose | .closeFd
  | .returned => False

/-- Nothing is left to do but to clean up. -/
def Ending : SessionPc config → Prop
  | .ledEnded | .decActive | .sinkClose | .closeFd | .returned => True
  | .sinkOpen | .closeUnopened | .incActive | .ledStarted | .drain | .takeCheck | .takeGet _
  | .takeCount _ _ | .send _ _ | .ledSendFailed | .ledForwarded | .drainAfter => False

theorem Ending.not_working {pc : SessionPc config} (ending : pc.Ending) : ¬ pc.Working := by
  cases pc with
  | ledEnded | decActive | sinkClose | closeFd | returned => exact id
  | _ => exact ending.elim

end SessionPc

namespace TcpNmeaSession

/-- What the session meets in its next step. -/
def event (shared : SessionShared config) (session : TcpNmeaSession config) (sys : SysReturn) :
    Option SessionEvent :=
  match session.pc with
  | .sinkOpen => some (.opens shared.bridge.freeSlot.isSome)
  | .drain | .drainAfter => some (.socket (.recv sys))
  | .send frame sentTotal =>
      if sentTotal < frame.data.length then some (.socket (.send sys)) else none
  | .ledSendFailed => some .reportsFailure
  | _ => none

/-- Where a session with this log is. -/
inductive Told : List SessionEvent → TcpNmeaSession config → Prop where
  | fresh {session} (pc : session.pc = .sinkOpen) : Told [] session
  | refused {session} (pc : session.pc = .closeUnopened) : Told [.opens false] session
  | working {calls session} (pc : session.pc.Working) (quiet : SocketCall.Quiet calls) :
      Told (servedLog calls) session
  | failed {calls last session} (pc : session.pc = .ledSendFailed)
      (quiet : SocketCall.Quiet calls) (verdict : last.ends = some .sendFailed)
      (result : session.result = .sendFailed) : Told (servedLog (calls ++ [last])) session
  | ending {log session} (pc : session.pc.Ending) (explains : Explains log session.result) :
      Told log session

variable {shared shared' : SessionShared config} {session session' : TcpNmeaSession config}
  {sys : SysReturn} {log : List SessionEvent}

/-- In a step in which the session meets nothing, the log stays as it is. -/
theorem Told.of_silent (silent : session.event shared sys = none) (told : Told log session') :
    Told (log ++ (session.event shared sys).toList) session' := by
  rw [silent, Option.toList_none, List.append_nil]
  exact told

/-- A call of `recv` leaves the session at work, or ends it with the result it tells. -/
theorem Told.drainSocketRx {calls : List SocketCall} (quiet : SocketCall.Quiet calls)
    (pc : session.pc.Working) (sys : SysReturn) (continuation : SessionPc config)
    (continues : continuation.Working) :
    Told (servedLog calls ++ [.socket (.recv sys)]) (session.drainSocketRx continuation sys) := by
  rw [← servedLog_concat]
  unfold TcpNmeaSession.drainSocketRx
  split
  next more => exact .working pc (quiet.concat (by simp [SocketCall.ends, more]))
  next nothing =>
    split
    next closed =>
      have verdict : (SocketCall.recv sys).ends = some .peerClosed := by
        simp [SocketCall.ends, closed]
      refine .ending trivial ?_
      simpa [TcpNmeaSessionResult.reports] using Explains.ended quiet verdict
    next failed =>
      split
      next blocks =>
        exact .working continues
          (quiet.concat (by simp [SocketCall.ends, nothing, failed, blocks]))
      next hard =>
        have verdict : (SocketCall.recv sys).ends = some .rxFailed := by
          simp [SocketCall.ends, nothing, failed, hard]
        refine .ending trivial ?_
        simpa [TcpNmeaSessionResult.reports] using Explains.ended quiet verdict

/-- A call of `send` leaves the session at work or fails for good. -/
theorem Told.sendAll {calls : List SocketCall} (quiet : SocketCall.Quiet calls)
    {frame : NmeaFrame config} {sentTotal : Nat} (pc : session.pc = .send frame sentTotal)
    (taken : session.sendAll frame sentTotal sys = some session') :
    Told (servedLog calls ++ (session.event shared sys).toList) session' := by
  unfold TcpNmeaSession.sendAll at taken
  split at taken
  next unsent =>
    have called : session.event shared sys = some (.socket (.send sys)) := by
      simp [event, pc, unsent]
    rw [called, Option.toList_some, ← servedLog_concat]
    split at taken
    · contradiction
    split at taken
    next accepted =>
      obtain rfl := Option.some.inj taken
      exact .working trivial (quiet.concat (by simp [SocketCall.ends, accepted]))
    next refused =>
      split at taken
      next again =>
        obtain rfl := Option.some.inj taken
        refine .working (by rw [pc]; trivial) (quiet.concat ?_)
        simp only [SocketCall.ends, refused, again, if_false, if_true]
      next hard =>
        obtain rfl := Option.some.inj taken
        refine .failed rfl quiet ?_ rfl
        simp only [SocketCall.ends, refused, if_false]
        exact if_neg hard
  next whole =>
    obtain rfl := Option.some.inj taken
    exact .of_silent (by simp [event, pc, whole]) (.working trivial quiet)

/-- A step of a session whose sink, if it is to take from it, is open. -/
theorem Told.step (told : Told log session)
    (opened : session.pc = .takeCheck → ∃ i, shared.bridge.takeCheck session.sink = .ok i)
    (taken : session.step shared sys = some (shared', session')) :
    Told (log ++ (session.event shared sys).toList) session' := by
  cases told with
  | fresh pc =>
      rcases step_sinkOpen pc taken with ⟨i, free, _, rfl⟩ | ⟨full, _, rfl⟩
      · have opens : session.event shared sys = some (.opens true) := by simp [event, pc, free]
        have quiet : SocketCall.Quiet [] := by simp [SocketCall.Quiet]
        rw [opens]
        change Told (servedLog []) _
        exact .working trivial quiet
      · have opens : session.event shared sys = some (.opens false) := by simp [event, pc, full]
        rw [opens]
        exact .refused rfl
  | refused pc =>
      simp only [TcpNmeaSession.step, pc, Option.some.injEq, Prod.mk.injEq] at taken
      obtain ⟨-, rfl⟩ := taken
      exact .of_silent (by simp [event, pc]) (.ending trivial .refused)
  | failed pc quiet verdict result =>
      simp only [TcpNmeaSession.step, pc, Option.some.injEq, Prod.mk.injEq] at taken
      obtain ⟨-, rfl⟩ := taken
      have reports : session.event shared sys = some .reportsFailure := by simp [event, pc]
      rw [reports]
      refine .ending trivial ?_
      rw [result]
      exact .ended quiet verdict
  | ending pc explains =>
      cases stage : session.pc with
      | ledEnded | decActive | closeFd =>
          simp only [TcpNmeaSession.step, stage, Option.some.injEq, Prod.mk.injEq] at taken
          obtain ⟨-, rfl⟩ := taken
          exact .of_silent (by simp [event, stage]) (.ending trivial explains)
      | sinkClose =>
          rcases step_sinkClose stage taken with ⟨_, _, _, rfl⟩ | ⟨_, _, rfl⟩ <;>
            exact .of_silent (by simp [event, stage]) (.ending trivial explains)
      | returned => simp [TcpNmeaSession.step, stage] at taken
      | _ => simp [stage, SessionPc.Ending] at pc
  | working pc quiet =>
      cases stage : session.pc with
      | drain =>
          simp only [TcpNmeaSession.step, stage, Option.some.injEq, Prod.mk.injEq] at taken
          obtain ⟨-, rfl⟩ := taken
          simpa [event, stage] using drainSocketRx quiet pc sys .takeCheck trivial
      | drainAfter =>
          simp only [TcpNmeaSession.step, stage, Option.some.injEq, Prod.mk.injEq] at taken
          obtain ⟨-, rfl⟩ := taken
          simpa [event, stage] using drainSocketRx quiet pc sys .drain trivial
      | send frame sentTotal => exact sendAll quiet stage (step_send stage taken).2
      | takeCheck =>
          obtain ⟨i, isOpen⟩ := opened stage
          simp only [TcpNmeaSession.step, stage, isOpen, Option.some.injEq, Prod.mk.injEq] at taken
          obtain ⟨-, rfl⟩ := taken
          exact .of_silent (by simp [event, stage]) (.working trivial quiet)
      | takeGet slot =>
          rcases step_takeGet stage taken with ⟨_, _, _, _, rfl⟩ | ⟨_, rfl⟩ <;>
            exact .of_silent (by simp [event, stage]) (.working trivial quiet)
      | incActive | ledStarted | takeCount slot frame | ledForwarded =>
          simp only [TcpNmeaSession.step, stage, Option.some.injEq, Prod.mk.injEq] at taken
          obtain ⟨-, rfl⟩ := taken
          exact .of_silent (by simp [event, stage]) (.working trivial quiet)
      | _ => simp [stage, SessionPc.Working] at pc

end TcpNmeaSession

/-- The log of a session against where it is and what it returned. -/
structure EndsAsTold (log : List SessionEvent) (session : TcpNmeaSession config) : Prop where
  /-- A session goes on as long as no call has ended its connection. -/
  working : session.pc.Working → ∃ calls, SocketCall.Quiet calls ∧ log = servedLog calls
  /-- Its result explains why it did not go on. -/
  returned : session.pc = .returned → Explains log session.result

namespace Pipeline

variable {ι : Type} [DecidableEq ι] {pipeline next start finish : Pipeline config ι}
  {action : PipelineAction ι} {actions : List (PipelineAction ι)} {id : ι}

/-- What session `id` meets in a step. -/
def sessionEvent (id : ι) (pipeline : Pipeline config ι) :
    PipelineAction ι → Option SessionEvent
  | .session other sys =>
      if other = id then (pipeline.sessions id).event pipeline.shared sys else none
  | .uart .. | .dispatcher => none

/-- What session `id` meets in a run. -/
def sessionLog (id : ι) (start : Pipeline config ι) (actions : List (PipelineAction ι)) :
    List SessionEvent :=
  ((machine config ι).trail start actions).filterMap fun entry => entry.1.sessionEvent id entry.2

theorem sessionLog_concat (id : ι) (action : PipelineAction ι)
    (run : (machine config ι).exec start actions = some pipeline) :
    sessionLog id start (actions ++ [action]) =
      sessionLog id start actions ++ (pipeline.sessionEvent id action).toList := by
  rw [sessionLog, Machine.trail_concat action run, List.filterMap_append]
  congr 1

omit [DecidableEq ι] in
/-- The sink of a session is open for as long as the session holds it. -/
theorem Delivers.takeCheck (delivers : pipeline.Delivers)
    (holds : (pipeline.sessions id).pc.holdsSink = true) :
    ∃ i, pipeline.shared.bridge.takeCheck (pipeline.sessions id).sink = .ok i := by
  obtain ⟨i, owned⟩ := delivers.owned.holderOwns id holds
  have active := delivers.owned.exclusive.busy_of_owns owned
  rw [TcpNmeaSession.ownedSink_of_holds holds, NmeaBridge.slotOf_eq_some_iff] at owned
  exact ⟨i, NmeaBridge.takeCheck_eq_ok_iff.mpr ⟨owned, active⟩⟩

/-- A step of any of the threads. -/
theorem told_step {log : List SessionEvent} (delivers : pipeline.Delivers)
    (told : TcpNmeaSession.Told log (pipeline.sessions id))
    (taken : pipeline.step action = some next) :
    TcpNmeaSession.Told (log ++ (pipeline.sessionEvent id action).toList) (next.sessions id) := by
  cases action with
  | uart ch sys =>
      cases taken
      rw [(pipeline.stepUart_others ch sys).1, sessionEvent, Option.toList_none, List.append_nil]
      exact told
  | dispatcher =>
      obtain ⟨bridge, dispatcher, -, rfl⟩ := step_dispatcher_cases taken
      rw [sessionEvent, Option.toList_none, List.append_nil]
      exact told
  | session other sys =>
      obtain ⟨shared, session, moved, rfl⟩ := stepSession_cases taken
      change TcpNmeaSession.Told _ (Function.update pipeline.sessions other session id)
      by_cases same : other = id
      · subst same
        rw [Function.update_self, sessionEvent, if_pos rfl]
        apply told.step _ moved
        intro pc
        exact delivers.takeCheck (by rw [pc]; rfl)
      · rw [Function.update_of_ne (Ne.symm same), sessionEvent, if_neg same, Option.toList_none,
          List.append_nil]
        exact told

theorem told_of_run (initial : start.Initial)
    (run : (machine config ι).exec start actions = some finish) (id : ι) :
    TcpNmeaSession.Told (sessionLog id start actions) (finish.sessions id) := by
  apply Machine.exec_induction (motive := fun actions pipeline =>
    TcpNmeaSession.Told (sessionLog id start actions) (pipeline.sessions id)) _ _ run
  · obtain ⟨fd, name, sink, rfl⟩ := initial
    exact .fresh rfl
  · intro actions pipeline action next reached told taken
    rw [sessionLog_concat id action reached]
    exact told_step (delivers_of_reachable ⟨start, actions, initial, reached⟩) told taken

/-- Whatever the other threads do in between, a session that got a sink ends exactly when a
call on its socket ends the connection, and its result says how. -/
theorem endsAsTold (initial : start.Initial)
    (run : (machine config ι).exec start actions = some finish) (id : ι) :
    EndsAsTold (sessionLog id start actions) (finish.sessions id) := by
  have told := told_of_run initial run id
  generalize sessionLog id start actions = log at told ⊢
  constructor
  case working =>
    intro working
    cases told with
    | working pc quiet => exact ⟨_, quiet, rfl⟩
    | fresh pc | refused pc | failed pc =>
        rw [pc] at working
        exact working.elim
    | ending pc => exact absurd working pc.not_working
  case returned =>
    intro returned
    cases told with
    | ending pc explains => exact explains
    | fresh pc | refused pc | failed pc => simp [pc] at returned
    | working pc =>
        rw [returned] at pc
        exact pc.elim

/-- A send is interrupted once before it fails; the failure is what the session returns. -/
def interrupted : List (PipelineAction Unit) :=
  List.replicate 3 (.session () {}) ++
    [.uart 65 {}, .uart newline {}, .uart 0 {}, .uart 0 {}, .uart 0 {}] ++
    List.replicate 9 .dispatcher ++
    [.session () { ret := -1 }, .session () {}, .session () {}, .session () {},
      .session () { ret := 1 }, .session () { ret := -1, errno := .eintr },
      .session () { ret := -1, errno := .other 104 }] ++
    List.replicate 5 (.session () {})

theorem endsAsTold_interrupted :
    ∃ finish, (machine BridgeRun.narrow Unit).exec waiting interrupted = some finish ∧
      (finish.sessions ()).pc = .returned ∧ (finish.sessions ()).result = .sendFailed ∧
      EndsAsTold (sessionLog () waiting interrupted) (finish.sessions ()) := by
  refine ⟨_, rfl, rfl, rfl, ?_⟩
  exact endsAsTold ⟨_, _, _, rfl⟩ rfl ()

end Pipeline

end EspNmeaBridge
