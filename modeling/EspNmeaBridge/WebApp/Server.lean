import EspNmeaBridge.Library.Lifetimes
import EspNmeaBridge.Library.Machine
import EspNmeaBridge.WebApp.Sending

/-!
# The server loop of the web app

`web_app_thread` accepts a connection, handles one request on it, closes it and accepts
the next.  The machine takes a single call of the socket functions in each step, so the
functions that compute a whole response have to agree with it.
-/

namespace EspNmeaBridge

open Library

/-- One connection: what `handle_client` has received and the snapshot it is answered with,
the outcomes of `zsock_send` on it, and the calls of `send_all` that have returned. -/
structure WebExchange where
  fd : Nat
  received : List Byte
  snapshot : BridgeTelemetrySnapshot
  outcomes : List WriteOutcome := []
  calls : List WebApp.SendAllCall := []
  deriving DecidableEq, Repr

/-- Positions inside `web_app_thread`, `handle_client` and `send_all`. -/
inductive WebPc where
  | socket
  | bind
  | listen
  | closeListener
  | accept
  | acceptFailed
  | recv (fd : Nat)
  | respond (exchange : WebExchange) (buffers : List (List Byte))
  | sendAll (exchange : WebExchange) (data : List Byte) (sentTotal : Nat) (accepted : List Byte)
      (buffers : List (List Byte))
  | close (exchange : WebExchange)
  | stopped
  deriving DecidableEq, Repr

/-- The thread's position, the next descriptor to be issued, and the connections that have
been closed. -/
structure WebServer where
  pc : WebPc := .socket
  nextFd : Nat := 0
  served : List WebExchange := []
  deriving DecidableEq, Repr

/-- What a call returns, or a step without one.  `zsock_recv` has stored nothing if it has
failed or the peer has closed. -/
inductive WebAction where
  | sys (ret : Int)
  | recv (received : List Byte) (snapshot : BridgeTelemetrySnapshot)
  | send (outcome : WriteOutcome)
  | run
  deriving DecidableEq, Repr

namespace WebExchange

/-- One more call of `zsock_send`. -/
def sent (exchange : WebExchange) (outcome : WriteOutcome) : WebExchange :=
  { exchange with outcomes := exchange.outcomes ++ [outcome] }

/-- One more call of `send_all` has returned. -/
def returned (exchange : WebExchange) (data accepted : List Byte) (ret : Int) : WebExchange :=
  { exchange with calls := exchange.calls ++ [{ data, accepted, returned := some ret }] }

end WebExchange

namespace WebServer

open WebApp

section Model

variable (files : WebAssetFiles)

/-- One pass of the loop of `send_all`, after the call of `zsock_send`. -/
def sendAllStep (exchange : WebExchange) (data : List Byte) (sentTotal : Nat)
    (accepted : List Byte) (buffers : List (List Byte)) (outcome : WriteOutcome) : WebPc :=
  let sent := zsockSend outcome (data.length - sentTotal)
  let exchange := exchange.sent outcome
  if sent > 0 then
    .sendAll exchange data (sentTotal + sent.toNat)
      (accepted ++ (data.drop sentTotal).take sent.toNat) buffers
  else if sent < 0 ∧ outcome.errno = eintr then .sendAll exchange data sentTotal accepted buffers
  else .respond (exchange.returned data accepted (-outcome.errno)) buffers

/-- One step of `web_app_thread`. -/
def step (server : WebServer) (action : WebAction) : Option WebServer :=
  match server.pc, action with
  | .socket, .sys ret => some { server with pc := if ret < 0 then .stopped else .bind }
  | .bind, .sys ret => some { server with pc := if ret < 0 then .closeListener else .listen }
  | .listen, .sys ret => some { server with pc := if ret < 0 then .closeListener else .accept }
  | .closeListener, .run => some { server with pc := .stopped }
  | .accept, .sys ret =>
      if ret < 0 then some { server with pc := .acceptFailed }
      else some { server with pc := .recv server.nextFd, nextFd := server.nextFd + 1 }
  | .acceptFailed, .run => some { server with pc := .accept }
  | .recv fd, .recv received snapshot =>
      if received.length < webAppRxBufSize then
        match handleClient files snapshot received with
        | none => none
        | some buffers => some { server with pc := .respond { fd, received, snapshot } buffers }
      else none
  | .respond exchange [], .run => some { server with pc := .close exchange }
  | .respond exchange (data :: buffers), .run =>
      some { server with pc := .sendAll exchange data 0 [] buffers }
  | .sendAll exchange data sentTotal accepted buffers, .send outcome =>
      if sentTotal < data.length then
        some { server with pc := sendAllStep exchange data sentTotal accepted buffers outcome }
      else none
  | .sendAll exchange data sentTotal accepted buffers, .run =>
      if sentTotal < data.length then none
      else some { server with pc := .respond (exchange.returned data accepted 0) buffers }
  | .close exchange, .run =>
      some { server with pc := .accept, served := server.served ++ [exchange] }
  | _, _ => none

def machine : Machine WebServer WebAction where
  init server := server = {}
  step := step files

end Model

variable {files : WebAssetFiles} {server next : WebServer} {action : WebAction}

/-- What a step can do. -/
inductive Moves (files : WebAssetFiles) (server : WebServer) : WebAction → WebServer → Prop where
  | sets {ret : Int} {pc : WebPc}
      (before : server.pc = .socket ∨ server.pc = .bind ∨ server.pc = .listen)
      (after : pc = .stopped ∨ pc = .bind ∨ pc = .closeListener ∨ pc = .listen ∨ pc = .accept) :
      Moves files server (.sys ret) { server with pc }
  | stops (pc : server.pc = .closeListener) : Moves files server .run { server with pc := .stopped }
  | acceptFails {ret : Int} (pc : server.pc = .accept) (failed : ret < 0) :
      Moves files server (.sys ret) { server with pc := .acceptFailed }
  | accepts {ret : Int} (pc : server.pc = .accept) (accepted : ¬ ret < 0) :
      Moves files server (.sys ret)
        { server with pc := .recv server.nextFd, nextFd := server.nextFd + 1 }
  | sleeps (pc : server.pc = .acceptFailed) : Moves files server .run { server with pc := .accept }
  | receives {fd : Nat} {received : List Byte} {snapshot : BridgeTelemetrySnapshot}
      {buffers : List (List Byte)} (pc : server.pc = .recv fd)
      (handled : handleClient files snapshot received = some buffers) :
      Moves files server (.recv received snapshot)
        { server with pc := .respond { fd, received, snapshot } buffers }
  | responds {exchange : WebExchange} (pc : server.pc = .respond exchange []) :
      Moves files server .run { server with pc := .close exchange }
  | calls {exchange : WebExchange} {data : List Byte} {buffers : List (List Byte)}
      (pc : server.pc = .respond exchange (data :: buffers)) :
      Moves files server .run { server with pc := .sendAll exchange data 0 [] buffers }
  | sends {exchange : WebExchange} {data accepted : List Byte} {sentTotal : Nat}
      {buffers : List (List Byte)} {outcome : WriteOutcome}
      (pc : server.pc = .sendAll exchange data sentTotal accepted buffers)
      (left : sentTotal < data.length) :
      Moves files server (.send outcome)
        { server with pc := sendAllStep exchange data sentTotal accepted buffers outcome }
  | returns {exchange : WebExchange} {data accepted : List Byte} {sentTotal : Nat}
      {buffers : List (List Byte)}
      (pc : server.pc = .sendAll exchange data sentTotal accepted buffers)
      (done : ¬ sentTotal < data.length) :
      Moves files server .run
        { server with pc := .respond (exchange.returned data accepted 0) buffers }
  | closes {exchange : WebExchange} (pc : server.pc = .close exchange) :
      Moves files server .run
        { server with pc := .accept, served := server.served ++ [exchange] }

theorem step_moves (taken : server.step files action = some next) :
    server.Moves files action next := by
  unfold step at taken
  split at taken
  · rename_i ret pc
    obtain rfl := Option.some.inj taken
    apply Moves.sets (.inl pc)
    split <;> simp
  · rename_i ret pc
    obtain rfl := Option.some.inj taken
    apply Moves.sets (.inr (.inl pc))
    split <;> simp
  · rename_i ret pc
    obtain rfl := Option.some.inj taken
    apply Moves.sets (.inr (.inr pc))
    split <;> simp
  · rename_i pc
    exact Option.some.inj taken ▸ .stops pc
  · rename_i ret pc
    split at taken
    · next failed => exact Option.some.inj taken ▸ .acceptFails pc failed
    · next accepted => exact Option.some.inj taken ▸ .accepts pc accepted
  · rename_i pc
    exact Option.some.inj taken ▸ .sleeps pc
  · rename_i fd received snapshot pc
    split at taken
    · split at taken
      · contradiction
      · next buffers handled => exact Option.some.inj taken ▸ .receives pc handled
    · contradiction
  · rename_i exchange pc
    exact Option.some.inj taken ▸ .responds pc
  · rename_i exchange data buffers pc
    exact Option.some.inj taken ▸ .calls pc
  · rename_i exchange data sentTotal accepted buffers outcome pc
    split at taken
    · next left => exact Option.some.inj taken ▸ .sends pc left
    · contradiction
  · rename_i exchange data sentTotal accepted buffers pc
    split at taken
    · contradiction
    · next done => exact Option.some.inj taken ▸ .returns pc done
  · rename_i exchange pc
    exact Option.some.inj taken ▸ .closes pc
  · contradiction

/-! ## Single calls and whole responses -/

/-- The call of `send_all` in progress and the calls after it, given the outcomes to come. -/
def callsFrom (data : List Byte) (sentTotal : Nat) (accepted : List Byte)
    (buffers : List (List Byte)) (future : List WriteOutcome) : List SendAllCall :=
  let run := (sendAllLoop data sentTotal future).after accepted
  { data, accepted := run.accepted, returned := run.returned } ::
    (if run.returned = none then [] else sendBuffers buffers run.later)

theorem callsFrom_done {data : List Byte} {sentTotal : Nat} (done : ¬ sentTotal < data.length)
    (accepted : List Byte) (buffers : List (List Byte)) (future : List WriteOutcome) :
    callsFrom data sentTotal accepted buffers future =
      { data, accepted, returned := some 0 } :: sendBuffers buffers future := by
  rw [callsFrom, sendAllLoop_done (Nat.le_of_not_lt done)]
  simp [SendAllRun.after]

/-- The calls that are left at a position, given the outcomes to come. -/
def callsLeft : WebPc → List WriteOutcome → List SendAllCall
  | .respond _ buffers, future => sendBuffers buffers future
  | .sendAll _ data sentTotal accepted buffers, future =>
      callsFrom data sentTotal accepted buffers future
  | _, _ => []

/-- The connection that is being served. -/
def exchangeAt : WebPc → Option WebExchange
  | .respond exchange _ | .sendAll exchange _ _ _ _ | .close exchange => some exchange
  | _ => none

/-- The calls that have returned and those that are left are those of `handle_client`, whatever
the socket does from here on. -/
structure Agrees (files : WebAssetFiles) (exchange : WebExchange)
    (left : List WriteOutcome → List SendAllCall) : Prop where
  calls : ∀ future, handleClientCalls files exchange.snapshot exchange.received
    (exchange.outcomes ++ future) = some (exchange.calls ++ left future)
  returned : ∀ call ∈ exchange.calls, call.returned ≠ none

variable {exchange : WebExchange} {left left' : List WriteOutcome → List SendAllCall}

/-- A step that makes no call. -/
theorem Agrees.congr (agrees : Agrees files exchange left)
    (same : ∀ future, left' future = left future) : Agrees files exchange left' where
  calls future := by rw [same, agrees.calls]
  returned := agrees.returned

theorem Agrees.sent (agrees : Agrees files exchange left) {outcome : WriteOutcome}
    (same : ∀ future, left' future = left (outcome :: future)) :
    Agrees files (exchange.sent outcome) left' where
  calls future := by
    have calls := agrees.calls (outcome :: future)
    rw [same]
    simp only [WebExchange.sent, List.append_assoc, List.singleton_append]
    exact calls
  returned := agrees.returned

theorem Agrees.return {data accepted : List Byte} {ret : Int}
    (agrees : Agrees files exchange left)
    (same : ∀ future, left future = { data, accepted, returned := some ret } :: left' future) :
    Agrees files (exchange.returned data accepted ret) left' where
  calls future := by
    have calls := agrees.calls future
    rw [same] at calls
    simp only [WebExchange.returned, List.append_assoc, List.singleton_append]
    exact calls
  returned := by
    intro call member
    simp only [WebExchange.returned, List.mem_append, List.mem_singleton] at member
    cases member with
    | inl earlier => exact agrees.returned call earlier
    | inr last =>
        rw [last]
        exact Option.some_ne_none ret

/-- One pass of the loop of `send_all`. -/
theorem Agrees.sendAllStep {data accepted : List Byte} {sentTotal : Nat}
    {buffers : List (List Byte)}
    (agrees : Agrees files exchange (callsFrom data sentTotal accepted buffers))
    (more : sentTotal < data.length) (outcome : WriteOutcome) :
    ∃ exchange', exchangeAt (sendAllStep exchange data sentTotal accepted buffers outcome) =
        some exchange' ∧
      exchange'.fd = exchange.fd ∧ exchange'.outcomes = exchange.outcomes ++ [outcome] ∧
      Agrees files exchange'
        (callsLeft (WebServer.sendAllStep exchange data sentTotal accepted buffers outcome)) := by
  unfold WebServer.sendAllStep
  dsimp only
  split
  · next some =>
      refine ⟨_, rfl, rfl, rfl, agrees.sent fun future => ?_⟩
      simp only [callsLeft, callsFrom, sendAllLoop, if_pos more, if_pos some, SendAllRun.after,
        List.append_assoc]
  split
  · next none interrupted =>
      refine ⟨_, rfl, rfl, rfl, agrees.sent fun future => ?_⟩
      simp only [callsLeft, callsFrom, sendAllLoop, if_pos more, if_neg none, if_pos interrupted]
  · next none failed =>
      refine ⟨_, rfl, rfl, rfl, (agrees.sent fun _ => rfl).return fun future => ?_⟩
      simp only [callsLeft, callsFrom, sendAllLoop, if_pos more, if_neg none, if_neg failed,
        SendAllRun.after, List.append_nil, reduceCtorEq, if_false]

/-- The connections so far, and the one being served, agree with `handle_client`. -/
structure Serves (files : WebAssetFiles) (server : WebServer) : Prop where
  current : ∀ exchange, exchangeAt server.pc = some exchange →
    Agrees files exchange (callsLeft server.pc)
  closed : ∀ exchange ∈ server.served, Agrees files exchange fun _ => []

theorem Serves.step (serves : server.Serves files) (taken : server.step files action = some next) :
    next.Serves files := by
  cases step_moves taken with
  | sets before after =>
      constructor
      · intro exchange current
        rcases after with rfl | rfl | rfl | rfl | rfl <;> contradiction
      · exact serves.closed
  | stops pc | acceptFails pc failed | accepts pc accepted | sleeps pc =>
      constructor
      · intro exchange current
        contradiction
      · exact serves.closed
  | receives pc handled =>
      constructor
      · intro exchange current
        obtain rfl := Option.some.inj current
        constructor
        · intro future
          simp [handleClientCalls, handled, callsLeft]
        · intro call member
          contradiction
      · exact serves.closed
  | responds pc =>
      constructor
      · intro exchange current
        obtain rfl := Option.some.inj current
        have agrees := serves.current _ (by rw [pc]; rfl)
        rw [pc] at agrees
        exact agrees.congr fun _ => rfl
      · exact serves.closed
  | calls pc =>
      constructor
      · intro exchange current
        obtain rfl := Option.some.inj current
        have agrees := serves.current _ (by rw [pc]; rfl)
        rw [pc] at agrees
        exact agrees.congr fun _ => rfl
      · exact serves.closed
  | @sends exchange data accepted sentTotal buffers outcome pc left =>
      have agrees := serves.current exchange (by rw [pc]; rfl)
      rw [pc] at agrees
      obtain ⟨exchange', current', _, _, agrees'⟩ := Agrees.sendAllStep agrees left outcome
      constructor
      · intro other current
        obtain rfl := Option.some.inj (current'.symm.trans current)
        exact agrees'
      · exact serves.closed
  | returns pc done =>
      constructor
      · intro exchange current
        obtain rfl := Option.some.inj current
        have agrees := serves.current _ (by rw [pc]; rfl)
        rw [pc] at agrees
        exact agrees.return fun future => callsFrom_done done _ _ future
      · exact serves.closed
  | closes pc =>
      constructor
      · intro exchange current
        contradiction
      · intro exchange member
        rw [List.mem_append, List.mem_singleton] at member
        cases member with
        | inl earlier => exact serves.closed exchange earlier
        | inr last =>
            have agrees := serves.current exchange (by rw [pc, last]; rfl)
            rw [pc] at agrees
            exact agrees.congr fun _ => rfl

theorem serves_of_reachable (reachable : (machine files).Reachable server) :
    server.Serves files := by
  apply reachable.invariant (Serves files)
  · intro server begins
    cases begins
    constructor
    · intro exchange current
      contradiction
    · intro exchange member
      contradiction
  · intro server action next serves taken
    exact serves.step taken

/-- What a closed connection has got: nothing if nothing was received, and otherwise the
response to its own request, by calls of `send_all` that have all returned. -/
structure Answered (files : WebAssetFiles) (exchange : WebExchange) : Prop where
  calls : handleClientCalls files exchange.snapshot exchange.received exchange.outcomes =
    some exchange.calls
  returned : ∀ call ∈ exchange.calls, call.returned ≠ none
  silent : exchange.received = [] → exchange.calls = []
  /-- All of the response was accepted if and only if its own socket took all of it. -/
  whole : exchange.received ≠ [] →
    (exchange.calls.flatMap SendAllCall.accepted =
        (responseTo files exchange.snapshot exchange.received).bytes ↔
      TakesAll (responseTo files exchange.snapshot exchange.received).header.length
        (responseTo files exchange.snapshot exchange.received).body.length exchange.outcomes)
  /-- What was accepted is a start of the response, and no failure was hidden, if and only if
  its own socket gave up cleanly. -/
  intact : exchange.received ≠ [] →
    (Intact (responseTo files exchange.snapshot exchange.received) exchange.calls ↔
      SendsCleanly (responseTo files exchange.snapshot exchange.received).header.length
        (responseTo files exchange.snapshot exchange.received).body.length exchange.outcomes)

/-- Every connection that the web app has closed was answered for itself alone, whatever was
received, returned and accepted on it and on those before it. -/
theorem connectionsAnswered (reachable : (machine files).Reachable server) :
    ∀ exchange ∈ server.served, Answered files exchange := by
  intro exchange member
  have agrees := (serves_of_reachable reachable).closed exchange member
  have calls := agrees.calls []
  rw [List.append_nil, List.append_nil] at calls
  constructor
  · exact calls
  · exact agrees.returned
  · intro nothing
    rw [nothing] at calls
    exact (Option.some.inj calls).symm
  · intro request
    rw [handleClientCalls_eq files exchange.snapshot request] at calls
    rw [← Option.some.inj calls]
    exact whole_iff _ _
  · intro request
    rw [handleClientCalls_eq files exchange.snapshot request] at calls
    rw [← Option.some.inj calls]
    exact intact_iff _ _

/-! ## Descriptors -/

/-- What a step does with the descriptors that `zsock_accept` returns. -/
def socketEvents (server : WebServer) (action : WebAction) : List (LifeEvent Nat) :=
  match server.pc, action with
  | .accept, .sys ret => if ret < 0 then [] else [.issued server.nextFd]
  | .recv fd, .recv _ _ => [.used fd]
  | .sendAll exchange _ _ _ _, .send _ => [.used exchange.fd]
  | .close exchange, .run => [.closed exchange.fd]
  | _, _ => []

/-- The events of a run. -/
def socketHistory (files : WebAssetFiles) (actions : List WebAction) : List (LifeEvent Nat) :=
  ((machine files).trail {} actions).flatMap fun entry => entry.1.socketEvents entry.2

/-- The events of a connection up to now: it is accepted, received from once, and sent to as
often as `zsock_send` has returned. -/
def lifeSoFar (exchange : WebExchange) : List (LifeEvent Nat) :=
  .issued exchange.fd :: List.replicate (exchange.outcomes.length + 1) (.used exchange.fd)

/-- All events of a connection. -/
def wholeLife (exchange : WebExchange) : List (LifeEvent Nat) :=
  lifeSoFar exchange ++ [.closed exchange.fd]

/-- The descriptor in the thread's hands. -/
def fdAt : WebPc → Option Nat
  | .recv fd => some fd
  | pc => (exchangeAt pc).map (·.fd)

/-- The events of the connection that is being served. -/
def eventsAt : WebPc → List (LifeEvent Nat)
  | .recv fd => [.issued fd]
  | pc => (exchangeAt pc).elim [] lifeSoFar

/-- While a connection is answered, its events are known from what is recorded of it. -/
theorem at_of_exchange {pc : WebPc} {exchange : WebExchange}
    (current : exchangeAt pc = some exchange) :
    eventsAt pc = lifeSoFar exchange ∧ fdAt pc = some exchange.fd := by
  cases pc with
  | respond _ _ | sendAll _ _ _ _ _ | close _ =>
      obtain rfl := Option.some.inj current
      exact ⟨rfl, rfl⟩
  | socket | bind | listen | closeListener | accept | acceptFailed | recv _ | stopped =>
      contradiction

/-- Connections come one after the other. -/
structure Serial (events : List (LifeEvent Nat)) (server : WebServer) : Prop where
  history : events = server.served.flatMap wholeLife ++ eventsAt server.pc
  fds : server.served.map (·.fd) ++ (fdAt server.pc).toList = List.range server.nextFd

variable {events : List (LifeEvent Nat)}

/-- A step without an event. -/
theorem Serial.congr (serial : Serial events server) (pc : WebPc)
    (same : eventsAt pc = eventsAt server.pc) (fd : fdAt pc = fdAt server.pc) :
    Serial (events ++ []) { server with pc } where
  history := by rw [List.append_nil, serial.history, same]
  fds := by
    dsimp only
    rw [fd]
    exact serial.fds

/-- A step that uses the descriptor. -/
theorem Serial.use (serial : Serial events server) (pc : WebPc) {event : LifeEvent Nat}
    (more : eventsAt pc = eventsAt server.pc ++ [event]) (fd : fdAt pc = fdAt server.pc) :
    Serial (events ++ [event]) { server with pc } where
  history := by rw [serial.history, more, List.append_assoc]
  fds := by
    dsimp only
    rw [fd]
    exact serial.fds

theorem lifeSoFar_sent {exchange exchange' : WebExchange} {outcome : WriteOutcome}
    (fd : exchange'.fd = exchange.fd)
    (outcomes : exchange'.outcomes = exchange.outcomes ++ [outcome]) :
    lifeSoFar exchange' = lifeSoFar exchange ++ [.used exchange.fd] := by
  rw [lifeSoFar, lifeSoFar, fd, outcomes, List.length_append, List.length_singleton,
    List.replicate_succ', List.cons_append]

theorem Serial.step (serial : Serial events server) (serves : server.Serves files)
    (taken : server.step files action = some next) :
    Serial (events ++ server.socketEvents action) next := by
  cases step_moves taken with
  | @sets ret pc before after =>
      have silent : server.socketEvents (.sys ret) = [] := by
        rcases before with pc | pc | pc <;> simp [socketEvents, pc]
      rw [silent]
      apply serial.congr pc
      all_goals
        rcases before with pc | pc | pc <;> rcases after with rfl | rfl | rfl | rfl | rfl <;>
          rw [pc] <;> rfl
  | stops pc | sleeps pc =>
      have silent : server.socketEvents .run = [] := by simp [socketEvents, pc]
      rw [silent]
      apply serial.congr <;> rw [pc] <;> rfl
  | @acceptFails ret pc failed =>
      have silent : server.socketEvents (.sys ret) = [] := by simp [socketEvents, pc, failed]
      rw [silent]
      apply serial.congr <;> rw [pc] <;> rfl
  | @accepts ret pc accepted =>
      have issues : server.socketEvents (.sys ret) = [.issued server.nextFd] := by
        simp [socketEvents, pc, accepted]
      have fds := serial.fds
      rw [issues]
      constructor
      · rw [serial.history, pc]
        simp [eventsAt, exchangeAt]
      · simp only [pc, fdAt, exchangeAt, Option.map_none, Option.toList_none,
          List.append_nil] at fds
        simp only [fdAt, Option.toList_some, fds, List.range_succ]
  | @receives fd received snapshot buffers pc handled =>
      have uses : server.socketEvents (.recv received snapshot) = [.used fd] := by
        simp [socketEvents, pc]
      rw [uses]
      apply serial.use <;> rw [pc] <;> rfl
  | responds pc | calls pc | returns pc done =>
      have silent : server.socketEvents .run = [] := by simp [socketEvents, pc]
      rw [silent]
      apply serial.congr <;> rw [pc] <;> rfl
  | @sends exchange data accepted sentTotal buffers outcome pc left =>
      have uses : server.socketEvents (.send outcome) = [.used exchange.fd] := by
        simp [socketEvents, pc]
      have agrees := serves.current exchange (by rw [pc]; rfl)
      rw [pc] at agrees
      obtain ⟨exchange', current, fd, outcomes, _⟩ := Agrees.sendAllStep agrees left outcome
      obtain ⟨events, held⟩ := at_of_exchange current
      rw [uses]
      apply serial.use
      · rw [events, pc, lifeSoFar_sent fd outcomes]
        rfl
      · rw [held, pc, fd]
        rfl
  | @closes exchange pc =>
      have closed : server.socketEvents .run = [.closed exchange.fd] := by
        simp [socketEvents, pc]
      have fds := serial.fds
      rw [closed]
      constructor
      · rw [serial.history, pc]
        simp [eventsAt, exchangeAt, wholeLife]
      · rw [pc] at fds
        simpa [fdAt, exchangeAt] using fds

/-- The web app serves one connection at a time: in every run each accepted descriptor is
received from once, sent to, and closed once, before the next is accepted, and none is used
after its close. -/
theorem servesSerially (files : WebAssetFiles) {finish : WebServer} {actions : List WebAction}
    (run : (machine files).exec {} actions = some finish) :
    socketHistory files actions = finish.served.flatMap wholeLife ++ eventsAt finish.pc ∧
      finish.served.map (·.fd) ++ (fdAt finish.pc).toList = List.range finish.nextFd := by
  have serial : Serial (socketHistory files actions) finish := by
    apply Machine.exec_induction (motive := fun actions finish =>
      Serial (socketHistory files actions) finish) _ _ run
    · exact ⟨rfl, rfl⟩
    · intro actions server action next reached serial taken
      have serves := serves_of_reachable ⟨_, actions, rfl, reached⟩
      unfold socketHistory
      rw [Machine.trail_concat action reached, List.flatMap_append, List.flatMap_singleton]
      exact serial.step serves taken
  exact ⟨serial.history, serial.fds⟩

/-- A connection that is reset before its request, and one that is answered through a slow
socket. -/
def twoConnections : List WebAction :=
  [.sys 3, .sys 0, .sys 0, .sys 4, .recv [] {}, .run, .run, .sys (-1), .run, .sys 4,
    .recv (cString "PUT ") {}, .run, .send { space := some 100, errno := 0 },
    .send { space := none, errno := 4 }, .send { space := some 1000, errno := 4 }, .run, .run,
    .send { space := some 1000, errno := 4 }, .run, .run, .run]

theorem twoConnections_run :
    ∃ finish, (machine emptyFiles).exec {} twoConnections = some finish ∧
      finish.served.length = 2 := by
  have shown : ((machine emptyFiles).exec {} twoConnections).any (fun finish =>
      finish.served.length = 2) = true := by decide +kernel
  obtain ⟨finish, ran, two⟩ := (Option.any_eq_true _ _).mp shown
  exact ⟨finish, ran, of_decide_eq_true two⟩

theorem connectionsAnswered_twoConnections :
    ∃ finish, (machine emptyFiles).exec {} twoConnections = some finish ∧
      finish.served.length = 2 ∧ ∀ exchange ∈ finish.served, Answered emptyFiles exchange := by
  obtain ⟨finish, ran, two⟩ := twoConnections_run
  exact ⟨finish, ran, two, connectionsAnswered ⟨{}, twoConnections, rfl, ran⟩⟩

theorem servesSerially_twoConnections :
    ∃ finish, (machine emptyFiles).exec {} twoConnections = some finish ∧
      finish.served.length = 2 ∧
      socketHistory emptyFiles twoConnections =
        finish.served.flatMap wholeLife ++ eventsAt finish.pc ∧
      finish.served.map (·.fd) ++ (fdAt finish.pc).toList = List.range finish.nextFd := by
  obtain ⟨finish, ran, two⟩ := twoConnections_run
  exact ⟨finish, ran, two, servesSerially emptyFiles ran⟩

end WebServer

end EspNmeaBridge
