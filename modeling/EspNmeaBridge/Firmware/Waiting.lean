import EspNmeaBridge.Firmware.Mutexes
import EspNmeaBridge.Firmware.Outbound

/-!
# Waiting for the mutexes

Runs in which the threads take the mutexes and give them back.  Whoever waits, waits for a
thread that goes on and gives the mutex back after a few steps of its own.  Which of the waiting
threads gets it then is left open.
-/

namespace EspNmeaBridge

open Library

namespace Firmware

variable {config : Config} {firmware next : Firmware config}
  {action : FirmwareAction config ⊕ Reader} {thread : FirmwareThread config}
  {mutex : FirmwareMutex}

/-- The threads with their mutexes. -/
def mutexMachine (config : Config) :
    Machine (Locked (Firmware config) (FirmwareThread config) FirmwareMutex)
      (LockAction (FirmwareAction config ⊕ Reader) (FirmwareThread config)) :=
  (locking config).machine (withReaders config)

variable {locked start finish : Locked (Firmware config) (FirmwareThread config) FirmwareMutex}
  {actions : List (LockAction (FirmwareAction config ⊕ Reader) (FirmwareThread config))}

theorem reachable_state (reachable : (mutexMachine config).Reachable locked) :
    (machine config).Reachable locked.state :=
  reachable_withReaders (Locking.reachable_state reachable)

/-- Every run of the threads is one with the mutexes. -/
theorem exists_mutexRun {start finish : Firmware config} {actions : List (FirmwareAction config)}
    (initial : (machine config).init start)
    (run : (machine config).exec start actions = some finish) :
    ∃ actions' locked, (mutexMachine config).exec { state := start } actions' = some locked ∧
      locked.state = finish := by
  obtain ⟨actions', run'⟩ : ∃ actions', (withReaders config).exec start actions' = some finish := by
    apply Machine.exec_view id (fun _ _ => True) _
      (Machine.along_of_forall (fun _ _ => trivial) start actions) run
    exact fun _ action _ _ taken => .inr ⟨.inl action, taken⟩
  exact Locking.exists_exec (disciplined config) (serial config) initial run'

/-- A slot is handed out under `clients_lock`, while it is not active. -/
theorem reserves_cases {sys : SysReturn} {i : Fin config.tcpNmeaServerMaxClients}
    (taken : firmware.stepServer sys = some next) (reserves : Reserves next.server i) :
    Reserves firmware.server i ∨
      (firmware.mutex? .server = some .clientsLock ∧ (firmware.clients i).active = false) := by
  cases stepServer_moves taken with
  | socket | bind | listen =>
      rcases reserves with ⟨fd, equal⟩ | equal <;> dsimp only at equal <;> split at equal <;>
        contradiction
  | closeListener | accepts | full | reject | createThread =>
      rcases reserves with ⟨fd, equal⟩ | equal <;> contradiction
  | acceptFails => exact .inl reserves
  | @allocates fd j server inactive =>
      right
      rcases reserves with ⟨fd', equal⟩ | equal
      · cases equal
        exact ⟨by simp [Firmware.mutex?, server], inactive⟩
      · contradiction
  | @setFd fd j server =>
      left
      rcases reserves with ⟨fd', equal⟩ | equal
      · contradiction
      · cases equal
        exact .inl ⟨fd, server⟩

/-- A step hands out no slot, unless it is one of the server thread under `clients_lock`. -/
theorem step_reserves {i : Fin config.tcpNmeaServerMaxClients}
    (taken : (withReaders config).step firmware action = some next)
    (reserves : Reserves next.server i) :
    Reserves firmware.server i ∨
      (threadOf action = .server ∧ firmware.mutex? .server = some .clientsLock ∧
        (firmware.clients i).active = false) := by
  by_cases own : threadOf action = .server
  · match action, taken with
    | .inl (.server sys), taken =>
        exact (reserves_cases taken reserves).imp_right fun handsOut => ⟨rfl, handsOut⟩
  · have same : next.server = firmware.server := step_samePlace_of_noClient taken own nofun
    exact .inl (same ▸ reserves)

/-- Between `close_client` and `k_thread_create` a slot's thread holds no mutex: the server
thread is in its own section when it finds the slot free. -/
theorem outside_of_inactive (reachable : (mutexMachine config).Reachable locked)
    {i : Fin config.tcpNmeaServerMaxClients} (inactive : (locked.state.clients i).active = false)
    (inside : locked.phase .server = .inside .clientsLock) :
    locked.phase (.client i) = .outside := by
  have orderly := Locking.orderly (disciplined config) reachable
  have idle := SlotsKept.idle_of_inactive (kept (reachable_state reachable)) inactive
  cases phase : locked.phase (.client i) with
  | outside => rfl
  | inside mutex =>
      have guarded : locked.state.mutex? (.client i) = some mutex := orderly.inside _ mutex phase
      rw [mutex?_of_idle idle] at guarded
      contradiction
  | leaving mutex =>
      obtain ⟨running, logging⟩ := orderly.leaving _ mutex phase
      obtain rfl := logging (idle.resolve_left running)
      have held : (locked.phase (.client i)).mutex? = some .clientsLock := by rw [phase]; rfl
      have taken : (locked.phase .server).mutex? = some .clientsLock := by rw [inside]; rfl
      exact absurd (orderly.unique held taken) (by simp)

/-- The thread of a slot that is handed out holds no mutex. -/
theorem reserved_outside (reachable : (mutexMachine config).Reachable locked) :
    ∀ i, Reserves locked.state.server i → locked.phase (.client i) = .outside := by
  obtain ⟨start, actions, initial, run⟩ := reachable
  apply Machine.exec_induction (motive := fun _ locked =>
    ∀ i, Reserves locked.state.server i → locked.phase (.client i) = .outside) _ _ run
  · obtain ⟨state, -, rfl⟩ := initial
    exact fun _ _ => rfl
  · intro actions locked action next reached outside taken i reserves
    have reachable : (mutexMachine config).Reachable locked := ⟨start, actions, initial, reached⟩
    have orderly := Locking.orderly (disciplined config) reachable
    replace taken := Locking.moves_of_step taken
    cases taken with
    | @locks thread mutex _ guarded free =>
        have idle := ((kept (reachable_state reachable)).reserved i reserves).2
        have other : thread ≠ .client i := by
          rintro rfl
          exact absurd (guarded.symm.trans (mutex?_of_idle idle)) (by simp)
        simpa [Ne.symm other] using outside i reserves
    | @steps action state _ unguarded taken =>
        rcases step_reserves taken reserves with before | ⟨own, guarded, -⟩
        · exact outside i before
        · have unguarded : locked.state.mutex? (threadOf action) = none := unguarded
          rw [own, guarded] at unguarded
          contradiction
    | @continues action state mutex inside goesOn taken =>
        rcases step_reserves taken reserves with before | ⟨own, guarded, -⟩
        · exact outside i before
        · match action, own with
          | .inl (.server sys), _ => contradiction
    | @finishes action state mutex inside last taken =>
        rcases step_reserves taken reserves with before | ⟨own, guarded, inactive⟩
        · have other : FirmwareThread.client i ≠ threadOf action := by
            intro same
            have outside := outside i before
            rw [same] at outside
            exact absurd (outside.symm.trans inside) (by simp)
          simpa [locking, other] using outside i before
        · have inside : locked.phase (threadOf action) = .inside mutex := inside
          have same : locked.state.mutex? (threadOf action) = some mutex :=
            orderly.inside _ mutex inside
          rw [own] at inside same
          obtain rfl := Option.some.inj (guarded.symm.trans same)
          simpa [locking, own] using outside_of_inactive reachable inactive inside
    | @unlocks thread mutex leaving =>
        by_cases same : FirmwareThread.client i = thread
        · simp [same]
        · simpa [same] using outside i reserves

/-! ## Own steps -/

/-- Own steps until a thread has made its section, at most. -/
def sectionLeft (thread : FirmwareThread config) (firmware : Firmware config) : Nat :=
  match thread with
  | .dispatcher => firmware.pipeline.dispatcher.remaining
  | .uart | .server | .client _ | .outbound | .reader _ => 1

theorem step_dispatcher_remaining (taken : firmware.step .dispatcher = some next)
    (busy : firmware.pipeline.dispatcher ≠ .waiting) :
    next.pipeline.dispatcher.remaining < firmware.pipeline.dispatcher.remaining := by
  obtain ⟨pipeline, stepped, rfl⟩ := step_dispatcher taken
  obtain ⟨bridge, dispatcher, moved, rfl⟩ := Pipeline.step_dispatcher_cases stepped
  obtain ⟨_, _, same, -, fewer⟩ := firmware.pipeline.shared.bridge.outcome_step busy
  rw [moved] at same
  cases same
  exact fewer

theorem remaining_le (reachable : (machine config).Reachable firmware) :
    firmware.pipeline.dispatcher.remaining ≤ 8 * config.nmeaSinksMax + 2 :=
  DispatcherPc.remaining_le (streamOrder reachable).flowing.visitsOnce

theorem sectionLeft_step (taken : (withReaders config).step firmware action = some next)
    (own : threadOf action = thread) (guarded : firmware.mutex? thread = some mutex) :
    (if firmware.lastOfSection action then 0 else next.sectionLeft thread) <
      firmware.sectionLeft thread := by
  subst own
  match action, taken with
  | .inl .dispatcher, taken =>
      have fewer := step_dispatcher_remaining taken (busy_of_guarded guarded).1
      split
      · exact Nat.zero_lt_of_lt fewer
      · exact fewer
  | .inl (.uart ch sys), taken | .inl (.server sys), taken | .inl (.client i sys), taken
  | .inl (.outbound sys), taken | .inr reader, taken => exact Nat.one_pos

theorem sectionLeft_others (taken : (withReaders config).step firmware action = some next)
    (other : threadOf action ≠ thread) : next.sectionLeft thread ≤ firmware.sectionLeft thread := by
  cases thread with
  | dispatcher =>
      have same : next.pipeline.dispatcher = firmware.pipeline.dispatcher :=
        step_samePlace_of_noClient taken other nofun
      rw [sectionLeft, same]
      exact Nat.le_refl _
  | uart | server | client | outbound | reader => exact Nat.le_refl 1

/-- A mutex is given back soon, in own steps of its holder. -/
theorem held_le (reachable : (mutexMachine config).Reachable start)
    (held : (mutexMachine config).Along (fun locked _ => locked.holder mutex = some thread) start
      actions)
    (run : (mutexMachine config).exec start actions = some finish) :
    (mutexMachine config).total ((locking config).ownStep thread) start actions ≤
      if thread = .dispatcher then 8 * config.nmeaSinksMax + 3 else 2 := by
  have steps := Locking.held_le (disciplined config) (sectionLeft thread)
    (fun _ taken own guarded => sectionLeft_step taken own guarded)
    (fun _ taken other _ => sectionLeft_others taken other) reachable held run
  apply Nat.le_trans steps
  have few := remaining_le (reachable_state reachable)
  cases thread with
  | dispatcher =>
      cases start.phase .dispatcher <;>
        simp only [Locking.untilUnlock, sectionLeft, if_true] <;> omega
  | uart | server | client | outbound | reader =>
      cases start.phase _ <;> simp [Locking.untilUnlock, sectionLeft]

/-- What the UART thread has left to do until the next byte, with `status_led_lock`. -/
def lineLeft (firmware : Firmware config) : Nat :=
  if firmware.pipeline.uartPc = .poll then 0 else firmware.pipeline.uartPc.untilPoll + 2

theorem lineLeft_le (firmware : Firmware config) : firmware.lineLeft ≤ 9 := by
  have few := firmware.pipeline.uartPc.untilPoll_le
  unfold lineLeft
  split <;> omega

theorem lineLeft_of_guarded (guarded : firmware.mutex? .uart = some mutex) :
    firmware.pipeline.uartPc ≠ .poll ∧ 1 ≤ firmware.lineLeft := by
  cases pc : firmware.pipeline.uartPc with
  | ledReceived => simp [lineLeft, pc]
  | poll | publish | put => simp [Firmware.mutex?, pc] at guarded

theorem lineLeft_step (taken : (withReaders config).step firmware action = some next)
    (own : threadOf action = .uart) (busy : firmware.pipeline.uartPc ≠ .poll) :
    next.lineLeft +
        (if firmware.mutex? .uart ≠ none ∧ firmware.lastOfSection action then 3 else 1) ≤
      firmware.lineLeft := by
  match action, taken with
  | .inl (.uart ch sys), taken =>
      cases taken
      rcases firmware.pipeline.stepUart_untilPoll busy ch sys with
        ⟨reports, reads⟩ | ⟨fewer, silent, later⟩
      · have done : ({ firmware with pipeline := firmware.pipeline.stepUart ch sys } :
            Firmware config).lineLeft = 0 := if_pos reads
        have left : firmware.lineLeft = 3 := by simp [lineLeft, UartPc.untilPoll, reports,
          UartPc.remaining]
        rw [done, left]
        split <;> simp
      · have unguarded : firmware.mutex? .uart = none := by
          cases pc : firmware.pipeline.uartPc with
          | ledReceived => contradiction
          | poll | publish | put => simp [Firmware.mutex?, pc]
        rw [unguarded, if_neg (by simp), lineLeft, if_neg later, lineLeft, if_neg busy]
        dsimp only
        omega

theorem lineLeft_others (taken : (withReaders config).step firmware action = some next)
    (other : threadOf action ≠ .uart) : next.lineLeft ≤ firmware.lineLeft := by
  have same : next.pipeline.uartPc = firmware.pipeline.uartPc :=
    step_samePlace_of_noClient taken other nofun
  rw [lineLeft, same]
  exact Nat.le_refl _

/-- The UART thread reads the next byte after a bounded number of own steps. -/
theorem line_le (reachable : (mutexMachine config).Reachable start)
    (busy : (mutexMachine config).Along (fun locked _ => locked.phase .uart ≠ .outside ∨
      locked.state.pipeline.uartPc ≠ .poll) start actions)
    (run : (mutexMachine config).exec start actions = some finish) :
    (mutexMachine config).total ((locking config).ownStep .uart) start actions ≤ 9 := by
  have steps : _ ≤ Locking.untilDone lineLeft (start.phase .uart) start.state :=
    Locking.busy_le (disciplined config) (fun firmware => firmware.pipeline.uartPc ≠ .poll)
      lineLeft (fun guarded => lineLeft_of_guarded guarded)
      (fun _ taken own busy => lineLeft_step taken own busy)
      (fun _ taken other => lineLeft_others taken other) reachable busy run
  apply Nat.le_trans steps
  have few := start.state.lineLeft_le
  cases phase : start.phase .uart with
  | outside => exact few
  | inside mutex => exact Nat.le_trans (Nat.sub_le _ _) few
  | leaving mutex =>
      have reads : start.state.pipeline.uartPc = .poll :=
        (Locking.orderly (disciplined config) reachable).leaving .uart mutex phase
      simp [Locking.untilDone, lineLeft, reads]

/-- What the dispatcher has left to do in its pass, with `sinks_lock`. -/
def passLeft (firmware : Firmware config) : Nat :=
  if firmware.pipeline.dispatcher = .waiting then 0 else firmware.pipeline.dispatcher.remaining + 2

theorem passLeft_le (reachable : (machine config).Reachable firmware) :
    firmware.passLeft ≤ 8 * config.nmeaSinksMax + 4 := by
  have few := remaining_le reachable
  unfold passLeft
  split <;> omega

theorem passLeft_of_guarded (guarded : firmware.mutex? .dispatcher = some mutex) :
    firmware.pipeline.dispatcher ≠ .waiting ∧ 1 ≤ firmware.passLeft := by
  have busy := (busy_of_guarded guarded).1
  refine ⟨busy, ?_⟩
  rw [passLeft, if_neg busy]
  omega

theorem passLeft_step (taken : (withReaders config).step firmware action = some next)
    (own : threadOf action = .dispatcher) (busy : firmware.pipeline.dispatcher ≠ .waiting) :
    next.passLeft +
        (if firmware.mutex? .dispatcher ≠ none ∧ firmware.lastOfSection action then 3 else 1) ≤
      firmware.passLeft := by
  match action, taken with
  | .inl .dispatcher, taken =>
      have fewer := step_dispatcher_remaining taken busy
      have ends := dispatcher_section taken busy
      rw [mutex?_dispatcher, if_neg busy, passLeft, passLeft, if_neg busy]
      by_cases waiting : next.pipeline.dispatcher = .waiting
      · rw [if_pos waiting, ends.mp waiting, if_pos (by simp)]
        omega
      · rw [if_neg waiting, if_neg fun both => waiting (ends.mpr both.2)]
        omega

theorem passLeft_others (taken : (withReaders config).step firmware action = some next)
    (other : threadOf action ≠ .dispatcher) : next.passLeft ≤ firmware.passLeft := by
  have same : next.pipeline.dispatcher = firmware.pipeline.dispatcher :=
    step_samePlace_of_noClient taken other nofun
  rw [passLeft, same]
  exact Nat.le_refl _

/-- The dispatcher ends its pass after a bounded number of own steps. -/
theorem pass_le (reachable : (mutexMachine config).Reachable start)
    (busy : (mutexMachine config).Along (fun locked _ => locked.phase .dispatcher ≠ .outside ∨
      locked.state.pipeline.dispatcher ≠ .waiting) start actions)
    (run : (mutexMachine config).exec start actions = some finish) :
    (mutexMachine config).total ((locking config).ownStep .dispatcher) start actions ≤
      8 * config.nmeaSinksMax + 4 := by
  have steps : _ ≤ Locking.untilDone passLeft (start.phase .dispatcher) start.state :=
    Locking.busy_le (disciplined config)
      (fun firmware => firmware.pipeline.dispatcher ≠ .waiting) passLeft
      (fun guarded => passLeft_of_guarded guarded)
      (fun _ taken own busy => passLeft_step taken own busy)
      (fun _ taken other => passLeft_others taken other) reachable busy run
  apply Nat.le_trans steps
  have few := passLeft_le (reachable_state reachable)
  cases phase : start.phase .dispatcher with
  | outside => exact few
  | inside mutex => exact Nat.le_trans (Nat.sub_le _ _) few
  | leaving mutex =>
      have waiting : start.state.pipeline.dispatcher = .waiting :=
        (Locking.orderly (disciplined config) reachable).leaving .dispatcher mutex phase
      simp [Locking.untilDone, passLeft, waiting]

/-! ## Who waits for whom, and for how long -/

/-- What the threads wait for in a run with the mutexes, and for how many steps of the thread
that they wait for. -/
structure WaitsBounded
    (start : Locked (Firmware config) (FirmwareThread config) FirmwareMutex)
    (actions : List (LockAction (FirmwareAction config ⊕ Reader) (FirmwareThread config)))
    (finish : Locked (Firmware config) (FirmwareThread config) FirmwareMutex) : Prop where
  /-- Without the mutexes it is a run of the threads. -/
  unlocked : ∃ actions', (machine config).exec start.state actions' = some finish.state
  /-- A mutex is held by the one thread in its section, which holds no other. -/
  holds : ∀ thread mutex,
    finish.holder mutex = some thread ↔ (finish.phase thread).mutex? = some mutex
  /-- A thread at a section goes on, unless it waits for the mutex of the section. -/
  enters : ∀ thread mutex, finish.state.mutex? thread = some mutex →
    (locking config).CanAct (withReaders config) finish thread ∨
      (locking config).Waits finish thread mutex
  /-- Whoever waits, waits for another thread, and that one goes on. -/
  waits : ∀ thread mutex, (locking config).Waits finish thread mutex →
    ∃ holder, holder ≠ thread ∧ finish.holder mutex = some holder ∧
      (locking config).CanAct (withReaders config) finish holder
  /-- The UART thread waits for nobody, except to tell the status LED of a line. -/
  uart : (locking config).CanAct (withReaders config) finish .uart ∨
    (locking config).Waits finish .uart .statusLedLock ∧
      finish.state.pipeline.uartPc = .ledReceived
  /-- With a frame to hand out, the dispatcher waits for nobody, except at the beginning of its
  section. -/
  dispatcher : finish.state.pipeline.dispatcher ≠ .waiting ∨
      finish.state.pipeline.shared.bridge.ingestMsgq.items ≠ [] →
    (locking config).CanAct (withReaders config) finish .dispatcher ∨
      (locking config).Waits finish .dispatcher .sinksLock ∧
        finish.state.pipeline.dispatcher.locked = false
  /-- `k_thread_create` is not called for the thread of a slot while that holds a mutex. -/
  created : ∀ i, finish.state.server = .createThread i →
    finish.phase (.client i) = .outside
  /-- A mutex is given back soon, in own steps of its holder. -/
  released : ∀ thread mutex,
    (mutexMachine config).Along (fun locked _ => locked.holder mutex = some thread) start
        actions →
      (mutexMachine config).total ((locking config).ownStep thread) start actions ≤
        if thread = .dispatcher then 8 * config.nmeaSinksMax + 3 else 2
  /-- The UART thread reads the next byte soon, in own steps. -/
  line :
    (mutexMachine config).Along (fun locked _ => locked.phase .uart ≠ .outside ∨
        locked.state.pipeline.uartPc ≠ .poll) start actions →
      (mutexMachine config).total ((locking config).ownStep .uart) start actions ≤ 9
  /-- The dispatcher ends its pass soon, in own steps. -/
  pass :
    (mutexMachine config).Along (fun locked _ => locked.phase .dispatcher ≠ .outside ∨
        locked.state.pipeline.dispatcher ≠ .waiting) start actions →
      (mutexMachine config).total ((locking config).ownStep .dispatcher) start actions ≤
        8 * config.nmeaSinksMax + 4

theorem waitsBounded (reachable : (mutexMachine config).Reachable start)
    (run : (mutexMachine config).exec start actions = some finish) :
    WaitsBounded start actions finish := by
  have reached := reachable.exec run
  have orderly := Locking.orderly (disciplined config) reached
  have base := Locking.reachable_state reached
  constructor
  case unlocked =>
    obtain ⟨actions', run'⟩ := Locking.exec_state run
    exact exec_withReaders run'
  case holds => exact orderly.holds
  case enters =>
    intro thread mutex guarded
    have guarded : (locking config).guard finish.state thread = some mutex := guarded
    apply (orderly.acts_or_waits (disciplined config) base (by simp [guarded])).imp_right
    rintro ⟨other, waits⟩
    rwa [Option.some.inj (guarded.symm.trans waits.2.1)]
  case waits => exact fun thread mutex waits => orderly.waits_for (disciplined config) base waits
  case uart =>
    apply (orderly.acts_or_waits (disciplined config) base ?_).imp_right
    · rintro ⟨mutex, waits⟩
      obtain ⟨reports, rfl⟩ := uart_of_guarded waits.2.1
      exact ⟨waits, reports⟩
    · intro _
      exact ⟨.inl (.uart 0 {}), rfl, by simp [withReaders, step]⟩
  case dispatcher =>
    intro ready
    apply (orderly.acts_or_waits (disciplined config) base ?_).imp_right
    · rintro ⟨mutex, waits⟩
      obtain ⟨-, rfl⟩ := busy_of_guarded waits.2.1
      refine ⟨waits, Bool.eq_false_iff.mpr fun locked => ?_⟩
      have inside := orderly.midway .dispatcher .sinksLock ⟨rfl, rfl, locked⟩
      simp [waits.1] at inside
    · intro _
      exact ⟨.inl .dispatcher, rfl, dispatcher_goesOn ready⟩
  case created => exact fun i server => reserved_outside reached i (.inr server)
  case released => exact fun thread mutex held => held_le reachable held run
  case line => exact fun busy => line_le reachable busy run
  case pass => exact fun busy => pass_le reachable busy run

/-- The outbound client is interrupted while it tells the status LED of its attempt. -/
def outboundInterrupted :
    List (LockAction (FirmwareAction Config.committed ⊕ Reader)
      (FirmwareThread Config.committed)) :=
  [.step (.inl (.outbound { ret := 1 })), .lock .outbound]

/-- A line arrives and is published. -/
def lineMeanwhile :
    List (LockAction (FirmwareAction Config.committed ⊕ Reader)
      (FirmwareThread Config.committed)) :=
  [.step (.inl (.uart 65 {})), .step (.inl (.uart newline {})), .step (.inl (.uart 0 {})),
    .step (.inl (.uart 0 {}))]

theorem waitsBounded_lineMeanwhile :
    ∃ start finish,
      (mutexMachine Config.committed).exec { state := atStart } outboundInterrupted =
          some start ∧
        (mutexMachine Config.committed).exec start lineMeanwhile = some finish ∧
        (locking Config.committed).Waits finish .uart .statusLedLock ∧
        finish.holder .statusLedLock = some .outbound ∧
        WaitsBounded start lineMeanwhile finish := by
  refine ⟨_, _, rfl, rfl, ⟨rfl, rfl, by decide⟩, rfl, ?_⟩
  exact waitsBounded ⟨_, outboundInterrupted, ⟨atStart, atStart_initial, rfl⟩, rfl⟩ rfl

end Firmware

end EspNmeaBridge
