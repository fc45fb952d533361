import EspNmeaBridge.Library.PartialWrite
import EspNmeaBridge.WebApp.Routing

/-!
# Sending a response

`send_all` keeps to its buffer, whatever the socket does, but the header and the body of
a response are sent by two calls of which the second does not depend on the first.
-/

namespace EspNmeaBridge

open Library

namespace WebApp

section Model

/-- `EINTR` -/
def eintr : Int := 4

/-- `zsock_send`; it accepts as many of the `len` bytes as there is space for. -/
def zsockSend (outcome : WriteOutcome) (len : Nat) : Int :=
  match outcome.space with
  | some space => (min space len : Nat)
  | none => -1

/-- What `send_all` has put on the wire, what it returns, unless it has not done so yet,
and the outcomes of the later calls of `zsock_send`. -/
structure SendAllRun where
  accepted : List Byte
  returned : Option Int
  later : List WriteOutcome
  deriving DecidableEq, Repr

def SendAllRun.after (run : SendAllRun) (accepted : List Byte) : SendAllRun :=
  { run with accepted := accepted ++ run.accepted }

/-- The loop of `send_all`. -/
def sendAllLoop (data : List Byte) (sentTotal : Nat) : List WriteOutcome → SendAllRun
  | [] =>
      if sentTotal < data.length then { accepted := [], returned := none, later := [] }
      else { accepted := [], returned := some 0, later := [] }
  | outcome :: outcomes =>
      if sentTotal < data.length then
        let sent := zsockSend outcome (data.length - sentTotal)
        if sent > 0 then
          (sendAllLoop data (sentTotal + sent.toNat) outcomes).after
            ((data.drop sentTotal).take sent.toNat)
        else if sent < 0 ∧ outcome.errno = eintr then sendAllLoop data sentTotal outcomes
        else { accepted := [], returned := some (-outcome.errno), later := outcomes }
      else { accepted := [], returned := some 0, later := outcome :: outcomes }

/-- `send_all` -/
def sendAll (data : List Byte) (outcomes : List WriteOutcome) : SendAllRun :=
  sendAllLoop data 0 outcomes

/-- A call of `send_all` and what has come of it. -/
structure SendAllCall where
  data : List Byte
  accepted : List Byte
  returned : Option Int
  deriving DecidableEq, Repr

/-- The calls of `send_all` for the buffers of a response.  None depends on what the
earlier ones return. -/
def sendBuffers : List (List Byte) → List WriteOutcome → List SendAllCall
  | [], _ => []
  | data :: buffers, outcomes =>
      let run := sendAll data outcomes
      { data, accepted := run.accepted, returned := run.returned } ::
        (if run.returned = none then [] else sendBuffers buffers run.later)

/-- The calls of `send_all` in `handle_client`. -/
def handleClientCalls (files : WebAssetFiles) (snapshot : BridgeTelemetrySnapshot)
    (received : List Byte) (outcomes : List WriteOutcome) : Option (List SendAllCall) :=
  (handleClient files snapshot received).map (sendBuffers · outcomes)

end Model

section Loop

variable {data : List Byte} {sentTotal : Nat} {outcome last : WriteOutcome}
  {outcomes used rest : List WriteOutcome}

theorem sendAllLoop_done (done : data.length ≤ sentTotal) (outcomes : List WriteOutcome) :
    sendAllLoop data sentTotal outcomes =
      { accepted := [], returned := some 0, later := outcomes } := by
  cases outcomes with
  | nil => rw [sendAllLoop, if_neg (Nat.not_lt.mpr done)]
  | cons outcome outcomes => rw [sendAllLoop, if_neg (Nat.not_lt.mpr done)]

/-- A call of `zsock_send` after which the loop goes on. -/
theorem sendAllLoop_goesOn (left : sentTotal < data.length)
    (goesOn : ¬ outcome.GivesUp (· = eintr)) :
    sendAllLoop data sentTotal (outcome :: outcomes) =
      (sendAllLoop data (sentTotal + min (outcome.space.getD 0) (data.length - sentTotal))
        outcomes).after ((data.drop sentTotal).take (outcome.space.getD 0)) := by
  rw [sendAllLoop, if_pos left]
  cases space : outcome.space with
  | none =>
      simp only [WriteOutcome.GivesUp, space, not_not] at goesOn
      simp [zsockSend, space, goesOn, SendAllRun.after]
  | some room =>
      simp only [WriteOutcome.GivesUp, space] at goesOn
      have sent : zsockSend outcome (data.length - sentTotal) =
          (min room (data.length - sentTotal) : Nat) := by simp [zsockSend, space]
      have positive : ((min room (data.length - sentTotal) : Nat) : Int) > 0 := by omega
      have taken : (data.drop sentTotal).take (min room (data.length - sentTotal)) =
          (data.drop sentTotal).take room := by
        rw [← List.length_drop, ← List.take_eq_take_min]
      simp only [sent, if_pos positive, Int.toNat_natCast, taken, Option.getD_some]

theorem sendAllLoop_givesUp (left : sentTotal < data.length)
    (givesUp : outcome.GivesUp (· = eintr)) :
    sendAllLoop data sentTotal (outcome :: outcomes) =
      { accepted := [], returned := some (-outcome.errno), later := outcomes } := by
  rw [sendAllLoop, if_pos left]
  cases space : outcome.space with
  | none =>
      simp only [WriteOutcome.GivesUp, space] at givesUp
      simp [zsockSend, space, givesUp]
  | some room =>
      simp only [WriteOutcome.GivesUp, space] at givesUp
      simp [zsockSend, space, givesUp]

/-- What is left after a call of `zsock_send`. -/
theorem length_sub_add_min (space : Nat) :
    data.length - (sentTotal + min space (data.length - sentTotal)) =
      data.length - sentTotal - space := by
  omega

theorem drop_add_min (space : Nat) :
    data.drop (sentTotal + min space (data.length - sentTotal)) =
      (data.drop sentTotal).drop space := by
  rw [List.drop_drop]
  cases Nat.le_total space (data.length - sentTotal) with
  | inl fits => rw [Nat.min_eq_left fits]
  | inr fills =>
      rw [Nat.min_eq_right fills, List.drop_eq_nil_of_le (by omega),
        List.drop_eq_nil_of_le (by omega)]

theorem sendAllLoop_fills (fills : Fills (· = eintr) (data.length - sentTotal) used)
    (rest : List WriteOutcome) :
    sendAllLoop data sentTotal (used ++ rest) =
      { accepted := data.drop sentTotal, returned := some 0, later := rest } := by
  induction used generalizing sentTotal with
  | nil =>
      have done : data.length ≤ sentTotal := Nat.sub_eq_zero_iff_le.mp (Nat.le_zero.mp fills.enough)
      rw [List.nil_append, sendAllLoop_done done, List.drop_eq_nil_of_le done]
  | cons outcome used ih =>
      obtain ⟨goesOn, left, fills⟩ := fills_cons_iff.mp fills
      rw [← length_sub_add_min] at fills
      rw [List.cons_append, sendAllLoop_goesOn (Nat.lt_of_sub_pos left) goesOn, ih fills,
        drop_add_min, SendAllRun.after, List.take_append_drop]

theorem sendAllLoop_cutsShort
    (cuts : CutsShort (· = eintr) (data.length - sentTotal) used last)
    (rest : List WriteOutcome) :
    sendAllLoop data sentTotal (used ++ last :: rest) =
      { accepted := (data.drop sentTotal).take (room used), returned := some (-last.errno)
        later := rest } := by
  induction used generalizing sentTotal with
  | nil =>
      obtain ⟨left, givesUp⟩ := cutsShort_nil_iff.mp cuts
      rw [List.nil_append, sendAllLoop_givesUp (Nat.lt_of_sub_pos left) givesUp]
      rfl
  | cons outcome used ih =>
      obtain ⟨goesOn, left, cuts⟩ := cutsShort_cons_iff.mp cuts
      rw [← length_sub_add_min] at cuts
      rw [List.cons_append, sendAllLoop_goesOn (Nat.lt_of_sub_pos left) goesOn, ih cuts,
        drop_add_min, SendAllRun.after, ← List.take_add]
      rfl

theorem sendAllLoop_waits (waits : Waits (· = eintr) (data.length - sentTotal) outcomes) :
    sendAllLoop data sentTotal outcomes =
      { accepted := (data.drop sentTotal).take (room outcomes)
        returned := none
        later := [] } := by
  induction outcomes generalizing sentTotal with
  | nil => rw [sendAllLoop, if_pos (Nat.lt_of_sub_pos waits.short)]; rfl
  | cons outcome outcomes ih =>
      obtain ⟨goesOn, left, waits⟩ := waits_cons_iff.mp waits
      rw [← length_sub_add_min] at waits
      rw [sendAllLoop_goesOn (Nat.lt_of_sub_pos left) goesOn, ih waits, drop_add_min,
        SendAllRun.after, ← List.take_add]
      rfl

theorem sendAll_fills (fills : Fills (· = eintr) data.length used) (rest : List WriteOutcome) :
    sendAll data (used ++ rest) = { accepted := data, returned := some 0, later := rest } :=
  sendAllLoop_fills fills rest

theorem sendAll_cutsShort (cuts : CutsShort (· = eintr) data.length used last)
    (rest : List WriteOutcome) :
    sendAll data (used ++ last :: rest) =
      { accepted := data.take (room used), returned := some (-last.errno), later := rest } :=
  sendAllLoop_cutsShort cuts rest

theorem sendAll_waits (waits : Waits (· = eintr) data.length outcomes) :
    sendAll data outcomes =
      { accepted := data.take (room outcomes), returned := none, later := [] } :=
  sendAllLoop_waits waits

end Loop

section Call

/-- Where `send_all` gives up, `errno` says why. -/
def Reported (length : Nat) (outcomes : List WriteOutcome) : Prop :=
  ∀ used last rest, outcomes = used ++ last :: rest → CutsShort (· = eintr) length used last →
    last.errno ≠ 0

/-- The socket accepts nothing until `send_all` gives up, or there is nothing to accept. -/
def Silent (length : Nat) (outcomes : List WriteOutcome) : Prop :=
  length = 0 ∨ ∀ used rest, outcomes = used ++ rest → GoesOn (· = eintr) used → room used = 0

variable {data : List Byte} {outcomes used rest : List WriteOutcome} {last : WriteOutcome}

theorem sendAll_isPrefix (data : List Byte) (outcomes : List WriteOutcome) :
    (sendAll data outcomes).accepted <+: data := by
  rcases fills_or_cutsShort_or_waits (· = eintr) data.length outcomes with
    ⟨used, rest, rfl, fills⟩ | ⟨used, last, rest, rfl, cuts⟩ | waits
  · rw [sendAll_fills fills rest]
  · rw [sendAll_cutsShort cuts rest]
    exact List.take_prefix _ _
  · rw [sendAll_waits waits]
    exact List.take_prefix _ _

theorem take_ne_self {count : Nat} (short : count < data.length) : data.take count ≠ data := by
  intro whole
  have length := congrArg List.length whole
  rw [List.length_take, Nat.min_eq_left (Nat.le_of_lt short)] at length
  exact Nat.ne_of_lt short length

theorem sendAll_reported :
    ((sendAll data outcomes).returned = some 0 → (sendAll data outcomes).accepted = data) ↔
      Reported data.length outcomes := by
  constructor
  · intro sound used last rest split cuts unreported
    subst split
    rw [sendAll_cutsShort cuts rest, unreported] at sound
    exact take_ne_self cuts.short (sound rfl)
  · intro reported
    rcases fills_or_cutsShort_or_waits (· = eintr) data.length outcomes with
      ⟨used, rest, rfl, fills⟩ | ⟨used, last, rest, rfl, cuts⟩ | waits
    · rw [sendAll_fills fills rest]
      exact fun _ => rfl
    · rw [sendAll_cutsShort cuts rest]
      intro zero
      exact absurd (Int.neg_eq_zero.mp (Option.some.inj zero)) (reported used last rest rfl cuts)
    · rw [sendAll_waits waits]
      exact fun zero => nomatch zero

theorem eq_zero_of_take_eq_nil {count : Nat} (short : count < data.length)
    (nothing : data.take count = []) : count = 0 := by
  have length := congrArg List.length nothing
  rw [List.length_take, Nat.min_eq_left (Nat.le_of_lt short)] at length
  exact length

theorem sendAll_silent :
    (sendAll data outcomes).accepted = [] ↔ Silent data.length outcomes := by
  rcases fills_or_cutsShort_or_waits (· = eintr) data.length outcomes with
    ⟨used, rest, rfl, fills⟩ | ⟨used, last, rest, rfl, cuts⟩ | waits
  · rw [sendAll_fills fills rest]
    constructor
    · exact fun nothing => Or.inl (List.length_eq_zero_iff.mpr nothing)
    · intro silent
      apply List.eq_nil_of_length_eq_zero
      cases silent with
      | inl nothing => exact nothing
      | inr silent => exact Nat.le_zero.mp (silent used rest rfl fills.goesOn ▸ fills.enough)
  · rw [sendAll_cutsShort cuts rest]
    constructor
    · intro nothing
      right
      intro used' rest' same goesOn
      have within := room_le_of_isPrefix (goesOn.isPrefix cuts.givesUp same.symm)
      exact Nat.le_zero.mp (eq_zero_of_take_eq_nil cuts.short nothing ▸ within)
    · intro silent
      rw [List.take_eq_nil_iff]
      cases silent with
      | inl nothing => exact Or.inr (List.eq_nil_of_length_eq_zero nothing)
      | inr silent => exact Or.inl (silent used (last :: rest) rfl cuts.goesOn)
  · rw [sendAll_waits waits]
    constructor
    · intro nothing
      right
      intro used' rest' same goesOn
      have within := room_le_of_isPrefix (List.prefix_append used' rest')
      rw [← same, eq_zero_of_take_eq_nil waits.short nothing] at within
      exact Nat.le_zero.mp within
    · intro silent
      rw [List.take_eq_nil_iff]
      cases silent with
      | inl nothing => exact Or.inr (List.eq_nil_of_length_eq_zero nothing)
      | inr silent => exact Or.inl (silent outcomes [] (List.append_nil _).symm waits.goesOn)

end Call

section Response

/-- The response has come through the calls as far as the socket has accepted it. -/
structure Intact (response : HttpResponse) (calls : List SendAllCall) : Prop where
  inOrder : calls.flatMap SendAllCall.accepted <+: response.bytes
  headerFirst : ∀ earlier call later, calls = earlier ++ call :: later → call.accepted ≠ [] →
    ∀ before ∈ earlier, before.accepted = before.data
  reported : ∀ call ∈ calls, call.returned = some 0 → call.accepted = call.data

/-- Where `send_all` gives up, `errno` says why, and where it gives up on the header,
the socket accepts nothing of the body. -/
structure SendsCleanly (header body : Nat) (outcomes : List WriteOutcome) : Prop where
  cutHeader : ∀ used last rest, outcomes = used ++ last :: rest →
    CutsShort (· = eintr) header used last →
      last.errno ≠ 0 ∧ Reported body rest ∧ Silent body rest
  wholeHeader : ∀ used rest, outcomes = used ++ rest → Fills (· = eintr) header used →
    Reported body rest

variable {response : HttpResponse} {outcomes used rest : List WriteOutcome}
  {last : WriteOutcome}

theorem intact_waiting {accepted : List Byte} (start : accepted <+: response.header) :
    Intact response [{ data := response.header, accepted, returned := none }] := by
  constructor
  · rw [List.flatMap_singleton]
    exact start.trans (List.prefix_append _ _)
  · intro earlier call later split _ before member
    cases earlier with
    | nil => contradiction
    | cons first earlier => simp at split
  · intro call member zero
    rw [List.mem_singleton.mp member] at zero
    contradiction

theorem intact_pair_iff {accepted accepted' : List Byte} {returned returned' : Option Int}
    (start : accepted <+: response.header) (start' : accepted' <+: response.body) :
    Intact response [{ data := response.header, accepted, returned },
        { data := response.body, accepted := accepted', returned := returned' }] ↔
      (returned = some 0 → accepted = response.header) ∧
        (returned' = some 0 → accepted' = response.body) ∧
        (accepted' = [] ∨ accepted = response.header) := by
  constructor
  · intro ⟨_, headerFirst, reported⟩
    constructor
    · exact reported _ List.mem_cons_self
    · constructor
      · exact reported _ (List.mem_cons_of_mem _ List.mem_cons_self)
      · by_cases nothing : accepted' = []
        · exact Or.inl nothing
        · exact Or.inr (headerFirst [_] _ [] rfl nothing _ List.mem_cons_self)
  · intro ⟨header, body, first⟩
    constructor
    · simp only [List.flatMap_cons, List.flatMap_nil, List.append_nil]
      cases first with
      | inl nothing =>
          rw [nothing, List.append_nil]
          exact start.trans (List.prefix_append _ _)
      | inr whole =>
          rw [whole]
          exact (List.prefix_append_right_inj _).mpr start'
    · intro earlier call later split some before member
      rcases earlier with _ | ⟨head, _ | ⟨next, earlier⟩⟩
      · contradiction
      · obtain ⟨rfl, same⟩ := List.cons.inj split
        obtain ⟨rfl, _⟩ := List.cons.inj same
        rw [List.mem_singleton.mp member]
        exact first.resolve_left some
      · simp at split
    · simp only [List.forall_mem_cons]
      exact ⟨header, body, fun _ member => nomatch member⟩

/-- Behind a whole header, only what the body's call reports matters. -/
theorem intact_iff_of_fills (fills : Fills (· = eintr) response.header.length used)
    (rest : List WriteOutcome) :
    Intact response (sendBuffers response.buffers (used ++ rest)) ↔
      SendsCleanly response.header.length response.body.length (used ++ rest) := by
  have header := sendAll_fills fills rest
  simp only [HttpResponse.buffers, sendBuffers, header, reduceCtorEq, if_false, ite_self]
  rw [intact_pair_iff List.prefix_rfl (sendAll_isPrefix _ _), sendAll_reported]
  constructor
  · intro intact
    constructor
    · intro used' last rest' split cuts
      have header' := sendAll_cutsShort cuts rest'
      rw [← split, header, SendAllRun.mk.injEq] at header'
      exact absurd header'.1.symm (take_ne_self cuts.short)
    · intro used' rest' split fills'
      have header' := sendAll_fills fills' rest'
      rw [← split, header, SendAllRun.mk.injEq] at header'
      exact header'.2.2 ▸ intact.2.1
  · intro cleanly
    exact ⟨fun _ => rfl, cleanly.wholeHeader used rest rfl fills, Or.inr rfl⟩

/-- Behind a cut header, nothing of the body may be accepted. -/
theorem intact_iff_of_cutsShort
    (cuts : CutsShort (· = eintr) response.header.length used last)
    (rest : List WriteOutcome) :
    Intact response (sendBuffers response.buffers (used ++ last :: rest)) ↔
      SendsCleanly response.header.length response.body.length (used ++ last :: rest) := by
  have header := sendAll_cutsShort cuts rest
  have cut := take_ne_self cuts.short
  simp only [HttpResponse.buffers, sendBuffers, header, reduceCtorEq, if_false, ite_self]
  rw [intact_pair_iff (List.take_prefix _ _) (sendAll_isPrefix _ _), sendAll_reported,
    sendAll_silent]
  constructor
  · intro intact
    obtain ⟨reported, reported', silent⟩ := intact
    constructor
    · intro used' last' rest' split cuts'
      have header' := sendAll_cutsShort cuts' rest'
      rw [← split, header, SendAllRun.mk.injEq] at header'
      obtain ⟨_, sameErrno, rfl⟩ := header'
      constructor
      · intro unreported
        rw [sameErrno, unreported] at reported
        exact cut (reported rfl)
      · exact ⟨reported', silent.resolve_right cut⟩
    · intro used' rest' split fills
      have header' := sendAll_fills fills rest'
      rw [← split, header, SendAllRun.mk.injEq] at header'
      exact absurd header'.1 cut
  · intro cleanly
    obtain ⟨reported, reported', silent⟩ := cleanly.cutHeader used last rest rfl cuts
    constructor
    · intro zero
      exact absurd (Int.neg_eq_zero.mp (Option.some.inj zero)) reported
    · exact ⟨reported', Or.inl silent⟩

/-- While the header is being sent, nothing can go wrong. -/
theorem intact_iff_of_waits (waits : Waits (· = eintr) response.header.length outcomes) :
    Intact response (sendBuffers response.buffers outcomes) ↔
      SendsCleanly response.header.length response.body.length outcomes := by
  have header := sendAll_waits waits
  simp only [HttpResponse.buffers, sendBuffers, header, if_true]
  apply iff_of_true (intact_waiting (List.take_prefix _ _))
  constructor
  · intro used last rest split cuts
    have header' := sendAll_cutsShort cuts rest
    rw [← split, header, SendAllRun.mk.injEq] at header'
    exact absurd header'.2.1 (Option.some_ne_none _).symm
  · intro used rest split fills
    have header' := sendAll_fills fills rest
    rw [← split, header, SendAllRun.mk.injEq] at header'
    exact absurd header'.2.1 (Option.some_ne_none _).symm

/-- The response is intact exactly when its buffers are sent cleanly. -/
theorem intact_iff (response : HttpResponse) (outcomes : List WriteOutcome) :
    Intact response (sendBuffers response.buffers outcomes) ↔
      SendsCleanly response.header.length response.body.length outcomes := by
  rcases fills_or_cutsShort_or_waits (· = eintr) response.header.length outcomes with
    ⟨used, rest, rfl, fills⟩ | ⟨used, last, rest, rfl, cuts⟩ | waits
  · exact intact_iff_of_fills fills rest
  · exact intact_iff_of_cutsShort cuts rest
  · exact intact_iff_of_waits waits

/-- The socket takes the whole header, and with the outcomes after that the whole body. -/
def TakesAll (header body : Nat) (outcomes : List WriteOutcome) : Prop :=
  ∃ used used' rest, outcomes = used ++ (used' ++ rest) ∧
    Fills (· = eintr) header used ∧ Fills (· = eintr) body used'

theorem sendAll_whole_iff {data : List Byte} :
    (sendAll data outcomes).accepted = data ↔
      ∃ used rest, outcomes = used ++ rest ∧ Fills (· = eintr) data.length used := by
  constructor
  · intro whole
    rcases fills_or_cutsShort_or_waits (· = eintr) data.length outcomes with
      ⟨used, rest, split, fills⟩ | ⟨used, last, rest, rfl, cuts⟩ | waits
    · exact ⟨used, rest, split, fills⟩
    · rw [sendAll_cutsShort cuts rest] at whole
      exact absurd whole (take_ne_self cuts.short)
    · rw [sendAll_waits waits] at whole
      exact absurd whole (take_ne_self waits.short)
  · rintro ⟨used, rest, rfl, fills⟩
    rw [sendAll_fills fills rest]

/-- What the call for the body adds is no longer than the body. -/
theorem length_accepted_le (response : HttpResponse) (outcomes : List WriteOutcome) :
    ((sendBuffers response.buffers outcomes).flatMap SendAllCall.accepted).length ≤
      (sendAll response.header outcomes).accepted.length + response.body.length := by
  have body := (sendAll_isPrefix response.body (sendAll response.header outcomes).later).length_le
  simp only [HttpResponse.buffers, sendBuffers, List.flatMap_cons, List.length_append]
  split
  · simp
  · simpa using body

/-- The peer gets all of the response exactly when the socket takes all of it. -/
theorem whole_iff (response : HttpResponse) (outcomes : List WriteOutcome) :
    (sendBuffers response.buffers outcomes).flatMap SendAllCall.accepted = response.bytes ↔
      TakesAll response.header.length response.body.length outcomes := by
  constructor
  · intro whole
    have header : (sendAll response.header outcomes).accepted = response.header := by
      apply (sendAll_isPrefix _ _).eq_of_length_le
      have total := length_accepted_le response outcomes
      rw [whole, HttpResponse.bytes, List.length_append] at total
      omega
    obtain ⟨used, rest, rfl, fills⟩ := sendAll_whole_iff.mp header
    have body : (sendAll response.body rest).accepted = response.body := by
      simpa [HttpResponse.buffers, HttpResponse.bytes, sendBuffers, sendAll_fills fills rest]
        using whole
    obtain ⟨used', rest', rfl, fills'⟩ := sendAll_whole_iff.mp body
    exact ⟨used, used', rest', rfl, fills, fills'⟩
  · rintro ⟨used, used', rest, rfl, fills, fills'⟩
    simp [HttpResponse.buffers, HttpResponse.bytes, sendBuffers, sendAll_fills fills,
      sendAll_fills fills']

/-- What `handle_client` sends for a request comes through intact. -/
def RequestIntact (files : WebAssetFiles) (snapshot : BridgeTelemetrySnapshot)
    (received : List Byte) (outcomes : List WriteOutcome) : Prop :=
  ∃ calls, handleClientCalls files snapshot received outcomes = some calls ∧
    Intact (responseTo files snapshot received) calls

theorem handleClientCalls_eq (files : WebAssetFiles) (snapshot : BridgeTelemetrySnapshot)
    {received : List Byte} (request : received ≠ []) (outcomes : List WriteOutcome) :
    handleClientCalls files snapshot received outcomes =
      some (sendBuffers (responseTo files snapshot received).buffers outcomes) := by
  rw [handleClientCalls, handleClient_eq request, Option.map_some]

theorem requestIntact_iff (files : WebAssetFiles) (snapshot : BridgeTelemetrySnapshot)
    {received : List Byte} (request : received ≠ []) (outcomes : List WriteOutcome) :
    RequestIntact files snapshot received outcomes ↔
      SendsCleanly (responseTo files snapshot received).header.length
        (responseTo files snapshot received).body.length outcomes := by
  rw [← intact_iff, RequestIntact, handleClientCalls_eq files snapshot request outcomes]
  constructor
  · intro ⟨calls, same, intact⟩
    exact Option.some.inj same ▸ intact
  · intro intact
    exact ⟨_, rfl, intact⟩

/-- It is sent cleanly if the socket is only slow. -/
theorem sendsCleanly_of_goesOn (goesOn : GoesOn (· = eintr) outcomes) (header body : Nat) :
    SendsCleanly header body outcomes := by
  constructor
  · intro used last rest split cuts
    subst split
    exact absurd cuts.givesUp (goesOn last (List.mem_append_right used List.mem_cons_self))
  · intro used rest split _ used' last rest' split' cuts
    subst split split'
    have member : last ∈ used ++ (used' ++ last :: rest') :=
      List.mem_append_right used (List.mem_append_right used' List.mem_cons_self)
    exact absurd cuts.givesUp (goesOn last member)

theorem requestIntact_slowSocket :
    RequestIntact emptyFiles {} (cString "GET /api/status HTTP/1.1\r\n\r\n")
      [{ space := some 20, errno := 11 }, { space := none, errno := 4 },
        { space := some 1000, errno := 4 }] :=
  (requestIntact_iff emptyFiles {} (by decide) _).mpr
    (sendsCleanly_of_goesOn
      (by simp [GoesOn, WriteOutcome.GivesUp, eintr]) _ _)

/-- The socket is full when the header is sent, and then no longer. -/
theorem not_requestIntact_fullSocket :
    ¬ RequestIntact emptyFiles {} (cString "GET /favicon.ico HTTP/1.1\r\n\r\n")
      [{ space := none, errno := 11 }, { space := some 1000, errno := 11 }] := by
  intro ⟨calls, same, intact⟩
  have missing : responseTo emptyFiles {} (cString "GET /favicon.ico HTTP/1.1\r\n\r\n") =
      notFound := by
    have path : cString "GET " ++ cString "/favicon.ico" ++ [32] <+:
        cString "GET /favicon.ico HTTP/1.1\r\n\r\n" := by decide
    rw [responseTo_whole (by decide) (by decide) path, resource_of_unserved (by decide)]
  rw [handleClientCalls_eq emptyFiles {} (by decide), missing] at same
  rw [missing, ← Option.some.inj same, intact_iff] at intact
  have full : WriteOutcome.GivesUp (· = eintr) { space := none, errno := 11 } :=
    (by decide : ¬ (11 : Int) = eintr)
  have cuts := cutsShort_nil_iff.mpr ⟨notFound.length_header_pos, full⟩
  have free : GoesOn (· = eintr) [{ space := some 1000, errno := 11 }] := by
    simp [GoesOn, WriteOutcome.GivesUp]
  obtain ⟨_, _, silent⟩ := intact.cutHeader [] { space := none, errno := 11 } _ rfl cuts
  cases silent with
  | inl empty => exact absurd empty (by decide)
  | inr silent => exact absurd (silent _ [] (List.append_nil _).symm free) (by decide)

end Response

end WebApp

end EspNmeaBridge
