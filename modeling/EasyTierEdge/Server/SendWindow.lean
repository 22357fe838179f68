/- module: EasyTierEdge/Server/SendWindow
   source: cloudflare/src/runtime/connection.ts, sendConnection
   digest: How much a connection hands to its socket within any second. -/

import EasyTierEdge.Lib.FixedWindow
import EasyTierEdge.Lib.Machine
import EasyTierEdge.Server.Registries

set_option autoImplicit false
set_option relaxedAutoImplicit false

namespace EasyTierEdge.Server.SendWindow

open Lib.Fallible Lib.FixedWindow Lib.Machine
open Packet (Bytes)
open Secure.Connections (Turn)
open Sockets Relay Registries

variable {HS : Type}

/-! One call. -/

/-- The packet does not fit into the window of the connection. -/
def Exceeds (connection : Connection) (size : Nat) : Prop :=
  connection.sentBytesInWindow + size > maxSendBytesPerWindow ∨
    connection.sentFramesInWindow ≥ maxSendFramesPerWindow

/-- The connection with a packet of this size on its counters. -/
def charged (size : Nat) (connection : Connection) : Connection :=
  { connection with
    sentBytesInWindow := connection.sentBytesInWindow + size
    sentFramesInWindow := connection.sentFramesInWindow + 1 }

/-- A call that handed nothing to the socket; at most it moved the window on. -/
def Unsent (c now : Nat) (g g' : Grid HS) : Prop :=
  g'.sends = g.sends ∧ g'.objects = g.objects.modify c (Connection.window now)

/-- A call that handed the packet to the socket, whether that threw or not. -/
def HandedOver (c now : Nat) (packet : Bytes) (o : Connection) (g g' : Grid HS) : Prop :=
  g'.sends = g.sends ++ [⟨c, now, packet⟩] ∧
    g'.objects[c]? = some (charged packet.length (Connection.window now o))

/-- What the socket answers to `send`. -/
def handOver : Except String Unit → GridM HS Unit
  | .ok () => return ()
  | .error e => throw e

/-- The rest of `sendConnection`, in the window that its clock is in. -/
def offer (c : Nat) (packet : Bytes) (now : Nat) (connection : Connection) : GridM HS Unit := do
  if connection.sentBytesInWindow + packet.length > maxSendBytesPerWindow ∨
      connection.sentFramesInWindow ≥ maxSendFramesPerWindow then
    throw "WebSocket outbound relay capacity exceeded"
  else do
    let readyState ← reading Inputs.readyState
    if readyState ≠ wsOpen then throw "WebSocket is not open"
    else do
      update c (charged packet.length)
      modify fun g => { g with sends := g.sends ++ [⟨c, now, packet⟩] }
      handOver (← reading fun inputs k => inputs.socketSend k packet)

private theorem sendConnection_eq (c : Nat) (packet : Bytes) :
    (sendConnection c packet : GridM HS Unit) = (do
      let now ← reading Inputs.dateNow
      update c (Connection.window now)
      let connection ← object c
      offer c packet now connection) := rfl

/-- The state in which a packet is offered. -/
def windowed (c : Nat) (g : Grid HS) : Grid HS :=
  { g with
    tick := g.tick + 1
    objects := g.objects.modify c (Connection.window (g.inputs.dateNow g.tick)) }

section Call

variable {g : Grid HS} {c : Nat} {o : Connection} (there : g.objects[c]? = some o) (packet : Bytes)

include there

private theorem windowed_object :
    (windowed c g).objects[c]? = some (Connection.window (g.inputs.dateNow g.tick) o) := by
  have found := @Ledger.object_modified g.objects c c
    (Connection.window (g.inputs.dateNow g.tick)) o there
  rwa [if_pos rfl] at found

private theorem ensures_sendConnection {ok : Unit → Grid HS → Prop}
    {err : String → Grid HS → Prop} :
    Ensures (sendConnection c packet) g ok err ↔
      Ensures (offer c packet (g.inputs.dateNow g.tick)
        (Connection.window (g.inputs.dateNow g.tick) o)) (windowed c g) ok err := by
  rw [sendConnection_eq, ensures_bind]
  show Ensures (object c >>= _) (windowed c g) _ _ ↔ _
  rw [ensures_bind, Books.ensures_object, windowed_object there]
  constructor
  · rintro ⟨found, _⟩
    exact found _ rfl
  · intro offered
    refine ⟨fun o' same => ?_, fun missing => ?_⟩
    · cases Option.some.inj same
      exact offered
    · cases missing

private theorem sendConnection_exceeds
    (exceeds : Exceeds (Connection.window (g.inputs.dateNow g.tick) o) packet.length) :
    Ensures (sendConnection c packet) g (fun _ _ => False) (fun e g' =>
      e = "WebSocket outbound relay capacity exceeded" ∧
        Unsent c (g.inputs.dateNow g.tick) g g') := by
  rw [ensures_sendConnection there, offer, ensures_ite]
  exact ⟨fun _ => ⟨rfl, rfl, rfl⟩, fun fits => absurd exceeds fits⟩

private theorem sendConnection_shut
    (fits : ¬ Exceeds (Connection.window (g.inputs.dateNow g.tick) o) packet.length)
    (shut : g.inputs.readyState (g.tick + 1) ≠ wsOpen) :
    Ensures (sendConnection c packet) g (fun _ _ => False) (fun e g' =>
      e = "WebSocket is not open" ∧ Unsent c (g.inputs.dateNow g.tick) g g') := by
  rw [ensures_sendConnection there, offer, ensures_ite]
  refine ⟨fun exceeds => absurd exceeds fits, fun _ => ?_⟩
  rw [ensures_bind]
  show Ensures (if g.inputs.readyState (g.tick + 1) ≠ wsOpen then _ else _) _ _ _
  rw [if_pos shut]
  exact ⟨rfl, rfl, rfl⟩

private theorem sendConnection_hands
    (fits : ¬ Exceeds (Connection.window (g.inputs.dateNow g.tick) o) packet.length)
    (ready : g.inputs.readyState (g.tick + 1) = wsOpen) :
    Ensures (sendConnection c packet) g
      (fun _ g' => HandedOver c (g.inputs.dateNow g.tick) packet o g g')
      (fun _ g' => HandedOver c (g.inputs.dateNow g.tick) packet o g g') := by
  have counted := @Ledger.object_modified _ c c (charged packet.length) _ (windowed_object there)
  rw [if_pos rfl] at counted
  rw [ensures_sendConnection there, offer, ensures_ite]
  refine ⟨fun exceeds => absurd exceeds fits, fun _ => ?_⟩
  rw [ensures_bind]
  show Ensures (if g.inputs.readyState (g.tick + 1) ≠ wsOpen then _ else _) _ _ _
  rw [if_neg (not_not.mpr ready), ensures_bind, update, ensures_modify, ensures_bind,
    ensures_modify, ensures_bind]
  show Ensures (handOver (g.inputs.socketSend (g.tick + 2) packet)) _ _ _
  cases g.inputs.socketSend (g.tick + 2) packet with
  | ok _ => exact ⟨rfl, counted⟩
  | error e => exact ⟨rfl, counted⟩

end Call

/-! A sequence of calls. -/

/-- What one connection handed to its socket. -/
def sentBy (c : Nat) (g : Grid HS) : List Sent := g.sends.filter fun s => s.connection = c

/-- What it handed over in the second that starts at `t`. -/
def sentWithin (c : Nat) (g : Grid HS) (t : Nat) : List Sent :=
  (sentBy c g).filter fun s => t ≤ s.time ∧ s.time < t + sendWindowMs

def countersOf (connection : Connection) : Nat × Nat × Nat :=
  (connection.sendWindowStartedAt, connection.sentBytesInWindow, connection.sentFramesInWindow)

/-- Whatever happens between two calls on a connection leaves its counters alone. -/
structure Untouched (c : Nat) (g g' : Grid HS) : Prop where
  counters : (g'.objects[c]?).map countersOf = (g.objects[c]?).map countersOf
  sends : sentBy c g' = sentBy c g

/-- From `g` to `g'` the connection was called at these times, with anything in between. -/
inductive Sending (c : Nat) (g : Grid HS) : List Nat → Grid HS → Prop
  | start : Sending c g [] g
  | call {times : List Nat} {g₁ g₂ : Grid HS} (earlier : Sending c g times g₁)
      (between : Untouched c g₁ g₂) (packet : Bytes) :
      Sending c g (times ++ [g₂.inputs.dateNow g₂.tick]) (final (sendConnection c packet g₂))

/-- The packets of a connection as entries of a given weight. -/
def entries (weight : Sent → Nat) (c : Nat) (g : Grid HS) : List Entry :=
  (sentBy c g).map fun s => ⟨s.time, weight s⟩

def bytes (s : Sent) : Nat := s.packet.length

def frames (_ : Sent) : Nat := 1

private theorem spent_entries (weight : Sent → Nat) (c : Nat) (g : Grid HS) (t : Nat) :
    spent (entries weight c g) t (t + sendWindowMs) = ((sentWithin c g t).map weight).sum := by
  unfold spent entries sentWithin
  rw [List.filter_map, List.map_map]
  rfl

/-- Both counters keep the bound, in a window that opened at one of these times. -/
structure Limited (c : Nat) (times : List Nat) (opened : Nat) (o : Connection) (g : Grid HS) :
    Prop where
  opening : opened = 0 ∨ opened ∈ times
  bytes : Bounded sendWindowMs maxSendBytesPerWindow opened o.sendWindowStartedAt
    o.sentBytesInWindow (entries bytes c g)
  frames : Bounded sendWindowMs maxSendFramesPerWindow opened o.sendWindowStartedAt
    o.sentFramesInWindow (entries frames c g)

/-- The connection is there, and it keeps the bound. -/
def Limits (c : Nat) (times : List Nat) (g : Grid HS) : Prop :=
  ∃ opened o, g.objects[c]? = some o ∧ Limited c times opened o g

namespace Limited

variable {c opened now : Nat} {times : List Nat} {o o' : Connection} {g g' : Grid HS}

private theorem unused (nothing : sentBy c g = []) : Limited c [] 0 o g := by
  have noEntries (weight : Sent → Nat) : entries weight c g = [] := by
    unfold entries
    rw [nothing]
    rfl
  refine ⟨Or.inl rfl, ?_, ?_⟩
  · rw [noEntries]
    exact Bounded.new _ _ _ _
  · rw [noEntries]
    exact Bounded.new _ _ _ _

private theorem transfer (lim : Limited c times opened o g)
    (counters : countersOf o' = countersOf o)
    (sends : sentBy c g' = sentBy c g) : Limited c times opened o' g' := by
  unfold countersOf at counters
  obtain ⟨started, counts⟩ := Prod.mk.inj counters
  obtain ⟨bytesCount, framesCount⟩ := Prod.mk.inj counts
  have sameEntries (weight : Sent → Nat) : entries weight c g' = entries weight c g := by
    unfold entries
    rw [sends]
  refine ⟨lim.opening, ?_, ?_⟩
  · rw [started, bytesCount, sameEntries]
    exact lim.bytes
  · rw [started, framesCount, sameEntries]
    exact lim.frames

private theorem window (lim : Limited c times opened o g) (after : opened ≤ now) :
    ∃ opened', opened' ≤ now ∧ now < (Connection.window now o).sendWindowStartedAt + sendWindowMs ∧
      Limited c (times ++ [now]) opened' (Connection.window now o) g := by
  have started := lim.bytes.begun
  unfold Connection.window
  by_cases exceeds : now - o.sendWindowStartedAt ≥ sendWindowMs
  · have elapsed : o.sendWindowStartedAt + sendWindowMs ≤ now := by
      unfold sendWindowMs at exceeds ⊢
      omega
    rw [if_pos exceeds]
    refine ⟨now, Nat.le_refl now, ?_, ?_⟩
    · show now < now + sendWindowMs
      unfold sendWindowMs
      omega
    · exact ⟨Or.inr (List.mem_append_right _ List.mem_cons_self), lim.bytes.restart elapsed,
        lim.frames.restart elapsed⟩
  · rw [if_neg exceeds]
    refine ⟨opened, after, by omega, ?_, lim.bytes, lim.frames⟩
    exact lim.opening.imp id fun member => List.mem_append_left _ member

private theorem handed {packet : Bytes} (lim : Limited c times opened o g) (after : opened ≤ now)
    (before : now < o.sendWindowStartedAt + sendWindowMs) (fits : ¬ Exceeds o packet.length)
    (sends : g'.sends = g.sends ++ [⟨c, now, packet⟩]) :
    Limited c times opened (charged packet.length o) g' := by
  have mine : sentBy c g' = sentBy c g ++ [⟨c, now, packet⟩] := by
    unfold sentBy
    rw [sends, List.filter_append]
    congr 1
    simp
  have oneMore (weight : Sent → Nat) :
      entries weight c g' = entries weight c g ++ [⟨now, weight ⟨c, now, packet⟩⟩] := by
    unfold entries
    rw [mine, List.map_append]
    rfl
  obtain ⟨bytesFit, framesFit⟩ := not_or.mp fits
  refine ⟨lim.opening, ?_, ?_⟩
  · rw [oneMore]
    exact lim.bytes.record after before (Nat.not_lt.mp bytesFit)
  · rw [oneMore]
    exact lim.frames.record after before (Nat.not_le.mp framesFit)

private theorem called (lim : Limited c times opened o g) (there : g.objects[c]? = some o)
    (clock : ∀ t ∈ times, t ≤ g.inputs.dateNow g.tick) (packet : Bytes) :
    Limits c (times ++ [g.inputs.dateNow g.tick]) (final (sendConnection c packet g)) := by
  have after : opened ≤ g.inputs.dateNow g.tick := by
    rcases lim.opening with zero | member
    · rw [zero]
      exact Nat.zero_le _
    · exact clock opened member
  obtain ⟨opened', after', before, lim'⟩ := lim.window after
  have idle (e : String) (g' : Grid HS) (unsent : Unsent c (g.inputs.dateNow g.tick) g g') :
      Limits c (times ++ [g.inputs.dateNow g.tick]) g' := by
    refine ⟨opened', Connection.window (g.inputs.dateNow g.tick) o, ?_, ?_⟩
    · rw [unsent.2]
      exact windowed_object there
    · refine lim'.transfer rfl ?_
      unfold sentBy
      rw [unsent.1]
  have everyEnd : Ensures (sendConnection c packet) g
      (fun _ g' => Limits c (times ++ [g.inputs.dateNow g.tick]) g')
      (fun _ g' => Limits c (times ++ [g.inputs.dateNow g.tick]) g') := by
    by_cases exceeds : Exceeds (Connection.window (g.inputs.dateNow g.tick) o) packet.length
    · exact (sendConnection_exceeds there packet exceeds).mono
        (fun _ _ impossible => impossible.elim) fun e g' refused => idle e g' refused.2
    · by_cases ready : g.inputs.readyState (g.tick + 1) = wsOpen
      · have handing (g' : Grid HS)
            (handed : HandedOver c (g.inputs.dateNow g.tick) packet o g g') :
            Limits c (times ++ [g.inputs.dateNow g.tick]) g' :=
          ⟨opened', _, handed.2, lim'.handed after' before exceeds handed.1⟩
        exact (sendConnection_hands there packet exceeds ready).mono
          (fun _ g' handed => handing g' handed) fun _ g' handed => handing g' handed
      · exact (sendConnection_shut there packet exceeds ready).mono
          (fun _ _ impossible => impossible.elim) fun e g' refused => idle e g' refused.2
  exact ensures_final everyEnd

end Limited

/-- The bound holds after every sequence of calls with a clock that does not go back. -/
private theorem Sending.limited {c : Nat} {times : List Nat} {g g' : Grid HS} {o : Connection}
    (sending : Sending c g times g') (there : g.objects[c]? = some o) (nothing : sentBy c g = [])
    (clock : times.Pairwise (· ≤ ·)) :
    Limits c times g' := by
  induction sending with
  | start => exact ⟨0, o, there, Limited.unused nothing⟩
  | @call times g₁ g₂ earlier between packet ih =>
    obtain ⟨earlierClock, _, late⟩ := List.pairwise_append.mp clock
    obtain ⟨opened, o₁, there₁, lim⟩ := ih earlierClock
    have counted := between.counters
    rw [there₁] at counted
    obtain ⟨o₂, there₂, counters⟩ := Option.map_eq_some_iff.mp counted
    have lim₂ := lim.transfer counters between.sends
    exact lim₂.called there₂ (fun t member => late t member _ List.mem_cons_self) packet

/-- No second, wherever it starts, sees more than two windows' worth of a connection. -/
def OutboundBounded (c : Nat) (g : Grid HS) : Prop :=
  ∀ t, ((sentWithin c g t).map fun s => s.packet.length).sum ≤ 2 * maxSendBytesPerWindow ∧
    (sentWithin c g t).length ≤ 2 * maxSendFramesPerWindow

private theorem outbound_of_limited {c opened : Nat} {times : List Nat} {o : Connection}
    {g : Grid HS} (lim : Limited c times opened o g) : OutboundBounded c g := by
  intro t
  have bytesBound := lim.bytes.bounded t
  have framesBound := lim.frames.bounded t
  rw [spent_entries] at bytesBound framesBound
  have lengths : ((sentWithin c g t).map frames).sum = (sentWithin c g t).length := by
    unfold frames
    rw [List.map_const', List.sum_replicate]
    exact Nat.mul_one _
  rw [lengths] at framesBound
  exact ⟨bytesBound, framesBound⟩

/-- The call throws this, and neither sends nor counts anything: at most it left an old window. -/
def Refuses (c : Nat) (packet : Bytes) (g : Grid HS) (text : String) : Prop :=
  value (sendConnection c packet g) = .error text ∧
    Unsent c (g.inputs.dateNow g.tick) g (final (sendConnection c packet g))

private theorem refuses_of_ensures {c : Nat} {packet : Bytes} {g : Grid HS} {text : String}
    (refused : Ensures (sendConnection c packet) g (fun _ _ => False) fun e g' =>
      e = text ∧ Unsent c (g.inputs.dateNow g.tick) g g') : Refuses c packet g text := by
  unfold Refuses
  cases ran : sendConnection c packet g with
  | ok _ g' => exact (ensures_of_ok refused ran).elim
  | error e g' =>
    obtain ⟨thrown, unsent⟩ := ensures_of_error refused ran
    rw [thrown]
    exact ⟨rfl, unsent⟩

/-- Every sequence of calls on a connection that sent nothing before, under a clock that does not
go back, keeps every second within two windows' worth; a call over the limits or on a socket that
is not open throws and counts nothing. -/
theorem outbound_rate {c : Nat} {times : List Nat} {g g' : Grid HS} {o : Connection}
    (there : g.objects[c]? = some o) (nothing : sentBy c g = [])
    (sending : Sending c g times g') (clock : times.Pairwise (· ≤ ·)) :
    OutboundBounded c g' ∧ ∃ o', g'.objects[c]? = some o' ∧ ∀ packet : Bytes,
      (Exceeds (Connection.window (g'.inputs.dateNow g'.tick) o') packet.length →
        Refuses c packet g' "WebSocket outbound relay capacity exceeded") ∧
      (¬ Exceeds (Connection.window (g'.inputs.dateNow g'.tick) o') packet.length →
        g'.inputs.readyState (g'.tick + 1) ≠ wsOpen →
        Refuses c packet g' "WebSocket is not open") := by
  obtain ⟨opened, o', there', lim⟩ := sending.limited there nothing clock
  refine ⟨outbound_of_limited lim, o', there', fun packet =>
    ⟨fun exceeds => ?_, fun fits shut => ?_⟩⟩
  · exact refuses_of_ensures (sendConnection_exceeds there' packet exceeds)
  · exact refuses_of_ensures (sendConnection_shut there' packet fits shut)

/-- A connection that just opened. -/
def opening : Grid Turn :=
  (plainRun [⟨.fetch "/" (some "websocket"), plainInputs⟩]).host.ambient

/-- It is this time. -/
def clocked (time : Nat) (g : Grid Turn) : Grid Turn :=
  { g with inputs := { g.inputs with dateNow := fun _ => time } }

/-- The state after one more packet on the first connection, sent at `time`. -/
def sentAt (time : Nat) (packet : Bytes) (g : Grid Turn) : Grid Turn :=
  final (sendConnection 0 packet (clocked time g))

/-- Two packets at the end of the first window, and one that opens the next window. -/
def crossing : Grid Turn := sentAt 2_100 [5, 6] (sentAt 1_990 [4] (sentAt 1_900 [1, 2, 3] opening))

/-- One second meets both windows. -/
theorem outbound_rate_crossing :
    OutboundBounded 0 crossing ∧ (sentWithin 0 crossing 1_900).length = 3 ∧
      (crossing.objects[0]?).map countersOf = some (2_100, 2, 1) := by
  have untouched (time : Nat) (g : Grid Turn) : Untouched 0 g (clocked time g) := ⟨rfl, rfl⟩
  have first := (@Sending.start Turn 0 opening).call (untouched 1_900 _) [1, 2, 3]
  have second := first.call (untouched 1_990 _) [4]
  have third := second.call (untouched 2_100 _) [5, 6]
  obtain ⟨o, there⟩ : ∃ o, opening.objects[0]? = some o :=
    Option.isSome_iff_exists.mp (by decide +kernel)
  have nothing : sentBy 0 opening = [] := List.length_eq_zero_iff.mp (by decide +kernel)
  have clock : [1_900, 1_990, 2_100].Pairwise (· ≤ ·) := by decide
  exact ⟨(outbound_rate there nothing third clock).1, by decide +kernel, by decide +kernel⟩

end EasyTierEdge.Server.SendWindow
