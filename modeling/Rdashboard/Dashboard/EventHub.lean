import Rdashboard.Workflow.Identifiers

/-! # The event hub of the dashboard

`publish` numbers an event, stores it and hands it to a broadcast channel, which keeps the last
events for every receiver.  A subscription takes a receiver, reads the stored history once and then
follows the channel, with the number of the last event it has seen as its cursor.  One publish runs
at a time, but connections take their steps between its two halves. -/

namespace Rdashboard

inductive ResyncReason where
  | historyUnavailable | subscriberLagged | invalidLastEventId

inductive DashboardEvent (S : Type) where
  | snapshot (payload : S)
  | resyncRequired (requestedAfter : Option Nat) (oldestAvailable latestAvailable : Nat)
      (reason : ResyncReason)

structure EventEnvelope (S : Type) where
  sequence : Nat
  emittedAtMs : Int
  event : DashboardEvent S

inductive HubError where
  | sequenceRange | clock | emptyHistoryWindow

def eventHistoryLimit : Nat := 512
def sseBroadcastCapacity : Nat := 512
def sseHistoryLimit : Nat := 512

variable {ι S : Type}

/-! ### The store -/

/-- The counter `event_sequence` and the table `dashboard_events`, in the order of its key. -/
structure ControlStore (S : Type) where
  eventSequence : Nat := 0
  rows : List (EventEnvelope S) := []

structure EventHistoryWindow (S : Type) where
  bounds : Option (Nat × Nat)
  eventsAfter : List (EventEnvelope S)
  latestEvent : Option (EventEnvelope S)

namespace ControlStore

/-- Append an event and drop those beyond the history limit. -/
def appendEvent (store : ControlStore S) (emittedAtMs : Int) (event : DashboardEvent S) :
    Except HubError (EventEnvelope S × ControlStore S) :=
  -- the counter is read as an `i64`, so that the `u64` sum cannot overflow
  let sequence := store.eventSequence + 1
  if i64Max < sequence then .error .sequenceRange
  else
    let envelope := ⟨sequence, emittedAtMs, event⟩
    .ok (envelope, ⟨sequence, (store.rows ++ [envelope]).filter
      fun e => sequence < e.sequence + eventHistoryLimit⟩)

def eventHistoryWindow (store : ControlStore S) (after : Option Nat) (limit : Nat) :
    Except HubError (EventHistoryWindow S) :=
  if after.any fun a : Nat => i64Max < (a : Int) then .error .sequenceRange
  else .ok {
    bounds := store.rows.head?.bind fun oldest => store.rows.getLast?.map fun latest =>
      (oldest.sequence, latest.sequence)
    eventsAfter := match after with
      | none => []
      | some after => (store.rows.filter fun e => after < e.sequence).take limit
    latestEvent := store.rows.getLast? }

end ControlStore

/-! ### A subscription -/

inductive RequestedAfter where
  | absent | invalid | sequence (n : Nat)

structure InitialEvents (S : Type) where
  events : List (EventEnvelope S)
  emptyHistoryResync : Option (Option Nat × ResyncReason)

def resyncFromWindow (window : EventHistoryWindow S) (requestedAfter : Option Nat)
    (reason : ResyncReason) (clock : Option Int) : Except HubError (List (EventEnvelope S)) :=
  match window.bounds, clock with
  | none, _ => .error .emptyHistoryWindow
  | some _, none => .error .clock
  | some (oldest, latest), some now =>
    .ok (⟨latest, now, .resyncRequired requestedAfter oldest latest reason⟩ ::
      window.latestEvent.toList)

def resyncEvents (store : ControlStore S) (requestedAfter : Option Nat) (reason : ResyncReason)
    (clock : Option Int) : Except HubError (List (EventEnvelope S)) := do
  let window ← store.eventHistoryWindow none sseHistoryLimit
  if window.bounds.isNone then return []
  resyncFromWindow window requestedAfter reason clock

def RequestedAfter.number : RequestedAfter → Option Nat
  | .absent | .invalid => none
  | .sequence n => some n

/-- What a new connection is sent first: the gap, or a resync. -/
def initialEvents (store : ControlStore S) (requested : RequestedAfter) (clock : Option Int) :
    Except HubError (InitialEvents S) := do
  let window ← store.eventHistoryWindow requested.number sseHistoryLimit
  match window.bounds with
  | none =>
    return ⟨[], match requested with
      | .absent | .sequence 0 => none
      | .invalid => some (none, .invalidLastEventId)
      | .sequence n => some (some n, .historyUnavailable)⟩
  | some (oldest, latest) =>
    let events ← (match requested with
      | .absent => .ok window.latestEvent.toList
      | .invalid => resyncFromWindow window none .invalidLastEventId clock
      | .sequence after =>
        -- no sum of the source saturates here: the window refuses what is above `i64::MAX`
        if latest < after ∨ after + 1 < oldest then
          resyncFromWindow window (some after) .historyUnavailable clock
        else if (after = latest ∨ window.eventsAfter.head?.any (·.sequence = after + 1)) ∧
            (after = latest ∨ window.eventsAfter.getLast?.any (·.sequence = latest)) ∧
            window.eventsAfter.IsChain (fun e e' => e'.sequence = e.sequence + 1) then
          .ok window.eventsAfter
        else resyncFromWindow window (some after) .historyUnavailable clock)
    return ⟨events, none⟩

/-- The stream after its history was read.  `delivered` records what the client was sent, and `after`
the number above which it expects every event. -/
structure EventStream (S : Type) where
  cursor : Option Nat
  delivered : List (EventEnvelope S) := []
  after : Nat

/-- A subscription: what it asked for, how far its receiver of the broadcast channel has come, and
its stream once the history was read. -/
structure Connection (S : Type) where
  requested : RequestedAfter
  received : Nat
  stream : Option (EventStream S) := none

/-- The number a client expects the events above of: its `Last-Event-ID`, the latest number when it
sent none, and every event when it sent one that is no number. -/
def RequestedAfter.threshold (latest : Nat) : RequestedAfter → Nat
  | .absent => latest
  | .invalid => 0
  | .sequence n => n

namespace EventStream

/-- The batch of a resync, with the cursor at its greatest number. -/
def resume (s : EventStream S) (events : List (EventEnvelope S)) : EventStream S :=
  { s with
    cursor := (events.map (·.sequence)).max?
    delivered := s.delivered ++ events }

/-- The head of the stream, up to its loop. -/
def start (store : ControlStore S) (requested : RequestedAfter) (clock : Option Int) :
    Except HubError (EventStream S) := do
  let initial ← initialEvents store requested clock
  let s : EventStream S := { cursor := none, after := requested.threshold store.eventSequence }
  match initial.emptyHistoryResync, clock with
  | none, _ => return s.resume initial.events
  | some _, none => throw .clock
  | some (requestedAfter, reason), some now =>
    let reset := ⟨0, now, .resyncRequired requestedAfter 0 0 reason⟩
    return { s with cursor := some 0, delivered := reset :: initial.events }

/-- One turn of the loop, over what the channel was handed.  A receiver that has not taken an event
the channel no longer keeps is told so, and goes on with the oldest one kept. -/
def turn (store : ControlStore S) (sent : List (EventEnvelope S)) (clock : Option Int)
    (received : Nat) (s : EventStream S) : Except HubError (Nat × EventStream S) :=
  if received + sseBroadcastCapacity < sent.length then do
    let events ← resyncEvents store s.cursor .subscriberLagged clock
    return (sent.length - sseBroadcastCapacity, s.resume events)
  else match sent[received]? with
    | none => return (received, s)
    | some e =>
      if s.cursor.any (e.sequence ≤ ·) then return (received + 1, s)
      else if s.cursor.any (· + 1 < e.sequence) then do
        let events ← resyncEvents store s.cursor .historyUnavailable clock
        return (received + 1, s.resume events)
      else return (received + 1, { s with
        cursor := some e.sequence
        delivered := s.delivered ++ [e] })

end EventStream

/-- What a connection does next: its read of the history, then the turns of its loop. -/
def Connection.proceed (store : ControlStore S) (sent : List (EventEnvelope S))
    (clock : Option Int) (c : Connection S) : Except HubError (Connection S) := do
  match c.stream with
  | none => return { c with stream := some (← EventStream.start store c.requested clock) }
  | some s =>
    let (received, s) ← s.turn store sent clock c.received
    return { c with received, stream := some s }

/-! ### The hub -/

/-- The hub and its connections.  `sent` records what the channel was handed, and `publishing` is
the event of a publish between its two halves. -/
structure EventHub (ι S : Type) where
  store : ControlStore S := {}
  sent : List (EventEnvelope S) := []
  publishing : Option (EventEnvelope S) := none
  connections : ι → Option (Connection S) := fun _ => none

inductive HubAction (ι S : Type) where
  | append (emittedAtMs : Int) (event : DashboardEvent S)
  | send
  | subscribe (i : ι) (requested : RequestedAfter)
  | proceed (i : ι) (clock : Option Int)
  /-- The client leaves, or the encoding of an event fails. -/
  | close (i : ι)
  /-- The process stops, wherever its publish is, and starts again over its store. -/
  | restart

namespace EventHub

def published (hub : EventHub ι S) : List (EventEnvelope S) := hub.sent ++ hub.publishing.toList

variable [DecidableEq ι]

def connect (hub : EventHub ι S) (i : ι) (c : Option (Connection S)) : EventHub ι S :=
  { hub with connections := fun j => if j = i then c else hub.connections j }

def step : HubAction ι S → EventHub ι S → EventHub ι S
  | .append emittedAtMs event, hub =>
    match hub.publishing, hub.store.appendEvent emittedAtMs event with
    | none, .ok (envelope, store) => { hub with store, publishing := some envelope }
    | _, _ => hub
  | .send, hub => { hub with sent := hub.published, publishing := none }
  | .subscribe i requested, hub =>
    hub.connect i (some { requested, received := hub.sent.length })
  | .proceed i clock, hub =>
    hub.connect i ((hub.connections i).bind fun c =>
      (c.proceed hub.store hub.sent clock).toOption)
  | .close i, hub => hub.connect i none
  | .restart, hub =>
    { hub with sent := hub.published, publishing := none, connections := fun _ => none }

end EventHub

end Rdashboard
