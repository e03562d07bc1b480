import RocketSurgeon.Protocol.Messages
import RocketSurgeon.Transport.Framing

/-!
# The stream of notifications

An event passes the subscriber's filter before it is numbered and written.  One that is dropped
takes no number, so what arrives is numbered without a gap, whichever filters are set in between.
-/

namespace RocketSurgeon.Daemon

open Lib Protocol Transport List

/-- An event: what the filter reads of its parameters, and its JSON text with a `seq`. -/
structure Notification where
  method : String
  /-- `position.layer`, if that is an unsigned number. -/
  layer : Option ℕ
  component : Option String
  point : Option String
  text : ℕ → String

def methodToEventType : String → Option EventType
  | "tick.stopped" => some .tickStopped
  | "tick.heartbeat" => some .tickHeartbeat
  | "probe.fired" => some .probeFired
  | "replay.divergence" => some .replayDivergence
  | "error" => some .error
  | _ => none

def eventCoordinates (event : Notification) : Option ℕ × Option String :=
  if event.method = "tick.stopped" then (event.layer.filter (· < 2 ^ 32), event.component)
  else if event.method = "probe.fired" then
    match event.point with
    | none => (none, none)
    | some point =>
        let parts := point.toList.splitOn ':'
        (parts[2]?.bind (parseUnsigned 32), parts[3]?.map String.ofList)
  else (none, none)

def componentGlobMatches (pattern component : String) : Bool :=
  if pattern = "*" then true
  else if pattern.toList.getLast? = some '*' then
    pattern.toList.dropLast.isPrefixOf component.toList
  else pattern = component

/-- A dimension that the filter, or the event, leaves open does not constrain the event; only an
event of no known type fails every list of types. -/
def eventMatchesFilter (filter : Option SubscribeFilter) (event : Notification) : Bool :=
  filter.all fun filter =>
    let (layer, component) := eventCoordinates event
    (filter.events.all fun allowed => (methodToEventType event.method).any (· ∈ allowed)) &&
    (filter.layers.all fun allowed => layer.all (· ∈ allowed)) &&
    filter.components.all fun patterns =>
      component.all fun component => patterns.any (componentGlobMatches · component)

/-- The bytes written so far, and `notification_seq`. -/
abbrev Stream : Type := List UInt8 × ℕ

def sendNotification (stream : Stream) (event : Notification) : Stream :=
  (stream.1 ++ writeMessage (event.text stream.2), stream.2 + 1)

def sendNotificationFiltered (stream : Stream) (event : Notification)
    (filter : Option SubscribeFilter) : Stream :=
  if eventMatchesFilter filter event then sendNotification stream event else stream

/-- What the daemon has to write: answers, and events under the filter of the moment. -/
inductive Outgoing
  | response (text : String)
  | event (filter : Option SubscribeFilter) (event : Notification)

namespace Outgoing

def write (stream : Stream) : Outgoing → Stream
  | response text => (stream.1 ++ writeMessage text, stream.2)
  | event filter note => sendNotificationFiltered stream note filter

def passes : Outgoing → Bool
  | response _ => true
  | event filter note => eventMatchesFilter filter note

def isEvent : Outgoing → Bool
  | response _ => false
  | event _ _ => true

def text (seq : ℕ) : Outgoing → String
  | response text => text
  | event _ note => note.text seq

/-- What is written of a list, each with the counter of the moment. -/
def sent : ℕ → List Outgoing → List (Outgoing × ℕ)
  | _, [] => []
  | seq, item :: items =>
      if item.passes then (item, seq) :: sent (if item.isEvent then seq + 1 else seq) items
      else sent seq items

lemma write_eq (stream : Stream) (item : Outgoing) :
    item.write stream = if item.passes then (stream.1 ++ writeMessage (item.text stream.2),
      if item.isEvent then stream.2 + 1 else stream.2) else stream := by
  cases item with
  | response text => rfl
  | event filter note => rfl

lemma foldl_write (items : List Outgoing) (stream : Stream) :
    (items.foldl write stream).1 =
      stream.1 ++ (sent stream.2 items).flatMap fun entry => writeMessage (entry.1.text entry.2) := by
  induction items generalizing stream with
  | nil => exact (append_nil _).symm
  | cons item items ih =>
    rw [foldl_cons, ih, write_eq, sent]
    split_ifs <;> simp

lemma map_fst_sent (items : List Outgoing) (seq : ℕ) :
    (sent seq items).map Prod.fst = items.filter passes := by
  induction items generalizing seq with
  | nil => rfl
  | cons item items ih =>
    rw [sent]
    split_ifs with hpasses <;> simp [ih, hpasses]

lemma numbers_sent (items : List Outgoing) (seq : ℕ) :
    ((sent seq items).filter (·.1.isEvent)).map Prod.snd =
      range' seq ((items.filter passes).countP isEvent) := by
  induction items generalizing seq with
  | nil => rfl
  | cons item items ih =>
    rw [sent]
    split_ifs with hpasses hevent <;> simp [*, range'_succ]

/-- **The subscriber reads what passes its filters, in order and numbered without a gap.** -/
theorem readMessages_written (items : List Outgoing) (seq : ℕ)
    (hsize : ∀ entry ∈ sent seq items, (entry.1.text entry.2).utf8ByteSize ≤ maxMessageBytes) :
    readMessages (sent seq items).length (items.foldl write ([], seq)).1 =
        ((sent seq items).map fun entry => .ok (entry.1.text entry.2), []) ∧
      (sent seq items).map Prod.fst = items.filter passes ∧
      ((sent seq items).filter (·.1.isEvent)).map Prod.snd =
        range' seq ((items.filter passes).countP isEvent) := by
  refine ⟨?_, map_fst_sent items seq, numbers_sent items seq⟩
  have hread := @readMessages_frames ((sent seq items).map fun entry => entry.1.text entry.2)
    (forall_mem_map.mpr hsize) 0 []
  rw [foldl_write]
  simpa [flatMap_map, Function.comp_def, readMessages] using hread

/-- A heartbeat that is not asked for takes no number. -/
theorem readMessages_written_heartbeats :
    readMessages 1 ([event (some ⟨some [.probeFired], none, none⟩)
        ⟨"tick.heartbeat", none, none, none, toString⟩,
      event none ⟨"tick.heartbeat", none, none, none, toString⟩].foldl write ([], 7)).1 =
        ([.ok "7"], []) :=
  (readMessages_written [event (some ⟨some [.probeFired], none, none⟩)
        ⟨"tick.heartbeat", none, none, none, toString⟩,
      event none ⟨"tick.heartbeat", none, none, none, toString⟩] 7 (by decide +kernel)).1

end Outgoing

end RocketSurgeon.Daemon
