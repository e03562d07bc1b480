import Mathlib

/-!
# The log of the protocol

The daemon records every message it reads and writes, and keeps the last ones.
-/

namespace RocketSurgeon.Daemon

open List

/-- An entry of type `E` is a message with its direction and time. -/
structure TraceLog (E : Type) where
  entries : List E
  maxEntries : ℕ
  totalRecorded : ℕ

namespace TraceLog

variable {E : Type}

def defaultMaxEntries : ℕ := 10000

def new : TraceLog E := ⟨[], defaultMaxEntries, 0⟩

def record (log : TraceLog E) (entry : E) : TraceLog E where
  entries := (if log.maxEntries ≤ log.entries.length then log.entries.tail else log.entries) ++ [entry]
  maxEntries := log.maxEntries
  totalRecorded := log.totalRecorded + 1

/-- **The log holds the last entries, in order, and counts all of them.** -/
theorem foldl_record (history : List E) :
    history.foldl record new =
      ⟨history.drop (history.length - defaultMaxEntries), defaultMaxEntries, history.length⟩ := by
  have hroom : 0 < defaultMaxEntries := Nat.zero_lt_succ _
  induction history using List.reverseRecOn with
  | nil => simp [new]
  | append_singleton history entry ih =>
    rw [foldl_append, ih, foldl_cons, foldl_nil, record, length_append, length_singleton,
      length_drop, tail_drop, drop_append_of_le_length (by omega)]
    dsimp only
    split_ifs with hfull
    · rw [show history.length + 1 - defaultMaxEntries =
        history.length - defaultMaxEntries + 1 by omega]
    · rw [show history.length + 1 - defaultMaxEntries =
        history.length - defaultMaxEntries by omega]

end TraceLog

end RocketSurgeon.Daemon
