import CharacterLedger.Storage.Phase

/-!
# Closing the pool

Closing the pool is no visit.  It takes the tracked connections one by one, the last one first, and
waits for each to be closed before it takes the next; when there is none left it forgets the queue.
Connections that are on loan are closed all the same.
-/

namespace CharacterLedger.Storage

/-- What a step of closing the pool does, and the connection that is being closed after it.  If
there is none, closing has come to its end. -/
structure ClosingStep where
  store : Store
  notes : List Log.Note
  next : Option Nat

/-- Takes the last tracked connection to close it, or forgets the queue if there is none. -/
def closeRest (s : Store) : ClosingStep :=
  match s.pool.tracked.getLast? with
  | none =>
    ⟨s.withPool s.pool.shut, [Visit.note .info "Database connection pool closed"], none⟩
  | some c => ⟨s.withPool s.pool.untrackLast, [], some c⟩

/-- Starts to close the pool; a pool that is not open needs no more. -/
def beginClosing (s : Store) : ClosingStep :=
  if s.pool.isOpen then closeRest s else ⟨s, [], none⟩

/-- The connection that was taken is closed, and the next one is taken. -/
def closeNext (s : Store) (c : Nat) : ClosingStep := closeRest (s.close c)

end CharacterLedger.Storage
