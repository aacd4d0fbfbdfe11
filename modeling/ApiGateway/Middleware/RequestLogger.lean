import ApiGateway.Channel
import ApiGateway.Transition

/-!
The request logger of `internal/middleware/requestlogger.go`.
`RequestLogger` builds one entry per request once the handlers have run and
offers it to a channel of `bufferSize` entries (1000 as the server starts
it), skipping the entry when the channel is full. One worker goroutine takes
entries from the channel into a batch, inserts the batch when it holds 100
entries, and inserts whatever it holds each time its five-second ticker
fires. An insert is one `Create` of all the batch's rows, which stores all
of them or none, and the batch is dropped either way.

The senders' channel operations and each case of the worker's `select` are
atomic, so a run is a sequence of events: an entry offered, the worker
receiving one, or the ticker firing. The worker is generic in what it
carries. Its state also keeps, as ghost data that no code reads, the entries
queued, those skipped and those handed to an insert, each in order.
-/

namespace ApiGateway.Middleware

structure RequestLog where
  timestamp : Int
  apiKeyID : Option String
  method : String
  path : String
  statusCode : Int
  responseTimeMs : Int
  ipAddress : String
  userAgent : String
  backendServer : String
  deriving DecidableEq, Repr

/-- What `RequestLogger` reads of a request once `c.Next()` has returned:
`apiKeyID` is the `api_key_id` the validator stored, and `header` gives the
request's headers. -/
structure RequestInfo where
  method : String
  path : String
  statusCode : Int
  clientIP : String
  userAgent : String
  apiKeyID : Option String
  header : String → String

/-- The entry for a request that started at `start` and returned at
`doneAt`. `c.GetHeader` reads the request's headers, so the backend server
logged is the `X-Backend-Server` the client sent, not the one the proxy sets
on the response. -/
def logEntry (req : RequestInfo) (start doneAt : Int) : RequestLog where
  timestamp := start
  apiKeyID := req.apiKeyID
  method := req.method
  path := req.path
  statusCode := req.statusCode
  responseTimeMs := (doneAt - start).tdiv 1000000
  ipAddress := req.clientIP
  userAgent := req.userAgent
  backendServer := req.header "X-Backend-Server"

namespace RequestLogger

/-- The size at which the worker inserts its batch. -/
def batchSize : Nat := 100

variable {α : Type*}

structure State (α : Type*) where
  channel : Channel.Chan α
  batch : List α
  stored : List α
  accepted : List α
  skipped : List α
  flushed : List α

/-- `InitRequestLogger`: an empty channel and batch, and no rows. -/
def init (bufferSize : Nat) : State α := ⟨Channel.make bufferSize, [], [], [], [], []⟩

/-- `insertOK` is whether the `Create` an insert makes succeeds. -/
inductive Event (α : Type*) where
  | log (entry : α)
  | receive (insertOK : Bool)
  | tick (insertOK : Bool)

/-- `insertBatch` of the batch, then a new empty batch. `insertBatch` returns
at once on an empty batch, which neither caller passes it. -/
def flush (s : State α) (insertOK : Bool) : State α :=
  { s with
    stored := if insertOK then s.stored ++ s.batch else s.stored
    flushed := s.flushed ++ s.batch
    batch := [] }

def step (s : State α) : Event α → State α
  | .log entry =>
      match s.channel.trySend entry with
      | (true, channel) => { s with channel := channel, accepted := s.accepted ++ [entry] }
      | (false, _) => { s with skipped := s.skipped ++ [entry] }
  | .receive insertOK =>
      match s.channel.recv? with
      | none => s
      | some (entry, channel) =>
          let s := { s with channel := channel, batch := s.batch ++ [entry] }
          if batchSize ≤ s.batch.length then flush s insertOK else s
  | .tick insertOK => if 0 < s.batch.length then flush s insertOK else s

/-- The entries the events offer, in order. -/
def offered : List (Event α) → List α
  | [] => []
  | .log entry :: events => entry :: offered events
  | _ :: events => offered events

/-- Every queued entry has gone to an insert, or waits in the batch or the
channel, in the order queued; the rows stored are among the entries
inserted, in order; and the batch is below its size between steps. -/
structure Accounted (s : State α) : Prop where
  conservation : s.flushed ++ s.batch ++ s.channel.buffer = s.accepted
  stored : s.stored.Sublist s.flushed
  batch_lt : s.batch.length < batchSize

section Steps

variable {s : State α}

@[simp] theorem flush_accepted (s : State α) (insertOK : Bool) :
    (flush s insertOK).accepted = s.accepted := rfl

theorem Accounted.flush {s : State α} (h : s.flushed ++ s.batch ++ s.channel.buffer = s.accepted)
    (hstored : s.stored.Sublist s.flushed) (insertOK : Bool) : Accounted (flush s insertOK) := by
  refine ⟨by simpa [RequestLogger.flush] using h, ?_, by simp [RequestLogger.flush, batchSize]⟩
  cases insertOK
  · exact hstored.trans (List.sublist_append_left _ _)
  · exact hstored.append_right _

/-- A skipped entry is one offered to a full channel, and a queued one is
appended to it. -/
theorem step_log_of_full (h : s.channel.buffer.length = s.channel.capacity) (entry : α) :
    step s (.log entry) = { s with skipped := s.skipped ++ [entry] } := by
  simp [step, Channel.Chan.trySend_of_full h]

theorem step_log_of_lt (h : s.channel.buffer.length < s.channel.capacity) (entry : α) :
    (step s (.log entry)).channel.buffer = s.channel.buffer ++ [entry] ∧
      (step s (.log entry)).accepted = s.accepted ++ [entry] ∧
      (step s (.log entry)).skipped = s.skipped := by
  obtain ⟨hsent, hbuffer⟩ := Channel.Chan.trySend_of_lt h entry
  simp only [step]
  split
  · rename_i channel hsend
    rw [hsend] at hbuffer
    exact ⟨hbuffer, rfl, rfl⟩
  · rename_i rest hsend
    rw [hsend] at hsent
    cases hsent

theorem Accounted.log (h : Accounted s) (entry : α) : Accounted (step s (.log entry)) := by
  by_cases hfull : s.channel.buffer.length = s.channel.capacity
  · rw [step_log_of_full hfull]
    exact ⟨h.conservation, h.stored, h.batch_lt⟩
  · have hlt : s.channel.buffer.length < s.channel.capacity := by
      have := s.channel.bounded
      omega
    obtain ⟨hbuffer, haccepted, -⟩ := step_log_of_lt hlt entry
    have hflushed : (step s (.log entry)).flushed = s.flushed := by
      simp only [step]
      split <;> rfl
    have hbatch : (step s (.log entry)).batch = s.batch := by
      simp only [step]
      split <;> rfl
    have hstored : (step s (.log entry)).stored = s.stored := by
      simp only [step]
      split <;> rfl
    refine ⟨?_, by rw [hstored, hflushed]; exact h.stored, by rw [hbatch]; exact h.batch_lt⟩
    rw [hbuffer, haccepted, hflushed, hbatch, ← h.conservation]
    simp

/-- A receive moves the oldest queued entry to the end of the batch. -/
theorem Accounted.receive (h : Accounted s) (insertOK : Bool) :
    Accounted (step s (.receive insertOK)) := by
  cases hrecv : s.channel.recv? with
  | none => simpa [step, hrecv] using h
  | some next =>
      obtain ⟨entry, channel⟩ := next
      have hbuffer := Channel.Chan.recv?_eq_some hrecv
      have hmoved : s.flushed ++ (s.batch ++ [entry]) ++ channel.buffer = s.accepted := by
        rw [← h.conservation, hbuffer]
        simp
      simp only [step, hrecv]
      split
      · exact @Accounted.flush α { s with channel := channel, batch := s.batch ++ [entry] } hmoved
          h.stored insertOK
      · rename_i hbelow
        exact ⟨hmoved, h.stored, by simpa using hbelow⟩

theorem Accounted.tick (h : Accounted s) (insertOK : Bool) :
    Accounted (step s (.tick insertOK)) := by
  simp only [step]
  split
  · exact Accounted.flush h.conservation h.stored insertOK
  · exact h

theorem Accounted.step (h : Accounted s) : ∀ e : Event α, Accounted (step s e)
  | .log entry => h.log entry
  | .receive insertOK => h.receive insertOK
  | .tick insertOK => h.tick insertOK

theorem accounted_init (bufferSize : Nat) : Accounted (init bufferSize : State α) :=
  ⟨rfl, List.Sublist.slnil, by simp [init, batchSize]⟩

/-- Each offered entry is queued or skipped. -/
theorem step_offered (s : State α) (e : Event α) :
    ((step s e).accepted ++ (step s e).skipped).Perm (s.accepted ++ s.skipped ++ offered [e]) := by
  cases e with
  | log entry =>
      simp only [step, offered]
      split
      · simp only [List.append_assoc, List.singleton_append]
        exact (List.perm_append_singleton entry s.skipped).symm.append_left s.accepted
      · simp
  | receive insertOK =>
      simp only [step, offered, List.append_nil]
      split
      · rfl
      · split <;> rfl
  | tick insertOK =>
      simp only [step, offered, List.append_nil]
      split <;> rfl

end Steps

theorem offered_cons (e : Event α) (events : List (Event α)) :
    offered (e :: events) = offered [e] ++ offered events := by
  cases e <;> rfl

theorem offered_append (first second : List (Event α)) :
    offered (first ++ second) = offered first ++ offered second := by
  induction first with
  | nil => rfl
  | cons e rest ih =>
      rw [List.cons_append, offered_cons, ih, offered_cons e rest, List.append_assoc]

/-- Along any run, every offered entry is queued or skipped, exactly once. -/
theorem run_offered (s : State α) (events : List (Event α)) :
    ((Transition.run step s events).accepted ++ (Transition.run step s events).skipped).Perm
      (s.accepted ++ s.skipped ++ offered events) := by
  induction events generalizing s with
  | nil => simp [offered]
  | cons e events ih =>
      rw [Transition.run_cons, offered_cons, ← List.append_assoc]
      exact (ih (step s e)).trans ((step_offered s e).append_right _)

/-- In every run of the logger from `InitRequestLogger`, each entry
`RequestLogger` offers is queued or skipped, exactly once; every queued entry
reaches an insert exactly once, in the order queued, or still waits in the
batch or the channel; the rows stored are among the entries inserted, in
order, missing only those of failed inserts; and the batch holds fewer than
100 entries between steps. -/
theorem logged_once_in_order (bufferSize : Nat) (events : List (Event α)) :
    Accounted (Transition.run step (init bufferSize) events) ∧
      ((Transition.run step (init bufferSize) events).accepted ++
        (Transition.run step (init bufferSize) events).skipped).Perm (offered events) := by
  have hpreserves : Transition.Preserves step (@Accounted α) := fun _ e h => h.step e
  exact ⟨hpreserves.run (accounted_init bufferSize) events, run_offered _ events⟩

section Drain

variable {s : State α}

theorem step_receive_of_cons {entry : α} {rest : List α} (h : s.channel.buffer = entry :: rest)
    (insertOK : Bool) :
    (step s (.receive insertOK)).channel.buffer = rest ∧
      (step s (.receive insertOK)).accepted = s.accepted := by
  cases hrecv : s.channel.recv? with
  | none => simp [Channel.Chan.recv?_eq_none.mp hrecv] at h
  | some next =>
      obtain ⟨entry', channel⟩ := next
      have hbuffer := Channel.Chan.recv?_eq_some hrecv
      rw [h, List.cons.injEq] at hbuffer
      simp only [step, hrecv]
      split
      · exact ⟨hbuffer.2.symm, rfl⟩
      · exact ⟨hbuffer.2.symm, rfl⟩

theorem run_receives (oks : List Bool) (hlen : oks.length = s.channel.buffer.length) :
    (Transition.run step s (oks.map .receive)).channel.buffer = [] ∧
      (Transition.run step s (oks.map .receive)).accepted = s.accepted := by
  induction oks generalizing s with
  | nil => exact ⟨List.length_eq_zero_iff.mp hlen.symm, rfl⟩
  | cons insertOK oks ih =>
      obtain ⟨entry, rest, hbuffer⟩ : ∃ entry rest, s.channel.buffer = entry :: rest := by
        cases hcase : s.channel.buffer with
        | nil => simp [hcase] at hlen
        | cons entry rest => exact ⟨entry, rest, rfl⟩
      obtain ⟨hrest, haccepted⟩ := step_receive_of_cons hbuffer insertOK
      have hlen' : oks.length = (step s (.receive insertOK)).channel.buffer.length := by
        rw [hrest]
        simpa [hbuffer] using hlen
      rw [List.map_cons, Transition.run_cons, ← haccepted]
      exact ih hlen'

/-- Once offers stop, as many receives as there are queued entries and then
one tick hand every queued entry to an insert. -/
theorem drain_flushes (h : Accounted s) (oks : List Bool)
    (hlen : oks.length = s.channel.buffer.length) (insertOK : Bool) :
    (Transition.run step s (oks.map .receive ++ [.tick insertOK])).flushed = s.accepted := by
  have hpreserves : Transition.Preserves step (@Accounted α) := fun _ e h => h.step e
  obtain ⟨hempty, haccepted⟩ := run_receives oks hlen
  have hdrained := hpreserves.run h (oks.map .receive)
  rw [Transition.run_append, Transition.run_cons, Transition.run_nil, ← haccepted]
  generalize Transition.run step s (oks.map .receive) = drained at hempty hdrained ⊢
  have hwaiting : drained.flushed ++ drained.batch = drained.accepted := by
    simpa [hempty] using hdrained.conservation
  simp only [step]
  split
  · simpa [flush] using hwaiting
  · rename_i hnone
    have hbatch : drained.batch = [] := List.eq_nil_of_length_eq_zero (by omega)
    simpa [hbatch] using hwaiting

end Drain

end RequestLogger

end ApiGateway.Middleware
