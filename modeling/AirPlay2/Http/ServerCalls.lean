import AirPlay2.Http.ServerThread

/- What the owner of an `HttpServer` may rely on when its calls return. A start or a stop has done
   what it does to a server without threads (`server_refines`), and a server that is not running
   then does nothing more and keeps no handler. Waiting for the serving thread ends once that has
   made enough steps to handle what the connection holds, if its blocked calls return (`stop_ends`),
   and after a stop was begun one chunk more is received at most, and nothing on another connection
   (`stop_takes_one`). -/
namespace AirPlay2
open Lib

/-! ## The server without threads -/

/-- An `HttpServer` as its owner sees it. -/
structure HttpServer (σ : Type*) where
  running : Bool := false
  boundPort : UInt16 := 0
  factory : Option (HttpHandlerFactory σ) := none

namespace HttpServer

variable {σ : Type*}

/-- The sockets of a start. -/
def listen (r : HttpServer σ) (port : UInt16) : ListenOutcome → Bool × HttpServer σ
  | .noSocket | .refused => (false, { r with running := false })
  | .listening actual => (true, { r with boundPort := actual.getD port })

def startPerConnection (r : HttpServer σ) (port : UInt16) (factory : Option (HttpHandlerFactory σ))
    (outcome : ListenOutcome) : Bool × HttpServer σ :=
  if r.running then (false, r)
  else ({ r with running := true, factory := factory } : HttpServer σ).listen port outcome

def stop (r : HttpServer σ) : HttpServer σ :=
  if r.running then { r with running := false, boundPort := 0 } else r

end HttpServer

/-- The call, of a server without threads. The result is that of the last start. -/
def ServerCall.apply {σ : Type*} (r : Bool × HttpServer σ) : ServerCall σ → Bool × HttpServer σ
  | .start port factory outcome => r.2.startPerConnection port factory outcome
  | .stop => (r.1, r.2.stop)

/-- What the server has become when the call that is at this point returns. -/
def ServerPoint.finish {σ : Type*} (r : Bool × HttpServer σ) : ServerPoint σ → Bool × HttpServer σ
  | .idle => r
  | .start port factory outcome => r.2.startPerConnection port factory outcome
  | .prepare port factory outcome => ({ r.2 with factory := factory } : HttpServer σ).listen port outcome
  | .listen port outcome => r.2.listen port outcome
  | .abandon => (false, { r.2 with running := false })
  | .spawn => (true, r.2)
  | .stop => (r.1, r.2.stop)
  | .closeSocket => (r.1, { r.2 with boundPort := 0 })
  | .join | .clear => r

namespace HttpThreads

variable {σ : Type*} {t : HttpThreads σ}

/-! ## What a call comes to -/

/-- What the last start returned, and the server. -/
def view (t : HttpThreads σ) : Bool × HttpServer σ :=
  (t.result, { running := t.worker.flag, boundPort := t.boundPort, factory := t.factory })

/-- What will have become of the server when the owner is done. -/
def outcome (t : HttpThreads σ) : Bool × HttpServer σ := t.owner.finish t.view

theorem serveStep_owner (t : HttpThreads σ) (calls : SocketCalls) :
    (t.serveStep calls).owner = t.owner ∧ (t.serveStep calls).view = t.view := by
  unfold serveStep
  split
  · exact ⟨rfl, rfl⟩
  · split
    · exact ⟨rfl, rfl⟩
    · exact ⟨rfl, rfl⟩
  · exact ⟨rfl, rfl⟩
  · split
    · unfold greet
      split
      · exact ⟨rfl, rfl⟩
      · exact ⟨rfl, rfl⟩
    · exact ⟨rfl, rfl⟩
  · split
    · exact ⟨rfl, rfl⟩
    · exact ⟨rfl, rfl⟩
  · unfold serveConnection
    split
    · exact ⟨rfl, rfl⟩
    · exact ⟨rfl, rfl⟩
  · exact ⟨rfl, rfl⟩

/-- The serving thread does not change what a call comes to. -/
theorem outcome_serveStep (t : HttpThreads σ) (calls : SocketCalls) :
    (t.serveStep calls).outcome = t.outcome := by
  obtain ⟨howner, hview⟩ := t.serveStep_owner calls
  rw [outcome, outcome, howner, hview]

/-- Nor does each access of the call itself. -/
theorem Sound.outcome_ownerStep (h : t.Sound) : t.ownerStep.outcome = t.outcome := by
  have hworker := h.worker
  have hbefore : t.outcome = t.owner.finish t.view := rfl
  rw [hbefore]
  unfold HttpThreads.ownerStep
  cases howner : t.owner with
  | idle => rw [hbefore, howner]
  | start port factory outcome =>
    dsimp only
    show _ = t.view.2.startPerConnection port factory outcome
    unfold HttpServer.startPerConnection
    split
    · rename_i hflag
      rw [if_pos (show t.view.2.running = true from hflag)]
      rfl
    · rename_i hflag
      rw [if_neg (show ¬ t.view.2.running = true from hflag)]
      rfl
  | prepare port factory outcome => rfl
  | listen port outcome => cases outcome <;> rfl
  | abandon => rfl
  | spawn => rfl
  | stop =>
    dsimp only
    show _ = (t.result, t.view.2.stop)
    unfold HttpServer.stop
    split
    · rename_i hflag
      rw [if_pos (show t.view.2.running = true from hflag)]
      rfl
    · rename_i hflag
      rw [if_neg (show ¬ t.view.2.running = true from hflag)]
      rfl
  | closeSocket => rfl
  | join =>
    dsimp only
    split
    · rfl
    · rw [hbefore, howner]
  | clear => rfl

/-- The event begins no call. -/
def Goes : ServerEvent σ → Prop
  | .call _ => False
  | _ => True

theorem Sound.outcome_step (h : t.Sound) {event : ServerEvent σ} (hevent : Goes event) :
    (t.step event).outcome = t.outcome := by
  unfold HttpThreads.step
  split
  · rfl
  · cases event with
    | call c => exact absurd hevent id
    | owner => exact h.outcome_ownerStep
    | serve calls => exact t.outcome_serveStep calls

/-- A call begins where the server is. -/
theorem outcome_call (howner : t.owner = .idle) (hlive : t.terminated = false) (c : ServerCall σ) :
    (t.step (.call c)).outcome = c.apply t.view := by
  unfold step outcome
  rw [hlive, howner]
  cases c with
  | start port factory outcome => rfl
  | stop => rfl

/-- Without a serving thread nothing happens between calls. -/
theorem run_quiet (howner : t.owner = .idle) (hnone : t.worker.thread = none)
    {events : List (ServerEvent σ)} (hevents : ∀ event ∈ events, Goes event) :
    run step t events = t := by
  apply run_still
  intro event hmem
  unfold step
  split
  · rfl
  · cases event with
    | call c => exact absurd (hevents _ hmem) id
    | owner =>
      show t.ownerStep = t
      rw [ownerStep, howner]
    | serve calls =>
      show t.serveStep calls = t
      rw [serveStep, hnone]

/-- **A start or a stop does what it says, whatever is being served meanwhile.** A call that was
    begun in a state the two threads can get into, and has returned, has made of the server what
    it makes of one without threads, and a start has returned what it returns there. A server that
    is not running then keeps no handler and no socket, and does nothing until the next call. -/
theorem server_refines {s : σ} {past : List (ServerEvent σ)} {t : HttpThreads σ}
    (ht : run step { state := s } past = t) (howner : t.owner = .idle) (hlive : t.terminated = false)
    (c : ServerCall σ) {events : List (ServerEvent σ)} (hevents : ∀ event ∈ events, Goes event)
    {t' : HttpThreads σ} (ht' : run step t (.call c :: events) = t') (hreturned : t'.owner = .idle) :
    t'.view = c.apply t.view ∧
      (t'.view.2.running = false → t'.retained = [] ∧ t'.listenSocket = none ∧
        ∀ later : List (ServerEvent σ), (∀ event ∈ later, Goes event) → run step t' later = t') := by
  have hsound : t.Sound := ht ▸ run_isSound s past
  obtain ⟨hsound', houtcome⟩ := run_outcome (P := Sound) (f := outcome) (G := Goes)
    (fun _ event h => h.step event) (fun _ _ h => h.outcome_step) (hsound.step (.call c)) hevents
  have hrun : run step (t.step (.call c)) events = t' := ht'
  rw [hrun] at hsound' houtcome
  have hview : t'.view = c.apply t.view := by
    rw [outcome_call howner hlive] at houtcome
    rw [← houtcome, outcome, hreturned]
    rfl
  refine ⟨hview, ?_⟩
  intro hflag
  have hsettled := hsound'.worker
  rw [hreturned] at hsettled
  have hnone : t'.worker.thread = none := by
    have hthread := hsettled.flag_eq
    rw [show t'.worker.flag = false from hflag] at hthread
    exact Option.isNone_iff_eq_none.mp (by simpa using hthread.symm)
  refine ⟨?_, ?_, fun later hlater => run_quiet hreturned hnone hlater⟩
  · exact hsound'.cleared (by rw [hreturned]; rfl) (by rw [hreturned]; nofun) hnone
  · rw [← Option.not_isSome_iff_eq_none, hsound'.socket, hreturned, hnone]
    simp [ServerPoint.hasSocket]

/-! ### A server that counts its requests -/

instance (p : ServerPoint σ) : Decidable (p = .idle) :=
  match p with
  | .idle => isTrue rfl
  | .start _ _ _ | .prepare _ _ _ | .listen _ _ | .abandon | .spawn | .stop | .closeSocket | .join
  | .clear => isFalse nofun

def countingFactory : HttpHandlerFactory ℕ :=
  fun n => (some (fun n _ => .ok ({}, n + 1)), n)

/-- The server is started on a port of its own choice. -/
def startsServer : List (ServerEvent ℕ) :=
  [.call (.start 0 (some countingFactory) (.listening (some 7000))), .owner, .owner, .owner, .owner]

def oneRequest : Chunk where
  bytes := ascii "GET / HTTP/1.1" ++ blankLine
  nonempty := by decide
  fits := by decide

/-- A client is accepted, and the thread waits for what it sends. -/
def acceptsClient : List (ServerEvent ℕ) :=
  [.serve {}, .serve {}, .serve { accepts := true }, .serve {}]

/-- The server is stopped while the thread waits for the request, which is still answered. -/
def stopsMeanwhile : List (ServerEvent ℕ) :=
  [.owner, .owner, .serve { received := some oneRequest }, .serve {}, .serve { sent := 100 },
    .serve {}, .serve {}, .serve {}, .serve {}, .owner, .owner]

/-- The server waits for its request, and when it was stopped. -/
def waitingServer : HttpThreads ℕ := run step { state := 0 } (startsServer ++ acceptsClient)

def stoppedServer : HttpThreads ℕ := run step waitingServer (.call .stop :: stopsMeanwhile)

theorem server_refines_stopped :
    stoppedServer.state = 1 ∧ stoppedServer.view = ServerCall.stop.apply waitingServer.view ∧
      (stoppedServer.view.2.running = false →
        stoppedServer.retained = [] ∧ stoppedServer.listenSocket = none ∧
          ∀ later : List (ServerEvent ℕ), (∀ event ∈ later, Goes event) →
            run step stoppedServer later = stoppedServer) := by
  have hgoes : ∀ event ∈ stopsMeanwhile, Goes event := by simp [stopsMeanwhile, Goes]
  have hidle : waitingServer.owner = .idle := by decide +kernel
  have hidle' : stoppedServer.owner = .idle := by decide +kernel
  have hlive : waitingServer.terminated = false := by decide +kernel
  have hstate : stoppedServer.state = 1 := by decide +kernel
  exact ⟨hstate, server_refines rfl hidle hlive .stop hgoes rfl hidle'⟩

end HttpThreads

/-! ## Waiting for the serving thread -/

/-- How many steps a connection is from its end, at most, when the server is stopped. A request
    takes a step to handle and one to send. -/
def ClientPoint.rank : ClientPoint → ℕ
  | .escaped => 0
  | .returned => 2
  | .check _ => 3
  | .parse input => 2 * input.length + 4
  | .send _ _ rest => 2 * rest.length + 5
  | .receive input => 2 * (input.length + 8192) + 5

def ServePoint.rank {σ : Type*} : ServePoint σ → ℕ
  | .done => 0
  | .loop | .refused => 1
  | .accepting _ => 4
  | .accept => 5
  | .serve c => c.point.rank

def ServerEvent.isServe {σ : Type*} : ServerEvent σ → Bool
  | .serve _ => true
  | _ => false

/-- With the flag down a connection comes closer to its end. -/
theorem ConnectionRun.rank_step {σ : Type*} {c : ConnectionRun σ}
    (hfits : c.point.input.length ≤ maxSize) (hreturned : c.point ≠ .returned)
    (hescaped : c.point ≠ .escaped) (calls : SocketCalls) :
    (c.step false calls).point.rank < c.point.rank := by
  unfold ConnectionRun.step
  cases hpoint : c.point with
  | check input => simp [ClientPoint.rank]
  | receive input =>
    unfold ConnectionRun.receive
    cases calls.received with
    | none => simp [ClientPoint.rank]
    | some chunk =>
      -- one chunk at most: the flag is looked at before the next `recv`
      have hchunk := chunk.fits
      dsimp only
      split
      · simp [ClientPoint.rank]
      · simp only [ClientPoint.rank, List.length_append]
        omega
  | parse input =>
    rw [hpoint] at hfits
    dsimp only
    cases hp : parseRequest input with
    | error e => simp [ClientPoint.rank]
    | ok taken =>
      cases taken with
      | none => simp [ClientPoint.rank]
      | some taken =>
        obtain ⟨request, rest⟩ := taken
        -- a request takes some bytes off, so there are at most as many as bytes
        have hrest : rest.length < input.length := parseRequest_shrinks hfits hp
        unfold ConnectionRun.answer
        dsimp only
        split
        · simp [ClientPoint.rank]
        · simp only [ClientPoint.rank]
          omega
  | send response closes rest =>
    unfold ConnectionRun.send
    dsimp only
    split
    · simp [ClientPoint.rank]
    · cases closes with
      | true => simp [ClientPoint.rank]
      | false => simp [ClientPoint.rank]
  | returned => exact absurd hpoint hreturned
  | escaped => exact absurd hpoint hescaped

namespace HttpThreads

variable {σ : Type*} {t : HttpThreads σ}

def rank (t : HttpThreads σ) : ℕ := (t.worker.thread.map ServePoint.rank).getD 0

/-- The bytes that were received on the connection and wait to be handled. -/
def buffered (t : HttpThreads σ) : ℕ := (t.current.map fun c => c.point.input.length).getD 0

theorem rank_le (t : HttpThreads σ) : t.rank ≤ 2 * (t.buffered + 8192) + 5 := by
  unfold rank buffered current
  cases t.worker.thread with
  | none => simp
  | some p =>
    cases p with
    | serve c =>
      simp only [Option.map_some, Option.getD_some, Option.bind_some, ServePoint.connection,
        ServePoint.rank]
      cases c.point <;> simp only [ClientPoint.rank, ClientPoint.input, List.length_nil] <;> omega
    | _ =>
      simp only [Option.map_some, Option.getD_some, ServePoint.rank]
      omega

theorem joins_or_terminated (t : HttpThreads σ) (hrank : t.rank = 0) :
    t.joins = true ∨ t.terminated = true := by
  unfold rank at hrank
  unfold joins terminated current
  cases hp : t.worker.thread with
  | none => exact Or.inl rfl
  | some p =>
    rw [hp] at hrank
    cases p with
    | done => exact Or.inl rfl
    | serve c =>
      have hpoint : c.point.rank = 0 := hrank
      right
      cases hc : c.point with
      | escaped => simp [ServePoint.connection, ClientPoint.isEscaped, hc]
      | _ =>
        rw [hc] at hpoint
        simp [ClientPoint.rank] at hpoint
    | _ => simp [ServePoint.rank] at hrank

/-- With the flag down, the thread gets on. -/
theorem Sound.rank_serveStep (h : t.Sound) (hflag : t.worker.flag = false)
    (hlive : t.terminated = false) (hrank : t.rank ≠ 0) (calls : SocketCalls) :
    (t.serveStep calls).rank < t.rank := by
  have hconnection : ∀ c, t.worker.thread = some (.serve c) → c.Sound ∧ c.point ≠ .escaped := by
    intro c hp
    have hcurrent : t.current = some c := current_eq hp
    refine ⟨h.sound c ?_, ?_⟩
    · rw [all, hcurrent]
      exact List.mem_append_right _ List.mem_cons_self
    · intro hescaped
      rw [terminated, hcurrent, Option.any_some, hescaped] at hlive
      cases hlive
  unfold rank at hrank ⊢
  unfold HttpThreads.serveStep
  cases hp : t.worker.thread with
  | none =>
    rw [hp] at hrank
    exact absurd rfl hrank
  | some p =>
    cases p with
    | loop => simp [hflag, HttpThreads.move, ServePoint.rank]
    | accept => simp [HttpThreads.move, ServePoint.rank]
    | accepting fd =>
      dsimp only
      split
      · unfold HttpThreads.greet
        split
        · simp [HttpThreads.move, ServePoint.rank, ConnectionRun.accepted, ClientPoint.rank]
        · simp [HttpThreads.move, ServePoint.rank, ConnectionRun.accepted, ClientPoint.rank]
      · simp [HttpThreads.move, ServePoint.rank]
    | refused => simp [hflag, HttpThreads.move, ServePoint.rank]
    | serve c =>
      obtain ⟨hsound, hescaped⟩ := hconnection c hp
      dsimp only
      unfold HttpThreads.serveConnection
      split
      · rename_i hpoint
        simp [HttpThreads.move, ServePoint.rank, hpoint, ClientPoint.rank]
      · rename_i hpoint
        rw [hflag]
        simpa [HttpThreads.move, ServePoint.rank] using
          ConnectionRun.rank_step hsound.fits hpoint hescaped calls
    | done =>
      rw [hp] at hrank
      exact absurd rfl hrank

theorem rank_of_terminated (h : t.terminated = true) : t.rank = 0 := by
  unfold terminated current at h
  unfold rank
  cases hp : t.worker.thread with
  | none => rfl
  | some p =>
    rw [hp] at h
    cases p with
    | serve c =>
      have hescaped : c.point.isEscaped = true := h
      show c.point.rank = 0
      unfold ClientPoint.isEscaped at hescaped
      split at hescaped
      · rename_i hpoint
        rw [hpoint]
        rfl
      · cases hescaped
    | _ => cases h

/-- The owner waits at the join, and the thread comes closer to its end. -/
theorem Sound.waits (h : t.Sound) (howner : t.owner = .join) (event : ServerEvent σ)
    (hrank : t.rank ≠ 0) :
    ((t.step event).Sound ∧ (t.step event).owner = .join) ∧ (t.step event).rank ≤ t.rank ∧
      (event.isServe = true → (t.step event).rank < t.rank) := by
  have hlive : t.terminated = false := by
    rw [← Bool.not_eq_true]
    exact fun hterminated => hrank (rank_of_terminated hterminated)
  have hflag : t.worker.flag = false := by
    have hworker := h.worker
    rw [howner] at hworker
    exact hworker.flag_lowered
  have hjoins : ¬ t.joins = true := by
    intro hjoins
    unfold rank at hrank
    obtain hp | hp := thread_of_joins hjoins
    · rw [hp] at hrank
      exact hrank rfl
    · rw [hp] at hrank
      exact hrank rfl
  have hsame : ∀ event : ServerEvent σ, event.isServe = false → t.step event = t := by
    intro event hevent
    unfold HttpThreads.step
    rw [hlive]
    cases event with
    | call c =>
      dsimp only
      rw [if_neg (by decide), howner]
    | owner =>
      show t.ownerStep = t
      rw [HttpThreads.ownerStep, howner]
      exact if_neg hjoins
    | serve calls => cases hevent
  cases hserve : event.isServe with
  | false =>
    rw [hsame event hserve]
    exact ⟨⟨h, howner⟩, le_refl _, fun hno => Bool.noConfusion hno⟩
  | true =>
    cases event with
    | call c => cases hserve
    | owner => cases hserve
    | serve calls =>
      have hstep : t.step (.serve calls) = t.serveStep calls := by
        unfold HttpThreads.step
        rw [hlive]
        rfl
      have hlt := h.rank_serveStep hflag hlive hrank calls
      rw [hstep]
      exact ⟨⟨h.serveStep calls, (t.serveStep_owner calls).1.trans howner⟩, hlt.le, fun _ => hlt⟩

/-- Once the thread has ended, only the owner can do something, and no one once the process has. -/
theorem step_joins (howner : t.owner = .join) (hrank : t.rank = 0) {event : ServerEvent σ}
    (hevent : event ≠ .owner) : t.step event = t := by
  unfold step
  split
  · rfl
  · rename_i hlive
    cases event with
    | call c =>
      dsimp only
      rw [howner]
    | owner => exact absurd rfl hevent
    | serve calls =>
      have hjoins : t.joins = true := (t.joins_or_terminated hrank).resolve_right hlive
      show t.serveStep calls = t
      unfold serveStep
      obtain hp | hp := thread_of_joins hjoins
      · rw [hp]
      · rw [hp]

/-- **A stop ends when the serving thread goes on.** In every interleaving, once the serving thread
    has made the steps it takes to handle what the connection holds and one chunk more, the return
    of a blocked `accept`, `recv` or `send` being one of them, either an exception of a handler has
    ended the process, or a `stop` that waits returns as soon as its thread is let run, with the
    serving thread gone and no handler kept. -/
theorem stop_ends {s : σ} {past : List (ServerEvent σ)} {t : HttpThreads σ}
    (ht : run step { state := s } past = t) (howner : t.owner = .join)
    {events : List (ServerEvent σ)}
    (hlong : 2 * (t.buffered + 8192) + 5 ≤ events.countP ServerEvent.isServe) :
    ∃ pre, pre <+: events ∧ ((run step t pre).terminated = true ∨
      ∀ waiting : List (ServerEvent σ), (∀ event ∈ waiting, event ≠ .owner) →
        ∃ t', run step t (pre ++ waiting ++ [.owner, .owner]) = t' ∧ t'.owner = .idle ∧
          t'.worker.thread = none ∧ t'.worker.flag = false ∧ t'.retained = []) := by
  have hsound : t.Sound := ht ▸ run_isSound s past
  have hwaits : ∀ (t : HttpThreads σ) (event : ServerEvent σ), t.Sound ∧ t.owner = .join →
      t.rank ≠ 0 → ((t.step event).Sound ∧ (t.step event).owner = .join) ∧
        (t.step event).rank ≤ t.rank ∧ (event.isServe = true → (t.step event).rank < t.rank) :=
    fun _ event hw hr => hw.1.waits hw.2 event hr
  have hstill : ∀ (t : HttpThreads σ) (event : ServerEvent σ), t.Sound ∧ t.owner = .join →
      t.rank = 0 → event ≠ .owner → t.step event = t :=
    fun _ _ hw hr hevent => step_joins hw.2 hr hevent
  obtain ⟨pre, hpre, ⟨hsound', howner'⟩, hrank, hstays⟩ :=
    run_returns hwaits hstill ⟨hsound, howner⟩ (t.rank_le.trans hlong)
  refine ⟨pre, hpre, ?_⟩
  cases hterminated : (run step t pre).terminated with
  | true => exact Or.inl rfl
  | false =>
    right
    intro waiting hothers
    have hjoins : (run step t pre).joins = true := by
      obtain hjoins | hno := joins_or_terminated _ hrank
      · exact hjoins
      · rw [hterminated] at hno
        cases hno
    refine ⟨_, rfl, ?_⟩
    rw [run_append, hstays waiting hothers]
    generalize run step t pre = t' at hsound' howner' hjoins hterminated
    have hflag : t'.worker.flag = false := by
      have hworker := hsound'.worker
      rw [howner'] at hworker
      exact hworker.flag_lowered
    have hjoin : t'.step .owner = { t' with worker := t'.worker.join, owner := .clear } := by
      unfold step
      rw [hterminated]
      show t'.ownerStep = _
      rw [ownerStep, howner']
      exact if_pos hjoins
    have hclear : ({ t' with worker := t'.worker.join, owner := .clear } : HttpThreads σ).step .owner =
        { t' with worker := t'.worker.join, owner := .idle, retained := [] } := rfl
    rw [run_cons, run_cons, run_nil, hjoin, hclear]
    exact ⟨rfl, rfl, hflag, rfl⟩

/-- The thread waits for a request when the server is stopped, and is given one. -/
theorem stop_ends_waiting :
    ∃ pre, pre <+: List.replicate 16389 (.serve { received := some oneRequest, sent := 100 }) ∧
      ((run step (run step ({ state := 0 } : HttpThreads ℕ)
            (startsServer ++ acceptsClient ++ [.call .stop, .owner, .owner])) pre).terminated = true ∨
        ∀ waiting : List (ServerEvent ℕ), (∀ event ∈ waiting, event ≠ .owner) →
          ∃ t', run step (run step ({ state := 0 } : HttpThreads ℕ)
                (startsServer ++ acceptsClient ++ [.call .stop, .owner, .owner]))
              (pre ++ waiting ++ [.owner, .owner]) = t' ∧
            t'.owner = .idle ∧ t'.worker.thread = none ∧ t'.worker.flag = false ∧ t'.retained = []) := by
  refine stop_ends rfl (by rfl) ?_
  rw [List.countP_replicate]
  decide

end HttpThreads

/-! ## What is still taken after a stop was begun -/

/-- The chunk a `recv` that was begun may still give. -/
def ClientPoint.mayTake : ClientPoint → ℕ
  | .receive _ => 1
  | _ => 0

/-- The same, and the client an `accept` may still give. -/
def ServePoint.mayTake {σ : Type*} : ServePoint σ → ℕ
  | .serve c => c.point.mayTake
  | _ => 0

def ServePoint.mayAccept {σ : Type*} : ServePoint σ → ℕ
  | .accept | .accepting _ => 1
  | _ => 0

theorem ConnectionRun.chunks_step {σ : Type*} (c : ConnectionRun σ) (calls : SocketCalls) :
    (c.step false calls).chunks.length + (c.step false calls).point.mayTake ≤
      c.chunks.length + c.point.mayTake := by
  unfold ConnectionRun.step
  split
  · rename_i hpoint
    simp [hpoint, ClientPoint.mayTake]
  · rename_i hpoint
    unfold ConnectionRun.receive
    split
    · simp [hpoint, ClientPoint.mayTake]
    · split
      · simp [hpoint, ClientPoint.mayTake]
      · simp [hpoint, ClientPoint.mayTake]
  · rename_i hpoint
    split
    · simp [hpoint, ClientPoint.mayTake]
    · simp [hpoint, ClientPoint.mayTake]
    · unfold ConnectionRun.answer
      split
      · simp [hpoint, ClientPoint.mayTake]
      · simp [hpoint, ClientPoint.mayTake]
  · rename_i closes rest hpoint
    unfold ConnectionRun.send
    split
    · simp [hpoint, ClientPoint.mayTake]
    · cases closes with
      | true => simp [hpoint, ClientPoint.mayTake]
      | false => simp [hpoint, ClientPoint.mayTake]
  · exact le_refl _
  · exact le_refl _

/-- A connection that found the server stopped when it began. -/
def ConnectionRun.Untouched {σ : Type*} (c : ConnectionRun σ) : Prop :=
  c.chunks = [] ∧ c.exchanges = [] ∧ (c.point = .check [] ∨ c.point = .returned)

theorem ConnectionRun.Untouched.step {σ : Type*} {c : ConnectionRun σ} (h : c.Untouched)
    (calls : SocketCalls) : (c.step false calls).Untouched := by
  obtain ⟨hchunks, hexchanges, hpoint | hpoint⟩ := h
  · unfold ConnectionRun.step
    rw [hpoint]
    exact ⟨hchunks, hexchanges, Or.inr rfl⟩
  · unfold ConnectionRun.step
    rw [hpoint]
    exact ⟨hchunks, hexchanges, Or.inr hpoint⟩

namespace HttpThreads

variable {σ : Type*} {t : HttpThreads σ}

/-- The chunks received since the last start. -/
def received (t : HttpThreads σ) : ℕ := (t.all.map fun c => c.chunks.length).sum

def mayTake (t : HttpThreads σ) : ℕ := (t.worker.thread.map ServePoint.mayTake).getD 0

def mayAccept (t : HttpThreads σ) : ℕ := (t.worker.thread.map ServePoint.mayAccept).getD 0

/-- The owner is in a stop, or past it. -/
def Stopping (t : HttpThreads σ) : Prop :=
  t.worker.flag = false ∧
    (t.owner = .closeSocket ∨ t.owner = .join ∨ t.owner = .clear ∨ t.owner = .idle)

theorem all_of_thread {p : ServePoint σ} (hp : t.worker.thread = some p) :
    t.all = t.connections ++ p.connection.toList := by
  rw [all, current_eq hp]

/-- A step of the serving thread takes nothing new, gets a connection its handler, or is one of the
    connection that is being served. -/
theorem serveStep_cases (hflag : t.worker.flag = false) (calls : SocketCalls) :
    ((t.serveStep calls).all = t.all ∧ (t.serveStep calls).mayTake ≤ t.mayTake ∧
        (t.serveStep calls).mayAccept ≤ t.mayAccept) ∨
      (t.mayAccept = 1 ∧ (t.serveStep calls).mayAccept = 0 ∧ (t.serveStep calls).mayTake = 0 ∧
        ∃ handler s, (t.serveStep calls).all = t.all ++ [.accepted handler s]) ∨
      ∃ c, t.all = t.connections ++ [c] ∧
        (t.serveStep calls).all = t.connections ++ [c.step false calls] ∧
        t.mayTake = c.point.mayTake ∧ (t.serveStep calls).mayTake = (c.step false calls).point.mayTake ∧
        (t.serveStep calls).mayAccept = 0 := by
  have hmove : ∀ {p : ServePoint σ}, t.worker.thread = some p → ∀ q : ServePoint σ,
      q.connection = p.connection → q.mayTake ≤ p.mayTake → q.mayAccept ≤ p.mayAccept →
      (t.move q).all = t.all ∧ (t.move q).mayTake ≤ t.mayTake ∧ (t.move q).mayAccept ≤ t.mayAccept := by
    intro p hp q hconnection htake haccept
    refine ⟨?_, ?_, ?_⟩
    · rw [all_of_thread hp, ← hconnection]
      rfl
    · rw [mayTake, mayTake, hp]
      exact htake
    · rw [mayAccept, mayAccept, hp]
      exact haccept
  unfold serveStep
  cases hp : t.worker.thread with
  | none => exact Or.inl ⟨rfl, le_refl _, le_refl _⟩
  | some p =>
    cases p with
    | loop =>
      dsimp only
      rw [hflag]
      exact Or.inl (hmove hp .done rfl (le_refl _) (le_refl _))
    | accept => exact Or.inl (hmove hp (.accepting t.listenSocket) rfl (le_refl _) (le_refl _))
    | accepting fd =>
      dsimp only
      split
      · refine Or.inr (Or.inl ⟨?_, ?_, ?_, ?_⟩)
        · rw [mayAccept, hp]
          rfl
        · unfold greet
          split
          · rfl
          · rfl
        · unfold greet
          split
          · rfl
          · rfl
        · rw [(all_of_thread hp).trans (List.append_nil t.connections)]
          unfold greet
          split
          · exact ⟨none, t.state, rfl⟩
          · rename_i factory hfactory
            exact ⟨(factory t.state).1, (factory t.state).2, rfl⟩
      · exact Or.inl (hmove hp .refused rfl (le_refl _) (Nat.zero_le _))
    | refused =>
      dsimp only
      rw [hflag]
      exact Or.inl (hmove hp .done rfl (le_refl _) (le_refl _))
    | serve c =>
      have hall : t.all = t.connections ++ [c] := all_of_thread hp
      have htake : t.mayTake = c.point.mayTake := by
        rw [mayTake, hp]
        rfl
      dsimp only
      unfold serveConnection
      split
      · refine Or.inl ⟨?_, Nat.zero_le _, Nat.zero_le _⟩
        rw [hall]
        exact List.append_nil _
      · rw [hflag]
        exact Or.inr (Or.inr ⟨c, hall, rfl, htake, rfl, rfl⟩)
    | done => exact Or.inl ⟨rfl, le_refl _, le_refl _⟩

/-- What a stop that was begun has let happen since. -/
structure TakesOne (before : HttpThreads σ) (t : HttpThreads σ) : Prop where
  stopping : t.Stopping
  received : t.received + t.mayTake ≤ before.received + before.mayTake
  accepted : t.all.length + t.mayAccept ≤ before.all.length + before.mayAccept
  kept : before.all.length ≤ t.all.length
  untouched : ∀ c ∈ t.all.drop before.all.length, c.Untouched

theorem TakesOne.serveStep {before : HttpThreads σ} (h : TakesOne before t) (calls : SocketCalls) :
    TakesOne before (t.serveStep calls) := by
  obtain ⟨howner, hview⟩ := t.serveStep_owner calls
  have hflag : (t.serveStep calls).worker.flag = t.worker.flag :=
    congrArg (fun r : Bool × HttpServer σ => r.2.running) hview
  have hstopping : (t.serveStep calls).Stopping := by
    unfold Stopping
    rw [howner, hflag]
    exact h.stopping
  have hreceived := h.received
  have haccepted := h.accepted
  have hkept := h.kept
  have huntouched := h.untouched
  unfold HttpThreads.received at hreceived
  obtain ⟨hall, htake, haccept⟩ | ⟨hmay, haccept, htake, handler, s, hall⟩ |
      ⟨c, hbefore, hall, hmay, htake, haccept⟩ := serveStep_cases h.stopping.1 calls
  · refine ⟨hstopping, ?_, ?_, ?_, ?_⟩
    · unfold HttpThreads.received
      rw [hall]
      omega
    · rw [hall]
      omega
    · rw [hall]
      exact hkept
    · rw [hall]
      exact huntouched
  · refine ⟨hstopping, ?_, ?_, ?_, ?_⟩
    · unfold HttpThreads.received
      rw [hall, htake, List.map_append, List.sum_append]
      simp only [ConnectionRun.accepted, List.map_cons, List.map_nil, List.sum_cons, List.sum_nil,
        List.length_nil]
      omega
    · rw [hall, haccept, List.length_append, List.length_singleton]
      omega
    · rw [hall, List.length_append]
      omega
    · intro c hc
      rw [hall, List.drop_append_of_le_length hkept] at hc
      obtain hc | hc := List.mem_append.mp hc
      · exact huntouched c hc
      · obtain rfl := List.mem_singleton.mp hc
        exact ⟨rfl, rfl, Or.inl rfl⟩
  · have hchunks := c.chunks_step calls
    rw [hbefore] at hreceived haccepted hkept huntouched
    refine ⟨hstopping, ?_, ?_, ?_, ?_⟩
    · unfold HttpThreads.received
      rw [hall, htake]
      simp only [List.map_append, List.sum_append, List.map_cons, List.map_nil, List.sum_cons,
        List.sum_nil] at hreceived ⊢
      omega
    · rw [hall, haccept]
      simp only [List.length_append, List.length_singleton] at haccepted ⊢
      omega
    · rw [hall]
      simpa using hkept
    · intro d hd
      rw [hall] at hd
      -- it may be the one that was served when the stop was begun
      obtain hle | hlt := Nat.lt_or_ge t.connections.length before.all.length
      · -- the connection was there before
        rw [List.drop_eq_nil_of_le (by rw [List.length_append, List.length_singleton]; omega)] at hd
        cases hd
      · rw [List.drop_append_of_le_length hlt] at hd huntouched
        obtain hd | hd := List.mem_append.mp hd
        · exact huntouched d (List.mem_append_left _ hd)
        · obtain rfl := List.mem_singleton.mp hd
          exact (huntouched c (List.mem_append_right _ List.mem_cons_self)).step calls

theorem all_of_joins (hjoins : t.joins = true) : t.all = t.connections := by
  obtain hp | hp := thread_of_joins hjoins
  · exact all_of_none hp
  · rw [all_of_thread hp]
    exact List.append_nil _

/-- The owner only goes on with the stop. -/
theorem TakesOne.ownerStep {before : HttpThreads σ} (h : TakesOne before t) :
    TakesOne before t.ownerStep := by
  obtain ⟨hflag, howner⟩ := h.stopping
  unfold HttpThreads.ownerStep
  obtain howner | howner | howner | howner := howner
  · rw [howner]
    exact ⟨⟨hflag, Or.inr (Or.inl rfl)⟩, h.received, h.accepted, h.kept, h.untouched⟩
  · rw [howner]
    dsimp only
    split
    · rename_i hjoins
      generalize ht' : ({ t with worker := t.worker.join, owner := .clear } : HttpThreads σ) = t'
      have hall : t'.all = t.all := by
        rw [all_of_joins hjoins, ← ht']
        exact List.append_nil _
      have hmayTake : t'.mayTake = 0 := by
        rw [← ht']
        rfl
      have hmayAccept : t'.mayAccept = 0 := by
        rw [← ht']
        rfl
      have hreceived := h.received
      have haccepted := h.accepted
      refine ⟨?_, ?_, ?_, ?_, ?_⟩
      · rw [← ht']
        exact ⟨hflag, Or.inr (Or.inr (Or.inl rfl))⟩
      · unfold HttpThreads.received at hreceived ⊢
        rw [hall]
        omega
      · rw [hall]
        omega
      · rw [hall]
        exact h.kept
      · rw [hall]
        exact h.untouched
    · exact h
  · rw [howner]
    exact ⟨⟨hflag, Or.inr (Or.inr (Or.inr rfl))⟩, h.received, h.accepted, h.kept, h.untouched⟩
  · rw [howner]
    exact h

theorem mayTake_le (t : HttpThreads σ) : t.mayTake ≤ 1 := by
  unfold mayTake
  cases t.worker.thread with
  | none => exact Nat.zero_le 1
  | some p =>
    cases p with
    | serve c =>
      show c.point.mayTake ≤ 1
      cases c.point <;> simp [ClientPoint.mayTake]
    | _ => exact Nat.zero_le 1

theorem mayAccept_le (t : HttpThreads σ) : t.mayAccept ≤ 1 := by
  unfold mayAccept
  cases t.worker.thread with
  | none => exact Nat.zero_le 1
  | some p => cases p <;> simp [ServePoint.mayAccept]

/-- **A stop takes one chunk more at most.** In every interleaving, from the moment a stop has
    lowered the flag until the next call, at most one chunk more is received and at most one
    client more is accepted, and on a connection accepted then nothing is received and no request
    is handled. -/
theorem stop_takes_one {s : σ} {past : List (ServerEvent σ)} {t : HttpThreads σ}
    (ht : run step { state := s } past = t) (hstop : t.owner = .closeSocket ∨ t.owner = .join)
    {events : List (ServerEvent σ)} (hevents : ∀ event ∈ events, Goes event)
    {t' : HttpThreads σ} (ht' : run step t events = t') :
    t'.received ≤ t.received + 1 ∧ t'.all.length ≤ t.all.length + 1 ∧
      ∀ c ∈ t'.all.drop t.all.length, c.chunks = [] ∧ c.exchanges = [] := by
  have hsound : t.Sound := ht ▸ run_isSound s past
  have hflag : t.worker.flag = false := by
    have hworker := hsound.worker
    obtain howner | howner := hstop
    · rw [howner] at hworker
      exact hworker.flag_lowered
    · rw [howner] at hworker
      exact hworker.flag_lowered
  have hstopping : t.Stopping := by
    refine ⟨hflag, ?_⟩
    obtain howner | howner := hstop
    · exact Or.inl howner
    · exact Or.inr (Or.inl howner)
  have hstart : TakesOne t t := by
    refine ⟨hstopping, le_refl _, le_refl _, le_refl _, ?_⟩
    intro c hc
    rw [List.drop_length] at hc
    cases hc
  have hend : TakesOne t t' := by
    rw [← ht']
    refine run_induction_along (P := fun u : HttpThreads σ => TakesOne t u) hstart events ?_
    intro u event hmem hu
    unfold step
    split
    · exact hu
    · cases event with
      | call c => exact absurd (hevents _ hmem) id
      | owner => exact hu.ownerStep
      | serve calls => exact hu.serveStep calls
  have hreceived := hend.received
  have haccepted := hend.accepted
  have htake := t.mayTake_le
  have haccept := t.mayAccept_le
  refine ⟨by omega, by omega, ?_⟩
  intro c hc
  obtain ⟨hchunks, hexchanges, -⟩ := hend.untouched c hc
  exact ⟨hchunks, hexchanges⟩

/-- The server was stopped before it got its request. -/
def stoppingServer : HttpThreads ℕ := run step waitingServer [.call .stop, .owner]

theorem stop_takes_one_request :
    (run step stoppingServer stopsMeanwhile).received = 1 ∧
      (run step stoppingServer stopsMeanwhile).received ≤ stoppingServer.received + 1 ∧
      (run step stoppingServer stopsMeanwhile).all.length ≤ stoppingServer.all.length + 1 ∧
      ∀ c ∈ (run step stoppingServer stopsMeanwhile).all.drop stoppingServer.all.length,
        c.chunks = [] ∧ c.exchanges = [] := by
  have hgoes : ∀ event ∈ stopsMeanwhile, Goes event := by simp [stopsMeanwhile, Goes]
  have hrun : run step ({ state := 0 } : HttpThreads ℕ)
      ((startsServer ++ acceptsClient) ++ [.call .stop, .owner]) = stoppingServer :=
    run_append _ _ _ _
  have hstop : stoppingServer.owner = .closeSocket := rfl
  have hreceived : (run step stoppingServer stopsMeanwhile).received = 1 := by decide +kernel
  exact ⟨hreceived, stop_takes_one hrun (Or.inl hstop) hgoes rfl⟩

end HttpThreads
end AirPlay2
