import Mathlib.Data.List.Chain
import AirPlay2.Http.Connection
import AirPlay2.Lib.Worker

/- `HttpServer` with its two threads: the one that calls `start_per_connection` and `stop`, and
   the one that accepts clients and serves them one after the other, and ends when it finds the
   server stopped. Every step is one access to what both of them see, or one call, so a run is any
   interleaving. In all of them each connection gets a handler from the factory of the last start,
   made from the state the connection before it left, is answered as one that has the server for
   itself, and keeps its handler until the server is stopped (`run_connections`). -/
namespace AirPlay2
open Lib

/-! ## The two threads -/

/-- `HttpHandlerFactory`: a handler, which may be empty, over the state the handlers share. -/
abbrev HttpHandlerFactory (σ : Type*) := σ → Option (HttpHandler σ) × σ

/-- How `socket`, `bind` and `listen` end, and the port `getsockname` finds, if it succeeds. -/
inductive ListenOutcome where
  | noSocket
  | refused
  | listening (port : Option UInt16)

inductive ServerCall (σ : Type*) where
  | start (port : UInt16) (factory : Option (HttpHandlerFactory σ)) (outcome : ListenOutcome)
  | stop

/-- The next access of the owner. -/
inductive ServerPoint (σ : Type*) where
  | idle
  | start (port : UInt16) (factory : Option (HttpHandlerFactory σ)) (outcome : ListenOutcome)
  | prepare (port : UInt16) (factory : Option (HttpHandlerFactory σ)) (outcome : ListenOutcome)
  | listen (port : UInt16) (outcome : ListenOutcome)
  | abandon
  | spawn
  | stop
  | closeSocket
  | join
  | clear

/-- The next access of the serving thread, `serve`. -/
inductive ServePoint (σ : Type*) where
  | loop
  | accept
  | accepting (fd : Option ℕ)
  | refused
  | serve (c : ConnectionRun σ)
  | done

/-- The connection that is being served. -/
def ServePoint.connection {σ : Type*} : ServePoint σ → Option (ConnectionRun σ)
  | .serve c => some c
  | _ => none

/-- `HttpServer::Impl` and the points of its threads, with what the last start returned, the number
    of descriptors handed out so far, the state of the handlers between two connections, and the
    connections since the last start that have ended. -/
structure HttpThreads (σ : Type*) where
  worker : Worker (ServePoint σ) := {}
  listenSocket : Option ℕ := none
  boundPort : UInt16 := 0
  factory : Option (HttpHandlerFactory σ) := none
  retained : List (HttpHandler σ) := []
  owner : ServerPoint σ := .idle
  result : Bool := false
  descriptors : ℕ := 0
  state : σ
  connections : List (ConnectionRun σ) := []

/-- The owner begins a call, or makes its next access, or the serving thread does. -/
inductive ServerEvent (σ : Type*) where
  | call (c : ServerCall σ)
  | owner
  | serve (calls : SocketCalls)

namespace HttpThreads

variable {σ : Type*}

def begin : ServerCall σ → ServerPoint σ
  | .start port factory outcome => .start port factory outcome
  | .stop => .stop

def move (t : HttpThreads σ) (p : ServePoint σ) : HttpThreads σ :=
  { t with worker := t.worker.move p }

/-- `serve_client` up to its loop. -/
def greet (t : HttpThreads σ) : HttpThreads σ :=
  match t.factory with
  | none => t.move (.serve (.accepted none t.state))
  | some factory =>
    { t with retained := t.retained ++ (factory t.state).1.toList }.move
      (.serve (.accepted (factory t.state).1 (factory t.state).2))

/-- A step of the connection that is being served, or its end. -/
def serveConnection (t : HttpThreads σ) (c : ConnectionRun σ) (calls : SocketCalls) : HttpThreads σ :=
  match c.point with
  | .returned => { t with state := c.state, connections := t.connections ++ [c] }.move .loop
  | _ => t.move (.serve (c.step t.worker.flag calls))

def serveStep (t : HttpThreads σ) (calls : SocketCalls) : HttpThreads σ :=
  match t.worker.thread with
  | none => t
  | some .loop => if t.worker.flag then t.move .accept else t.move .done
  -- the descriptor is read, and then `accept` waits on it
  | some .accept => t.move (.accepting t.listenSocket)
  | some (.accepting fd) => if fd.isSome && calls.accepts then t.greet else t.move .refused
  -- a failed `accept` is tried again while the server runs
  | some .refused => if t.worker.flag then t.move .loop else t.move .done
  | some (.serve c) => t.serveConnection c calls
  | some .done => t

/-- `join` returns: there is no thread, or it has come to its end. -/
def joins (t : HttpThreads σ) : Bool :=
  match t.worker.thread with
  | none => true
  | some .done => true
  | some _ => false

/-- `socket`, `bind`, `listen` and `getsockname`. -/
def listen (t : HttpThreads σ) (port : UInt16) : ListenOutcome → HttpThreads σ
  | .noSocket => { t with listenSocket := none, owner := .abandon }
  | .refused => { t with listenSocket := none, descriptors := t.descriptors + 1, owner := .abandon }
  | .listening actual =>
    { t with
      listenSocket := some t.descriptors
      descriptors := t.descriptors + 1
      boundPort := actual.getD port
      owner := .spawn }

/-- A call of the owner; `join` waits. -/
def ownerStep (t : HttpThreads σ) : HttpThreads σ :=
  match t.owner with
  | .idle => t
  | .start port factory outcome =>
    -- `exchange`: a server that runs refuses to be started
    if t.worker.flag then { t with result := false, owner := .idle }
    else { t with worker := t.worker.raise, owner := .prepare port factory outcome }
  | .prepare port factory outcome =>
    { t with factory := factory, retained := [], connections := [], owner := .listen port outcome }
  | .listen port outcome => t.listen port outcome
  | .abandon => { t with worker := t.worker.lower, result := false, owner := .idle }
  | .spawn => { t with worker := t.worker.spawn .loop, result := true, owner := .idle }
  | .stop =>
    -- and one that does not has nothing to stop
    if t.worker.flag then { t with worker := t.worker.lower, owner := .closeSocket }
    else { t with owner := .idle }
  | .closeSocket => { t with listenSocket := none, boundPort := 0, owner := .join }
  | .join => if t.joins then { t with worker := t.worker.join, owner := .clear } else t
  | .clear => { t with retained := [], owner := .idle }

def current (t : HttpThreads σ) : Option (ConnectionRun σ) :=
  t.worker.thread.bind ServePoint.connection

/-- An exception has left the serving thread, and with it the process has ended. -/
def terminated (t : HttpThreads σ) : Bool :=
  t.current.any fun c => c.point.isEscaped

def step (t : HttpThreads σ) (event : ServerEvent σ) : HttpThreads σ :=
  if t.terminated then t
  else
    match event with
    | .call c =>
      match t.owner with
      | .idle => { t with owner := begin c }
      | _ => t
    | .owner => t.ownerStep
    | .serve calls => t.serveStep calls

end HttpThreads

/-! ## What holds at each point -/

namespace ServerPoint

variable {σ : Type*}

def station : ServerPoint σ → Station
  | .prepare _ _ _ | .listen _ _ | .abandon | .spawn => .raised
  | .closeSocket | .join => .lowered
  | _ => .settled

/-- Between the start of a record and the thread. -/
def fresh : ServerPoint σ → Bool
  | .listen _ _ | .abandon | .spawn => true
  | _ => false

/-- Points with a socket whether or not there is a thread. -/
def hasSocket : ServerPoint σ → Bool
  | .spawn | .closeSocket => true
  | _ => false

end ServerPoint

/-- What the factory makes from the state. -/
def Made {σ : Type*} (factory : Option (HttpHandlerFactory σ)) (s : σ) (c : ConnectionRun σ) : Prop :=
  match factory with
  | none => c.handler = none ∧ c.before = s
  | some factory => factory s = (c.handler, c.before)

namespace HttpThreads

variable {σ : Type*} {t : HttpThreads σ}

/-- The connections since the last start. -/
def all (t : HttpThreads σ) : List (ConnectionRun σ) := t.connections ++ t.current.toList

/-- The invariant of the two threads. -/
structure Sound (t : HttpThreads σ) : Prop where
  worker : t.worker.At .done t.owner.station
  socket : t.listenSocket.isSome = true ↔
    t.owner.hasSocket = true ∨ t.owner.station = .settled ∧ t.worker.thread.isSome = true
  port : t.listenSocket = none → t.boundPort = 0
  accepting : ∀ fd, t.worker.thread = some (.accepting (some fd)) →
    t.listenSocket = none ∨ t.listenSocket = some fd
  sound : ∀ c ∈ t.all, c.Sound
  served : ∀ c ∈ t.connections, c.point = .returned
  made : ∀ c, t.current = some c → Made t.factory t.state c
  last : ∀ c ∈ t.connections.getLast?, c.state = t.state
  linked : t.connections.IsChain (fun c d => Made t.factory c.state d)
  retained : t.worker.thread.isSome = true → t.retained = t.all.filterMap ConnectionRun.handler
  fresh : t.owner.fresh = true → t.retained = [] ∧ t.connections = []
  alone : t.owner = .clear → t.worker.thread = none
  cleared : t.owner.station = .settled → t.owner ≠ .clear → t.worker.thread = none → t.retained = []

theorem sound_new (s : σ) : ({ state := s } : HttpThreads σ).Sound := by
  refine ⟨Worker.at_new, ?_, fun _ => rfl, nofun, nofun, nofun, nofun, nofun, .nil, nofun, nofun,
    nofun, fun _ _ _ => rfl⟩
  simp [ServerPoint.hasSocket]

theorem thread_of_joins (h : t.joins = true) :
    t.worker.thread = none ∨ t.worker.thread = some .done := by
  unfold joins at h
  split at h
  · rename_i hp
    exact Or.inl hp
  · rename_i hp
    exact Or.inr hp
  · cases h

/-! ## Steps of the serving thread -/

theorem current_eq {p : ServePoint σ} (hp : t.worker.thread = some p) : t.current = p.connection := by
  rw [current, hp]
  rfl

/-- The owner does not hold the end of a stop while there is a thread. -/
theorem Sound.not_alone (h : t.Sound) {p : ServePoint σ} (hp : t.worker.thread = some p) :
    t.owner ≠ .clear := by
  intro howner
  have hnone := h.alone howner
  rw [hp] at hnone
  cases hnone

/-- While there is a thread, no other is being started. -/
theorem Sound.not_fresh (h : t.Sound) {p : ServePoint σ} (hp : t.worker.thread = some p) :
    ¬ t.owner.fresh = true := by
  intro hfresh
  have hraised : t.owner.station = .raised := by
    unfold ServerPoint.fresh at hfresh
    split at hfresh
    · rename_i howner
      rw [howner]
      rfl
    · rename_i howner
      rw [howner]
      rfl
    · rename_i howner
      rw [howner]
      rfl
    · cases hfresh
  have hworker := h.worker
  rw [hraised] at hworker
  have hnone := hworker.empty rfl
  rw [hp] at hnone
  cases hnone

/-- A step of the thread to a point with the same connection, if any. -/
theorem Sound.move (h : t.Sound) {p q : ServePoint σ} (hp : t.worker.thread = some p)
    (hend : q = .done → t.worker.flag = false)
    (haccepting : ∀ fd, q = .accepting (some fd) → t.listenSocket = none ∨ t.listenSocket = some fd)
    (hcurrent : q.connection = p.connection) : (t.move q).Sound := by
  have hsame : (t.move q).current = t.current := by
    rw [current_eq hp]
    exact hcurrent
  have hall : (t.move q).all = t.all := congrArg (fun c => t.connections ++ c.toList) hsame
  have hsome : t.worker.thread.isSome = true := by
    rw [hp]
    rfl
  refine ⟨h.worker.move hp hend, ?_, h.port, ?_, ?_, h.served, ?_, h.last, h.linked, ?_, h.fresh,
    fun howner => absurd howner (h.not_alone hp), ?_⟩
  · have hsocket := h.socket
    rw [hp] at hsocket
    exact hsocket
  · intro fd hq
    exact haccepting fd (Option.some.inj hq)
  · rw [hall]
    exact h.sound
  · rw [hsame]
    exact h.made
  · intro _
    rw [hall]
    exact h.retained hsome
  · intro _ _ hq
    cases hq

/-- A step of the connection that is being served. -/
theorem Sound.serving (h : t.Sound) {c c' : ConnectionRun σ} (hp : t.worker.thread = some (.serve c))
    (hsound : c'.Sound) (hhandler : c'.handler = c.handler) (hbefore : c'.before = c.before) :
    (t.move (.serve c')).Sound := by
  have hcurrent := current_eq hp
  have hall : t.all = t.connections ++ [c] := by
    rw [all, hcurrent]
    rfl
  have hsome : t.worker.thread.isSome = true := by
    rw [hp]
    rfl
  refine ⟨h.worker.move hp nofun, ?_, h.port, nofun, ?_, h.served, ?_, h.last, h.linked, ?_, h.fresh,
    fun howner => absurd howner (h.not_alone hp), ?_⟩
  · have hsocket := h.socket
    rw [hp] at hsocket
    exact hsocket
  · intro d hd
    obtain hd | hd := List.mem_append.mp (show d ∈ t.connections ++ [c'] from hd)
    · exact h.sound d (List.mem_append_left _ hd)
    · obtain rfl := List.mem_singleton.mp hd
      exact hsound
  · intro d hd
    obtain rfl := Option.some.inj (show some c' = some d from hd)
    have hmade := h.made c hcurrent
    show Made t.factory t.state c'
    unfold Made at hmade ⊢
    rw [hhandler, hbefore]
    exact hmade
  · intro _
    have hretained := h.retained hsome
    rw [hall, List.filterMap_append] at hretained
    show t.retained = (t.connections ++ [c']).filterMap ConnectionRun.handler
    rw [hretained, List.filterMap_append, List.filterMap_cons, List.filterMap_cons, hhandler]
  · intro _ _ hq
    cases hq

/-- A connection gets its handler, which is retained. -/
theorem Sound.greeted (h : t.Sound) {fd : Option ℕ} (hp : t.worker.thread = some (.accepting fd))
    {handler : Option (HttpHandler σ)} {s : σ}
    (hmade : Made t.factory t.state (.accepted handler s)) :
    ({ t with retained := t.retained ++ handler.toList }.move (.serve (.accepted handler s)) :
      HttpThreads σ).Sound := by
  have hall : t.all = t.connections := by
    rw [all, current_eq hp]
    exact List.append_nil _
  have hretained := h.retained (by rw [hp]; rfl)
  have hsocket := h.socket
  have hsound := h.sound
  rw [hp] at hsocket
  rw [hall] at hretained hsound
  have hwith : (t.connections ++ [ConnectionRun.accepted handler s]).filterMap ConnectionRun.handler =
      t.retained ++ handler.toList := by
    rw [List.filterMap_append, ← hretained]
    cases handler with
    | none => rfl
    | some handler => rfl
  refine ⟨h.worker.move hp nofun, hsocket, h.port, nofun, ?_, h.served, ?_, h.last, h.linked, ?_, ?_,
    fun howner => absurd howner (h.not_alone hp), nofun⟩
  · intro d hd
    obtain hd | hd := List.mem_append.mp hd
    · exact hsound d hd
    · obtain rfl := List.mem_singleton.mp hd
      exact ConnectionRun.sound_accepted handler s
  · intro d hd
    obtain rfl := Option.some.inj hd
    exact hmade
  · intro _
    exact hwith.symm
  · exact fun hfresh => absurd hfresh (h.not_fresh hp)

theorem Sound.greet (h : t.Sound) {fd : Option ℕ} (hp : t.worker.thread = some (.accepting fd)) :
    t.greet.Sound := by
  unfold HttpThreads.greet
  split
  · rename_i hfactory
    have hmade : Made t.factory t.state (.accepted none t.state) := by
      rw [hfactory]
      exact ⟨rfl, rfl⟩
    have hgreeted := h.greeted hp hmade
    rw [Option.toList_none, List.append_nil] at hgreeted
    exact hgreeted
  · rename_i factory hfactory
    exact h.greeted hp (by rw [hfactory]; rfl)

/-- The connection that was served has ended. -/
theorem Sound.returned (h : t.Sound) {c : ConnectionRun σ} (hp : t.worker.thread = some (.serve c))
    (hpoint : c.point = .returned) :
    ({ t with state := c.state, connections := t.connections ++ [c] }.move .loop :
      HttpThreads σ).Sound := by
  have hcurrent := current_eq hp
  have hall : t.all = t.connections ++ [c] := by
    rw [all, hcurrent]
    rfl
  have hsound := h.sound
  have hretained := h.retained (by rw [hp]; rfl)
  have hsocket := h.socket
  rw [hp] at hsocket
  rw [hall] at hsound hretained
  refine ⟨h.worker.move hp nofun, hsocket, h.port, nofun, ?_, ?_, nofun, ?_, ?_, ?_, ?_,
    fun howner => absurd howner (h.not_alone hp), nofun⟩
  · intro d hd
    exact hsound d ((List.append_nil (t.connections ++ [c])) ▸ hd)
  · intro d hd
    obtain hd | hd := List.mem_append.mp hd
    · exact h.served d hd
    · obtain rfl := List.mem_singleton.mp hd
      exact hpoint
  · intro d hd
    rw [show (_ : HttpThreads σ).connections = t.connections ++ [c] from rfl,
      List.getLast?_append, List.getLast?_singleton] at hd
    obtain rfl := Option.some.inj hd
    rfl
  -- the factory was called in the state the connection before had left
  · refine List.isChain_append.mpr ⟨h.linked, .singleton c, ?_⟩
    intro d hd e he
    obtain rfl := Option.some.inj he
    rw [h.last d hd]
    exact h.made _ hcurrent
  · intro _
    exact hretained.trans (congrArg (List.filterMap ConnectionRun.handler)
      (List.append_nil (t.connections ++ [c])).symm)
  · exact fun hfresh => absurd hfresh (h.not_fresh hp)

theorem Sound.serveStep (h : t.Sound) (calls : SocketCalls) : (t.serveStep calls).Sound := by
  unfold HttpThreads.serveStep
  split
  · exact h
  · rename_i hp
    split
    · exact h.move hp nofun nofun rfl
    · rename_i hflag
      exact h.move hp (fun _ => by simpa using hflag) nofun rfl
  · rename_i hp
    have haccepting : ∀ fd, (.accepting t.listenSocket : ServePoint σ) = .accepting (some fd) →
        t.listenSocket = none ∨ t.listenSocket = some fd :=
      fun fd hq => Or.inr (ServePoint.accepting.inj hq)
    exact h.move hp (by simp) haccepting rfl
  · rename_i fd hp
    split
    · exact h.greet hp
    · exact h.move hp nofun nofun rfl
  · rename_i hp
    split
    · exact h.move hp nofun nofun rfl
    · rename_i hflag
      exact h.move hp (fun _ => by simpa using hflag) nofun rfl
  · rename_i c hp
    have hsound : c.Sound := by
      apply h.sound
      rw [all, current_eq hp]
      exact List.mem_append_right _ List.mem_cons_self
    obtain ⟨hhandler, hbefore⟩ := c.step_handler t.worker.flag calls
    unfold HttpThreads.serveConnection
    split
    · rename_i hpoint
      exact h.returned hp hpoint
    · exact h.serving hp (hsound.step t.worker.flag calls) hhandler hbefore
  · exact h

/-! ## Steps of the owner -/

/-- A step of the owner alone, between points of the same kind. -/
theorem Sound.goes (h : t.Sound) (o : ServerPoint σ) (result : Bool)
    (hstation : o.station = t.owner.station) (hsocket : o.hasSocket = t.owner.hasSocket)
    (hfresh : o.fresh = true → t.owner.fresh = true) (hclear : o ≠ .clear)
    (hcleared : t.owner ≠ .clear) :
    ({ t with owner := o, result := result } : HttpThreads σ).Sound := by
  refine ⟨?_, ?_, h.port, h.accepting, h.sound, h.served, h.made, h.last, h.linked, h.retained, ?_,
    fun howner => absurd howner hclear, ?_⟩
  · show t.worker.At .done o.station
    rw [hstation]
    exact h.worker
  · show t.listenSocket.isSome = true ↔
      o.hasSocket = true ∨ o.station = .settled ∧ t.worker.thread.isSome = true
    rw [hstation, hsocket]
    exact h.socket
  · exact fun ho => h.fresh (hfresh ho)
  · intro ho _ hnone
    exact h.cleared (hstation ▸ ho) hcleared hnone

theorem all_of_none (hnone : t.worker.thread = none) : t.all = t.connections := by
  rw [all, current, hnone]
  exact List.append_nil _

/-- What is left to hold where there is no thread. -/
theorem sound_of_none (hnone : t.worker.thread = none) (hworker : t.worker.At .done t.owner.station)
    (hsocket : t.listenSocket.isSome = t.owner.hasSocket)
    (hport : t.listenSocket = none → t.boundPort = 0) (hsound : ∀ c ∈ t.connections, c.Sound)
    (hserved : ∀ c ∈ t.connections, c.point = .returned)
    (hlast : ∀ c ∈ t.connections.getLast?, c.state = t.state)
    (hlinked : t.connections.IsChain (fun c d => Made t.factory c.state d))
    (hfresh : t.owner.fresh = true → t.retained = [] ∧ t.connections = [])
    (hcleared : t.owner.station = .settled → t.owner ≠ .clear → t.retained = []) : t.Sound := by
  have hcurrent : t.current = none := by
    rw [current, hnone]
    rfl
  refine ⟨hworker, ?_, hport, ?_, ?_, hserved, ?_, hlast, hlinked, ?_, hfresh, fun _ => hnone,
    fun ho hclear _ => hcleared ho hclear⟩
  · rw [hsocket, hnone]
    simp
  · intro fd hfd
    rw [hnone] at hfd
    cases hfd
  · rw [all_of_none hnone]
    exact hsound
  · intro c hc
    rw [hcurrent] at hc
    cases hc
  · intro hsome
    rw [hnone] at hsome
    cases hsome

theorem Sound.connections (h : t.Sound) : ∀ c ∈ t.connections, c.Sound :=
  fun c hc => h.sound c (List.mem_append_left _ hc)

theorem Sound.listen (h : t.Sound) {port : UInt16} {outcome : ListenOutcome}
    (howner : t.owner = .listen port outcome) (ended : ListenOutcome) :
    (t.listen port ended).Sound := by
  have hworker := h.worker
  have hsocket := h.socket
  rw [howner] at hworker hsocket
  have hnone := hworker.empty rfl
  have hclosed : t.listenSocket = none := by
    rw [← Option.not_isSome_iff_eq_none, hsocket]
    simp [ServerPoint.hasSocket, ServerPoint.station]
  have hfresh := h.fresh (by rw [howner]; rfl)
  cases ended with
  | noSocket =>
    exact sound_of_none hnone hworker rfl (fun _ => h.port hclosed) h.connections h.served h.last
      h.linked (fun _ => hfresh) nofun
  | refused =>
    exact sound_of_none hnone hworker rfl (fun _ => h.port hclosed) h.connections h.served h.last
      h.linked (fun _ => hfresh) nofun
  | listening actual =>
    exact sound_of_none hnone hworker rfl nofun h.connections h.served h.last h.linked
      (fun _ => hfresh) nofun

theorem Sound.ownerStep (h : t.Sound) : t.ownerStep.Sound := by
  have hworker := h.worker
  have hsocket := h.socket
  unfold HttpThreads.ownerStep
  cases howner : t.owner with
  | idle => exact h
  | start port factory outcome =>
    rw [howner] at hworker hsocket
    dsimp only
    split
    · exact h.goes .idle false (by rw [howner]; rfl) (by rw [howner]; rfl) nofun nofun
        (by rw [howner]; nofun)
    · rename_i hflag
      have hnone : t.worker.thread = none := by
        have hsome := hworker.flag_eq
        rw [Bool.eq_false_iff.mpr hflag] at hsome
        simpa using hsome.symm
      have hclosed : t.listenSocket.isSome = false := by
        rw [← Bool.not_eq_true, hsocket, hnone]
        simp [ServerPoint.hasSocket]
      exact sound_of_none hnone (hworker.raise (by simpa using hflag)) hclosed h.port h.connections
        h.served h.last h.linked nofun nofun
  | prepare port factory outcome =>
    rw [howner] at hworker hsocket
    have hclosed : t.listenSocket.isSome = false := by
      rw [← Bool.not_eq_true, hsocket]
      simp [ServerPoint.hasSocket, ServerPoint.station]
    exact sound_of_none (hworker.empty rfl) hworker hclosed h.port nofun nofun nofun .nil
      (fun _ => ⟨rfl, rfl⟩) nofun
  | listen port outcome => exact h.listen howner outcome
  | abandon =>
    rw [howner] at hworker hsocket
    have hclosed : t.listenSocket.isSome = false := by
      rw [← Bool.not_eq_true, hsocket]
      simp [ServerPoint.hasSocket, ServerPoint.station]
    obtain ⟨hretained, -⟩ := h.fresh (by rw [howner]; rfl)
    exact sound_of_none (hworker.empty rfl) hworker.abandon hclosed h.port h.connections h.served
      h.last h.linked nofun (fun _ _ => hretained)
  | spawn =>
    rw [howner] at hworker hsocket
    have hnone := hworker.empty rfl
    have hopen : t.listenSocket.isSome = true := hsocket.mpr (Or.inl rfl)
    obtain ⟨hretained, hconnections⟩ := h.fresh (by rw [howner]; rfl)
    -- the record begins empty: no connection is left of an earlier start
    refine ⟨hworker.spawn nofun, ?_, h.port, nofun, ?_, h.served, nofun, h.last, h.linked, ?_, nofun,
      nofun, nofun⟩
    · exact iff_of_true hopen (Or.inr ⟨rfl, rfl⟩)
    · intro c hc
      exact h.connections c (List.append_nil t.connections ▸ hc)
    · intro _
      show t.retained = (t.connections ++ []).filterMap ConnectionRun.handler
      rw [hretained, hconnections]
      rfl
  | stop =>
    rw [howner] at hworker hsocket
    dsimp only
    split
    · rename_i hflag
      have hsome : t.worker.thread.isSome = true := by
        rw [← hworker.flag_eq]
        exact hflag
      refine ⟨hworker.lower, ?_, h.port, h.accepting, h.sound, h.served, h.made, h.last, h.linked,
        h.retained, nofun, nofun, nofun⟩
      exact iff_of_true (hsocket.mpr (Or.inr ⟨rfl, hsome⟩)) (Or.inl rfl)
    · exact h.goes .idle t.result (by rw [howner]; rfl) (by rw [howner]; rfl) nofun nofun
        (by rw [howner]; nofun)
  | closeSocket =>
    rw [howner] at hworker
    refine ⟨hworker, ?_, fun _ => rfl, fun _ _ => Or.inl rfl, h.sound, h.served, h.made, h.last,
      h.linked, h.retained, nofun, nofun, nofun⟩
    simp [ServerPoint.hasSocket, ServerPoint.station]
  | join =>
    rw [howner] at hworker hsocket
    dsimp only
    split
    · have hclosed : t.listenSocket.isSome = false := by
        rw [← Bool.not_eq_true, hsocket]
        simp [ServerPoint.hasSocket, ServerPoint.station]
      exact sound_of_none rfl hworker.join hclosed h.port h.connections h.served h.last h.linked nofun
        (fun _ hclear => absurd rfl hclear)
    · exact h
  | clear =>
    rw [howner] at hworker hsocket
    have hnone := h.alone howner
    have hclosed : t.listenSocket.isSome = false := by
      rw [← Bool.not_eq_true, hsocket, hnone]
      simp [ServerPoint.hasSocket]
    exact sound_of_none hnone hworker hclosed h.port h.connections h.served h.last h.linked nofun
      (fun _ _ => rfl)

theorem Sound.step (h : t.Sound) (event : ServerEvent σ) : (t.step event).Sound := by
  unfold HttpThreads.step
  split
  · exact h
  · cases event with
    | call c =>
      cases howner : t.owner with
      | idle =>
        cases c with
        | start port factory outcome =>
          exact h.goes (.start port factory outcome) t.result (by rw [howner]; rfl)
            (by rw [howner]; rfl) nofun nofun (by rw [howner]; nofun)
        | stop =>
          exact h.goes .stop t.result (by rw [howner]; rfl) (by rw [howner]; rfl) nofun nofun
            (by rw [howner]; nofun)
      | _ => exact h
    | owner => exact h.ownerStep
    | serve calls => exact h.serveStep calls

/-! ## Runs -/

theorem run_isSound (s : σ) (events : List (ServerEvent σ)) :
    (run step ({ state := s } : HttpThreads σ) events).Sound := by
  apply run_induction (P := fun t : HttpThreads σ => t.Sound)
  · intro t event h
    exact h.step event
  · exact sound_new s

/-- Each connection is made by the factory from the state the one before it left. -/
theorem Sound.all_linked (h : t.Sound) :
    t.all.IsChain (fun c d => Made t.factory c.state d) := by
  refine List.isChain_append.mpr ⟨h.linked, ?_, ?_⟩
  · cases t.current with
    | none => exact .nil
    | some c => exact .singleton c
  · intro c hc d hd
    rw [h.last c hc]
    exact h.made d (by simpa using hd)

/-- **Connections one after the other.** In every interleaving of starts, stops and the serving
    thread, no thread is overwritten before it was joined; every connection since the last start
    was answered as one that has the server for itself, up to where it got, and those that have
    ended without a failed `send` completely; each was made by the factory from the state the one
    before it left; and while the thread is there the handlers of all of them are retained. -/
theorem run_connections (s : σ) (events : List (ServerEvent σ)) :
    let t := run step ({ state := s } : HttpThreads σ) events
    t.worker.overwritten = false ∧
      (∀ c ∈ t.all, c.exchanges <+: (serveClient c.handler c.before [] c.chunks).exchanges ∧
        (c.point.sending = false →
          (c.wire = c.exchanges.flatMap Exchange.response ↔ c.complete = true))) ∧
      (∀ c ∈ t.connections, c.failed = false →
        c.exchanges = (serveClient c.handler c.before [] c.chunks).exchanges) ∧
      t.all.IsChain (fun c d => Made t.factory c.state d) ∧
      (t.worker.thread.isSome = true → t.retained = t.all.filterMap ConnectionRun.handler) := by
  intro t
  have h : t.Sound := run_isSound s events
  refine ⟨h.worker.overwritten, ?_, ?_, h.all_linked, h.retained⟩
  · intro c hc
    have hanswers := (h.sound c hc).answers
    exact ⟨hanswers.first, hanswers.wire⟩
  · intro c hc hfailed
    have hpoint : c.point.handling = false := by
      rw [h.served c hc]
      rfl
    exact (h.connections c hc).answers.all hpoint hfailed

end HttpThreads
end AirPlay2
