import AirPlay2.Http.Calls
import AirPlay2.Http.ServerThread
import AirPlay2.Receiver.Lifecycle

/- One client cannot see another. Each connection that is accepted gets objects of its own, and from
   then on they are touched by the handler of that connection only. So in every interleaving of the
   server's threads, whoever was connected before and whatever they sent, the objects behind a
   connection are new ones that have seen the requests answered on this connection
   (`run_isolated`). -/
namespace AirPlay2
open Lib

/-! ## A connection sees its own requests -/

namespace ConnectionRun

variable {σ : Type*} {c : ConnectionRun σ}

/-- The state is what the requests answered so far have made of the state before. -/
def Called (c : ConnectionRun σ) : Prop :=
  ∃ responses, callAll (callHandler c.handler) c.before (c.exchanges.map Exchange.request) =
    .ok (responses, c.state)

theorem Called.step (h : c.Called) (running : Bool) (calls : SocketCalls) :
    (c.step running calls).Called := by
  obtain ⟨responses, hcalls⟩ := h
  obtain ⟨hhandler, hbefore⟩ := c.step_handler running calls
  obtain ⟨requests, more, hexchanges, hmore⟩ := c.step_calls running calls
  refine ⟨responses ++ more, ?_⟩
  rw [hhandler, hbefore, hexchanges, List.map_append, requests_zipWith (length_callAll hmore)]
  exact callAll_append.mpr ⟨responses, c.state, more, hcalls, hmore, rfl⟩

end ConnectionRun

/-! ## What holds of every connection -/

/-- The factory of a start. -/
def ServerEvent.factory {σ : Type*} : ServerEvent σ → Option (Option (HttpHandlerFactory σ))
  | .call (.start _ factory _) => some factory
  | _ => none

/-- The factory of the start that the owner is at. -/
def ServerPoint.factory {σ : Type*} : ServerPoint σ → Option (Option (HttpHandlerFactory σ))
  | .start _ factory _ | .prepare _ factory _ => some factory
  | _ => none

namespace HttpThreads

variable {σ : Type*} {F : Option (HttpHandlerFactory σ) → Prop} {P : ConnectionRun σ → Prop}
variable {t : HttpThreads σ}

/-- `P` holds of all connections, and factories are as they are said to be. -/
structure Holds (F : Option (HttpHandlerFactory σ) → Prop) (P : ConnectionRun σ → Prop)
    (t : HttpThreads σ) : Prop where
  connections : ∀ c ∈ t.connections, P c
  current : ∀ c, t.worker.thread = some (.serve c) → P c
  owner : ∀ factory, t.owner.factory = some factory → F factory
  factory : t.worker.thread.isSome = true ∨ t.owner.fresh = true → F t.factory

theorem Holds.all (h : t.Holds F P) : ∀ c ∈ t.all, P c := by
  intro c hc
  obtain hc | hc := List.mem_append.mp hc
  · exact h.connections c hc
  · have hcurrent : t.worker.thread.bind ServePoint.connection = some c := by
      simpa [HttpThreads.current] using hc
    obtain ⟨p, hp, hconnection⟩ := Option.bind_eq_some_iff.mp hcurrent
    cases p with
    | serve d =>
      obtain rfl := Option.some.inj hconnection
      exact h.current d hp
    | _ => cases hconnection

/-- The thread goes to a point where it serves nobody that `P` does not hold of. -/
theorem Holds.move (h : t.Holds F P) (hthread : t.worker.thread.isSome = true) {p : ServePoint σ}
    (hp : ∀ c, p = .serve c → P c) : (t.move p).Holds F P :=
  ⟨h.connections, fun c hc => hp c (Option.some.inj hc), h.owner, fun _ => h.factory (Or.inl hthread)⟩

theorem Holds.serveStep (h : t.Holds F P)
    (hmade : ∀ factory s handler s', F factory → Made factory s (.accepted handler s') →
      P (.accepted handler s'))
    (hstep : ∀ c running calls, P c → P (c.step running calls)) (calls : SocketCalls) :
    (t.serveStep calls).Holds F P := by
  unfold HttpThreads.serveStep
  cases hthread : t.worker.thread with
  | none => exact h
  | some p =>
    have hsome : t.worker.thread.isSome = true := by rw [hthread]; rfl
    have hfactory : F t.factory := h.factory (Or.inl hsome)
    cases p with
    | loop =>
      dsimp only
      split
      · exact h.move hsome nofun
      · exact h.move hsome nofun
    | accept => exact h.move hsome nofun
    | accepting fd =>
      dsimp only
      split
      · unfold HttpThreads.greet
        cases hf : t.factory with
        | none =>
          refine h.move hsome ?_
          intro c hc
          obtain rfl := ServePoint.serve.inj hc
          exact hmade none t.state none t.state (hf ▸ hfactory) ⟨rfl, rfl⟩
        | some factory =>
          rw [hf] at hfactory
          refine ⟨h.connections, ?_, h.owner, fun _ => hfactory⟩
          intro c hc
          obtain rfl := ServePoint.serve.inj (Option.some.inj hc)
          exact hmade (some factory) t.state _ _ hfactory rfl
      · exact h.move hsome nofun
    | refused =>
      dsimp only
      split
      · exact h.move hsome nofun
      · exact h.move hsome nofun
    | serve c =>
      have hc : P c := h.current c hthread
      dsimp only
      unfold HttpThreads.serveConnection
      split
      · refine ⟨?_, nofun, h.owner, fun _ => hfactory⟩
        intro d hd
        obtain hd | hd := List.mem_append.mp hd
        · exact h.connections d hd
        · obtain rfl := List.mem_singleton.mp hd
          exact hc
      · refine h.move hsome ?_
        intro d hd
        obtain rfl := ServePoint.serve.inj hd
        exact hstep c _ calls hc
    | done => exact h

theorem Holds.ownerStep (h : t.Holds F P) : t.ownerStep.Holds F P := by
  obtain ⟨hconnections, hcurrent, howner, hfactory⟩ := h
  have hleft : ∀ factory, (none : Option (Option (HttpHandlerFactory σ))) = some factory →
      F factory := by
    intro factory hno
    cases hno
  have hstale : ∀ {q : Prop}, false = true → q := by
    intro q hno
    cases hno
  unfold HttpThreads.ownerStep
  cases hpoint : t.owner with
  | idle => exact ⟨hconnections, hcurrent, howner, hfactory⟩
  | start port factory outcome =>
    rw [hpoint] at howner hfactory
    dsimp only
    split
    · exact ⟨hconnections, hcurrent, hleft, fun hor => hfactory (hor.imp_right hstale)⟩
    · exact ⟨hconnections, hcurrent, howner, hfactory⟩
  -- from here on there are only connections of the new factory
  | prepare port factory outcome =>
    rw [hpoint] at howner
    exact ⟨List.forall_mem_nil _, hcurrent, hleft, fun _ => howner factory rfl⟩
  | listen port outcome =>
    have hready : F t.factory := hfactory (Or.inr (by rw [hpoint]; rfl))
    cases outcome <;> exact ⟨hconnections, hcurrent, hleft, fun _ => hready⟩
  | abandon =>
    have hready : F t.factory := hfactory (Or.inr (by rw [hpoint]; rfl))
    exact ⟨hconnections, hcurrent, hleft, fun _ => hready⟩
  | spawn =>
    have hready : F t.factory := hfactory (Or.inr (by rw [hpoint]; rfl))
    refine ⟨hconnections, ?_, hleft, fun _ => hready⟩
    intro c hc
    cases hc
  | stop =>
    rw [hpoint] at hfactory
    dsimp only
    split
    · exact ⟨hconnections, hcurrent, hleft, fun hor => hfactory (hor.imp_right hstale)⟩
    · exact ⟨hconnections, hcurrent, hleft, fun hor => hfactory (hor.imp_right hstale)⟩
  | closeSocket =>
    rw [hpoint] at hfactory
    exact ⟨hconnections, hcurrent, hleft, fun hor => hfactory (hor.imp_right hstale)⟩
  | join =>
    dsimp only
    split
    · refine ⟨hconnections, ?_, hleft, fun hor => by simp [Worker.join, ServerPoint.fresh] at hor⟩
      intro c hc
      cases hc
    · exact ⟨hconnections, hcurrent, howner, hfactory⟩
  | clear =>
    rw [hpoint] at hfactory
    exact ⟨hconnections, hcurrent, hleft, fun hor => hfactory (hor.imp_right hstale)⟩

/-- What holds of a connection that is accepted, and is kept by its steps, holds of all of them. -/
theorem run_holds (hmade : ∀ factory s handler s', F factory → Made factory s (.accepted handler s') →
      P (.accepted handler s'))
    (hstep : ∀ c running calls, P c → P (c.step running calls)) (s : σ) {events : List (ServerEvent σ)}
    (hevents : ∀ event ∈ events, ∀ factory, event.factory = some factory → F factory) :
    (run step ({ state := s } : HttpThreads σ) events).Holds F P := by
  induction events using List.reverseRecOn with
  | nil => exact ⟨nofun, nofun, nofun, fun hor => by simp [ServerPoint.fresh] at hor⟩
  | append_singleton events event ih =>
    rw [run_snoc]
    have h := ih (fun k hk => hevents k (List.mem_append_left _ hk))
    generalize run step ({ state := s } : HttpThreads σ) events = t at h
    unfold HttpThreads.step
    split
    · exact h
    · cases event with
      | call call =>
        cases howner : t.owner with
        | idle =>
          refine ⟨h.connections, h.current, ?_, ?_⟩
          · intro factory hfactory
            refine hevents (.call call) (by simp) factory ?_
            cases call with
            | start port factory' outcome => exact hfactory
            | stop => cases hfactory
          · intro hor
            refine h.factory (hor.imp_right ?_)
            cases call <;> nofun
        | _ => exact h
      | owner => exact h.ownerStep
      | serve calls => exact h.serveStep hmade hstep calls

end HttpThreads

/-! ## The receiver's connections -/

section Receiver

variable {δ κ : Type*} [AlacDecoder δ] [AudioSink κ] (b : SrpBackend) (c : HkpBackend)

/-- A factory of the receiver, whatever its configuration and its sinks. -/
def IsReceiverFactory (factory : Option (HttpHandlerFactory (Connection δ κ × (ℕ → Turn δ κ)))) : Prop :=
  ∃ pipeline config, factory = some (connectionFactory b c pipeline config)

/-- The objects of a connection are new ones that have seen its own requests. -/
def Isolated (r : ConnectionRun (Connection δ κ × (ℕ → Turn δ κ))) : Prop :=
  ∃ pipeline config, r.handler = some (Connection.serving b c config) ∧
    r.before.1 = Connection.made pipeline ∧
    Connection.Took b c (Connection.made pipeline)
      (withTurns r.before.2 (r.exchanges.map Exchange.request)) r.state.1

/-- **One client cannot see another.** In every interleaving of the threads of a server that is
    started with factories of the receiver, whoever is or was connected and whatever they send, the
    objects behind every connection are new ones that have seen the requests answered on this
    connection, and what the session got from its other callers between them. -/
theorem run_isolated (s : Connection δ κ × (ℕ → Turn δ κ))
    {events : List (ServerEvent (Connection δ κ × (ℕ → Turn δ κ)))}
    (hevents : ∀ event ∈ events, ∀ factory, event.factory = some factory →
      IsReceiverFactory b c factory) :
    ∀ r ∈ (run HttpThreads.step ({ state := s } : HttpThreads _) events).all, Isolated b c r := by
  have hholds : (run HttpThreads.step ({ state := s } : HttpThreads _) events).Holds
      (IsReceiverFactory b c) (fun r => (∃ pipeline config, r.handler =
        some (Connection.serving b c config) ∧ r.before.1 = Connection.made pipeline) ∧ r.Called) := by
    apply HttpThreads.run_holds _ _ s hevents
    · intro factory t handler s' hfactory hmade
      obtain ⟨pipeline, config, rfl⟩ := hfactory
      obtain ⟨hhandler, hbefore⟩ := Prod.mk.inj (show connectionFactory b c pipeline config t = _ from hmade)
      exact ⟨⟨pipeline, config, hhandler.symm, congrArg Prod.fst hbefore.symm⟩, [], rfl⟩
    · intro r running calls h
      obtain ⟨⟨pipeline, config, hhandler, hbefore⟩, hcalled⟩ := h
      obtain ⟨hsame, hsame'⟩ := r.step_handler running calls
      exact ⟨⟨pipeline, config, hsame.trans hhandler, (congrArg Prod.fst hsame').trans hbefore⟩,
        hcalled.step running calls⟩
  intro r hr
  obtain ⟨⟨pipeline, config, hhandler, hbefore⟩, responses, hcalls⟩ := hholds.all r hr
  rw [hhandler] at hcalls
  have htook := Connection.took_callAll b c config hcalls
  rw [hbefore] at htook
  exact ⟨pipeline, config, hhandler, hbefore, htook⟩

end Receiver

/-! ## Two clients -/

def idleFactory : HttpHandlerFactory IdleState :=
  connectionFactory AirPlayTransientPairing.zeroTail xorBackend none {}

def keyChunk : Chunk where
  bytes := ascii "POST /fp-setup RTSP/1.0" ++ crlf ++ ascii "Content-Length: 164" ++ blankLine ++
    ascii "FPLY" ++ [3, 1, 3] ++ List.replicate 157 9
  nonempty := by decide +kernel
  fits := by decide +kernel

/-- A client leaves its FairPlay key and goes, and another one comes. -/
def twoClients : List (ServerEvent IdleState) :=
  [.call (.start 0 (some idleFactory) (.listening (some 7000))), .owner, .owner, .owner, .owner,
    .serve {}, .serve {}, .serve { accepts := true }, .serve {}, .serve { received := some keyChunk },
    .serve {}, .serve { sent := 1000 }, .serve {}, .serve {}, .serve {}, .serve {},
    .serve {}, .serve {}, .serve { accepts := true }]

def twoServed : HttpThreads IdleState := run HttpThreads.step { state := ({}, fun _ => idleTurn) } twoClients

theorem run_isolated_twoClients :
    twoServed.all.map (fun r => r.state.1.fairplayKeyMessage.length) = [164, 0] ∧
      ∀ r ∈ twoServed.all, Isolated AirPlayTransientPairing.zeroTail xorBackend r := by
  have hstarts : ∀ event ∈ twoClients, ∀ factory, event.factory = some factory →
      factory = some idleFactory := by
    simp only [twoClients, List.forall_mem_cons, ServerEvent.factory, Option.some.injEq]
    refine ⟨fun factory hfactory => hfactory.symm, ?_⟩
    simp
  exact ⟨by decide +kernel, run_isolated _ _ _ fun event hevent factory hfactory =>
    ⟨none, {}, hstarts event hevent factory hfactory⟩⟩

end AirPlay2
