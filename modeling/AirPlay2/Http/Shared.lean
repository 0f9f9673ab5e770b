import AirPlay2.Http.Calls
import AirPlay2.Http.ServerCalls

/- `HttpServer::start`: a server whose connections have one handler, over a state that none of them
   begins anew. In every interleaving of its threads the handler has been called for the requests
   answered on all of its connections, in the order of the connections, and for no others, from the
   state in which the server was started (`run_shared`). -/
namespace AirPlay2
open Lib

variable {σ : Type*}

/-- The factory that `HttpServer::start` makes of a handler, which may be empty. -/
def sharedFactory (handler : Option (HttpHandler σ)) : HttpHandlerFactory σ := fun s => (handler, s)

namespace HttpThreads

variable {handler : Option (HttpHandler σ)} {s : σ} {t : HttpThreads σ}

/-- What was answered since the last start, on one connection after the other. -/
def exchanged (t : HttpThreads σ) : List Exchange := t.all.flatMap ConnectionRun.exchanges

/-- The state of the handlers now. -/
def now (t : HttpThreads σ) : σ := (t.current.map ConnectionRun.state).getD t.state

/-- The server is about to be started for the first time. -/
structure Starting (handler : Option (HttpHandler σ)) (s : σ) (t : HttpThreads σ) : Prop where
  owner : (∃ port outcome, t.owner = .start port (some (sharedFactory handler)) outcome) ∨
    ∃ port outcome, t.owner = .prepare port (some (sharedFactory handler)) outcome
  thread : t.worker.thread = none
  connections : t.connections = []
  state : t.state = s

/-- The handler has been called for the requests answered and no others, and they were answered with
    what it returned. -/
def InOneLine (handler : Option (HttpHandler σ)) (s : σ) (exchanges : List Exchange) (s' : σ) : Prop :=
  ∃ responses, callAll (callHandler handler) s (exchanges.map Exchange.request) = .ok (responses, s') ∧
    exchanges = List.zipWith exchangeOf (exchanges.map Exchange.request) responses

/-- It was started, and no other start was begun. -/
structure Shares (handler : Option (HttpHandler σ)) (s : σ) (t : HttpThreads σ) : Prop where
  calls : InOneLine handler s t.exchanged t.now
  factory : t.factory = some (sharedFactory handler)
  handler : ∀ c, t.current = some c → c.handler = handler
  owner : (∀ port factory outcome, t.owner ≠ .start port factory outcome) ∧
    ∀ port factory outcome, t.owner ≠ .prepare port factory outcome

/-- A step that leaves the connections and the state alone. -/
theorem Shares.goes (h : t.Shares handler s) {t' : HttpThreads σ} (hcurrent : t'.current = t.current)
    (hconnections : t'.connections = t.connections) (hstate : t'.state = t.state)
    (hfactory : t'.factory = t.factory)
    (howner : (∀ port factory outcome, t'.owner ≠ .start port factory outcome) ∧
      ∀ port factory outcome, t'.owner ≠ .prepare port factory outcome) : t'.Shares handler s := by
  have hexchanged : t'.exchanged = t.exchanged := by
    rw [exchanged, exchanged, all, all, hcurrent, hconnections]
  have hnow : t'.now = t.now := by rw [now, now, hcurrent, hstate]
  refine ⟨?_, hfactory.trans h.factory, ?_, howner⟩
  · rw [hexchanged, hnow]
    exact h.calls
  · rw [hcurrent]
    exact h.handler

theorem InOneLine.append {exchanges : List Exchange} {u u' : σ} (h : InOneLine handler s exchanges u)
    {requests : List HttpRequest} {responses : List HttpResponse}
    (hmore : callAll (callHandler handler) u requests = .ok (responses, u')) :
    InOneLine handler s (exchanges ++ List.zipWith exchangeOf requests responses) u' := by
  obtain ⟨before, hcalls, hexchanges⟩ := h
  have hrequests : (exchanges ++ List.zipWith exchangeOf requests responses).map Exchange.request =
      exchanges.map Exchange.request ++ requests := by
    rw [List.map_append, requests_zipWith (length_callAll hmore)]
  refine ⟨before ++ responses, ?_, ?_⟩
  · rw [hrequests]
    exact callAll_append.mpr ⟨before, u, responses, hcalls, hmore, rfl⟩
  · rw [hrequests, List.zipWith_append (length_callAll hcalls).symm, ← hexchanges]

/-- What comes before a request decides what state it finds. -/
theorem InOneLine.split {before after : List Exchange} {x : Exchange} {s' : σ}
    (h : InOneLine handler s (before ++ x :: after) s') :
    ∃ u response u', InOneLine handler s before u ∧
      callHandler handler u x.request = .ok (response, u') ∧ x = exchangeOf x.request response := by
  obtain ⟨responses, hcalls, hexchanges⟩ := h
  rw [List.map_append, List.map_cons] at hcalls hexchanges
  obtain ⟨xs, u, ys, hbefore, hrest, rfl⟩ := callAll_append.mp hcalls
  obtain ⟨response, u', rest, hcall, -, rfl⟩ := callAll_cons.mp hrest
  have hlen := (length_callAll hbefore).symm
  rw [List.zipWith_append hlen, List.zipWith_cons_cons] at hexchanges
  obtain ⟨hfirst, hlast⟩ := List.append_inj hexchanges (by rw [List.length_zipWith, ← hlen]; simp)
  exact ⟨u, response, u', ⟨xs, hbefore, hfirst⟩, hcall, (List.cons.inj hlast).1⟩

/-! ## Steps of the serving thread -/

/-- A step of the thread to a point with the same connection, if any. -/
theorem Shares.move (h : t.Shares handler s) {p q : ServePoint σ} (hp : t.worker.thread = some p)
    (hconnection : q.connection = p.connection) : (t.move q).Shares handler s := by
  have hcurrent : (t.move q).current = t.current := by
    rw [current_eq hp]
    exact hconnection
  exact h.goes hcurrent rfl rfl rfl h.owner

/-- A new connection has the same handler, and finds the state as it is. -/
theorem Shares.greet (h : t.Shares handler s) {fd : Option ℕ}
    (hp : t.worker.thread = some (.accepting fd)) : t.greet.Shares handler s := by
  have hcurrent : t.current = none := current_eq hp
  have hcalls := h.calls
  rw [now, exchanged, all, hcurrent] at hcalls
  unfold HttpThreads.greet
  rw [h.factory]
  refine ⟨?_, rfl, ?_, h.owner⟩
  · show InOneLine handler s
      ((t.connections ++ [ConnectionRun.accepted handler t.state]).flatMap ConnectionRun.exchanges) t.state
    rw [List.flatMap_append]
    simpa [ConnectionRun.accepted] using hcalls
  · intro c hc
    obtain rfl := Option.some.inj hc
    rfl

theorem Shares.serveConnection (h : t.Shares handler s) {c : ConnectionRun σ}
    (hp : t.worker.thread = some (.serve c)) (calls : SocketCalls) :
    (t.serveConnection c calls).Shares handler s := by
  have hcurrent : t.current = some c := current_eq hp
  have hhandler : c.handler = handler := h.handler c hcurrent
  have hcalls := h.calls
  rw [now, exchanged, all, hcurrent] at hcalls
  unfold HttpThreads.serveConnection
  split
  · -- its end: the connection goes to the others, and leaves its state behind
    refine ⟨?_, h.factory, ?_, h.owner⟩
    · show InOneLine handler s ((t.connections ++ [c] ++ []).flatMap ConnectionRun.exchanges) c.state
      rw [List.append_nil]
      exact hcalls
    · intro d hd
      cases hd
  · obtain ⟨requests, more, hexchanges, hmore⟩ := c.step_calls t.worker.flag calls
    rw [hhandler] at hmore
    refine ⟨?_, h.factory, ?_, h.owner⟩
    · show InOneLine handler s
        ((t.connections ++ [c.step t.worker.flag calls]).flatMap ConnectionRun.exchanges)
        (c.step t.worker.flag calls).state
      rw [List.flatMap_append, List.flatMap_singleton, hexchanges, ← List.append_assoc]
      rw [Option.toList_some, List.flatMap_append, List.flatMap_singleton] at hcalls
      exact hcalls.append hmore
    · intro d hd
      obtain rfl := Option.some.inj hd
      exact (c.step_handler t.worker.flag calls).1.trans hhandler

theorem Shares.serveStep (h : t.Shares handler s) (calls : SocketCalls) :
    (t.serveStep calls).Shares handler s := by
  unfold HttpThreads.serveStep
  cases hp : t.worker.thread with
  | none => exact h
  | some p =>
    cases p with
    | loop =>
      dsimp only
      split
      · exact h.move hp rfl
      · exact h.move hp rfl
    | accept => exact h.move hp rfl
    | accepting fd =>
      dsimp only
      split
      · exact h.greet hp
      · exact h.move hp rfl
    | refused =>
      dsimp only
      split
      · exact h.move hp rfl
      · exact h.move hp rfl
    | serve c => exact h.serveConnection hp calls
    | done => exact h

/-! ## Steps of the owner -/

theorem current_of_joins (h : t.joins = true) : t.current = none := by
  obtain hp | hp := thread_of_joins h
  · rw [current, hp]
    rfl
  · exact current_eq hp

theorem Shares.ownerStep (h : t.Shares handler s) (hsound : t.Sound) :
    t.ownerStep.Shares handler s := by
  have hworker := hsound.worker
  unfold HttpThreads.ownerStep
  cases howner : t.owner with
  | idle => exact h
  | start port factory outcome => exact absurd howner (h.owner.1 port factory outcome)
  | prepare port factory outcome => exact absurd howner (h.owner.2 port factory outcome)
  | listen port outcome => cases outcome <;> exact h.goes rfl rfl rfl rfl (by simp [listen])
  | abandon => exact h.goes rfl rfl rfl rfl (by simp)
  | spawn =>
    rw [howner] at hworker
    have hcurrent : t.current = none := by
      rw [current, hworker.empty rfl]
      rfl
    exact h.goes hcurrent.symm rfl rfl rfl (by simp)
  | stop =>
    dsimp only
    split
    · exact h.goes rfl rfl rfl rfl (by simp)
    · exact h.goes rfl rfl rfl rfl (by simp)
  | closeSocket => exact h.goes rfl rfl rfl rfl (by simp)
  | join =>
    dsimp only
    split
    · rename_i hjoins
      exact h.goes (current_of_joins hjoins).symm rfl rfl rfl (by simp)
    · exact h
  | clear => exact h.goes rfl rfl rfl rfl (by simp)

/-- A start is not interrupted before it has taken over the factory. -/
theorem Starting.step (h : t.Starting handler s) (hsound : t.Sound) (event : ServerEvent σ) :
    (t.step event).Starting handler s ∨ (t.step event).Shares handler s := by
  obtain ⟨howner, hthread, hconnections, hstate⟩ := h
  have hcurrent : t.current = none := by
    rw [current, hthread]
    rfl
  have hlive : t.terminated = false := by
    rw [terminated, hcurrent]
    rfl
  unfold HttpThreads.step
  rw [hlive, if_neg (by decide)]
  cases event with
  | call c =>
    left
    obtain ⟨port, outcome, hpoint⟩ | ⟨port, outcome, hpoint⟩ := howner
    · rw [hpoint]
      exact ⟨Or.inl ⟨port, outcome, hpoint⟩, hthread, hconnections, hstate⟩
    · rw [hpoint]
      exact ⟨Or.inr ⟨port, outcome, hpoint⟩, hthread, hconnections, hstate⟩
  | serve calls =>
    left
    dsimp only
    rw [serveStep, hthread]
    exact ⟨howner, hthread, hconnections, hstate⟩
  | owner =>
    dsimp only
    unfold HttpThreads.ownerStep
    obtain ⟨port, outcome, hpoint⟩ | ⟨port, outcome, hpoint⟩ := howner
    · have hworker := hsound.worker
      rw [hpoint] at hworker ⊢
      have hflag : t.worker.flag = false := by
        rw [hworker.flag_eq, hthread]
        rfl
      left
      dsimp only
      rw [hflag]
      exact ⟨Or.inr ⟨port, outcome, rfl⟩, hthread, hconnections, hstate⟩
    · rw [hpoint]
      right
      refine ⟨?_, rfl, ?_, by simp⟩
      · show InOneLine handler s (([] ++ t.current.toList).flatMap ConnectionRun.exchanges)
          ((t.current.map ConnectionRun.state).getD t.state)
        rw [hcurrent, ← hstate]
        exact ⟨[], rfl, rfl⟩
      · intro c hc
        replace hc : t.current = some c := hc
        rw [hcurrent] at hc
        cases hc

/-! ## Runs -/

/-- The event begins no start. -/
def StartsNot : ServerEvent σ → Prop
  | .call (.start _ _ _) => False
  | _ => True

theorem Shares.step (h : t.Shares handler s) (hsound : t.Sound) {event : ServerEvent σ}
    (hevent : StartsNot event) : (t.step event).Shares handler s := by
  unfold HttpThreads.step
  split
  · exact h
  · cases event with
    | call c =>
      cases howner : t.owner with
      | idle =>
        cases c with
        | start port factory outcome => exact absurd hevent id
        | stop => exact h.goes rfl rfl rfl rfl (by simp [begin])
      | _ => exact h
    | owner => exact h.ownerStep hsound
    | serve calls => exact h.serveStep calls

/-- A server that was started once, with one handler: it has been called for the requests answered,
    on one connection after the other. -/
theorem run_shared (handler : Option (HttpHandler σ)) (s : σ) (port : UInt16)
    (outcome : ListenOutcome) {events : List (ServerEvent σ)}
    (hevents : ∀ event ∈ events, StartsNot event) :
    let t := run step ({ state := s } : HttpThreads σ)
      (.call (.start port (some (sharedFactory handler)) outcome) :: events)
    InOneLine handler s t.exchanged t.now := by
  intro t
  have hfirst : (({ state := s } : HttpThreads σ).step
      (.call (.start port (some (sharedFactory handler)) outcome))).Starting handler s :=
    ⟨Or.inl ⟨port, outcome, rfl⟩, rfl, rfl, rfl⟩
  have hboth : t.Sound ∧ (t.Starting handler s ∨ t.Shares handler s) := by
    refine run_induction_along (P := fun t : HttpThreads σ => t.Sound ∧
      (t.Starting handler s ∨ t.Shares handler s)) ⟨(sound_new s).step _, Or.inl hfirst⟩ events ?_
    intro u event hmem h
    obtain ⟨hsound, hstarting | hshares⟩ := h
    · exact ⟨hsound.step event, hstarting.step hsound event⟩
    · exact ⟨hsound.step event, Or.inr (hshares.step hsound (hevents event hmem))⟩
  obtain ⟨-, hstarting | hshares⟩ := hboth
  · have hcurrent : t.current = none := by
      rw [current, hstarting.thread]
      rfl
    rw [exchanged, all, now, hcurrent, hstarting.connections, hstarting.state]
    exact ⟨[], rfl, rfl⟩
  · exact hshares.calls

end HttpThreads
end AirPlay2
