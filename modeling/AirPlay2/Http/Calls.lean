import AirPlay2.Http.Connection
import AirPlay2.Http.Wire

/- Requests over a byte stream are calls of the handler. A client that writes requests one behind
   the other, and no header that ends the connection, has the handler called for each of them, in
   order and from the state the one before left, however its bytes arrive (`serveClient_wire`).
   It holds of every list of requests, and so at every point of a conversation in which the client
   writes a request when it has the answer to the last one. -/
namespace AirPlay2
open Lib

variable {σ : Type*}

/-- The handler, called for one request after the other. -/
def callAll (handler : HttpHandler σ) :
    σ → List HttpRequest → Except StdException (List HttpResponse × σ)
  | s, [] => .ok ([], s)
  | s, request :: requests =>
    match handler s request with
    | .error e => .error e
    | .ok (response, s) =>
      match callAll handler s requests with
      | .error e => .error e
      | .ok (responses, s) => .ok (response :: responses, s)

/-- The request and what the server writes for it. -/
def exchangeOf (request : HttpRequest) (response : HttpResponse) : Exchange :=
  { request := request, response := responseBytes (withDefaults request response) }

/-- The state in which serving waits, and the bytes it has not used. -/
def Ending.waits : Ending σ → Option (σ × Bytes)
  | .waiting s input => some (s, input)
  | .closed => none
  | .escaped _ _ => none

theorem Ending.waits_eq_some {ending : Ending σ} {s : σ} {input : Bytes} :
    ending.waits = some (s, input) ↔ ending = .waiting s input := by
  cases ending with
  | waiting s' input' => simp [waits]
  | closed => simp [waits]
  | escaped request e => simp [waits]

theorem callAll_cons {handler : HttpHandler σ} {s s' : σ} {request : HttpRequest}
    {requests : List HttpRequest} {responses : List HttpResponse} :
    callAll handler s (request :: requests) = .ok (responses, s') ↔
      ∃ response t rest, handler s request = .ok (response, t) ∧
        callAll handler t requests = .ok (rest, s') ∧ responses = response :: rest := by
  rw [callAll]
  refine ⟨?_, ?_⟩
  · intro h
    split at h
    · cases h
    · rename_i response t hcall
      split at h
      · cases h
      · rename_i rest s'' hrest
        obtain ⟨rfl, rfl⟩ := Prod.mk.inj (Except.ok.inj h)
        exact ⟨response, t, rest, hcall, hrest, rfl⟩
  · intro h
    obtain ⟨response, t, rest, hcall, hrest, rfl⟩ := h
    rw [hcall]
    dsimp only
    rw [hrest]

theorem length_callAll {handler : HttpHandler σ} {s s' : σ} {requests : List HttpRequest}
    {responses : List HttpResponse} (h : callAll handler s requests = .ok (responses, s')) :
    responses.length = requests.length := by
  induction requests generalizing s responses with
  | nil =>
    obtain ⟨rfl, -⟩ := Prod.mk.inj (Except.ok.inj h)
    rfl
  | cons request requests ih =>
    obtain ⟨response, t, rest, -, hrest, rfl⟩ := callAll_cons.mp h
    rw [List.length_cons, List.length_cons, ih hrest]

/-- Requests behind requests. -/
theorem callAll_append {handler : HttpHandler σ} {s s' : σ} {first second : List HttpRequest}
    {responses : List HttpResponse} :
    callAll handler s (first ++ second) = .ok (responses, s') ↔
      ∃ xs t ys, callAll handler s first = .ok (xs, t) ∧ callAll handler t second = .ok (ys, s') ∧
        responses = xs ++ ys := by
  induction first generalizing s responses with
  | nil =>
    refine ⟨?_, ?_⟩
    · intro h
      exact ⟨[], s, responses, rfl, h, rfl⟩
    · intro h
      obtain ⟨xs, t, ys, hfirst, hsecond, rfl⟩ := h
      obtain ⟨rfl, rfl⟩ := Prod.mk.inj (Except.ok.inj hfirst)
      exact hsecond
  | cons request first ih =>
    refine ⟨?_, ?_⟩
    · intro h
      obtain ⟨response, u, rest, hcall, hrest, rfl⟩ := callAll_cons.mp h
      obtain ⟨xs, t, ys, hfirst, hsecond, rfl⟩ := ih.mp hrest
      exact ⟨response :: xs, t, ys, callAll_cons.mpr ⟨response, u, xs, hcall, hfirst, rfl⟩, hsecond,
        rfl⟩
    · intro h
      obtain ⟨xs, t, ys, hfirst, hsecond, rfl⟩ := h
      obtain ⟨response, u, rest, hcall, hrest, rfl⟩ := callAll_cons.mp hfirst
      exact callAll_cons.mpr
        ⟨response, u, rest ++ ys, hcall, ih.mpr ⟨rest, t, ys, hrest, hsecond, rfl⟩, rfl⟩

theorem requests_zipWith {requests : List HttpRequest} {responses : List HttpResponse}
    (h : responses.length = requests.length) :
    (List.zipWith exchangeOf requests responses).map Exchange.request = requests := by
  have hfst := List.map_fst_zip h.ge
  rw [List.zip, List.map_zipWith] at hfst
  rw [List.map_zipWith]
  exact hfst

/-- A step of a connection calls the handler for the requests it adds to those answered. -/
theorem ConnectionRun.step_calls (c : ConnectionRun σ) (running : Bool) (calls : SocketCalls) :
    ∃ requests responses, (c.step running calls).exchanges =
        c.exchanges ++ List.zipWith exchangeOf requests responses ∧
      callAll (callHandler c.handler) c.state requests =
        .ok (responses, (c.step running calls).state) := by
  have hnone : ∃ requests responses,
      c.exchanges = c.exchanges ++ List.zipWith exchangeOf requests responses ∧
        callAll (callHandler c.handler) c.state requests = .ok (responses, c.state) :=
    ⟨[], [], (List.append_nil _).symm, rfl⟩
  unfold step
  split
  · exact hnone
  · unfold receive
    split
    · exact hnone
    · split
      · exact hnone
      · exact hnone
  · split
    · exact hnone
    · exact hnone
    · rename_i request rest _
      unfold answer
      split
      · exact hnone
      · rename_i response s hcall
        exact ⟨[request], [response], rfl,
          callAll_cons.mpr ⟨response, s, [], hcall, rfl, rfl⟩⟩
  · unfold send
    split
    · exact hnone
    · exact hnone
  · exact hnone
  · exact hnone

/-- What every call keeps. -/
theorem callAll_keeps {handler : HttpHandler σ} {P : σ → Prop}
    (hcall : ∀ s request response s', P s → handler s request = .ok (response, s') → P s')
    {s s' : σ} {requests : List HttpRequest} {responses : List HttpResponse} (hs : P s)
    (h : callAll handler s requests = .ok (responses, s')) : P s' := by
  induction requests generalizing s responses with
  | nil =>
    obtain ⟨-, rfl⟩ := Prod.mk.inj (Except.ok.inj h)
    exact hs
  | cons request requests ih =>
    obtain ⟨response, t, rest, hfirst, hrest, -⟩ := callAll_cons.mp h
    exact ih (hcall s request response t hs hfirst) hrest

section Stream

variable {handler : HttpHandler σ}

theorem drain_pipeline {s s' : σ} {rs : List WireRequest} {responses : List HttpResponse}
    (hcalls : callAll handler s (rs.map WireRequest.request) = .ok (responses, s'))
    (hopen : ∀ r ∈ rs, asksToClose r.request.headers = false)
    (hopen' : ∀ x ∈ responses, asksToClose x.headers = false)
    (hsize : (WireRequest.pipeline rs).length ≤ maxSize) :
    drain (some handler) s (WireRequest.pipeline rs) =
      ⟨List.zipWith exchangeOf (rs.map WireRequest.request) responses, .waiting s' []⟩ := by
  induction rs generalizing s responses with
  | nil =>
    obtain ⟨rfl, rfl⟩ := Prod.mk.inj (Except.ok.inj hcalls)
    rfl
  | cons r rs ih =>
    obtain ⟨response, t, rest, hcall, hrest, rfl⟩ := callAll_cons.mp hcalls
    have hcalled : callHandler (some handler) s r.request = .ok (response, t) := hcall
    have hpipe : WireRequest.pipeline (r :: rs) = r.wire ++ WireRequest.pipeline rs :=
      List.flatMap_cons
    rw [hpipe] at hsize ⊢
    have hclose : asksToClose r.request.headers = false := hopen r List.mem_cons_self
    have hclose' : asksToClose (withDefaults r.request response).headers = false :=
      hopen' response List.mem_cons_self
    have hdrain := ih hrest (fun k hk => hopen k (List.mem_cons_of_mem r hk))
      (fun k hk => hopen' k (List.mem_cons_of_mem response hk))
      (by rw [List.length_append] at hsize; omega)
    rw [ConnectionRun.drain_answered hsize (r.parseRequest_wire _ hsize) hcalled, hclose, hclose',
      Bool.or_self, if_neg (by decide), hdrain]
    rfl

/-- All in one chunk or in many. -/
theorem serveClient_whole {handler : Option (HttpHandler σ)} {s : σ} {chunks : List Bytes}
    (hne : ∀ c ∈ chunks, c ≠ []) (hsize : chunks.flatten.length ≤ maxSize) :
    serveClient handler s [] chunks = drain handler s chunks.flatten := by
  have hfits : Fits handler s [] chunks := fits_of_length handler (by rwa [List.nil_append])
  cases hchunks : chunks with
  | nil => rfl
  | cons c cs =>
    have hwhole : chunks.flatten ≠ [] := by
      rw [hchunks, List.flatten_cons]
      exact List.append_ne_nil_of_left_ne_nil (hne c (by rw [hchunks]; exact List.mem_cons_self)) _
    rw [← hchunks, serveClient_eq_bytes handler hne hfits]
    have hbytes : serveClient handler s [] [chunks.flatten] =
        serveClient handler s [] (chunks.flatten.map (fun b => [b]) ++ []) :=
      serveClient_bytes handler hwhole hsize []
    rw [List.append_nil] at hbytes
    rw [← hbytes, serveClient_one handler s [] hwhole, List.nil_append]

/-- Whatever chunks the wire forms arrive in, the handler is called for each request, in order, and
    the connection waits for more in the state it ends in. -/
theorem serveClient_wire {s s' : σ} {rs : List WireRequest} {responses : List HttpResponse}
    (hcalls : callAll handler s (rs.map WireRequest.request) = .ok (responses, s'))
    (hopen : ∀ r ∈ rs, asksToClose r.request.headers = false)
    (hopen' : ∀ x ∈ responses, asksToClose x.headers = false)
    (hsize : (WireRequest.pipeline rs).length ≤ maxSize) {chunks : List Bytes}
    (hne : ∀ c ∈ chunks, c ≠ []) (hwhole : chunks.flatten = WireRequest.pipeline rs) :
    serveClient (some handler) s [] chunks =
      ⟨List.zipWith exchangeOf (rs.map WireRequest.request) responses, .waiting s' []⟩ := by
  rw [serveClient_whole hne (by rw [hwhole]; exact hsize), hwhole]
  exact drain_pipeline hcalls hopen hopen' hsize

/-! ## From any bytes -/

/-- While a connection waits, the handler was called for the requests answered and no other. -/
theorem requestLoop_calls {fuel : ℕ} {s s' : σ} {input rest : Bytes}
    (h : (requestLoop (some handler) fuel s input).ending = .waiting s' rest) :
    ∃ responses, callAll handler s
      ((requestLoop (some handler) fuel s input).exchanges.map Exchange.request) =
        .ok (responses, s') := by
  induction fuel generalizing s input with
  | zero =>
    obtain ⟨rfl, -⟩ := Ending.waiting.inj h
    exact ⟨[], rfl⟩
  | succ fuel ih =>
    rw [requestLoop] at h ⊢
    cases hp : parseRequest input with
    | error e =>
      rw [hp] at h
      cases h
    | ok taken =>
      cases taken with
      | none =>
        rw [hp] at h
        obtain ⟨rfl, -⟩ := Ending.waiting.inj h
        exact ⟨[], rfl⟩
      | some taken =>
        obtain ⟨request, unread⟩ := taken
        rw [hp] at h
        dsimp only at h ⊢
        cases hcall : callHandler (some handler) s request with
        | error e =>
          rw [hcall] at h
          cases h
        | ok answer =>
          obtain ⟨response, t⟩ := answer
          rw [hcall] at h
          dsimp only at h ⊢
          split at h
          · cases h
          · rename_i hclose
            split at h
            · cases h
            · rename_i hclose'
              rw [if_neg hclose, if_neg hclose']
              obtain ⟨responses, hrest⟩ := ih h
              exact ⟨response :: responses, callAll_cons.mpr ⟨response, t, responses, hcall, hrest, rfl⟩⟩

/-- What was sent for a request is what the handler returned for it, in some state. -/
theorem answered_requestLoop {fuel : ℕ} {s : σ} {input : Bytes} {x : Exchange}
    (hx : x ∈ (requestLoop (some handler) fuel s input).exchanges) :
    ∃ t response t', handler t x.request = .ok (response, t') ∧ x = exchangeOf x.request response := by
  induction fuel generalizing s input with
  | zero => cases hx
  | succ fuel ih =>
    rw [requestLoop] at hx
    cases hp : parseRequest input with
    | error e =>
      rw [hp] at hx
      cases hx
    | ok taken =>
      cases taken with
      | none =>
        rw [hp] at hx
        cases hx
      | some taken =>
        obtain ⟨request, unread⟩ := taken
        rw [hp] at hx
        dsimp only at hx
        cases hcall : callHandler (some handler) s request with
        | error e =>
          rw [hcall] at hx
          cases hx
        | ok answer =>
          obtain ⟨response, t⟩ := answer
          rw [hcall] at hx
          have hone : ∃ t response' t', handler t request = .ok (response', t') ∧
              exchangeOf request response = exchangeOf request response' :=
            ⟨s, response, t, hcall, rfl⟩
          dsimp only at hx
          split at hx
          · obtain rfl := List.mem_singleton.mp hx
            exact hone
          · split at hx
            · obtain rfl := List.mem_singleton.mp hx
              exact hone
            · obtain rfl | hx := List.mem_cons.mp hx
              · exact hone
              · exact ih hx

theorem answered_serveClient {s : σ} {input : Bytes} {chunks : List Bytes} {x : Exchange}
    (hx : x ∈ (serveClient (some handler) s input chunks).exchanges) :
    ∃ t response t', handler t x.request = .ok (response, t') ∧ x = exchangeOf x.request response := by
  induction chunks generalizing s input with
  | nil => cases hx
  | cons chunk chunks ih =>
    rw [serveClient] at hx
    split at hx
    · cases hx
    · unfold Served.andThen drain at hx
      cases hending : (requestLoop (some handler) ((input ++ chunk).length + 1) s
          (input ++ chunk)).ending with
      | waiting t unread =>
        rw [hending] at hx
        obtain hx | hx := List.mem_append.mp hx
        · exact answered_requestLoop hx
        · exact ih hx
      | closed =>
        rw [hending] at hx
        exact answered_requestLoop hx
      | escaped request e =>
        rw [hending] at hx
        exact answered_requestLoop hx

theorem serveClient_calls {s s' : σ} {input rest : Bytes} {chunks : List Bytes}
    (h : (serveClient (some handler) s input chunks).ending = .waiting s' rest) :
    ∃ responses, callAll handler s
      ((serveClient (some handler) s input chunks).exchanges.map Exchange.request) =
        .ok (responses, s') := by
  induction chunks generalizing s input with
  | nil =>
    obtain ⟨rfl, -⟩ := Ending.waiting.inj h
    exact ⟨[], rfl⟩
  | cons chunk chunks ih =>
    rw [serveClient] at h ⊢
    split at h
    · rename_i hchunk
      rw [if_pos hchunk]
      obtain ⟨rfl, -⟩ := Ending.waiting.inj h
      exact ⟨[], rfl⟩
    · rename_i hchunk
      rw [if_neg hchunk]
      unfold Served.andThen drain at h ⊢
      cases hending : (requestLoop (some handler) ((input ++ chunk).length + 1) s
          (input ++ chunk)).ending with
      | waiting t unread =>
        rw [hending] at h
        obtain ⟨xs, hfirst⟩ := requestLoop_calls hending
        obtain ⟨ys, hsecond⟩ := ih h
        dsimp only
        rw [List.map_append]
        exact ⟨xs ++ ys, callAll_append.mpr ⟨xs, t, ys, hfirst, hsecond, rfl⟩⟩
      | closed =>
        rw [hending] at h
        cases hending.symm.trans h
      | escaped request e =>
        rw [hending] at h
        cases hending.symm.trans h

end Stream
end AirPlay2
