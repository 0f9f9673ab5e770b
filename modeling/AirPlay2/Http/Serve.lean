import AirPlay2.Http.Request

/- One connection (`HttpServer::Impl::serve_client`) over a handler that is a state
   machine: receive a chunk, append it to the buffer, and answer every request the
   buffer holds. The server is running and every send succeeds; the connection ends
   when a `recv` returns no bytes, when one side asks for it, or with an exception.

   `parse_request` takes, throws or waits alike on a buffer and on every longer one
   that starts with it, except that waiting may end (`drain_append`); so a chunk may
   as well arrive in two parts (`serveClient_split`), and what a connection does is
   what it does when the stream arrives byte by byte (`serveClient_eq_bytes`). -/
namespace AirPlay2
open Lib

variable {σ : Type*}

abbrev HttpHandler (σ : Type*) := σ → HttpRequest → Except StdException (HttpResponse × σ)

/-- A request answered, with the bytes sent for it. -/
structure Exchange where
  request : HttpRequest
  response : Bytes
  deriving DecidableEq

/-- How serving stops: for want of bytes, on a `Connection: close`, or with an
    exception from the parser (no request) or from the handler on a request. -/
inductive Ending (σ : Type*) where
  | waiting (s : σ) (input : Bytes)
  | closed
  | escaped (request : Option HttpRequest) (e : StdException)
  deriving DecidableEq

structure Served (σ : Type*) where
  exchanges : List Exchange
  ending : Ending σ
  deriving DecidableEq

/-- `std::to_string(response.status)`. -/
def statusText (status : ℤ) : Bytes :=
  if status < 0 then 45 :: toDecimal status.natAbs else toDecimal status.natAbs

/-- The reason and protocol filled in where the handler left them empty. -/
def withDefaults (request : HttpRequest) (response : HttpResponse) : HttpResponse :=
  { response with
    reason :=
      if response.reason = [] then (if response.status = 200 then ascii "OK" else ascii "Error")
      else response.reason
    protocol :=
      if response.protocol = [] then
        (if request.protocol = [] then ascii "HTTP/1.1" else request.protocol)
      else response.protocol }

def responseBytes (response : HttpResponse) : Bytes :=
  response.protocol ++ ascii " " ++ statusText response.status ++ ascii " " ++ response.reason ++
    crlf ++
  (if response.contentType = [] then []
    else ascii "Content-Type: " ++ response.contentType ++ crlf) ++
  ascii "Content-Length: " ++ toDecimal response.body.length ++ crlf ++
  response.headers.entries.flatMap (fun header => header.1 ++ ascii ": " ++ header.2 ++ crlf) ++
  crlf ++ response.body

/-- `header_value(headers, "Connection") == "close"`. -/
def asksToClose (headers : OrdMap Bytes Bytes) : Bool :=
  headerValue headers (ascii "Connection") == ascii "close"

/-- `handler ? handler(request) : HttpResponse{}`. -/
def callHandler (handler : Option (HttpHandler σ)) (s : σ) (request : HttpRequest) :
    Except StdException (HttpResponse × σ) :=
  match handler with
  | none => .ok ({}, s)
  | some handler => handler s request

namespace Served

/-- Serving that starts with an exchange. -/
def cons (e : Exchange) (r : Served σ) : Served σ := { r with exchanges := e :: r.exchanges }

/-- Serving that goes on with `next` where it stopped for want of bytes. -/
def andThen (r : Served σ) (next : σ → Bytes → Served σ) : Served σ :=
  match r.ending with
  | .waiting s input =>
    { exchanges := r.exchanges ++ (next s input).exchanges, ending := (next s input).ending }
  | .closed => r
  | .escaped _ _ => r

end Served

/-- The inner loop: requests are answered until the buffer holds none. A request
    taken makes the buffer shorter, so its length is fuel enough. -/
def requestLoop (handler : Option (HttpHandler σ)) : ℕ → σ → Bytes → Served σ
  | 0, s, input => ⟨[], .waiting s input⟩
  | fuel + 1, s, input =>
    match parseRequest input with
    | .error e => ⟨[], .escaped none e⟩
    | .ok none => ⟨[], .waiting s input⟩
    | .ok (some (request, rest)) =>
      match callHandler handler s request with
      | .error e => ⟨[], .escaped (some request) e⟩
      | .ok (response, s) =>
        let response := withDefaults request response
        let exchange := { request := request, response := responseBytes response }
        if asksToClose request.headers then ⟨[exchange], .closed⟩
        else if asksToClose response.headers then ⟨[exchange], .closed⟩
        else (requestLoop handler fuel s rest).cons exchange

/-- The inner loop on a buffer. -/
def drain (handler : Option (HttpHandler σ)) (s : σ) (input : Bytes) : Served σ :=
  requestLoop handler (input.length + 1) s input

/-- The outer loop over the chunks `recv` returns, an empty one being its end. -/
def serveClient (handler : Option (HttpHandler σ)) (s : σ) (input : Bytes) :
    List Bytes → Served σ
  | [] => ⟨[], .waiting s input⟩
  | chunk :: chunks =>
    if chunk = [] then ⟨[], .waiting s input⟩
    else
      (drain handler s (input ++ chunk)).andThen (fun s rest => serveClient handler s rest chunks)

namespace Served

@[simp] theorem cons_andThen (e : Exchange) (r : Served σ) (next : σ → Bytes → Served σ) :
    (r.cons e).andThen next = (r.andThen next).cons e := by
  obtain ⟨exchanges, ending⟩ := r
  cases ending <;> rfl

theorem andThen_assoc (r : Served σ) (f g : σ → Bytes → Served σ) :
    (r.andThen f).andThen g = r.andThen (fun s input => (f s input).andThen g) := by
  obtain ⟨exchanges, ending⟩ := r
  cases ending with
  | waiting s input =>
    simp only [andThen]
    generalize f s input = middle
    obtain ⟨answered, stop⟩ := middle
    cases stop with
    | waiting s' input' => simp
    | closed => rfl
    | escaped request e => rfl
  | closed => rfl
  | escaped request e => rfl

theorem andThen_congr {r : Served σ} {f g : σ → Bytes → Served σ}
    (h : ∀ s input, r.ending = .waiting s input → f s input = g s input) :
    r.andThen f = r.andThen g := by
  obtain ⟨exchanges, ending⟩ := r
  cases ending with
  | waiting s input => simp only [andThen, h s input rfl]
  | closed => rfl
  | escaped request e => rfl

end Served

variable (handler : Option (HttpHandler σ))

/-! ## The inner loop -/

/-- Fuel past the length of the buffer changes nothing. -/
theorem requestLoop_fuel {fuel fuel' : ℕ} {s : σ} {input : Bytes}
    (hsize : input.length ≤ maxSize) (h : input.length < fuel) (h' : input.length < fuel') :
    requestLoop handler fuel s input = requestLoop handler fuel' s input := by
  induction fuel generalizing fuel' s input with
  | zero => omega
  | succ fuel ih =>
    cases fuel' with
    | zero => omega
    | succ fuel' =>
      simp only [requestLoop]
      cases hp : parseRequest input with
      | error e => rfl
      | ok taken =>
        match taken with
        | none => rfl
        | some (request, rest) =>
          have hshrinks := parseRequest_shrinks hsize hp
          have hrec : ∀ s',
              requestLoop handler fuel s' rest = requestLoop handler fuel' s' rest := by
            intro s'
            apply ih <;> omega
          simp only [hrec]

/-- One turn of the loop. -/
theorem drain_eq {s : σ} {input : Bytes} (hsize : input.length ≤ maxSize) :
    drain handler s input =
      match parseRequest input with
      | .error e => ⟨[], .escaped none e⟩
      | .ok none => ⟨[], .waiting s input⟩
      | .ok (some (request, rest)) =>
        match callHandler handler s request with
        | .error e => ⟨[], .escaped (some request) e⟩
        | .ok (response, s) =>
          let response := withDefaults request response
          let exchange := { request := request, response := responseBytes response }
          if asksToClose request.headers then ⟨[exchange], .closed⟩
          else if asksToClose response.headers then ⟨[exchange], .closed⟩
          else (drain handler s rest).cons exchange := by
  unfold drain
  rw [requestLoop]
  cases hp : parseRequest input with
  | error e => rfl
  | ok taken =>
    match taken with
    | none => rfl
    | some (request, rest) =>
      have hshrinks := parseRequest_shrinks hsize hp
      have hrec : ∀ s', requestLoop handler input.length s' rest
          = requestLoop handler (rest.length + 1) s' rest := by
        intro s'
        apply requestLoop_fuel handler <;> omega
      simp only [hrec]

/-- The loop on a buffer that gets longer: the requests it holds, then the loop on
    what they leave and the new bytes. -/
theorem drain_append {s : σ} {input t : Bytes} (hsize : (input ++ t).length ≤ maxSize) :
    drain handler s (input ++ t) =
      (drain handler s input).andThen (fun s rest => drain handler s (rest ++ t)) := by
  -- On the length of the buffer, which every request taken shortens.
  generalize hn : input.length = n
  induction n using Nat.strong_induction_on generalizing s input with
  | _ n ih =>
    have hle : input.length ≤ maxSize := by rw [List.length_append] at hsize; omega
    rw [drain_eq handler hle]
    cases hp : parseRequest input with
    | error e =>
      rw [drain_eq handler hsize, parseRequest_append_error hp]
      rfl
    | ok taken =>
      match taken with
      | none => rfl
      | some (request, rest) =>
        have hshrinks := parseRequest_shrinks hle hp
        rw [drain_eq handler hsize, parseRequest_append_some hsize hp]
        simp only
        cases hc : callHandler handler s request with
        | error e => rfl
        | ok answer =>
          obtain ⟨response, s'⟩ := answer
          have hrest : (rest ++ t).length ≤ maxSize := by
            rw [List.length_append] at hsize ⊢; omega
          have hrec : drain handler s' (rest ++ t) = _ := ih rest.length (by omega) hrest rfl
          simp only [hrec]
          split
          · rfl
          · split
            · rfl
            · rw [Served.cons_andThen]

/-- The loop leaves no more bytes than it found. -/
theorem length_of_waiting {s s' : σ} {input rest : Bytes} (hsize : input.length ≤ maxSize)
    (h : (drain handler s input).ending = .waiting s' rest) : rest.length ≤ input.length := by
  generalize hn : input.length = n
  induction n using Nat.strong_induction_on generalizing s input with
  | _ n ih =>
    rw [drain_eq handler hsize] at h
    cases hp : parseRequest input with
    | error e => simp [hp] at h
    | ok taken =>
      match taken with
      | none =>
        simp only [hp, Ending.waiting.injEq] at h
        obtain ⟨-, rfl⟩ := h
        omega
      | some (request, rest') =>
        have hshrinks := parseRequest_shrinks hsize hp
        simp only [hp] at h
        cases hc : callHandler handler s request with
        | error e => simp [hc] at h
        | ok answer =>
          obtain ⟨response, t⟩ := answer
          simp only [hc] at h
          split at h
          · simp at h
          · split at h
            · simp at h
            · have hlen := ih rest'.length (by omega) (by omega) h rfl
              omega

/-! ## The connection -/

/-- The receive buffer never outgrows a string. -/
def Fits : σ → Bytes → List Bytes → Prop
  | _, _, [] => True
  | s, input, chunk :: chunks =>
    (input ++ chunk).length ≤ maxSize ∧
      ∀ s' rest, (drain handler s (input ++ chunk)).ending = .waiting s' rest →
        Fits s' rest chunks

/-- It never does on a stream that is no longer than a string. -/
theorem fits_of_length {s : σ} {input : Bytes} {chunks : List Bytes}
    (h : (input ++ chunks.flatten).length ≤ maxSize) : Fits handler s input chunks := by
  induction chunks generalizing s input with
  | nil => trivial
  | cons chunk chunks ih =>
    simp only [List.flatten_cons, List.length_append] at h
    have hle : (input ++ chunk).length ≤ maxSize := by
      rw [List.length_append]; omega
    refine ⟨hle, ?_⟩
    intro s' rest hwait
    have hrest := length_of_waiting handler hle hwait
    rw [List.length_append] at hrest
    apply ih
    rw [List.length_append]
    omega

/-- One turn of the outer loop. -/
theorem serveClient_cons {s : σ} {input chunk : Bytes} (hne : chunk ≠ []) (chunks : List Bytes) :
    serveClient handler s input (chunk :: chunks) =
      (drain handler s (input ++ chunk)).andThen
        (fun s rest => serveClient handler s rest chunks) := by
  rw [serveClient, if_neg hne]

/-- A chunk that arrives in two parts. -/
theorem serveClient_split {s : σ} {input a b : Bytes} (ha : a ≠ []) (hb : b ≠ [])
    (hsize : (input ++ (a ++ b)).length ≤ maxSize) (chunks : List Bytes) :
    serveClient handler s input ((a ++ b) :: chunks) =
      serveClient handler s input (a :: b :: chunks) := by
  have hab : a ++ b ≠ [] := by simp [ha]
  rw [← List.append_assoc] at hsize
  rw [serveClient_cons handler hab, serveClient_cons handler ha, ← List.append_assoc,
    drain_append handler hsize, Served.andThen_assoc]
  congr 1
  funext s' rest
  rw [serveClient_cons handler hb]

/-- A chunk that arrives byte by byte. -/
theorem serveClient_bytes {s : σ} {input chunk : Bytes} (hne : chunk ≠ [])
    (hsize : (input ++ chunk).length ≤ maxSize) (chunks : List Bytes) :
    serveClient handler s input (chunk :: chunks) =
      serveClient handler s input (chunk.map (fun b => [b]) ++ chunks) := by
  induction chunk generalizing s input with
  | nil => exact absurd rfl hne
  | cons b chunk ih =>
    by_cases hlast : chunk = []
    · rw [hlast]
      rfl
    · have hone : [b] ≠ [] := List.cons_ne_nil b []
      have hle : (input ++ [b]).length ≤ maxSize := by
        simp only [List.length_append, List.length_cons, List.length_nil] at hsize ⊢
        omega
      calc serveClient handler s input ((b :: chunk) :: chunks)
          = serveClient handler s input ([b] :: chunk :: chunks) :=
            serveClient_split handler hone hlast hsize chunks
        _ = (drain handler s (input ++ [b])).andThen
              (fun s rest => serveClient handler s rest (chunk :: chunks)) :=
            serveClient_cons handler hone _
        _ = (drain handler s (input ++ [b])).andThen
              (fun s rest => serveClient handler s rest (chunk.map (fun b => [b]) ++ chunks)) := by
            apply Served.andThen_congr
            intro s' rest hwait
            have hrest := length_of_waiting handler hle hwait
            apply ih hlast
            simp only [List.length_append, List.length_cons, List.length_nil] at hsize hrest ⊢
            omega
        _ = serveClient handler s input ([b] :: (chunk.map (fun b => [b]) ++ chunks)) :=
            (serveClient_cons handler hone _).symm

/-- However a stream is cut, the connection does what it does byte by byte. -/
theorem serveClient_eq_bytes {s : σ} {input : Bytes} {chunks : List Bytes}
    (hne : ∀ c ∈ chunks, c ≠ []) (hfits : Fits handler s input chunks) :
    serveClient handler s input chunks =
      serveClient handler s input (chunks.flatten.map (fun b => [b])) := by
  induction chunks generalizing s input with
  | nil => rfl
  | cons chunk chunks ih =>
    obtain ⟨hle, hnext⟩ := hfits
    have hchunk := hne chunk List.mem_cons_self
    have hrest : ∀ c ∈ chunks, c ≠ [] := by
      intro c hc
      exact hne c (List.mem_cons_of_mem _ hc)
    calc serveClient handler s input (chunk :: chunks)
        = (drain handler s (input ++ chunk)).andThen
            (fun s rest => serveClient handler s rest chunks) :=
          serveClient_cons handler hchunk chunks
      _ = (drain handler s (input ++ chunk)).andThen
            (fun s rest => serveClient handler s rest (chunks.flatten.map (fun b => [b]))) := by
          apply Served.andThen_congr
          intro s' rest hwait
          exact ih hrest (hnext s' rest hwait)
      _ = serveClient handler s input (chunk :: chunks.flatten.map (fun b => [b])) :=
          (serveClient_cons handler hchunk _).symm
      _ = serveClient handler s input ((chunk :: chunks).flatten.map (fun b => [b])) := by
          rw [serveClient_bytes handler hchunk hle, List.flatten_cons, List.map_append]

/-- A way in which a byte stream can arrive at a handler in state `s`: in non-empty
    chunks, and never more of it unread than a string can hold. -/
structure Cut (s : σ) (stream : Bytes) where
  chunks : List Bytes
  nonempty : ∀ c ∈ chunks, c ≠ []
  whole : chunks.flatten = stream
  fits : Fits handler s [] chunks

/-- Every way of cutting a stream that a string could hold is one. -/
def Cut.ofStdString (s : σ) (stream : StdString) (chunks : List Bytes)
    (nonempty : ∀ c ∈ chunks, c ≠ []) (whole : chunks.flatten = stream.bytes) :
    Cut handler s stream.bytes where
  chunks := chunks
  nonempty := nonempty
  whole := whole
  fits := by
    apply fits_of_length
    rw [List.nil_append, whole]
    exact stream.size_le

/-- **Fragmentation does not matter.** For every handler and every stream, any two
    ways of cutting the stream give the same requests in the same order, the same
    response to each, and the same ending: waiting in the same state with the same
    bytes left, closed, or an exception at the same request. -/
theorem serveClient_cut (s : σ) (stream : Bytes) (c d : Cut handler s stream) :
    serveClient handler s [] c.chunks = serveClient handler s [] d.chunks := by
  rw [serveClient_eq_bytes handler c.nonempty c.fits,
    serveClient_eq_bytes handler d.nonempty d.fits, c.whole, d.whole]

end AirPlay2
