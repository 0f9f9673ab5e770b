import AirPlay2.Http.Serve
import AirPlay2.Lib.Runs

/- One connection as it runs: `serve_client` call by call, on a server that may stop, with a
   `recv` that may fail and a `send` that may take less than it is given, which the server does
   not notice. Wherever this leads, the requests handled are the first of those that an
   undisturbed server handles on the chunks that were received, and all of them whenever no
   response is being sent and no `send` has failed; and the bytes on the wire are the responses
   exactly if every `send` took all of its response (`run_served`). -/
namespace AirPlay2
open Lib

/-! ## The calls -/

/-- What a `recv` of one buffer gives. -/
structure Chunk where
  bytes : Bytes
  nonempty : bytes ≠ []
  fits : bytes.length ≤ 8192

/-- What the socket calls of the serving thread return, at one of its steps: whether a client
    was accepted, the bytes received, none at an end or an error, and how many bytes were sent,
    0 for an error. -/
structure SocketCalls where
  accepts : Bool := false
  received : Option Chunk := none
  sent : ℕ := 0

/-- The next call. -/
inductive ClientPoint where
  | check (input : Bytes)
  | receive (input : Bytes)
  | parse (input : Bytes)
  | send (response : Bytes) (closes : Bool) (rest : Bytes)
  | returned
  | escaped

/-- A connection: its handler, and the state of the handlers when it got it and now; what was
    received, handled and put on the wire; and how sending went. -/
structure ConnectionRun (σ : Type*) where
  handler : Option (HttpHandler σ)
  before : σ
  state : σ
  point : ClientPoint := .check []
  chunks : List Bytes := []
  exchanges : List Exchange := []
  wire : Bytes := []
  complete : Bool := true
  failed : Bool := false

namespace ConnectionRun

variable {σ : Type*}

/-- The connection of a client that was accepted. -/
def accepted (handler : Option (HttpHandler σ)) (s : σ) : ConnectionRun σ :=
  { handler := handler, before := s, state := s }

/-- `recv`, and what is appended. -/
def receive (c : ConnectionRun σ) (input : Bytes) : Option Chunk → ConnectionRun σ
  | none => { c with point := .returned }
  | some chunk =>
    -- `input.append` past the size of a string
    if maxSize < (input ++ chunk.bytes).length then { c with point := .escaped }
    else { c with chunks := c.chunks ++ [chunk.bytes], point := .parse (input ++ chunk.bytes) }

/-- The handler is called, and what it returns is written. -/
def answer (c : ConnectionRun σ) (request : HttpRequest) (rest : Bytes) : ConnectionRun σ :=
  match callHandler c.handler c.state request with
  | .error _ => { c with point := .escaped }
  | .ok (response, s) =>
    let response := withDefaults request response
    { c with
      state := s
      exchanges := c.exchanges ++ [{ request := request, response := responseBytes response }]
      point := .send (responseBytes response)
        (asksToClose request.headers || asksToClose response.headers) rest }

/-- `send`, of which the server sees an error only. -/
def send (c : ConnectionRun σ) (response : Bytes) (next : ClientPoint) (sent : ℕ) : ConnectionRun σ :=
  if sent = 0 then { c with failed := true, complete := false, point := .returned }
  else
    { c with
      wire := c.wire ++ response.take sent
      complete := c.complete && decide (response.length ≤ sent)
      point := next }

def step (c : ConnectionRun σ) (running : Bool) (calls : SocketCalls) : ConnectionRun σ :=
  match c.point with
  | .check input => { c with point := if running then .receive input else .returned }
  | .receive input => c.receive input calls.received
  | .parse input =>
    match parseRequest input with
    | .error _ => { c with point := .escaped }
    | .ok none => { c with point := .check input }
    | .ok (some (request, rest)) => c.answer request rest
  -- `closes` stands for the two headers looked at behind the `send`
  | .send response closes rest =>
    c.send response (if closes then .returned else .parse rest) calls.sent
  | .returned | .escaped => c

/-! ## Against the undisturbed server -/

/-- What an undisturbed server does with the chunks that were received. -/
def served (c : ConnectionRun σ) : Served σ := serveClient c.handler c.before [] c.chunks

/-- What is handled next, as long as nothing disturbs it. -/
def ahead (c : ConnectionRun σ) : Served σ :=
  match c.point with
  | .check input | .receive input => ⟨[], .waiting c.state input⟩
  | .parse input => drain c.handler c.state input
  | .send _ closes rest => if closes then ⟨[], .closed⟩ else drain c.handler c.state rest
  | .returned | .escaped => ⟨[], .closed⟩

/-- The response that is being sent. -/
def pending (c : ConnectionRun σ) : Bytes :=
  match c.point with
  | .send response _ _ => response
  | _ => []

end ConnectionRun

namespace ClientPoint

/-- The bytes that wait in the buffer of the connection. -/
def input : ClientPoint → Bytes
  | .check input | .receive input | .parse input => input
  | .send _ _ rest => rest
  | .returned | .escaped => []

def ended : ClientPoint → Bool
  | .returned | .escaped => true
  | _ => false

/-- In the inner loop. -/
def handling : ClientPoint → Bool
  | .parse _ | .send _ _ _ => true
  | _ => false

def sending : ClientPoint → Bool
  | .send _ _ _ => true
  | _ => false

/-- With an exception. -/
def isEscaped : ClientPoint → Bool
  | .escaped => true
  | _ => false

end ClientPoint

/-! ## The undisturbed server, chunk by chunk -/

section Serve

variable {σ : Type*}

/-- Serving that starts with these exchanges. -/
def Served.behind (r : Served σ) (xs : List Exchange) : Served σ :=
  { r with exchanges := xs ++ r.exchanges }

theorem Served.cons_behind (r : Served σ) (x : Exchange) (xs : List Exchange) :
    (r.cons x).behind xs = r.behind (xs ++ [x]) := by
  simp [Served.cons, Served.behind]

theorem serveClient_append (handler : Option (HttpHandler σ)) (s : σ) (input : Bytes)
    {chunks : List Bytes} (hne : ∀ c ∈ chunks, c ≠ []) (more : List Bytes) :
    serveClient handler s input (chunks ++ more) =
      (serveClient handler s input chunks).andThen
        (fun s rest => serveClient handler s rest more) := by
  induction chunks generalizing s input with
  | nil => simp [serveClient, Served.andThen]
  | cons chunk chunks ih =>
    have hchunk := hne chunk List.mem_cons_self
    rw [List.cons_append, serveClient_cons handler hchunk, serveClient_cons handler hchunk,
      Served.andThen_assoc]
    congr 1
    funext s' rest
    exact ih s' rest (fun c hc => hne c (List.mem_cons_of_mem _ hc))

theorem serveClient_one (handler : Option (HttpHandler σ)) (s : σ) (input : Bytes) {chunk : Bytes}
    (hne : chunk ≠ []) :
    serveClient handler s input [chunk] = drain handler s (input ++ chunk) := by
  rw [serveClient_cons handler hne]
  generalize drain handler s (input ++ chunk) = r
  obtain ⟨exchanges, ending⟩ := r
  cases ending with
  | waiting s' rest => simp [Served.andThen, serveClient]
  | closed => rfl
  | escaped request e => rfl

/-- A chunk more, where the server waits for one. -/
theorem serveClient_snoc {handler : Option (HttpHandler σ)} {s s' : σ} {input : Bytes}
    {chunks : List Bytes} {xs : List Exchange} (hne : ∀ c ∈ chunks, c ≠ [])
    (h : serveClient handler s [] chunks = ⟨xs, .waiting s' input⟩) {chunk : Bytes}
    (hchunk : chunk ≠ []) :
    serveClient handler s [] (chunks ++ [chunk]) =
      (drain handler s' (input ++ chunk)).behind xs := by
  rw [serveClient_append handler s [] hne, h]
  show (serveClient handler s' input [chunk]).behind xs = _
  rw [serveClient_one handler s' input hchunk]

theorem responseBytes_pos (response : HttpResponse) : 0 < (responseBytes response).length := by
  simp only [responseBytes, List.length_append, crlf, List.length_cons]
  omega

end Serve

namespace ConnectionRun

variable {σ : Type*} {c : ConnectionRun σ}

/-! ## What holds at each call -/

/-- The invariant of a connection. -/
structure Sound (c : ConnectionRun σ) : Prop where
  chunks : ∀ chunk ∈ c.chunks, chunk ≠ []
  fits : c.point.input.length ≤ maxSize
  served : c.point.ended = false → c.served = c.ahead.behind c.exchanges
  ended : c.point.ended = true → c.exchanges <+: c.served.exchanges
  whole : c.point.ended = true → c.failed = false → c.exchanges = c.served.exchanges
  failed : c.failed = true → c.point = .returned ∧ c.complete = false
  busy : c.point.sending = true → c.pending ≠ []
  delivered : c.complete = true → c.wire ++ c.pending = c.exchanges.flatMap Exchange.response
  short : c.complete = false →
    (c.wire ++ c.pending).length < (c.exchanges.flatMap Exchange.response).length

theorem sound_accepted (handler : Option (HttpHandler σ)) (s : σ) :
    (accepted handler s).Sound :=
  ⟨nofun, Nat.zero_le _, fun _ => rfl, nofun, nofun, nofun, nofun, fun _ => rfl, nofun⟩

/-- A point at which nothing has failed yet. -/
theorem Sound.not_failed (h : c.Sound) (hp : c.point ≠ .returned) : c.failed = false := by
  rw [← Bool.not_eq_true]
  intro hfailed
  exact hp (h.failed hfailed).1

/-- A step from a point where nothing is being sent to another. -/
theorem Sound.goes (h : c.Sound) (hp : c.point.ended = false) (hsending : c.point.sending = false)
    {p : ClientPoint} (hfits : p.input.length ≤ maxSize) (hpsending : p.sending = false)
    (hserved : p.ended = false → c.ahead = { c with point := p }.ahead)
    (hended : p.ended = true → c.served.exchanges = c.exchanges) :
    ({ c with point := p } : ConnectionRun σ).Sound := by
  have hnot : c.point ≠ .returned := by
    intro hreturned
    rw [hreturned] at hp
    cases hp
  have hpending : ∀ q : ClientPoint, q.sending = false →
      ({ c with point := q } : ConnectionRun σ).pending = [] := by
    intro q hq
    cases q with
    | send response closes rest => cases hq
    | check input => rfl
    | receive input => rfl
    | parse input => rfl
    | returned => rfl
    | escaped => rfl
  have hnone : c.pending = [] := hpending c.point hsending
  have hdelivered := h.delivered
  have hshort := h.short
  rw [hnone] at hdelivered hshort
  refine ⟨h.chunks, hfits, ?_, ?_, ?_, ?_, by rw [hpsending]; nofun, ?_, ?_⟩
  · intro hp'
    exact (h.served hp).trans (congrArg (Served.behind · c.exchanges) (hserved hp'))
  · intro hp'
    exact (hended hp').symm ▸ List.prefix_rfl
  · intro hp' _
    exact (hended hp').symm
  · intro hfailed
    exact absurd hfailed (by rw [h.not_failed hnot]; decide)
  · rw [hpending p hpsending]
    exact hdelivered
  · rw [hpending p hpsending]
    exact hshort

theorem Sound.receive (h : c.Sound) {input : Bytes} (hp : c.point = .receive input)
    (received : Option Chunk) : (c.receive input received).Sound := by
  have hserved : c.served = ⟨c.exchanges, .waiting c.state input⟩ := by
    have hahead := h.served (by rw [hp]; rfl)
    rw [ahead, hp] at hahead
    simpa [Served.behind] using hahead
  have hends : ∀ p : ClientPoint, p.ended = true → p.sending = false → p.input = [] →
      ({ c with point := p } : ConnectionRun σ).Sound := by
    intro p hended hsending hinput
    refine h.goes (by rw [hp]; rfl) (by rw [hp]; rfl) (by rw [hinput]; exact Nat.zero_le _) hsending
      (by rw [hended]; nofun) ?_
    intro _
    rw [hserved]
  unfold ConnectionRun.receive
  cases received with
  | none => exact hends .returned rfl rfl rfl
  | some chunk =>
    dsimp only
    split
    · exact hends .escaped rfl rfl rfl
    · rename_i hsize
      have hdelivered := h.delivered
      have hshort := h.short
      rw [pending, hp] at hdelivered hshort
      refine ⟨?_, not_lt.mp hsize, ?_, nofun, nofun, ?_, nofun, hdelivered, hshort⟩
      · intro chunk' hmem
        obtain hmem | hmem := List.mem_append.mp hmem
        · exact h.chunks chunk' hmem
        · obtain rfl := List.mem_singleton.mp hmem
          exact chunk.nonempty
      · intro _
        exact serveClient_snoc h.chunks hserved chunk.nonempty
      · intro hfailed
        have hno := h.not_failed (by rw [hp]; nofun)
        rw [hno] at hfailed
        cases hfailed

/-- A turn of the inner loop up to the response. -/
theorem drain_answered {handler : Option (HttpHandler σ)} {s s' : σ} {input rest : Bytes}
    {request : HttpRequest} {response : HttpResponse} (hsize : input.length ≤ maxSize)
    (hp : parseRequest input = .ok (some (request, rest)))
    (hc : callHandler handler s request = .ok (response, s')) :
    drain handler s input =
      (if (asksToClose request.headers ||
          asksToClose (withDefaults request response).headers) = true then ⟨[], .closed⟩
        else drain handler s' rest).cons
        { request := request, response := responseBytes (withDefaults request response) } := by
  rw [drain_eq handler hsize, hp]
  dsimp only
  rw [hc]
  dsimp only
  cases asksToClose request.headers with
  | true => rfl
  | false =>
    cases asksToClose (withDefaults request response).headers with
    | true => rfl
    | false => rfl

theorem Sound.answer (h : c.Sound) {input : Bytes} (hpoint : c.point = .parse input)
    {request : HttpRequest} {rest : Bytes}
    (hp : parseRequest input = .ok (some (request, rest))) : (c.answer request rest).Sound := by
  have hfits : input.length ≤ maxSize := by
    have := h.fits
    rwa [hpoint] at this
  have hserved : c.served = (drain c.handler c.state input).behind c.exchanges := by
    have hahead := h.served (by rw [hpoint]; rfl)
    rwa [ahead, hpoint] at hahead
  have hno : c.failed = false := h.not_failed (by rw [hpoint]; nofun)
  have hdelivered := h.delivered
  have hshort := h.short
  rw [pending, hpoint] at hdelivered hshort
  unfold ConnectionRun.answer
  cases hc : callHandler c.handler c.state request with
  | error e =>
    refine h.goes (by rw [hpoint]; rfl) (by rw [hpoint]; rfl) (Nat.zero_le _) rfl nofun ?_
    intro _
    rw [hserved, drain_eq c.handler hfits, hp]
    dsimp only
    rw [hc]
    exact List.append_nil c.exchanges
  | ok answered =>
    obtain ⟨response, s'⟩ := answered
    have hrest := parseRequest_shrinks hfits hp
    dsimp only
    refine ⟨h.chunks, hrest.le.trans hfits, ?_, nofun, nofun, ?_, ?_, ?_, ?_⟩
    · intro _
      show c.served = _
      rw [hserved, drain_answered hfits hp hc, Served.cons_behind]
      rfl
    · intro hfailed
      rw [hno] at hfailed
      cases hfailed
    · intro _
      exact List.length_pos_iff.mp (responseBytes_pos _)
    · intro hcomplete
      have hwire := hdelivered hcomplete
      rw [List.append_nil] at hwire
      show c.wire ++ responseBytes _ = _
      rw [hwire, List.flatMap_append]
      simp
    · intro hcomplete
      have hlt := hshort hcomplete
      rw [List.append_nil] at hlt
      show (c.wire ++ responseBytes _).length < _
      rw [List.flatMap_append, List.length_append, List.length_append]
      simpa using hlt

theorem Sound.parse (h : c.Sound) {input : Bytes} (hpoint : c.point = .parse input) (running : Bool)
    (calls : SocketCalls) : (c.step running calls).Sound := by
  have hfits : input.length ≤ maxSize := by
    have := h.fits
    rwa [hpoint] at this
  have hserved : c.served = (drain c.handler c.state input).behind c.exchanges := by
    have hahead := h.served (by rw [hpoint]; rfl)
    rwa [ahead, hpoint] at hahead
  have hdrain := drain_eq c.handler (s := c.state) hfits
  unfold ConnectionRun.step
  rw [hpoint]
  dsimp only
  cases hp : parseRequest input with
  | error e =>
    refine h.goes (by rw [hpoint]; rfl) (by rw [hpoint]; rfl) (Nat.zero_le _) rfl nofun ?_
    intro _
    rw [hserved, hdrain, hp]
    exact List.append_nil c.exchanges
  | ok taken =>
    cases taken with
    | none =>
      refine h.goes (by rw [hpoint]; rfl) (by rw [hpoint]; rfl) hfits rfl ?_ nofun
      intro _
      rw [ahead, hpoint]
      dsimp only
      rw [hdrain, hp]
      rfl
    | some taken =>
      obtain ⟨request, rest⟩ := taken
      exact h.answer hpoint hp

theorem Sound.send (h : c.Sound) {response rest : Bytes} {closes : Bool}
    (hpoint : c.point = .send response closes rest) (sent : ℕ) :
    (c.send response (if closes then .returned else .parse rest) sent).Sound := by
  have hserved := h.served (by rw [hpoint]; rfl)
  have hno : c.failed = false := h.not_failed (by rw [hpoint]; nofun)
  have hfits := h.fits
  have hbusy := h.busy
  have hdelivered := h.delivered
  have hshort := h.short
  rw [ahead, hpoint] at hserved
  rw [pending, hpoint] at hbusy hdelivered hshort
  rw [hpoint] at hfits
  dsimp only at hserved hdelivered hshort hfits
  have hpos : 0 < response.length := List.length_pos_iff.mpr (hbusy rfl)
  have htotal : (c.wire ++ response).length ≤ (c.exchanges.flatMap Exchange.response).length := by
    cases hcomplete : c.complete with
    | true => rw [hdelivered hcomplete]
    | false => exact (hshort hcomplete).le
  rw [List.length_append] at htotal
  unfold ConnectionRun.send
  split
  · -- an error: the request was handled, and its response is lost
    refine ⟨h.chunks, Nat.zero_le _, nofun, ?_, nofun, fun _ => ⟨rfl, rfl⟩, nofun, nofun, ?_⟩
    · intro _
      show c.exchanges <+: c.served.exchanges
      rw [hserved]
      exact List.prefix_append _ _
    · intro _
      show (c.wire ++ []).length < (c.exchanges.flatMap Exchange.response).length
      rw [List.append_nil]
      omega
  -- the wire is complete if this response and all before it were taken whole
  · have hwire : (c.complete && decide (response.length ≤ sent)) = true →
        c.wire ++ response.take sent = c.exchanges.flatMap Exchange.response := by
      intro hcomplete
      rw [Bool.and_eq_true, decide_eq_true_eq] at hcomplete
      rw [List.take_of_length_le hcomplete.2]
      exact hdelivered hcomplete.1
    -- and what one `send` has left out no later one makes up for
    have hless : (c.complete && decide (response.length ≤ sent)) = false →
        (c.wire ++ response.take sent).length <
          (c.exchanges.flatMap Exchange.response).length := by
      intro hcomplete
      rw [List.length_append, List.length_take]
      rw [Bool.and_eq_false_iff, decide_eq_false_iff_not] at hcomplete
      obtain hcomplete | hcut := hcomplete
      · have := hshort hcomplete
        rw [List.length_append] at this
        omega
      · omega
    cases closes with
    | true =>
      refine ⟨h.chunks, Nat.zero_le _, nofun, ?_, ?_, ?_, nofun, ?_, ?_⟩
      · intro _
        show c.exchanges <+: c.served.exchanges
        rw [hserved]
        exact List.prefix_append _ _
      · intro _ _
        show c.exchanges = c.served.exchanges
        rw [hserved]
        exact (List.append_nil c.exchanges).symm
      · intro hfailed
        rw [hno] at hfailed
        cases hfailed
      · intro hcomplete
        exact (List.append_nil _).trans (hwire hcomplete)
      · intro hcomplete
        exact (congrArg List.length (List.append_nil _)).trans_lt (hless hcomplete)
    | false =>
      refine ⟨h.chunks, hfits, fun _ => hserved, nofun, nofun, ?_, nofun, ?_, ?_⟩
      · intro hfailed
        rw [hno] at hfailed
        cases hfailed
      · intro hcomplete
        exact (List.append_nil _).trans (hwire hcomplete)
      · intro hcomplete
        exact (congrArg List.length (List.append_nil _)).trans_lt (hless hcomplete)

theorem Sound.step (h : c.Sound) (running : Bool) (calls : SocketCalls) :
    (c.step running calls).Sound := by
  cases hpoint : c.point with
  | check input =>
    have hfits := h.fits
    have hserved := h.served (by rw [hpoint]; rfl)
    rw [hpoint] at hfits
    rw [ahead, hpoint] at hserved
    unfold ConnectionRun.step
    rw [hpoint]
    cases running with
    | true =>
      refine h.goes (by rw [hpoint]; rfl) (by rw [hpoint]; rfl) hfits rfl ?_ nofun
      intro _
      rw [ahead, hpoint]
      rfl
    | false =>
      refine h.goes (by rw [hpoint]; rfl) (by rw [hpoint]; rfl) (Nat.zero_le _) rfl nofun ?_
      intro _
      rw [hserved]
      exact List.append_nil c.exchanges
  | receive input =>
    have hreceive := h.receive hpoint calls.received
    simpa only [ConnectionRun.step, hpoint] using hreceive
  | parse input => exact h.parse hpoint running calls
  | send response closes rest =>
    have hsend := h.send hpoint calls.sent
    simpa only [ConnectionRun.step, hpoint] using hsend
  | returned => simpa only [ConnectionRun.step, hpoint] using h
  | escaped => simpa only [ConnectionRun.step, hpoint] using h

/-- Who answers the connection, and from which state, does not change. -/
theorem step_handler (c : ConnectionRun σ) (running : Bool) (calls : SocketCalls) :
    (c.step running calls).handler = c.handler ∧ (c.step running calls).before = c.before := by
  unfold ConnectionRun.step
  split
  · exact ⟨rfl, rfl⟩
  · unfold ConnectionRun.receive
    split
    · exact ⟨rfl, rfl⟩
    · split
      · exact ⟨rfl, rfl⟩
      · exact ⟨rfl, rfl⟩
  · split
    · exact ⟨rfl, rfl⟩
    · exact ⟨rfl, rfl⟩
    · unfold ConnectionRun.answer
      split
      · exact ⟨rfl, rfl⟩
      · exact ⟨rfl, rfl⟩
  · unfold ConnectionRun.send
    split
    · exact ⟨rfl, rfl⟩
    · exact ⟨rfl, rfl⟩
  · exact ⟨rfl, rfl⟩
  · exact ⟨rfl, rfl⟩

/-- What holds of a connection at any point, in terms of the undisturbed server. -/
structure Answers (c : ConnectionRun σ) : Prop where
  first : c.exchanges <+: c.served.exchanges
  all : c.point.handling = false → c.failed = false → c.exchanges = c.served.exchanges
  wire : c.point.sending = false →
    (c.wire = c.exchanges.flatMap Exchange.response ↔ c.complete = true)

theorem Sound.answers (h : c.Sound) : c.Answers := by
  refine ⟨?_, ?_, ?_⟩
  · cases hended : c.point.ended with
    | true => exact h.ended hended
    | false =>
      rw [h.served hended]
      exact List.prefix_append _ _
  · intro hhandling hfailed
    cases hpoint : c.point with
    | check input =>
      have hserved := h.served (by rw [hpoint]; rfl)
      rw [ahead, hpoint] at hserved
      rw [hserved]
      exact (List.append_nil c.exchanges).symm
    | receive input =>
      have hserved := h.served (by rw [hpoint]; rfl)
      rw [ahead, hpoint] at hserved
      rw [hserved]
      exact (List.append_nil c.exchanges).symm
    | parse input =>
      rw [hpoint] at hhandling
      cases hhandling
    | send response closes rest =>
      rw [hpoint] at hhandling
      cases hhandling
    | returned => exact h.whole (by rw [hpoint]; rfl) hfailed
    | escaped => exact h.whole (by rw [hpoint]; rfl) hfailed
  · intro hsending
    have hnone : c.pending = [] := by
      unfold pending
      cases hpoint : c.point with
      | send response closes rest =>
        rw [hpoint] at hsending
        cases hsending
      | check input => rfl
      | receive input => rfl
      | parse input => rfl
      | returned => rfl
      | escaped => rfl
    have hdelivered := h.delivered
    have hshort := h.short
    rw [hnone, List.append_nil] at hdelivered hshort
    refine ⟨?_, hdelivered⟩
    intro hwire
    by_contra hcomplete
    have hlt := hshort (by simpa using hcomplete)
    rw [hwire] at hlt
    exact lt_irrefl _ hlt

/-! ## Runs -/

/-- What the flag is found to be, and what the calls return, at each step. -/
def runFrom (handler : Option (HttpHandler σ)) (s : σ) (inputs : List (Bool × SocketCalls)) :
    ConnectionRun σ :=
  run (fun c i => c.step i.1 i.2) (accepted handler s) inputs

theorem sound_runFrom (handler : Option (HttpHandler σ)) (s : σ)
    (inputs : List (Bool × SocketCalls)) : (runFrom handler s inputs).Sound := by
  apply run_induction (P := fun c : ConnectionRun σ => c.Sound)
  · intro c i h
    exact h.step i.1 i.2
  · exact sound_accepted handler s

theorem served_runFrom (handler : Option (HttpHandler σ)) (s : σ)
    (inputs : List (Bool × SocketCalls)) :
    (runFrom handler s inputs).served =
      serveClient handler s [] (runFrom handler s inputs).chunks := by
  have hkept : (runFrom handler s inputs).handler = handler ∧
      (runFrom handler s inputs).before = s := by
    apply run_induction (P := fun c : ConnectionRun σ => c.handler = handler ∧ c.before = s)
    · intro c i hc
      obtain ⟨hhandler, hbefore⟩ := c.step_handler i.1 i.2
      exact ⟨hhandler.trans hc.1, hbefore.trans hc.2⟩
    · exact ⟨rfl, rfl⟩
  rw [served, hkept.1, hkept.2]

/-- **A connection, whatever its calls return.** The requests handled are the first of those that
    an undisturbed server handles on the chunks received, and all of them unless one is being
    handled or a `send` has failed; and between two sends the wire carries their responses exactly
    if every `send` took all it was given. -/
theorem run_served (handler : Option (HttpHandler σ)) (s : σ) (inputs : List (Bool × SocketCalls)) :
    let c := runFrom handler s inputs
    c.exchanges <+: (serveClient handler s [] c.chunks).exchanges ∧
      (c.point.handling = false → c.failed = false →
        c.exchanges = (serveClient handler s [] c.chunks).exchanges) ∧
      (c.point.sending = false →
        (c.wire = c.exchanges.flatMap Exchange.response ↔ c.complete = true)) := by
  intro c
  have hanswers : c.Answers := (sound_runFrom handler s inputs).answers
  have hserved : c.served = serveClient handler s [] c.chunks := served_runFrom handler s inputs
  refine ⟨?_, ?_, hanswers.wire⟩
  · rw [← hserved]
    exact hanswers.first
  · rw [← hserved]
    exact hanswers.all

end ConnectionRun
end AirPlay2
