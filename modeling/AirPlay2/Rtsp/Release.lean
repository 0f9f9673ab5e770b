import AirPlay2.Rtsp.Pipeline

/- What a TEARDOWN releases. It closes and destroys the three receivers and resets the
   audio pipeline, which closes its sink; the port fields go with the transport. The
   event server is not among them, so it listens on with its port field zero, from the
   first binary SETUP that gets all its sockets to the end of the session
   (`teardown_released_iff`). -/
namespace AirPlay2
open Lib

/-! ## A sink that knows whether it is open -/

/-- A sink with a record of whether it was opened and not closed since. -/
structure TrackedSink (κ : Type*) where
  sink : κ
  isOpen : Bool := false

instance TrackedSink.audioSink {κ : Type*} [AudioSink κ] : AudioSink (TrackedSink κ) where
  openSink k format :=
    ((AudioSink.openSink k.sink format).1,
      { sink := (AudioSink.openSink k.sink format).2
        isOpen := (AudioSink.openSink k.sink format).1 })
  closeSink k := { sink := AudioSink.closeSink k.sink, isOpen := false }
  write k samples frames :=
    ((AudioSink.write k.sink samples frames).1,
      { k with sink := (AudioSink.write k.sink samples frames).2 })

namespace AudioPipeline

variable {δ κ : Type*} [AlacDecoder δ] [AudioSink κ]

/-- The pipeline counts as opened while its sink is open, and then only. -/
def SinkTracked (p : AudioPipeline δ (TrackedSink κ)) : Prop :=
  ∀ k, p.sink = some k → k.isOpen = p.opened

theorem SinkTracked.reset {p : AudioPipeline δ (TrackedSink κ)} (h : SinkTracked p) :
    ∀ k, p.reset.sink = some k → k.isOpen = false := by
  intro k hk
  unfold AudioPipeline.reset at hk
  cases ho : p.opened with
  | false =>
    simp only [ho, Bool.false_eq_true, if_false] at hk
    exact (h k hk).trans ho
  | true =>
    simp only [ho, if_true] at hk
    obtain ⟨old, -, rfl⟩ := Option.map_eq_some_iff.mp hk
    rfl

theorem SinkTracked.configure {p : AudioPipeline δ (TrackedSink κ)} (h : SinkTracked p)
    (c : AlacConfig) : SinkTracked (p.configure c).2 := by
  unfold AudioPipeline.configure
  split
  · exact h
  · dsimp only
    split
    · rename_i decoder sink hd hs
      split
      · -- the decoder refuses; the pipeline was reset before
        intro k hk
        exact h.reset k hk
      · split
        · rename_i hno
          intro k hk
          obtain rfl := Option.some.inj hk
          rw [Bool.not_eq_true'] at hno
          exact hno
        · rename_i hok
          intro k hk
          obtain rfl := Option.some.inj hk
          rw [Bool.not_eq_true, Bool.not_eq_false'] at hok
          exact hok
    · intro k hk
      exact h.reset k hk

theorem SinkTracked.push {p : AudioPipeline δ (TrackedSink κ)} (h : SinkTracked p)
    (packet : Bytes) : SinkTracked (p.push packet).2 := by
  unfold AudioPipeline.push
  split
  · rename_i decoder sink hd hs
    split
    · exact h
    · dsimp only
      split
      · exact h
      · split
        · exact h
        · split
          · exact h
          · intro k hk
            obtain rfl := Option.some.inj hk
            exact h sink hs
  · exact h

end AudioPipeline

namespace AlacAudioPipeline

variable {δ κ : Type*} [AlacDecoder δ] [AudioSink κ]

def SinkTracked (p : AlacAudioPipeline δ (TrackedSink κ)) : Prop := p.pipeline.SinkTracked

theorem SinkTracked.reset {p : AlacAudioPipeline δ (TrackedSink κ)} (h : SinkTracked p) :
    SinkTracked p.reset :=
  AudioPipeline.SinkTracked.reset h

theorem SinkTracked.configure {p : AlacAudioPipeline δ (TrackedSink κ)} (h : SinkTracked p)
    (c : AlacConfig) : SinkTracked (p.configure c).2 :=
  AudioPipeline.SinkTracked.configure h c

theorem SinkTracked.push {p : AlacAudioPipeline δ (TrackedSink κ)} (h : SinkTracked p)
    (packet : RtpPacket) : SinkTracked (p.push packet).2 := by
  unfold AlacAudioPipeline.push
  split
  · exact h
  · exact AudioPipeline.SinkTracked.push h packet.payload

omit [AlacDecoder δ] [AudioSink κ] in
/-- A constructed pipeline has not opened its sink. -/
theorem sinkTracked_new (decoder : Option δ) (sink : Option κ) :
    SinkTracked (new decoder (sink.map fun k => { sink := k }) :
      AlacAudioPipeline δ (TrackedSink κ)) := by
  intro k hk
  obtain ⟨old, -, rfl⟩ := Option.map_eq_some_iff.mp hk
  rfl

end AlacAudioPipeline

namespace RtspSession

variable {δ κ : Type*}

/-- A TCP event server of the session listens. -/
def Listening (s : RtspSession δ κ) : Prop :=
  ∃ server, s.eventServer = some server ∧ server.running = true

/-- Nothing the session opened is open. -/
structure Released (s : RtspSession δ (TrackedSink κ)) : Prop where
  media : s.media.running = false ∧ s.media.workerRunning = false
  control : s.control.running = false ∧ s.control.workerRunning = false
  timing : s.timing.running = false ∧ s.timing.workerRunning = false
  event : ¬ s.Listening
  eventPort : s.transport.eventPort = 0 → ¬ s.Listening
  sink : ∀ p k, s.alacAudioPipeline = some p → p.pipeline.sink = some k → k.isOpen = false

/-- The event is a first binary SETUP whose socket calls all succeed. -/
def StartsEventChannel (s : RtspSession δ κ) (event : SessionEvent δ κ) : Prop :=
  ∃ r e, event = .request r e ∧ r.verb = .setup ∧ s.setupInfoComplete = false ∧
    isBinaryPlist r.body = true ∧ s.infoBinds e (usesPtp r.body) = true

/-! ## When the event server listens -/

theorem listening_startEventChannel (s : RtspSession δ κ) (outcome : EventOutcome) :
    (s.startEventChannel outcome).2.Listening ↔
      s.startsEvent outcome = true ∨ s.Listening := by
  unfold startEventChannel startsEvent
  split
  · rename_i server hserver
    obtain ⟨hs, hr⟩ := Option.filter_eq_some_iff.mp hserver
    have hlistens : s.Listening := ⟨server, hs, hr⟩
    exact iff_of_true hlistens (Or.inr hlistens)
  · rename_i hnone
    have hno : ¬ s.Listening := by
      intro hlistens
      obtain ⟨server, hs, hr⟩ := hlistens
      simp [hs, hr] at hnone
    cases outcome with
    | failed => exact iff_of_false (by simp [EventServer.start, setEvent, Listening]) (by simp [hno])
    | listening port =>
      simp only [EventServer.start, Bool.false_eq_true, if_false, Bool.not_true]
      by_cases hp : port.getD 0 = 0
      · exact iff_of_false (by simp [hp, setEvent, Listening]) (by simp [hp, hno])
      · simp [hp, setEvent, Listening]

theorem listening_bindInfo (s : RtspSession δ κ) (e : Sockets) (ptp : Bool) :
    (s.bindInfo e ptp).2.Listening ↔ s.infoBinds e ptp = true ∨ s.Listening := by
  have hok := bindInfo_ok s e ptp
  rw [← hok]
  unfold bindInfo
  dsimp only
  -- up to the event channel a call that fails leaves the event server alone
  split
  · rename_i hfail
    rw [Bool.not_eq_true'] at hfail
    simp only [hfail, Bool.false_eq_true, false_or]
    rfl
  · split
    · rename_i hfail
      rw [Bool.not_eq_true'] at hfail
      simp only [hfail, Bool.false_eq_true, false_or]
      rfl
    · obtain ⟨timing, ht⟩ := bindTimingUnless_eq
        ((s.bindMedia e.media).2.bindControl e.control).2 ptp e.timing
      split
      · rename_i hfail
        rw [Bool.not_eq_true'] at hfail
        simp only [hfail, Bool.false_eq_true, false_or]
        rw [ht]
        rfl
      · rw [listening_startEventChannel, startEventChannel_ok, ht]
        rfl

theorem listening_setup (s : RtspSession δ κ) (e : Sockets) (r : RtspRequest) (hv : r.verb = .setup) :
    (s.setup e r).2.Listening ↔ StartsEventChannel s (.request r e) ∨ s.Listening := by
  have hstarts : StartsEventChannel s (.request r e) ↔ s.setupInfoComplete = false ∧
      isBinaryPlist r.body = true ∧ s.infoBinds e (usesPtp r.body) = true := by
    simp [StartsEventChannel, hv]
  rw [hstarts]
  unfold setup
  split
  · rename_i hinfo
    simp only [Bool.and_eq_true, Bool.not_eq_true'] at hinfo
    have hlistening := listening_bindInfo s.beginInfo e (usesPtp r.body)
    simp only [hinfo, true_and]
    rw [setupInfo_after]
    split <;> exact hlistening
  · rename_i hinfo
    have hno : ¬ (s.setupInfoComplete = false ∧ isBinaryPlist r.body = true ∧
        s.infoBinds e (usesPtp r.body) = true) := by
      intro hstarts
      simp [hstarts.1, hstarts.2.1] at hinfo
    simp only [hno, false_or]
    split
    · exact Iff.rfl
    · split
      · exact Iff.rfl
      · obtain ⟨control, timing, t, h⟩ := setupTransport_eq s e r
        rw [h]
        exact Iff.rfl

variable [AlacDecoder δ] [AudioSink κ]

theorem listening_step {s s' : RtspSession δ κ} {event : SessionEvent δ κ}
    (hstep : s.step event = .ok s') :
    s'.Listening ↔ StartsEventChannel s event ∨ s.Listening := by
  by_cases hsetup : SetsUp event
  · obtain ⟨r, e, rfl, hv⟩ := hsetup
    rw [step_setup hv hstep]
    exact listening_setup s e r hv
  · have hno : ¬ StartsEventChannel s event := by
      intro hstarts
      obtain ⟨r, e, hevent, hv, -⟩ := hstarts
      exact hsetup ⟨r, e, hevent, hv⟩
    have hserver : s'.eventServer = s.eventServer := by
      by_cases hdown : TearsDown event
      · -- the event server survives
        rw [(step_portStep hstep).2 hdown]
        rfl
      · exact (step_portsSame hstep hsetup hdown).eventServer
    simp only [hno, false_or, Listening, hserver]

/-- A reset leaves at most an event server, if the pipeline tracks its sink. -/
theorem released_reset_iff {s : RtspSession δ (TrackedSink κ)}
    (h : PipelineHolds AlacAudioPipeline.SinkTracked s) : Released s.reset ↔ ¬ s.Listening := by
  refine ⟨?_, ?_⟩
  · intro hreleased
    exact hreleased.event
  · intro hno
    refine ⟨⟨rfl, rfl⟩, ⟨rfl, rfl⟩, ⟨rfl, rfl⟩, hno, fun _ => hno, ?_⟩
    intro p k hp hk
    obtain ⟨old, hold, rfl⟩ := Option.map_eq_some_iff.mp hp
    exact (h old hold).reset k hk

end RtspSession

namespace Process

variable {δ κ : Type*} [AlacDecoder δ] [AudioSink κ]

def StartsEventChannel (p : Process δ κ) (event : SessionEvent δ κ) : Prop :=
  ∃ s, p = .ok s ∧ s.StartsEventChannel event

def Listening (p : Process δ κ) : Prop := ∃ s, p = .ok s ∧ s.Listening

/-- The event server listens once it was started, whatever comes after. -/
theorem listening_iff_since {events : List (SessionEvent δ κ)} {s : RtspSession δ κ}
    (hs : run step start events = .ok s) :
    s.Listening ↔ Since step StartsEventChannel (fun _ => False) start events := by
  have hlistening : Listening (run step start events) ↔ s.Listening := by
    simp [Listening, hs]
  rw [← hlistening]
  refine holds_iff_since (G := fun p => ∃ s, p = .ok s) ?_ ?_ ?_ events ⟨s, hs⟩
  · intro p event halive
    obtain ⟨s', hs'⟩ := halive
    obtain ⟨t, ht, -⟩ := step_eq_ok.mp hs'
    exact ⟨t, ht⟩
  · intro p event halive
    obtain ⟨s', hs'⟩ := halive
    obtain ⟨t, rfl, hstep⟩ := step_eq_ok.mp hs'
    simpa [Listening, StartsEventChannel, hs'] using RtspSession.listening_step hstep
  · intro hhas
    obtain ⟨t, ht, server, hserver, -⟩ := hhas
    obtain rfl := Except.ok.inj ht
    cases hserver

/-- **What a TEARDOWN releases.** In every run of a session, whatever the socket calls
    return and whatever decoder and sink are attached, right after a TEARDOWN no
    receiver is bound or has a worker, the sink is closed and no event server listens,
    if and only if no first binary SETUP before it got all its socket calls. -/
theorem teardown_released_iff {events : List (SessionEvent δ (TrackedSink κ))}
    (hattach : ∀ p, .setAlacAudioPipeline (some p) ∈ events → p.SinkTracked)
    {event : SessionEvent δ (TrackedSink κ)} (hdown : RtspSession.TearsDown event)
    {s' : RtspSession δ (TrackedSink κ)} (hs' : run step start (events ++ [event]) = .ok s') :
    s'.Released ↔ Each step (fun p event => ¬ StartsEventChannel p event) start events := by
  rw [run_snoc] at hs'
  obtain ⟨s, hs, hstep⟩ := step_eq_ok.mp hs'
  have htracked := run_pipelineHolds (fun p h => h.reset) (fun p c h => h.configure c)
    (fun p q h => h.push q) hattach s hs
  rw [(RtspSession.step_portStep hstep).2 hdown, RtspSession.released_reset_iff htracked,
    listening_iff_since hs]
  refine ⟨?_, ?_⟩
  · intro hno before i hp hstarts
    obtain ⟨after, rfl⟩ := hp
    exact hno ⟨before, i, after, by simp, hstarts, by simp⟩
  · intro hnone hsince
    obtain ⟨before, i, after, rfl, hstarts, -⟩ := hsince
    exact hnone before i (by simp) hstarts

def alacAnnounce : RtspRequest :=
  { method := ascii "ANNOUNCE"
    body := ascii "v=0\nm=audio 0 RTP/AVP 96\na=fmtp:" ++
      ascii "sampleRate=44100;channels=2;bitDepth=16;frameLength=352\n" }

def transportSetup : RtspRequest :=
  { method := ascii "SETUP"
    headers := OrdMap.empty.assign (ascii "Transport")
      (ascii "RTP/AVP/UDP;unicast;control_port=6011;timing_port=6012") }

def openSockets : Sockets :=
  { media := .bound (some 6000), control := .bound (some 6001), timing := .bound (some 6002)
    event := .listening (some 7001) }

def teardownEvent {κ : Type*} : SessionEvent NullAlacDecoder κ :=
  .request { method := ascii "TEARDOWN" }
    { media := .noSocket, control := .noSocket, timing := .noSocket, event := .failed }

theorem teardownEvent_tearsDown {κ : Type*} :
    RtspSession.TearsDown (teardownEvent : SessionEvent NullAlacDecoder κ) :=
  ⟨_, _, rfl, by decide⟩

/-- Without a binary property list no request starts the event channel. -/
theorem each_not_startsEventChannel {events : List (SessionEvent δ κ)}
    (h : ∀ r e, .request r e ∈ events → isBinaryPlist r.body = false) :
    Each step (fun p event => ¬ StartsEventChannel p event) start events := by
  intro before event hp hstarts
  obtain ⟨s, -, r, e, rfl, -, -, hplist, -⟩ := hstarts
  have hmem : .request r e ∈ events := hp.subset (by simp)
  rw [h r e hmem] at hplist
  cases hplist

/-- An ANNOUNCE and a Transport SETUP. -/
def announcedRun : List (SessionEvent NullAlacDecoder (TrackedSink NullAudioSink)) :=
  [.setAlacAudioPipeline (some (.new (some {}) (some { sink := {} }))),
    .request alacAnnounce openSockets, .request transportSetup openSockets]

/-- They open the sink and the three receivers; there never was an event channel, so a
    TEARDOWN releases everything. -/
theorem announcedRun_released :
    (∃ s, run step start announcedRun = .ok s ∧
      s.alacAudioPipeline.bind (·.pipeline.sink.map (·.isOpen)) = some true ∧
      s.media.running = true ∧ s.control.running = true ∧ s.timing.running = true) ∧
    ∃ s', run step start (announcedRun ++ [teardownEvent]) = .ok s' ∧ s'.Released := by
  refine ⟨⟨_, rfl, by decide +kernel, by decide +kernel, by decide +kernel, by decide +kernel⟩, ?_⟩
  have hrun : ∃ s', run step start (announcedRun ++ [teardownEvent]) = .ok s' := ⟨_, rfl⟩
  obtain ⟨s', hs'⟩ := hrun
  refine ⟨s', hs', (teardown_released_iff ?_ teardownEvent_tearsDown hs').mpr ?_⟩
  · intro p hp
    obtain rfl : p = .new (some {}) (some { sink := {} }) := by simpa [announcedRun] using hp
    exact AlacAudioPipeline.sinkTracked_new (some ({} : NullAlacDecoder)) (some ({} : NullAudioSink))
  · apply each_not_startsEventChannel
    intro r e hmem
    obtain ⟨rfl, -⟩ | ⟨rfl, -⟩ : r = alacAnnounce ∧ e = openSockets ∨
        r = transportSetup ∧ e = openSockets := by simpa [announcedRun] using hmem
    · decide
    · decide

/-- After a first binary SETUP with its sockets and a TEARDOWN the event server listens
    on, with its port field zero. -/
theorem binarySetupTeardown_not_released :
    ∃ s' : RtspSession NullAlacDecoder (TrackedSink NullAudioSink),
      run step start
        ([.request { method := ascii "SETUP", body := ascii "bplist00" } openSockets] ++
          [teardownEvent]) = .ok s' ∧ s'.transport.eventPort = 0 ∧ ¬ s'.Released := by
  refine ⟨_, rfl, rfl, ?_⟩
  intro hreleased
  exact hreleased.event ⟨_, rfl, rfl⟩

end Process
end AirPlay2
