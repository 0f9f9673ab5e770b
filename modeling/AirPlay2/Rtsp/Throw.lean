import AirPlay2.Rtsp.Run

/- Which requests throw out of a session. Numbers are read under handlers that catch
   and every text put into a property list is short, but for one: the host a PTP SETUP
   takes from its URI (`handle_throws_iff`), and an address of fifteen characters is
   too long. Nothing above catches, so a run dies of the first such request
   (`run_returns_iff`). -/
namespace AirPlay2
open Lib

namespace RtspSession

variable {δ κ : Type*}

/-- The request is a first binary SETUP for PTP whose socket calls succeed and whose
    URI names a host of fifteen bytes or more. -/
def SetsUpLongHost (s : RtspSession δ κ) (e : Sockets) (r : RtspRequest) : Prop :=
  r.verb = .setup ∧ s.setupInfoComplete = false ∧ isBinaryPlist r.body = true ∧
    usesPtp r.body = true ∧ s.infoBinds e true = true ∧ 15 ≤ (uriHost r.uri).length

theorem setupInfo_throws_iff (s : RtspSession δ κ) (e : Sockets) (r : RtspRequest) :
    (∃ what, (s.setupInfo e r).1 = .error what) ↔
      usesPtp r.body = true ∧ s.infoBinds e true = true ∧ 15 ≤ (uriHost r.uri).length := by
  rcases setupInfo_response s e r with ⟨hb, h⟩ | ⟨hb, hp, hlong, h⟩ | ⟨hb, hp, x, h, -⟩
  · apply iff_of_false (by simp [h])
    intro hbad
    obtain ⟨hp, hb', -⟩ := hbad
    rw [hp, hb'] at hb
    cases hb
  · rw [hp] at hb
    exact iff_of_true h ⟨hp, hb, hlong⟩
  · apply iff_of_false (by simp [h])
    intro hbad
    obtain ⟨hp', -, hlong⟩ := hbad
    obtain hp | hp := hp
    · rw [hp'] at hp
      cases hp
    · omega

variable [AlacDecoder δ] [AudioSink κ]

/-- A request throws in these cases and no others. -/
theorem handle_throws_iff (s : RtspSession δ κ) (e : Sockets) (r : RtspRequest) :
    (∃ what, (s.handle e r).1 = .error what) ↔ SetsUpLongHost s e r := by
  unfold SetsUpLongHost handle
  cases hv : r.verb with
  | setup =>
    simp only [true_and, setup]
    cases hi : s.setupInfoComplete with
    | true =>
      obtain ⟨x, hx⟩ := setupTransport_returns s e r
      cases s.configured <;> cases isBinaryPlist r.body <;> simp [hx, setupStream]
    | false =>
      cases hb : isBinaryPlist r.body with
      | true => simpa using setupInfo_throws_iff s e r
      | false =>
        obtain ⟨x, hx⟩ := setupTransport_returns s e r
        cases s.configured <;> simp [hx]
  | announce =>
    obtain ⟨⟨x, hx⟩, -⟩ := announce_frame s r
    simp [hx]
  | record =>
    simp only [record]
    split <;> simp
  | options => simp [options]
  | pause => simp [pause]
  | flush => simp [flush]
  | getParameter => simp [getParameter]
  | setParameter => simp [setParameter]
  | teardown => simp [teardown]
  | unknown => simp

/-- A session survives a step if it is no request that throws. -/
theorem step_returns_iff (s : RtspSession δ κ) (event : SessionEvent δ κ) :
    (∃ s', s.step event = .ok s') ↔ ∀ r e, event = .request r e → ¬ SetsUpLongHost s e r := by
  cases event with
  | request r e =>
    have hthrows := handle_throws_iff s e r
    simp only [step, SessionEvent.request.injEq]
    cases hh : s.handle e r with
    | mk x s' =>
      rw [hh] at hthrows
      cases x with
      | error what =>
        apply iff_of_false (by simp)
        intro h
        exact h r e ⟨rfl, rfl⟩ (hthrows.mp ⟨what, rfl⟩)
      | ok x =>
        apply iff_of_true ⟨s', rfl⟩
        intro r' e' hevent hlong
        obtain ⟨rfl, rfl⟩ := hevent
        obtain ⟨what, hw⟩ := hthrows.mpr hlong
        cases hw
  | datagram bytes => simp [step]
  | setMediaPacketHandler installed => simp [step]
  | setAlacAudioPipeline pipeline => simp [step]

end RtspSession

namespace Process

variable {δ κ : Type*} [AlacDecoder δ] [AudioSink κ]

/-- No exception has escaped. -/
def Returned (p : Process δ κ) : Prop := ∃ s, p = .ok s

/-- The event is no request that throws in the state the session is in. -/
def Returns (p : Process δ κ) (event : SessionEvent δ κ) : Prop :=
  ∀ s r e, p = .ok s → event = .request r e → ¬ s.SetsUpLongHost e r

/-- **When no exception escapes.** In every run of a session, whatever the socket calls
    return, every request is answered if and only if none is a first binary SETUP for
    PTP that gets its sockets and names a host of fifteen bytes or more. -/
theorem run_returns_iff (events : List (SessionEvent δ κ)) :
    Always step Returned start events ↔ Each step Returns start events := by
  refine always_iff_each (I := fun _ => True) (fun _ _ _ => trivial) ?_ trivial ⟨_, rfl⟩ events
  intro p event _ halive
  obtain ⟨s, rfl⟩ := halive
  have hreturns : Returns (.ok s) event ↔
      ∀ r e, event = .request r e → ¬ s.SetsUpLongHost e r := by
    refine ⟨?_, ?_⟩
    · intro h r e
      exact h s r e rfl
    · intro h s' r e hs
      obtain rfl := Except.ok.inj hs
      exact h r e
  rw [hreturns]
  exact s.step_returns_iff event

/-- A PTP SETUP for a host with an address of fifteen characters. -/
def longHostRequest : RtspRequest :=
  { method := ascii "SETUP"
    uri := ascii "rtsp://192.168.100.100/1"
    body := ascii "bplist00PTP" }

/-- It throws on a fresh session with every socket call succeeding. -/
theorem longHostRequest_throws :
    ((({} : RtspSession NullAlacDecoder NullAudioSink).handle
      { media := .bound (some 6000), control := .bound (some 6001), timing := .bound (some 6002)
        event := .listening (some 7001) } longHostRequest).1)
      = .error (.runtimeError "receiver IPv4 address too long for compact PTP plist") := by
  decide +kernel

end Process
end AirPlay2
