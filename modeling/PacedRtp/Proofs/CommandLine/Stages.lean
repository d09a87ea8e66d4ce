import Mathlib
import PacedRtp.CommandLine.Run
import PacedRtp.Proofs.Pcm.Geometry
import PacedRtp.Proofs.Sender.Outcomes

/-!
# The stages of a run

A run goes through eight stages, each of which can fail for a reason of its own. `Stage.failure?`
says for each stage, without regard to the others, whether it has to fail and with which error: the
arguments and the surroundings decide. `FailsAt` picks the first such stage. What each part of a run
does is told in these terms, one lemma a part.

A network refuses datagrams by peer and length, so a run that fails to send fails at its first
packet. Names are looked up apart from the network. Samples that have no buffer once they are
converted are a panic of the decoding, told as its error; a frame always has one, since frames of a
single channel are short. Interrupts by the user and failures of reading a hello, other than running
out of time, are not modelled.
-/

namespace PacedRtp

namespace Sender

theorem new_cases (config : Config) :
    (∃ e, config.check = .error e ∧ Sender.new config = .error e) ∨
      ∃ s, config.check = .ok () ∧ Sender.new config = .ok s ∧ s.config = config ∧
        s.stopped = false := by
  unfold new
  split
  · rename_i hcheck
    exact .inr ⟨_, hcheck, rfl, rfl, rfl⟩
  · rename_i e hcheck
    exact .inl ⟨e, hcheck, rfl⟩

end Sender

namespace CommandLine

open Net

/-! ## Stages -/

inductive Stage
  | file
  | peer
  | settings
  | decoding
  | binding
  | rendezvous
  | framing
  | sending
  deriving DecidableEq, Repr

namespace Stage

/-- In the order in which a run goes through them. -/
def all : List Stage :=
  [.file, .peer, .settings, .decoding, .binding, .rendezvous, .framing, .sending]

def earlier (stage : Stage) : List Stage :=
  all.takeWhile (· != stage)

/-- The stages that come before anything is asked of the network. -/
def offline : List Stage :=
  [.file, .peer, .settings, .decoding]

end Stage

namespace Arguments

/-- The port that is bound; zero leaves the choice to the system. -/
def localPort (a : Arguments) : UInt16 :=
  if a.target.isSome then 0 else a.port

/-- Where the packets go: to the target, or else to whoever speaks first. -/
def peer? (w : Surroundings) (a : Arguments) : Option Endpoint :=
  match a.target with
  | none => w.arrivals.head?.map (·.peer)
  | some host =>
    match hostAddresses w.lookUp host with
    | .ok (address :: _) => some { address, port := a.port }
    | _ => none

end Arguments

/-- Why a stage has to fail, if it has to. -/
def Stage.failure? (w : Surroundings) (a : Arguments) : Stage → Option Error
  | .file =>
    match w.file with
    | .missing => some (.config (.fileNotFound a.file))
    | _ => none
  | .peer =>
    if a.port = 0 then some (.config .zeroPort)
    else
      a.target.bind fun host =>
        match hostAddresses w.lookUp host with
        | .error reason => some (.config (.unresolvedHost host reason))
        | .ok [] => some (.config (.noAddress host))
        | .ok (_ :: _) => none
  | .settings =>
    if a.frameMs = 0 then some (.config (.framing .zeroDuration))
    else if a.timeout = 0 then some (.config .zeroRendezvousTimeout)
    else none
  | .decoding =>
    match (w.file.decode a.sampleRate).2 with
    | .error e => some e
    | .ok _ => none
  | .binding => (w.network.bindFailure a.localPort).map fun errno => .io (.number errno)
  | .rendezvous =>
    if a.target = none ∧ w.arrivals = [] then some (.rendezvousTimeout (.ofSeconds a.timeout))
    else none
  | .framing =>
    match Pcm.Framing.new (.mono16 a.sampleRate) a.frameMs with
    | .error e => some (.config (.framing e))
    | .ok _ => none
  | .sending => do
    let clip ← (w.file.decode a.sampleRate).2.toOption
    let peer ← a.peer? w
    let framing ← (Pcm.Framing.new (.mono16 a.sampleRate) a.frameMs).toOption
    let errno ← Sender.clipRefusal? w.network framing clip peer
    return .transmission 0 (.number errno)

def Passed (w : Surroundings) (a : Arguments) (stages : List Stage) : Prop :=
  ∀ stage ∈ stages, stage.failure? w a = none

instance (w : Surroundings) (a : Arguments) (stages : List Stage) : Decidable (Passed w a stages) :=
  inferInstanceAs (Decidable (∀ stage ∈ stages, stage.failure? w a = none))

/-- The first stage that has to fail is `stage`, with the error `e`. -/
structure FailsAt (w : Surroundings) (a : Arguments) (stage : Stage) (e : Error) : Prop where
  failed : stage.failure? w a = some e
  passed : Passed w a stage.earlier

section Stages

variable {w : Surroundings} {a : Arguments} {stage : Stage} {e : Error}

theorem Passed.concat {stages : List Stage} (h : Passed w a stages)
    (hstage : stage.failure? w a = none) : Passed w a (stages ++ [stage]) := by
  intro other hother
  rcases List.mem_append.mp hother with hbefore | hlast
  · exact h other hbefore
  · rw [List.mem_singleton.mp hlast]
    exact hstage

theorem Passed.mono {stages fewer : List Stage} (h : Passed w a stages) (hsubset : fewer ⊆ stages) :
    Passed w a fewer :=
  fun stage hstage => h stage (hsubset hstage)

theorem Stage.earlier_trichotomy (stage other : Stage) :
    stage ∈ other.earlier ∨ stage = other ∨ other ∈ stage.earlier := by
  cases stage <;> cases other <;> decide

theorem FailsAt.unique {other : Stage} {e' : Error} (h : FailsAt w a stage e)
    (h' : FailsAt w a other e') : stage = other ∧ e = e' := by
  rcases stage.earlier_trichotomy other with hearlier | rfl | hlater
  · cases h.failed.symm.trans (h'.passed stage hearlier)
  · exact ⟨rfl, Option.some.inj (h.failed.symm.trans h'.failed)⟩
  · cases h'.failed.symm.trans (h.passed other hlater)

/-! ## What the stages check -/

theorem Stage.failure?_peer (w : Surroundings) (a : Arguments) :
    Stage.peer.failure? w a =
      match a.discovery w.lookUp with
      | .error cause => some (.config cause)
      | .ok _ => none := by
  by_cases hport : a.port = 0
  · simp [failure?, Arguments.discovery, hport]
  · cases htarget : a.target with
    | none => simp [failure?, Arguments.discovery, hport, htarget]
    | some host =>
      simp only [failure?, Arguments.discovery, hport, htarget, if_false, Option.bind_some]
      cases hostAddresses w.lookUp host with
      | error reason => rfl
      | ok addresses => cases addresses <;> rfl

theorem check_config (a : Arguments) :
    a.config.check =
      if a.frameMs = 0 then .error (.framing .zeroDuration)
      else if a.timeout = 0 then .error .zeroRendezvousTimeout
      else .ok () := by
  have hbias : (!((Ieee.Number.zero false).le Sender.defaultBias &&
      Sender.defaultBias.le (Ieee.Number.ofNat 1))) = false := by
    decide +kernel
  have htype : ¬Sender.Config.largestPayloadType < Rtp.linearAudio := by decide
  have hzero : (Duration.ofSeconds a.timeout).isZero = true ↔ a.timeout = 0 := by
    simp [Duration.isZero, Duration.ofSeconds, nanosPerSecond, ← UInt64.toNat_inj]
  simp only [Sender.Config.check, Arguments.config, hbias, htype, hzero, if_false,
    Bool.false_eq_true]

theorem Stage.failure?_settings (w : Surroundings) (a : Arguments) :
    Stage.settings.failure? w a =
      match a.config.check with
      | .error cause => some (.config cause)
      | .ok () => none := by
  rw [check_config]
  simp only [failure?]
  split_ifs <;> rfl

/-- What a run knows once it is ready for the network. -/
structure Job.Serves (j : Job) (w : Surroundings) (a : Arguments) : Prop where
  config : j.sender.config = a.config
  stopped : j.sender.stopped = false
  discovery : a.discovery w.lookUp = .ok j.discovery
  clip : (w.file.decode a.sampleRate).2 = .ok j.clip

/-- The stages before the network decide whether there is a job. -/
theorem prepare_cases (w : Surroundings) (a : Arguments) :
    (∃ stage ∈ Stage.offline, ∃ e, FailsAt w a stage e ∧
      (prepare w.lookUp w.file a).2 = .error e) ∨
    ∃ job, Passed w a Stage.offline ∧ (prepare w.lookUp w.file a).2 = .ok job ∧
      job.Serves w a := by
  have hstart : Passed w a [] := by
    intro stage hstage
    cases hstage
  unfold prepare
  split
  · rename_i hmissing
    refine .inl ⟨.file, by decide, _, ⟨?_, hstart⟩, rfl⟩
    simp only [Stage.failure?, hmissing]
  · rename_i hfound
    have hfile : Stage.file.failure? w a = none := by
      simp only [Stage.failure?]
    have hpeer := Stage.failure?_peer w a
    cases hdiscovery : a.discovery w.lookUp with
    | error cause =>
      rw [hdiscovery] at hpeer
      exact .inl ⟨.peer, by decide, _, ⟨hpeer, hstart.concat hfile⟩, rfl⟩
    | ok discovery =>
      rw [hdiscovery] at hpeer
      have hlocated := (hstart.concat hfile).concat hpeer
      have hsettings := Stage.failure?_settings w a
      rcases Sender.new_cases a.config with
        ⟨cause, hcheck, hnew⟩ | ⟨s, hcheck, hnew, hconfig, hstopped⟩
      · rw [hcheck] at hsettings
        refine .inl ⟨.settings, by decide, _, ⟨hsettings, hlocated⟩, ?_⟩
        simp only [hnew]
      · rw [hcheck] at hsettings
        have hset := hlocated.concat hsettings
        cases hdecode : (w.file.decode a.sampleRate).2 with
        | error e =>
          refine .inl ⟨.decoding, by decide, e, ⟨?_, hset⟩, ?_⟩
          · simp only [Stage.failure?, hdecode]
          · simp only [hnew, hdecode]
            rfl
        | ok clip =>
          have hdecoding : Stage.decoding.failure? w a = none := by
            simp only [Stage.failure?, hdecode]
          refine .inr ⟨⟨s, discovery, clip⟩, hset.concat hdecoding, ?_,
            ⟨hconfig, hstopped, hdiscovery, hdecode⟩⟩
          simp only [hnew, hdecode]
          rfl

/-! ## Opening -/

/-- A transport as it is opened. -/
def opened : Discovery → Transport
  | .direct peer => { phase := .streaming peer }
  | .rendezvous _ => { phase := .awaitingPeer }

/-- A session with a known peer fails to frame its clip or to send it, or it ends well. -/
theorem session_cases {job : Job} (hserves : job.Serves w a) {t : Transport} {peer : Endpoint}
    (hpeer : a.peer? w = some peer) (hphase : t.phase = .streaming peer) :
    let session := job.sender.stream w.network w.drawn (.mono16 a.sampleRate) job.clip t
    (∃ e, Stage.framing.failure? w a = some e ∧ session.outcome = .error e ∧
      session.transport = t) ∨
    (∃ e, Stage.framing.failure? w a = none ∧ Stage.sending.failure? w a = some e ∧
      session.outcome = .error e ∧ session.transport = t) ∨
    ∃ summary, Stage.framing.failure? w a = none ∧ Stage.sending.failure? w a = none ∧
      session.outcome = .ok summary ∧ session.transport.phase = .streaming peer := by
  intro session
  have hms : job.sender.config.frameMs = a.frameMs :=
    congrArg Sender.Config.frameMs hserves.config
  have hwait : t.waitForPeer job.sender.config.rendezvousTimeout = ⟨.ok peer, t, []⟩ := by
    simp only [Transport.waitForPeer, hphase]
  have hcases := job.sender.stream_cases w.network w.drawn (.mono16 a.sampleRate) job.clip t
  rw [hms, hwait] at hcases
  rcases hcases with ⟨e, hframing, hsession⟩ | ⟨framing, -, hawaiting, -⟩ |
    ⟨framing, found, hframing, hfound, houtcome, htransport, -⟩
  · refine .inl ⟨.config (.framing e), ?_, ?_⟩
    · simp only [Stage.failure?, hframing]
    · simp only [session, hsession, and_self]
  · cases hphase.symm.trans hawaiting
  · cases hfound
    have hframes : Stage.framing.failure? w a = none := by
      simp only [Stage.failure?, hframing]
    have hsending : Stage.sending.failure? w a =
        (Sender.clipRefusal? w.network framing job.clip peer).map fun errno =>
          .transmission 0 (.number errno) := by
      simp only [Stage.failure?, hserves.clip, hpeer, hframing, Except.toOption,
        Option.bind_eq_bind, Option.bind_some]
      cases Sender.clipRefusal? w.network framing job.clip peer <;> rfl
    have hroom : job.sender.HasRoom (framing.frames job.clip) := by
      have hsize := Pcm.Framing.frameSize_lt_of_mono16 hframing
      refine Sender.hasRoom_of_le (.inr ?_)
      rw [capacityLimit, Rtp.headerLength]
      exact (Nat.add_le_add_left hsize.le 12).trans (by decide)
    rw [Sender.clipOutcome_of_hasRoom hroom, hserves.stopped] at houtcome
    cases hrefusal : Sender.clipRefusal? w.network framing job.clip peer with
    | some errno =>
      rw [hrefusal] at hsending houtcome
      refine .inr (.inl ⟨_, hframes, hsending, houtcome, ?_⟩)
      have hnothing : job.sender.clipSent w.network framing w.drawn job.clip peer = [] := by
        simp [Sender.clipSent_of_hasRoom hroom, hrefusal]
      rw [htransport, hnothing, Transport.sentTo_nil]
    | none =>
      rw [hrefusal] at hsending houtcome
      refine .inr (.inr ⟨_, hframes, hsending, houtcome, ?_⟩)
      rw [htransport, Transport.phase_sentTo]
      exact hphase

end Stages

end CommandLine
end PacedRtp
