import Mathlib
import PacedRtp.CommandLine.Host
import PacedRtp.Proofs.CommandLine.Stages
import PacedRtp.Proofs.Sender.Host

/-!
# Runs on a host that is a value

Surroundings make a host that acts on a world with a transport in it. What is driven there is the
run (`drive_eq_run`): the same result, transport and reports. So the program that is started takes
the steps that the run is made of, and what is proved of runs is proved of it, as far as its host is
like these surroundings.

Names are looked up once and the file is read before, whether or not the run comes to need them.
-/

namespace PacedRtp
namespace CommandLine

open Net

/-! ## Surroundings as a host -/

/-- How far a run has come. -/
structure Progress where
  opened : Bool := false
  streaming : Bool := false

/-- A transport, and how far the run has come. -/
abbrev World := Sender.World Transport Progress

/-- Nothing is done yet; the transport is of no account until it is opened. -/
def World.start : World where
  sink := { phase := .awaitingPeer }
  stopped := false
  rest := {}

/-- A transport is opened. All datagrams arrive at once. -/
def openedOn (w : Surroundings) (t : Transport) (world : World) : World :=
  { world with sink := w.arrivals.foldl Transport.arrive t, rest.opened := true }

def announced (world : World) : World :=
  { world with rest.streaming := true }

def host (w : Surroundings) : Host (StateM World) where
  toHost := Sender.host w.network w.drawn
  audioFile _ world := (w.file, world)
  lookUp name world := (w.lookUp name, world)
  openTransport d world :=
    match Transport.open w.network d with
    | (events, .error e) => (.error e, world.report events)
    | (events, .ok t) => (.ok (), (openedOn w t world).report events)
  announce world := ((), announced world)

/-- What a run leaves behind, read off the world at its end. -/
def outcome (driven : Except Error Sender.Summary × World) : Outcome where
  result := driven.1
  transport := if driven.2.rest.opened then some driven.2.sink else none
  streaming := driven.2.rest.streaming
  log := driven.2.log

section Steps

variable {w : Surroundings} {a : Arguments} {world : World}

/-! ## Names -/

/-- Of the names only the target counts. -/
theorem discovery_congr {lookUp lookUp' : LookUp}
    (h : ∀ host, a.target = some host → lookUp host = lookUp' host) :
    a.discovery lookUp = a.discovery lookUp' := by
  unfold Arguments.discovery
  cases htarget : a.target with
  | none => rfl
  | some host =>
    have hsame : hostAddresses lookUp host = hostAddresses lookUp' host := by
      rw [hostAddresses, hostAddresses, h host htarget]
    simp only [hsame]

theorem prepare_congr {lookUp lookUp' : LookUp} (file : AudioFile)
    (h : a.discovery lookUp = a.discovery lookUp') :
    prepare lookUp file a = prepare lookUp' file a := by
  unfold prepare
  rw [h]

theorem run_lookUpTarget (w : Surroundings) (a : Arguments) (world : World) :
    ∃ lookUp, ((host w).lookUpTarget a).run world = (lookUp, world) ∧
      a.discovery lookUp = a.discovery w.lookUp := by
  unfold Host.lookUpTarget
  cases htarget : a.target with
  | none =>
    refine ⟨fun _ => .ok [], rfl, discovery_congr fun host hhost => ?_⟩
    cases htarget.symm.trans hhost
  | some host =>
    refine ⟨fun _ => w.lookUp host, rfl, discovery_congr fun other hother => ?_⟩
    cases htarget.symm.trans hother
    rfl

/-! ## Runs -/

theorem run_report (events : List Event) (world : World) :
    ((host w).report events).run world = ((), world.report events) :=
  rfl

theorem run_openTransport (d : Discovery) (world : World) :
    ((host w).openTransport d).run world =
      match Transport.open w.network d with
      | (events, .error e) => (.error e, world.report events)
      | (events, .ok t) => (.ok (), (openedOn w t world).report events) :=
  rfl

theorem outcome_of_unopened (e : Error) (events : List Event) :
    outcome (.error e, World.start.report events) = { result := .error e, log := events } := by
  have hlog : (World.start.report events).log = events := Sender.World.log_report _ _
  rw [outcome, hlog]
  rfl

theorem outcome_of_session {driven : Except Error Sender.Summary × World}
    {session : Sender.Session} (h : Sender.World.ComesTo world driven session)
    (hrest : world.rest = ⟨true, true⟩) :
    outcome driven =
      { result := session.outcome, transport := some session.transport, streaming := true,
        log := world.log ++ session.log } := by
  rw [outcome, h.outcome, h.transport, h.log, h.rest, hrest, if_pos rfl]

/-- On an open transport a job is driven as it streams. -/
theorem outcome_of_job {job : Job} (rate : UInt32) (t : Transport)
    (hsink : world.sink = w.arrivals.foldl Transport.arrive t)
    (hstopped : world.stopped = job.sender.stopped) (hrest : world.rest = ⟨true, false⟩) :
    outcome ((job.drive (host w) rate).run world) =
      (job.stream w rate t).after world.log := by
  cases hpeer : (world.sink.waitForPeer job.timeout).result with
  | error e =>
    have hmeet : ((host w).waitForPeer job.timeout).run world = (.error e, _) :=
      congrArg (·, _) hpeer
    have hdriven : (job.drive (host w) rate).run world = (.error e, world.meet job.timeout) := by
      rw [Job.drive, Sender.run_bind, hmeet]
      rfl
    simp only [hdriven, outcome, Job.stream, ← hsink, hpeer, Outcome.after, Sender.World.log_meet]
    -- Nothing but the sink and the log has changed since.
    simp [Sender.World.meet, Sender.World.report, hrest]
  | ok peer =>
    have hmeet : ((host w).waitForPeer job.timeout).run world = (.ok peer, _) :=
      congrArg (·, _) hpeer
    have hdriven : (job.drive (host w) rate).run world =
        (job.sender.drive (host w).toHost (.mono16 rate) job.clip).run
          (announced (world.meet job.timeout)) := by
      rw [Job.drive, Sender.run_bind, hmeet]
      rfl
    have hcomes : Sender.World.ComesTo (announced (world.meet job.timeout)) _ _ :=
      Sender.drive_eq_stream job.sender w.network w.drawn (.mono16 rate) job.clip hstopped
    have hrest' : (announced (world.meet job.timeout)).rest = ⟨true, true⟩ := by
      change { world.rest with streaming := true } = _
      rw [hrest]
    rw [hdriven, show (host w).toHost = Sender.host w.network w.drawn from rfl,
      outcome_of_session hcomes hrest']
    have hlog : (announced (world.meet job.timeout)).log =
        world.log ++ (world.sink.waitForPeer job.timeout).log := Sender.World.log_meet _ _
    simp only [Job.stream, ← hsink, hpeer, Outcome.after, hlog, List.append_assoc]
    rfl

/-- Up to the network what is driven is what prepares the run. -/
theorem run_drive (w : Surroundings) (a : Arguments) (world : World) :
    (drive (host w) a).run world =
      match prepare w.lookUp w.file a with
      | (log, .error e) => (.error e, world.report log)
      | (log, .ok job) =>
        match Transport.open w.network job.discovery with
        | (opened, .error e) => (.error e, (world.report log).report opened)
        | (opened, .ok t) =>
          (job.drive (host w) a.sampleRate).run
            (((openedOn w t (world.report log)).report opened).report job.waitingEvents) := by
  rcases run_lookUpTarget w a world with ⟨lookUp, hlookUp, hdiscovery⟩
  have hfile : ((host w).audioFile a.file).run world = (w.file, world) := rfl
  rw [drive, Sender.run_bind, hfile, Sender.run_bind, hlookUp, prepare_congr w.file hdiscovery]
  rcases prepare w.lookUp w.file a with ⟨log, e | job⟩
  · rfl
  · have hopen := run_openTransport (w := w) job.discovery (world.report log)
    dsimp only
    rw [Sender.run_bind, run_report, Sender.run_bind, hopen]
    rcases Transport.open w.network job.discovery with ⟨opened, e | t⟩
    · rfl
    · rfl

/-- On a world without a past what is driven is the run. -/
theorem drive_eq_run (w : Surroundings) (a : Arguments) :
    outcome ((drive (host w) a).run .start) = run w a := by
  have hcases := prepare_cases w a
  rw [run_drive, run]
  rcases hprepared : prepare w.lookUp w.file a with ⟨log, e | job⟩
  · exact outcome_of_unopened e log
  · rw [hprepared] at hcases
    dsimp only
    rcases Transport.open w.network job.discovery with ⟨opened, e | t⟩
    · dsimp only
      rw [Sender.World.report_report]
      exact outcome_of_unopened e (log ++ opened)
    · -- A job that was prepared starts with its flag down.
      have hstopped : job.sender.stopped = false := by
        rcases hcases with ⟨stage, -, e, -, herror⟩ | ⟨job', -, hjob, hserves⟩
        · cases herror
        · cases hjob
          exact hserves.stopped
      have hlog : (openedOn w t (World.start.report log)).log = log := Sender.World.log_report _ _
      dsimp only
      rw [outcome_of_job a.sampleRate t rfl hstopped.symm rfl, Sender.World.log_report,
        Sender.World.log_report, hlog]

end Steps

end CommandLine
end PacedRtp
