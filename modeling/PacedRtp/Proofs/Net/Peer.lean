import Mathlib
import PacedRtp.Proofs.Net.Transport
import PacedRtp.Sender.Stream

/-!
# The peer of a transport

After a transport is opened, datagrams arrive and its owner waits for the peer and sends, in any
order and any number of times. `Action` lists what can happen, `Transport.after` is the state that a
sequence of actions leads to. The network is part of each send, so it may refuse one datagram and
take the next.

`Transport.Moves` says once what an action can do to a transport. From it follows the invariant
`Transport.Follows`: the peer is the one that was given, or the sender of the first datagram that
ever arrived, and everything that was sent went there. How long a wait takes, and when the datagrams
arrive in it, is not modelled: a datagram that ends a wait has arrived before it.
-/

namespace PacedRtp
namespace Net

/-! ## Opening -/

/-- The ways to open a transport. -/
inductive Opening
  | direct (peer : Endpoint)
  | rendezvous (port : UInt16)
  | mode (discovery : Discovery)

namespace Opening

def transport (net : Network) : Opening → Except Error Transport
  | .direct peer => (Transport.direct net peer).2
  | .rendezvous port => (Transport.rendezvous net port).2
  | .mode discovery => (Transport.open net discovery).2

/-- The peer that is given on opening, if one is. -/
def given : Opening → Option Endpoint
  | .direct peer => some peer
  | .rendezvous _ => none
  | .mode (.direct peer) => some peer
  | .mode (.rendezvous _) => none

end Opening

/-! ## Actions -/

/-- What can happen to an open transport. -/
inductive Action
  | arrive (d : Datagram)
  | wait (timeout : Duration)
  /-- The same as waiting, at the start of a session. -/
  | resolve (timeout : Duration)
  | send (net : Network) (packet : List UInt8)
  /-- A send of a run, for which the transport is the sink. -/
  | sendPacket (net : Network) (packet : List UInt8)

/-- The datagrams that an action brings in. -/
def Action.arrivals : Action → List Datagram
  | .arrive d => [d]
  | _ => []

namespace Transport

def act (t : Transport) : Action → Transport
  | .arrive d => t.arrive d
  | .wait timeout => (t.waitForPeer timeout).transport
  | .resolve timeout => (t.waitForPeer timeout).transport
  | .send net packet => (t.send net packet).2
  | .sendPacket net packet => ((Sender.transportSink net).send t packet).state

/-- The transport after some actions. -/
def after (t : Transport) (actions : List Action) : Transport :=
  actions.foldl act t

@[simp] theorem after_nil (t : Transport) : t.after [] = t :=
  rfl

@[simp] theorem after_append (t : Transport) (actions later : List Action) :
    t.after (actions ++ later) = (t.after actions).after later :=
  List.foldl_append

/-! ## What an action can do -/

/-- The transport that hears `hello`, with the other datagrams left unread. -/
def meet (t : Transport) (hello : Datagram) (rest : List Datagram) : Transport :=
  { t with phase := .streaming hello.peer, inbound := rest }

/-- One rule for each way in which an action changes a transport, with the datagrams it brings. -/
inductive Moves (t : Transport) : List Datagram → Transport → Prop where
  | arrived (d : Datagram) : Moves t [d] (t.arrive d)
  | kept : Moves t [] t
  | met {hello : Datagram} {rest : List Datagram} :
      t.phase = .awaitingPeer → t.inbound = hello :: rest → Moves t [] (t.meet hello rest)
  | sent {peer : Endpoint} (packet : List UInt8) :
      t.phase = .streaming peer → Moves t [] (t.sentTo peer [packet])

/-- Every way in which a wait can end. -/
theorem waitForPeer_cases (t : Transport) (timeout : Duration) :
    (∃ peer, t.phase = .streaming peer ∧ t.waitForPeer timeout = ⟨.ok peer, t, []⟩) ∨
    (t.phase = .awaitingPeer ∧ timeout.isZero = true ∧
      t.waitForPeer timeout = ⟨.error (.config .zeroRendezvousTimeout), t, []⟩) ∨
    (t.phase = .awaitingPeer ∧ timeout.isZero = false ∧ t.inbound = [] ∧
      t.waitForPeer timeout =
        ⟨.error (.rendezvousTimeout timeout), t, [.noClient timeout.seconds]⟩) ∨
    ∃ hello rest, t.phase = .awaitingPeer ∧ timeout.isZero = false ∧ t.inbound = hello :: rest ∧
      t.waitForPeer timeout =
        ⟨.ok hello.peer, t.meet hello rest,
          [.clientConnected (min hello.payload.length helloLimit)]⟩ := by
  cases hphase : t.phase with
  | streaming peer => exact .inl ⟨peer, rfl, by simp [waitForPeer, hphase]⟩
  | awaitingPeer =>
    refine .inr ?_
    cases hzero : timeout.isZero with
    | true => exact .inl ⟨rfl, rfl, by simp [waitForPeer, hphase, hzero]⟩
    | false =>
      refine .inr ?_
      -- With time to wait, the oldest datagram decides.
      cases hinbound : t.inbound with
      | nil => exact .inl ⟨rfl, rfl, rfl, by simp [waitForPeer, hphase, hzero, hinbound]⟩
      | cons hello rest =>
        refine .inr ⟨hello, rest, rfl, rfl, rfl, ?_⟩
        simp [waitForPeer, hphase, hzero, hinbound, meet]

theorem send_awaiting {t : Transport} (h : t.phase = .awaitingPeer) (net : Network)
    (packet : List UInt8) : t.send net packet = (.error .noPeer, t) := by
  rw [send, h]

theorem moves_wait (t : Transport) (timeout : Duration) :
    Moves t [] (t.waitForPeer timeout).transport := by
  rcases t.waitForPeer_cases timeout with
    ⟨peer, -, hwait⟩ | ⟨-, -, hwait⟩ | ⟨-, -, -, hwait⟩ | ⟨hello, rest, hphase, -, hinbound, hwait⟩
  · rw [hwait]
    exact .kept
  · rw [hwait]
    exact .kept
  · rw [hwait]
    exact .kept
  · rw [hwait]
    exact .met hphase hinbound

theorem moves_send (t : Transport) (net : Network) (packet : List UInt8) :
    Moves t [] (t.send net packet).2 := by
  cases hphase : t.phase with
  | awaitingPeer =>
    rw [send_awaiting hphase]
    exact .kept
  | streaming peer =>
    rcases send_cases net packet hphase with ⟨-, hsent⟩ | ⟨-, hkept⟩
    · rw [hsent]
      exact .sent packet hphase
    · rw [hkept]
      exact .kept

theorem moves_act (t : Transport) (action : Action) : Moves t action.arrivals (t.act action) := by
  cases action with
  | arrive d => exact .arrived d
  | wait timeout => exact t.moves_wait timeout
  | resolve timeout => exact t.moves_wait timeout
  | send net packet => exact t.moves_send net packet
  | sendPacket net packet => exact t.moves_send net packet

/-! ## Once and for all -/

variable {t u : Transport} {peer : Endpoint} {arrivals : List Datagram}

theorem Moves.phase_eq (h : Moves t arrivals u) (hphase : t.phase = .streaming peer) :
    u.phase = .streaming peer := by
  cases h with
  | arrived => exact hphase
  | kept => exact hphase
  | met hawaiting =>
    rw [hphase] at hawaiting
    cases hawaiting
  | sent => exact hphase

/-- A transport that knows its peer keeps it. -/
theorem phase_after (hphase : t.phase = .streaming peer) (actions : List Action) :
    (t.after actions).phase = .streaming peer := by
  induction actions generalizing t with
  | nil => exact hphase
  | cons action later ih => exact ih ((t.moves_act action).phase_eq hphase)

theorem Moves.outbound_append (h : Moves t arrivals u) :
    t.outbound.toList <+: u.outbound.toList := by
  cases h with
  | arrived => exact List.prefix_rfl
  | kept => exact List.prefix_rfl
  | met => exact List.prefix_rfl
  | sent => simp [sentTo]

/-- What was sent is never taken back. -/
theorem outbound_after (t : Transport) (actions : List Action) :
    t.outbound.toList <+: (t.after actions).outbound.toList := by
  induction actions generalizing t with
  | nil => exact List.prefix_rfl
  | cons action later ih => exact (t.moves_act action).outbound_append.trans (ih (t.act action))

/-! ## Where the peer comes from -/

/-- How the phase and the unread datagrams belong to the peer that was given and to the datagrams
that have arrived so far. -/
inductive Meeting : Option Endpoint → List Datagram → Phase → List Datagram → Prop where
  | told (peer : Endpoint) (arrived : List Datagram) :
      Meeting (some peer) arrived (.streaming peer) arrived
  | expecting (arrived : List Datagram) : Meeting none arrived .awaitingPeer arrived
  | heard (hello : Datagram) (rest : List Datagram) :
      Meeting none (hello :: rest) (.streaming hello.peer) rest

/-- The invariant of an open transport. -/
structure Follows (given : Option Endpoint) (arrived : List Datagram) (t : Transport) : Prop where
  meeting : Meeting given arrived t.phase t.inbound
  outbound : ∀ d ∈ t.outbound, t.phase = .streaming d.peer

variable {given : Option Endpoint} {arrived : List Datagram}

theorem Meeting.arrive {phase : Phase} {inbound : List Datagram}
    (h : Meeting given arrived phase inbound) (d : Datagram) :
    Meeting given (arrived ++ [d]) phase (inbound ++ [d]) := by
  cases h with
  | told => exact .told _ _
  | expecting => exact .expecting _
  | heard hello => exact .heard hello _

/-- A transport that awaits its peer was given none and has read nothing. -/
theorem Meeting.of_awaiting {inbound : List Datagram}
    (h : Meeting given arrived .awaitingPeer inbound) : given = none ∧ arrived = inbound := by
  cases h with
  | expecting => exact ⟨rfl, rfl⟩

theorem Meeting.of_given {phase : Phase} {inbound : List Datagram}
    (h : Meeting (some peer) arrived phase inbound) :
    phase = .streaming peer ∧ inbound = arrived := by
  cases h with
  | told => exact ⟨rfl, rfl⟩

theorem Meeting.of_none {phase : Phase} {inbound : List Datagram}
    (h : Meeting none arrived phase inbound) :
    phase = .awaitingPeer ∧ inbound = arrived ∨
      ∃ hello rest, arrived = hello :: rest ∧ phase = .streaming hello.peer ∧ inbound = rest := by
  cases h with
  | expecting => exact .inl ⟨rfl, rfl⟩
  | heard hello => exact .inr ⟨hello, _, rfl, rfl, rfl⟩

theorem Follows.moves (h : Follows given arrived t) (hmoves : Moves t arrivals u) :
    Follows given (arrived ++ arrivals) u := by
  cases hmoves with
  | arrived d => exact ⟨h.meeting.arrive d, h.outbound⟩
  | kept =>
    rw [List.append_nil]
    exact h
  | @met hello rest hphase hinbound =>
    have hmeeting := h.meeting
    rw [hphase, hinbound] at hmeeting
    rcases hmeeting.of_awaiting with ⟨rfl, rfl⟩
    rw [List.append_nil]
    refine ⟨.heard hello rest, ?_⟩
    -- Nothing can have been sent before there was a peer.
    intro d hd
    have hsent := h.outbound d hd
    rw [hphase] at hsent
    cases hsent
  | @sent peer packet hphase =>
    rw [List.append_nil]
    refine ⟨h.meeting, ?_⟩
    intro d hd
    have hd : d ∈ t.outbound ∨ d = ⟨peer, packet⟩ := by simpa [sentTo] using hd
    rcases hd with hd | rfl
    · exact h.outbound d hd
    · exact hphase

theorem Follows.after (h : Follows given arrived t) (actions : List Action) :
    Follows given (arrived ++ actions.flatMap Action.arrivals) (t.after actions) := by
  induction actions generalizing t arrived with
  | nil => simpa using h
  | cons action later ih =>
    rw [List.flatMap_cons, ← List.append_assoc]
    exact ih (h.moves (t.moves_act action))

theorem follows_rendezvous {net : Network} {port : UInt16}
    (h : (rendezvous net port).2 = .ok t) : Follows none [] t := by
  unfold rendezvous at h
  split at h
  · cases h
  · cases h
    exact ⟨.expecting [], by simp⟩

theorem follows_direct {net : Network} {peer : Endpoint} (h : (direct net peer).2 = .ok t) :
    Follows (some peer) [] t := by
  unfold direct at h
  split at h
  · cases h
  · cases h
    exact ⟨.told peer [], by simp⟩

theorem follows_opening {opening : Opening} {net : Network} (h : opening.transport net = .ok t) :
    Follows opening.given [] t := by
  cases opening with
  | direct peer => exact follows_direct h
  | rendezvous port => exact follows_rendezvous h
  | mode discovery =>
    -- A mode is checked first and then opened like one of the others.
    simp only [Opening.transport, «open»] at h
    split at h
    · cases h
    · cases discovery with
      | direct peer => exact follows_direct h
      | rendezvous port => exact follows_rendezvous h

/-! ## Waiting at any time -/

/-- When a wait fails and with which error. -/
theorem waitForPeer_error_iff {timeout : Duration} {e : Error} :
    (t.waitForPeer timeout).result = .error e ↔
      t.phase = .awaitingPeer ∧
        (timeout.isZero = true ∧ e = .config .zeroRendezvousTimeout ∨
          timeout.isZero = false ∧ t.inbound = [] ∧ e = .rendezvousTimeout timeout) := by
  rcases t.waitForPeer_cases timeout with
    ⟨peer, hphase, hwait⟩ | ⟨hphase, hzero, hwait⟩ | ⟨hphase, hzero, hinbound, hwait⟩ |
      ⟨hello, rest, hphase, hzero, hinbound, hwait⟩
  · simp [hwait, hphase]
  · simp [hwait, hphase, hzero, eq_comm]
  · simp [hwait, hphase, hzero, hinbound, eq_comm]
  · simp [hwait, hphase, hzero, hinbound]

theorem waitForPeer_of_error {timeout : Duration} {e : Error}
    (h : (t.waitForPeer timeout).result = .error e) : (t.waitForPeer timeout).transport = t := by
  rcases t.waitForPeer_cases timeout with
    ⟨peer, -, hwait⟩ | ⟨-, -, hwait⟩ | ⟨-, -, -, hwait⟩ | ⟨hello, rest, -, -, -, hwait⟩
  · rw [hwait]
  · rw [hwait]
  · rw [hwait]
  · rw [hwait] at h
    cases h

/-! ## Every run -/

/-- Whatever happens to an open transport, in whatever order: its peer is settled once, by what was
given or by the first datagram that arrived, at most that one datagram is read, and nothing is sent
to anyone else. -/
theorem peer_settles (opening : Opening) (net : Network) (start : Transport)
    (hopen : opening.transport net = .ok start) (actions : List Action) :
    let t := start.after actions
    let arrived := actions.flatMap Action.arrivals
    (∀ peer, t.phase = .streaming peer → ∀ later, (t.after later).phase = .streaming peer) ∧
    (∀ later, t.outbound.toList <+: (t.after later).outbound.toList) ∧
    (∀ d ∈ t.outbound, t.phase = .streaming d.peer) ∧
    (∀ net packet, (Sender.transportSink net).send t packet =
      { state := (t.send net packet).2, result := (t.send net packet).1 }) ∧
    (t.phase = .awaitingPeer → ∀ net packet, t.send net packet = (.error .noPeer, t)) ∧
    (∀ peer, t.phase = .streaming peer → ∀ net packet, t.send net packet =
      match net.refusal peer packet.length with
      | some errno => (.error (.io (.number errno)), t)
      | none => (.ok packet.length, t.sentTo peer [packet])) ∧
    (∀ peer, opening.given = some peer → t.phase = .streaming peer ∧ t.inbound = arrived) ∧
    (opening.given = none → t.phase = .awaitingPeer ∧ t.inbound = arrived ∨
      ∃ hello rest, arrived = hello :: rest ∧ t.phase = .streaming hello.peer ∧ t.inbound = rest) ∧
    (∀ timeout e, (t.waitForPeer timeout).result = .error e ↔
      t.phase = .awaitingPeer ∧
        (timeout.isZero = true ∧ e = .config .zeroRendezvousTimeout ∨
          timeout.isZero = false ∧ t.inbound = [] ∧ e = .rendezvousTimeout timeout)) ∧
    (∀ timeout e, (t.waitForPeer timeout).result = .error e →
      (t.waitForPeer timeout).transport = t) ∧
    (∀ timeout peer, (t.waitForPeer timeout).result = .ok peer →
      (t.waitForPeer timeout).transport.phase = .streaming peer) ∧
    (∀ peer, t.phase = .streaming peer → ∀ timeout,
      (t.waitForPeer timeout).result = .ok peer ∧ (t.waitForPeer timeout).transport = t) := by
  intro t arrived
  have hfollows : Follows opening.given arrived t := (follows_opening hopen).after actions
  refine ⟨fun peer hphase later => phase_after hphase later, t.outbound_after, hfollows.outbound,
    fun net packet => rfl, fun hphase net packet => send_awaiting hphase net packet,
    fun peer hphase net packet => send_streaming hphase, ?_, ?_,
    fun timeout e => waitForPeer_error_iff, fun timeout e => waitForPeer_of_error,
    fun timeout peer hok => (waitForPeer_of_ok hok).1, ?_⟩
  · intro peer hgiven
    have hmeeting := hfollows.meeting
    rw [hgiven] at hmeeting
    exact hmeeting.of_given
  · intro hgiven
    have hmeeting := hfollows.meeting
    rw [hgiven] at hmeeting
    exact hmeeting.of_none
  · intro peer hphase timeout
    simp only [waitForPeer, hphase]
    exact ⟨trivial, trivial⟩

/-! ### Two devices -/

def firstHello : Datagram := ⟨{ address := .v4 ⟨10, 0, 0, 1⟩, port := 4000 }, [104, 105]⟩

def secondHello : Datagram := ⟨{ address := .v4 ⟨10, 0, 0, 2⟩, port := 4000 }, []⟩

/-- A send that comes too early, two hellos, a wait without time, and one that hears the first. -/
def twoHellos : List Action :=
  [.send .lossless [1], .arrive firstHello, .arrive secondHello, .wait .zero,
    .resolve (.ofSeconds 1), .sendPacket .lossless [2], .wait .zero]

theorem peer_settles_two_hellos :
    let t := ({ phase := .awaitingPeer } : Transport).after twoHellos
    t.phase = .streaming firstHello.peer ∧ t.inbound = [secondHello] ∧
      t.outbound = #[⟨firstHello.peer, [2]⟩] ∧
      ∀ later, (t.after later).phase = .streaming firstHello.peer := by
  intro t
  have hphase : t.phase = .streaming firstHello.peer := rfl
  rcases peer_settles (.rendezvous defaultPort) .lossless { phase := .awaitingPeer } rfl twoHellos
    with ⟨hkept, -⟩
  exact ⟨hphase, rfl, rfl, hkept firstHello.peer hphase⟩

end Transport
end Net
end PacedRtp
