import Mathlib
import PacedRtp.Net.Transport

/-!
# What a transport has sent

Sending adds one datagram to the outbound record and changes nothing else; waiting for the peer
leaves the record alone. `sentTo` is a transport after it has sent a list of packets, `sentSince`
reads off what went out between two states.
-/

namespace PacedRtp
namespace Net
namespace Transport

variable {net : Network} {t : Transport} {peer : Endpoint} {packet : List UInt8}

/-! ## The outbound record -/

/-- The same transport with packets to `peer` sent behind what was sent already. -/
def sentTo (t : Transport) (peer : Endpoint) (packets : List (List UInt8)) : Transport :=
  { t with outbound := t.outbound ++ (packets.map (Datagram.mk peer)).toArray }

@[simp] theorem sentTo_nil (t : Transport) (peer : Endpoint) : t.sentTo peer [] = t := by
  simp [sentTo]

@[simp] theorem sentTo_sentTo (t : Transport) (peer : Endpoint) (xs ys : List (List UInt8)) :
    (t.sentTo peer xs).sentTo peer ys = t.sentTo peer (xs ++ ys) := by
  simp [sentTo]

@[simp] theorem phase_sentTo (t : Transport) (peer : Endpoint) (packets : List (List UInt8)) :
    (t.sentTo peer packets).phase = t.phase :=
  rfl

/-- The packets that were sent after `t`, on the way to `later`. -/
def sentSince (t later : Transport) : List (List UInt8) :=
  (later.outbound.toList.drop t.outbound.size).map (·.payload)

/-- What was sent is read off again, also from a state with the same record. -/
theorem sentSince_sentTo {u : Transport} (h : u.outbound = t.outbound) (peer : Endpoint)
    (packets : List (List UInt8)) : t.sentSince (u.sentTo peer packets) = packets := by
  have hpayload : (fun d : Datagram => d.payload) ∘ Datagram.mk peer = id := rfl
  simp [sentSince, sentTo, h, hpayload]

/-! ## Sending -/

/-- A transport that knows its peer answers as the network does. -/
theorem send_streaming (hphase : t.phase = .streaming peer) :
    t.send net packet =
      match net.refusal peer packet.length with
      | some errno => (.error (.io (.number errno)), t)
      | none => (.ok packet.length, t.sentTo peer [packet]) := by
  have hpush : t.sentTo peer [packet] =
      { t with outbound := t.outbound.push ⟨peer, packet⟩ } := by
    simp [sentTo]
  rw [hpush]
  cases hnet : net.refusal peer packet.length <;> simp [send, hphase, hnet]

theorem send_unrefused (hphase : t.phase = .streaming peer)
    (hnet : net.refusal peer packet.length = none) :
    t.send net packet = (.ok packet.length, t.sentTo peer [packet]) := by
  rw [send_streaming hphase, hnet]

/-- A send that succeeds sends; one that does not changes nothing. -/
theorem send_cases (net : Network) (packet : List UInt8) (hphase : t.phase = .streaming peer) :
    (∃ octets, (t.send net packet).1 = .ok octets) ∧
        (t.send net packet).2 = t.sentTo peer [packet] ∨
      (∃ e, (t.send net packet).1 = .error e) ∧ (t.send net packet).2 = t := by
  rw [send_streaming hphase]
  cases net.refusal peer packet.length with
  | some errno => exact .inr ⟨⟨_, rfl⟩, rfl⟩
  | none => exact .inl ⟨⟨_, rfl⟩, rfl⟩

/-! ## Waiting -/

/-- Waiting that finds a peer leaves a transport to it and the record as it was. -/
theorem waitForPeer_of_ok {timeout : Duration} (h : (t.waitForPeer timeout).result = .ok peer) :
    (t.waitForPeer timeout).transport.phase = .streaming peer ∧
      (t.waitForPeer timeout).transport.outbound = t.outbound := by
  -- The phase decides, then whether a hello has arrived.
  rcases t with ⟨phase, inbound, outbound⟩
  cases phase with
  | streaming found =>
    cases h
    exact ⟨rfl, rfl⟩
  | awaitingPeer =>
    simp only [waitForPeer] at h ⊢
    split_ifs at h with hzero
    cases inbound with
    | nil => cases h
    | cons hello rest =>
      cases h
      simp [hzero]

end Transport
end Net
end PacedRtp
