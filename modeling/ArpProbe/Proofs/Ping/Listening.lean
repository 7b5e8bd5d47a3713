import ArpProbe.Ping
import Mathlib.Tactic.Lemma

/-!
# Listening, one event at a time

What `Ping.listen` does with the next thing that the link has to say, for any link. All later proofs
about listening go through these equations.
-/

namespace ArpProbe

/-- The link after a wait. -/
def Reception.next {σ : Type} : Reception σ → σ
  | silence next => next
  | event _ _ next => next

namespace Ping

/-! ## What one more frame changes -/

namespace Hearing

@[simp] theorem replies_stopped {σ : Type} (stop : Stop) (link : σ) :
    (stopped stop link).replies = [] := rfl

@[simp] theorem stop_stopped {σ : Type} (stop : Stop) (link : σ) :
    (stopped stop link).stop = stop := rfl

@[simp] theorem link_stopped {σ : Type} (stop : Stop) (link : σ) :
    (stopped stop link).link = link := rfl

variable {σ : Type} (verbose : Bool) (bytes : Bytes) (duration : Nat) (hearing : Hearing σ)
  (inbound : Inbound)

/-- An answer comes before the replies heard after it. -/
@[simp] theorem replies_heard : (hearing.heard verbose bytes duration inbound).replies =
    (inbound.reply? duration).toList ++ hearing.replies := by
  cases inbound <;> rfl

@[simp] theorem stop_heard :
    (hearing.heard verbose bytes duration inbound).stop = hearing.stop := by
  cases inbound <;> rfl

@[simp] theorem link_heard :
    (hearing.heard verbose bytes duration inbound).link = hearing.link := by
  cases inbound <;> rfl

end Hearing

/-! ## The next event -/

section

variable {σ : Type} {link : Link σ} {request : Arp} {verbose : Bool}
  {window sentAt now after : Nat} {s next : σ}

/-- In silence, listening ends with the window. -/
lemma listen_of_silence (received : link.receive s = .silence next) :
    listen link request verbose window sentAt now s = .stopped .windowClosed next := by
  rw [listen]
  split <;> simp_all

/-- Nothing is heard once the window has closed. -/
lemma listen_of_late {event : Event} (received : link.receive s = .event after event next)
    (late : window ≤ now + after) :
    listen link request verbose window sentAt now s = .stopped .windowClosed next := by
  rw [listen]
  split <;> simp_all

lemma listen_of_failure {error : IoError}
    (received : link.receive s = .event after (.failure error) next)
    (early : now + after < window) :
    listen link request verbose window sentAt now s =
      .stopped (.failed error (now + after)) next := by
  have in_time : ¬ window ≤ now + after := by omega
  rw [listen]
  split <;> simp_all [if_neg in_time]

lemma listen_of_crash {text : String}
    (received : link.receive s = .event after (.crash text) next)
    (early : now + after < window) :
    listen link request verbose window sentAt now s = .stopped (.crashed text) next := by
  have in_time : ¬ window ≤ now + after := by omega
  rw [listen]
  split <;> simp_all [if_neg in_time]

/-- A frame in time is heard, and listening goes on from when it came. -/
lemma listen_of_frame {bytes : Bytes} {stamp : Option Nat}
    (received : link.receive s = .event after (.frame bytes stamp) next)
    (early : now + after < window) :
    listen link request verbose window sentAt now s =
      (listen link request verbose window sentAt (now + after) next).heard verbose bytes
        (stamp.getD (now + after) - sentAt) (.classify request bytes) := by
  have in_time : ¬ window ≤ now + after := by omega
  rw [listen]
  split <;> simp_all [if_neg in_time]

/-! ## The whole exchange -/

/-- A request that is not out in time is given up. -/
lemma exchange_of_late (late : window ≤ (link.send request.toBytes s).after) :
    exchange link request verbose window s =
      ⟨.finished (.error .timeout) window, [], link.close s⟩ := by
  rw [exchange, if_pos late]

/-- A request that cannot be sent in time is given up. -/
lemma exchange_of_unsent {error : IoError} (early : (link.send request.toBytes s).after < window)
    (unsent : (link.send request.toBytes s).outcome = .error error) :
    exchange link request verbose window s =
      ⟨.finished (.error (.transport error)) (link.send request.toBytes s).after, [],
        link.close (link.send request.toBytes s).next⟩ := by
  rw [exchange, if_neg (by omega), unsent]

/-- Listening starts when the request is out. -/
lemma exchange_of_sent (early : (link.send request.toBytes s).after < window)
    (sent : (link.send request.toBytes s).outcome = .ok ()) :
    exchange link request verbose window s =
      conclude link window
        (listen link request verbose window (link.send request.toBytes s).after
          (link.send request.toBytes s).after (link.send request.toBytes s).next) := by
  rw [exchange, if_neg (by omega), sent]

section

variable {hearing : Hearing σ}

lemma conclude_of_windowClosed (stop : hearing.stop = .windowClosed) :
    conclude link window hearing =
      ⟨.finished (verdict hearing.replies) window, hearing.log, link.close hearing.link⟩ := by
  rw [conclude, stop]

lemma conclude_of_failed {error : IoError} {time : Nat} (stop : hearing.stop = .failed error time) :
    conclude link window hearing =
      ⟨.finished (.error (.transport error)) time, hearing.log, link.close hearing.link⟩ := by
  rw [conclude, stop]

lemma conclude_of_crashed {text : String} (stop : hearing.stop = .crashed text) :
    conclude link window hearing = ⟨.crashed text window, hearing.log, hearing.link⟩ := by
  rw [conclude, stop]

end

/-- The end of the window is no failure of the transport. -/
lemma verdict_ne_transport (replies : List Reply) (error : IoError) :
    verdict replies ≠ .error (.transport error) := by
  unfold verdict
  split <;> simp

lemma verdict_eq_ok_iff {replies result : List Reply} :
    verdict replies = .ok result ↔ replies ≠ [] ∧ result = replies := by
  cases replies with
  | nil => simp [verdict]
  | cons reply replies => simp [verdict, eq_comm]

lemma verdict_eq_timeout_iff {replies : List Reply} :
    verdict replies = .error .timeout ↔ replies = [] := by
  cases replies <;> simp [verdict]

/-- Replies are returned when the window closes, and then they are all that was heard since the
request went out. -/
lemma ending_exchange_eq_ok_iff {replies : List Reply} {elapsed : Nat} :
    let sending := link.send request.toBytes s
    let hearing := listen link request verbose window sending.after sending.after sending.next
    (exchange link request verbose window s).ending = .finished (.ok replies) elapsed ↔
      sending.after < window ∧ sending.outcome = .ok () ∧ hearing.stop = .windowClosed ∧
        hearing.replies = replies ∧ replies ≠ [] ∧ elapsed = window := by
  intro sending hearing
  -- of the ways an exchange can end, only the closing of the window returns replies
  by_cases late : window ≤ sending.after
  · rw [exchange_of_late late]
    exact iff_of_false nofun fun heard => absurd heard.1 (Nat.not_lt.2 late)
  have early : sending.after < window := Nat.not_le.1 late
  cases outcome : sending.outcome with
  | error error =>
    rw [exchange_of_unsent early outcome]
    exact iff_of_false nofun fun heard => nomatch heard.2.1
  | ok =>
    rw [exchange_of_sent early outcome]
    show (conclude link window hearing).ending = _ ↔ _
    cases stop : hearing.stop with
    | windowClosed =>
      rw [conclude_of_windowClosed stop, Ending.finished.injEq, verdict_eq_ok_iff]
      constructor
      · rintro ⟨⟨some, rfl⟩, rfl⟩
        exact ⟨early, rfl, rfl, rfl, some, rfl⟩
      · rintro ⟨-, -, -, rfl, some, rfl⟩
        exact ⟨⟨some, rfl⟩, rfl⟩
    | failed error time =>
      rw [conclude_of_failed stop]
      exact iff_of_false nofun fun heard => nomatch heard.2.2.1
    | crashed text =>
      rw [conclude_of_crashed stop]
      exact iff_of_false nofun fun heard => nomatch heard.2.2.1

end

end Ping

end ArpProbe
