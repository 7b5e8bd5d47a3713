import ArpProbe.Proofs.Ping.Listening

/-!
# Links that a ping cannot tell apart

Two links are alike for a request if each wait comes to the same on both, where two frames need only
be the same answer to the request, or both none. A ping then ends in the same way over both.
-/

namespace ArpProbe

variable {σ τ : Type}

/-- Two waits come to the same for a request. Listening goes on after a frame only, so only then the
links have to be related again. -/
inductive Reception.Alike (request : Arp) (R : σ → τ → Prop) : Reception σ → Reception τ → Prop
  | silence {s : σ} {t : τ} : Alike request R (.silence s) (.silence t)
  | frame {after : Nat} {a b : Bytes} {stamp : Option Nat} {s : σ} {t : τ}
      (same : ∀ duration, (Inbound.classify request a).reply? duration =
        (Inbound.classify request b).reply? duration)
      (related : R s t) :
      Alike request R (.event after (.frame a stamp) s) (.event after (.frame b stamp) t)
  | failure {after : Nat} {error : IoError} {s : σ} {t : τ} :
      Alike request R (.event after (.failure error) s) (.event after (.failure error) t)
  | crash {after : Nat} {text : String} {s : σ} {t : τ} :
      Alike request R (.event after (.crash text) s) (.event after (.crash text) t)

namespace Ping

variable {link : Link σ} {link' : Link τ} {request : Arp} {verbose verbose' : Bool}
  {window sentAt now : Nat} {R : σ → τ → Prop} {s : σ} {t : τ}

/-- Listening to related links comes to the same. -/
lemma listen_alike (alike : ∀ s t, R s t → (link.receive s).Alike request R (link'.receive t))
    (related : R s t) :
    (listen link request verbose window sentAt now s).replies =
        (listen link' request verbose' window sentAt now t).replies ∧
      (listen link request verbose window sentAt now s).stop =
        (listen link' request verbose' window sentAt now t).stop := by
  -- frames leave fewer pending, so the induction is on what the first link still has to say
  induction pending : link.pending s using Nat.strongRecOn generalizing now s t with
  | ind count ih =>
    have wait := alike s t related
    generalize received : link.receive s = reception at wait
    generalize received' : link'.receive t = reception' at wait
    -- the two links differ only in the bytes of their frames, which come at the same instants
    cases wait with
    | silence =>
      rw [listen_of_silence received, listen_of_silence received']
      exact ⟨rfl, rfl⟩
    | @frame after a b stamp next next' same related =>
      by_cases late : window ≤ now + after
      · rw [listen_of_late received late, listen_of_late received' late]
        exact ⟨rfl, rfl⟩
      · rw [Nat.not_le] at late
        have fewer := link.pending_lt received
        rw [pending] at fewer
        obtain ⟨replies, stop⟩ := @ih _ fewer (now + after) next next' related rfl
        rw [listen_of_frame received late, listen_of_frame received' late]
        rw [Hearing.replies_heard, Hearing.replies_heard, Hearing.stop_heard, Hearing.stop_heard]
        exact ⟨by rw [same, replies], stop⟩
    | @failure after error next next' =>
      by_cases late : window ≤ now + after
      · rw [listen_of_late received late, listen_of_late received' late]
        exact ⟨rfl, rfl⟩
      · rw [Nat.not_le] at late
        rw [listen_of_failure received late, listen_of_failure received' late]
        exact ⟨rfl, rfl⟩
    | @crash after text next next' =>
      by_cases late : window ≤ now + after
      · rw [listen_of_late received late, listen_of_late received' late]
        exact ⟨rfl, rfl⟩
      · rw [Nat.not_le] at late
        rw [listen_of_crash received late, listen_of_crash received' late]
        exact ⟨rfl, rfl⟩

/-- How a call ends depends on what was heard, and not on the log. -/
lemma ending_conclude_eq {hearing : Hearing σ} {hearing' : Hearing τ}
    (replies : hearing.replies = hearing'.replies) (stop : hearing.stop = hearing'.stop) :
    (conclude link window hearing).ending = (conclude link' window hearing').ending := by
  rw [conclude, conclude, ← stop, ← replies]
  cases hearing.stop <;> rfl

/-- An exchange ends in the same way over links that send alike and are related from then on. -/
lemma ending_exchange_eq
    (alike : ∀ s t, R s t → (link.receive s).Alike request R (link'.receive t))
    (after : (link.send request.toBytes s).after = (link'.send request.toBytes t).after)
    (outcome : (link.send request.toBytes s).outcome = (link'.send request.toBytes t).outcome)
    (related : R (link.send request.toBytes s).next (link'.send request.toBytes t).next) :
    (exchange link request verbose window s).ending =
      (exchange link' request verbose' window t).ending := by
  by_cases late : window ≤ (link.send request.toBytes s).after
  · rw [exchange_of_late late, exchange_of_late (by rw [← after]; exact late)]
  · rw [Nat.not_le] at late
    have late' := late
    rw [after] at late'
    cases sent : (link.send request.toBytes s).outcome with
    | error error =>
      have sent' := outcome.symm.trans sent
      rw [exchange_of_unsent late sent, exchange_of_unsent late' sent', after]
    | ok =>
      have sent' := outcome.symm.trans sent
      obtain ⟨replies, stop⟩ := @listen_alike _ _ link link' request verbose verbose' window
        (link.send request.toBytes s).after (link.send request.toBytes s).after R _ _ alike related
      rw [exchange_of_sent late sent, exchange_of_sent late' sent', ← after]
      exact ending_conclude_eq replies stop

end Ping

end ArpProbe
