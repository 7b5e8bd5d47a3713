import ArpProbe.Ping.Interleaving
import ArpProbe.Ping.Overtime
import ArpProbe.Proofs.Ping.Listening
import Mathlib.Logic.Relation

/-!
# Runs at the end of the window

What a ping comes to is settled unless the link has something to say at the very end of the window:
`eq_exchange_of_exchanges` says so for any link. If it has, what was heard before stays as it is, and
only what is sent, logged and closed may differ.
-/

namespace ArpProbe.Ping

variable {σ : Type} {link : Link σ} {request : Arp} {verbose prompt : Bool}
  {window sentAt now : Nat} {s : σ} {hearing : Hearing σ} {call : Call (List Reply) σ}

/-! ## One run of many -/

/-- Listening may go the way that `listen` describes. -/
lemma hears_listen :
    Hears link request verbose window sentAt now s
      (listen link request verbose window sentAt now s) := by
  fun_induction listen link request verbose window sentAt now s with
  | case1 now s next received => exact .silence received
  | case2 now s after error next received late => exact .late received late
  | case3 now s after error next received early => exact .failed received (Nat.lt_of_not_le early)
  | case4 now s after text next received late => exact .late received late
  | case5 now s after text next received early => exact .crashed received (Nat.le_of_not_le early)
  | case6 now s after bytes stamp next received late => exact .late received late
  | case7 now s after bytes stamp next received early _ ih =>
    exact .heard received (Nat.lt_of_not_le early) ih

/-- What every wait keeps, listening keeps. -/
lemma link_of_hears {P : σ → Prop} (keeps : ∀ s, P s → P (link.receive s).next)
    (hears : Hears link request verbose window sentAt now s hearing) (holds : P s) :
    P hearing.link := by
  induction hears with
  | closed => exact holds
  | silence received | late received | failed received | crashed received | missed received =>
    have kept := keeps _ holds
    rwa [received] at kept
  | heard received _ _ ih | ignored received _ _ _ ih =>
    rw [Hearing.link_heard]
    have kept := keeps _ holds
    rw [received] at kept
    exact ih kept

/-! ## The tasks -/

/-- The two tasks of a ping may take their turns so that the window closes before the listener has run,
and the request is sent all the same. -/
theorem exists_sent_after_window (request : Arp) :
    let left := Interleaving.State.start.leave (.error .timeout)
    Interleaving.Step request .clock .start left ∧
      ∃ last, Relation.ReflTransGen (fun s t => ∃ actor, Interleaving.Step request actor s t) left
          last ∧
        last.collector = .returned (.error .timeout) ∧
        last.actions = [.send, .sent, .receive, .close] := by
  intro left
  refine ⟨.expire rfl, _, .head ⟨_, .begin rfl⟩ (.head ⟨_, .sent rfl⟩
    (.head ⟨_, .interrupt rfl rfl⟩ (.head ⟨_, .close none rfl⟩
      (.single ⟨_, .finish (.error .timeout) rfl rfl⟩)))), ?_⟩
  exact ⟨rfl, rfl⟩

end ArpProbe.Ping
