import CoinWallet.Proofs.Session.Turn
import CoinWallet.Session.Drop

set_option autoImplicit false

namespace CoinWallet

namespace Call

theorem drop_turned (m : Manager) (id : CallId) (call : Call) (turn : Turn) :
    Turned id (m.lane turn) (call.standing turn) ((call.drop m id).1.lane turn)
        ((call.drop m id).2.standing turn) ∨
      call.standing turn = .waiting ∧ (call.drop m id).2.standing turn = .away ∧
        (call.drop m id).1.lane turn = ⟨(m.lane turn).line.leave id, (m.lane turn).isBusy⟩ := by
  cases turn <;> cases call
  case refresh.refresh r | send.send r =>
    cases r
    case waiting => exact .inr ⟨rfl, rfl, rfl⟩
    all_goals exact .inl (.stay _ _)
  case refresh.send r | send.refresh r => cases r <;> exact .inl (.stay _ _)
  all_goals exact .inl (.stay _ _)

theorem drop_chain (m : Manager) (id : CallId) (call : Call) : (call.drop m id).1.chain = m.chain := by
  cases call
  case refresh r | send r => cases r <;> rfl
  all_goals rfl

theorem drop_sendPhase (m : Manager) (id : CallId) (call : Call) :
    (call.drop m id).1.sendPhase = m.sendPhase := by
  cases call
  case refresh r | send r => cases r <;> rfl
  all_goals rfl

end Call

namespace Session

variable {s s' : Session} {id : CallId}

theorem drop?_eq_some (gone : s.drop? id = some s') :
    ∃ call, s.calls[id]? = some call ∧
      s' = ⟨(call.drop s.manager id).1, s.calls.set id (call.drop s.manager id).2⟩ := by
  simp only [drop?, Option.bind_eq_bind, Option.bind_eq_some_iff] at gone
  obtain ⟨call, found, gone⟩ := gone
  split at gone <;> cases gone
  exact ⟨call, found, rfl⟩

theorem drop?_lined (lined : s.Lined) (gone : s.drop? id = some s') : s'.Lined := by
  obtain ⟨call, found, rfl⟩ := drop?_eq_some gone
  intro turn
  rw [standing_set found]
  have stood := standing_of_getElem? found turn
  rcases call.drop_turned s.manager id turn with turned | ⟨waits, away, lane⟩
  · rw [← stood] at turned
    exact (lined turn).step turned
  · rw [away, lane]
    exact (lined turn).leave (by simp [stood, waits])

end Session

end CoinWallet
