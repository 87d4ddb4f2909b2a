import CoinWallet.Chain
import CoinWallet.Proofs.History.Growth

set_option autoImplicit false

namespace CoinWallet

namespace Wallet

@[simp] theorem recent_setCoin (w : Wallet) (value : Decimal) :
    (w.setCoin value).recent = w.recent := rfl

@[simp] theorem recent_addToken (w : Wallet) (t : Token) : (w.addToken t).recent = w.recent := by
  unfold addToken
  split <;> rfl

@[simp] theorem recent_setToken (w : Wallet) (t : Token) (value : Decimal) :
    (w.setToken t value).recent = w.recent := by
  simp [setToken]

@[simp] theorem recent_removeToken (w : Wallet) (t : Token) :
    (w.removeToken t).recent = w.recent := rfl

end Wallet

theorem Account.recent_adopt (w : Wallet) (tokens : List (Token × Decimal)) :
    (adopt w tokens).recent = w.recent := by
  unfold adopt
  induction tokens generalizing w with
  | nil => rfl
  | cons head rest ih => rw [List.foldl_cons, ih, Wallet.recent_setToken]

inductive Update.Turns (h : History) (now : Timestamp) : Update → History → Prop
  | reconcile {info : AddressInfo} (coin : Amount) (reported : info.history ≠ []) :
    Turns h now (.utxo info) (h.reconcile (info.history.map fun tx => tx.toTransaction coin now))
  | place {info : AddressInfo} (coin : Amount) (silent : info.history = [])
      (pending : info.hasUnconfirmed = some true) :
    Turns h now (.utxo info) (h.addPlaceholder coin now)
  | clear {info : AddressInfo} (silent : info.history = [])
      (settled : info.hasUnconfirmed = some false) : Turns h now (.utxo info) []
  | keep {info : AddressInfo} (silent : info.history = []) (vague : info.hasUnconfirmed = none) :
    Turns h now (.utxo info) h
  | confirm {update : AccountUpdate} (equal : update.transactionCount = update.pendingCount) :
    Turns h now (.account update) h.confirmAll
  | wait {update : AccountUpdate} (coin : Amount)
      (apart : update.transactionCount ≠ update.pendingCount) :
    Turns h now (.account update) (h.addPlaceholder coin now)

theorem Account.recent_refreshTokens (w : Wallet) (tokens : List (Token × Decimal)) :
    (tokens.foldl (fun w (t, value) => if w.tracks t then w.setToken t value else w) w).recent =
      w.recent := by
  induction tokens generalizing w with
  | nil => rfl
  | cons head rest ih =>
    obtain ⟨t, value⟩ := head
    rw [List.foldl_cons, ih]
    by_cases tracked : w.tracks t = true <;> simp [tracked]

theorem Update.turns_commit (w : Wallet) (update : Update) (now : Timestamp) :
    update.Turns w.recent now (update.commit w now).recent := by
  cases update with
  | utxo info =>
    simp only [commit, Utxo.commit, Utxo.commitHistory, List.isEmpty_iff]
    by_cases silent : info.history = []
    next =>
      simp only [silent, if_true]
      cases word : info.hasUnconfirmed with
      | none => exact .keep silent word
      | some pending =>
        cases pending with
        | true => exact .place _ silent word
        | false => exact .clear silent word
    next =>
      simp only [silent, if_false]
      exact .reconcile _ silent
  | account update =>
    simp only [commit, Account.commit]
    by_cases equal : update.transactionCount = update.pendingCount
    next =>
      simp only [equal, if_true, Wallet.confirmAll, Account.recent_refreshTokens,
        Wallet.recent_setCoin]
      exact .confirm equal
    next =>
      simp only [equal, if_false, Wallet.addPlaceholder, Account.recent_refreshTokens,
        Wallet.recent_setCoin]
      exact .wait _ equal

end CoinWallet
