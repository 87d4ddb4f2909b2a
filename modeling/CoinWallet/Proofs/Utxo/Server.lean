import CoinWallet.Proofs.Utxo.Room

set_option autoImplicit false

namespace CoinWallet.Esplora

open Http

structure Server where
  host : String
  repetitions : Nat
  sends : Request → Except NetworkError Response → Prop

namespace Server

variable (server : Server)

def Tells {α : Type} (path : String) (read : Node → Option α) (a : α) : Prop :=
  ∃ response text, server.sends { method := .get, url := server.host ++ path } (.ok response) ∧
    response.isSuccess = true ∧ response.text = .ok text ∧ decode read text = .ok a

def TellsReport (address : String) : AddressReport → Prop :=
  server.Tells ("/address/" ++ address) AddressReport.read

def TellsUnspent (address : String) : List Unspent → Prop :=
  server.Tells ("/address/" ++ address ++ "/utxo") (Node.readList? Unspent.read)

def TellsTransactions (address : String) : List Report → Prop :=
  server.Tells ("/address/" ++ address ++ "/txs") (Node.readList? Report.read)

def TellsEstimates : Estimates → Prop :=
  server.Tells "/fee-estimates" readEstimates

def Answers (chain : Blockchain) (provider : Provider) : Prop :=
  ∀ q dialogue, dialogue? server.host chain q = some dialogue →
    (dialogue.retrying server.repetitions).YieldsBy server.sends (provider q)

variable {server} {chain : Blockchain} {provider : Provider} {address : String}

theorem answers_of_run {send : Request → Except NetworkError Response}
    (sends : server.sends = fun request answer => answer = send request)
    (asks : ∀ q dialogue, dialogue? server.host chain q = some dialogue →
      provider q = (dialogue.retrying server.repetitions).run (m := Id) send) :
    server.Answers chain provider := by
  intro q dialogue found
  rw [asks q dialogue found, sends]
  exact Dialogue.yieldsBy_run send _

theorem exists_document {α β : Type} {path : String} {read : Node → Option α}
    {next : α → Dialogue β} {r : Outcome NetworkError β}
    (yields : (getDocument server.host path read next).YieldsBy server.sends r)
    (answered : ∀ cause, r ≠ .fail cause) :
    ∃ a, server.Tells path read a ∧ (next a).YieldsBy server.sends r := by
  have unfailed {cause : NetworkError} : ¬ (Dialogue.fail cause).YieldsBy server.sends r := by
    intro fails
    cases fails
    exact answered cause rfl
  cases yields with
  | ask answer sent rest =>
    cases answer with
    | error cause => exact absurd rest unfailed
    | ok response =>
      simp only at rest
      split at rest
      next success =>
        split at rest
        next => exact absurd rest unfailed
        next text body =>
          split at rest
          next a document => exact ⟨a, ⟨response, text, sent, success, body, document⟩, rest⟩
          next => exact absurd rest unfailed
      next => exact absurd rest unfailed

theorem Answers.addressInfo (answers : server.Answers chain provider)
    {r : Outcome NetworkError AddressInfo} (told : provider (.addressInfo address) = r)
    (answered : ∀ cause, r ≠ .fail cause) :
    ∃ report unspent txs, server.TellsUnspent address unspent ∧
      server.TellsTransactions address txs ∧
      r = Esplora.addressInfo chain address report unspent txs := by
  have yields := (answers (.addressInfo address) _ rfl).of_retrying
  rw [told] at yields
  obtain ⟨report, _, yields⟩ := exists_document yields answered
  obtain ⟨unspent, outputs, yields⟩ := exists_document yields answered
  obtain ⟨txs, transactions, yields⟩ := exists_document yields answered
  cases yields
  exact ⟨report, unspent, txs, outputs, transactions, rfl⟩

theorem Answers.feeRates (answers : server.Answers chain provider)
    {r : Outcome NetworkError FeeRates} (told : provider .feeRates = r)
    (answered : ∀ cause, r ≠ .fail cause) :
    ∃ estimates, server.TellsEstimates estimates ∧ r = rates chain estimates := by
  have yields := (answers .feeRates _ rfl).of_retrying
  rw [told] at yields
  obtain ⟨estimates, sent, yields⟩ := exists_document yields answered
  cases yields
  exact ⟨estimates, sent, rfl⟩

theorem Answers.signatureCount (answers : server.Answers chain provider)
    {r : Outcome NetworkError UInt64} (told : provider (.signatureCount address) = r)
    (answered : ∀ cause, r ≠ .fail cause) :
    ∃ report, server.TellsReport address report ∧
      r = .ofOption (Esplora.signatureCount report) := by
  have yields := (answers (.signatureCount address) _ rfl).of_retrying
  rw [told] at yields
  obtain ⟨report, sent, yields⟩ := exists_document yields answered
  cases yields
  exact ⟨report, sent, rfl⟩

theorem Answers.broadcast (answers : server.Answers chain provider) (hex : String) :
    provider (.broadcast hex) ≠ .error .overflow := by
  have yields := (answers (.broadcast hex) _ rfl).of_retrying
  generalize provider (.broadcast hex) = result at yields
  cases yields with
  | ask answer sent rest =>
    cases answer with
    | error cause =>
      cases rest
      exact Outcome.fail_ne_overflow cause
    | ok response =>
      simp only at rest
      split at rest <;> cases rest
      · exact Outcome.fail_ne_overflow _
      · unfold broadcastResult
        repeat' split
        all_goals simp [Outcome.fail]

end Server

end CoinWallet.Esplora
