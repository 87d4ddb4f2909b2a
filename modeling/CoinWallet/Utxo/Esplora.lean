import CoinWallet.Amount
import CoinWallet.Fee.Pricing
import CoinWallet.Http.Dialogue
import CoinWallet.Text.Blank
import CoinWallet.Utxo.Refresh

set_option autoImplicit false

namespace CoinWallet.Esplora

-- powers are those of the core library
attribute [local instance (high)] instPowNat

structure AddressStats where
  spentOutputs : UInt64
  transactions : UInt64
deriving DecidableEq, Repr

structure AddressReport where
  confirmed : AddressStats
  pending : AddressStats
deriving DecidableEq, Repr

structure Unspent where
  txid : String
  index : UInt32
  value : UInt64
deriving DecidableEq, Repr

structure Output where
  address : Option String
  value : UInt64
deriving DecidableEq, Repr

structure Report where
  txid : String
  isConfirmed : Bool
  blockTime : Option Int
  inputs : List (Option Output)
  outputs : List Output
deriving DecidableEq, Repr

def AddressStats.read (n : Node) : Option AddressStats := do
  match ← n.fields? .loose ["spent_txo_count", "tx_count"] with
  | [spent, count] =>
    let spent ← spent.required Node.readUInt64?
    let count ← count.required Node.readUInt64?
    some { spentOutputs := spent, transactions := count }
  | _ => none

def AddressReport.read (n : Node) : Option AddressReport := do
  match ← n.fields? .loose ["chain_stats", "mempool_stats"] with
  | [confirmed, pending] =>
    let confirmed ← confirmed.required AddressStats.read
    let pending ← pending.required AddressStats.read
    some { confirmed := confirmed, pending := pending }
  | _ => none

def Unspent.read (n : Node) : Option Unspent := do
  match ← n.fields? .loose ["txid", "vout", "value"] with
  | [txid, index, value] =>
    let txid ← txid.required Node.readText?
    let index ← index.required Node.readUInt32?
    let value ← value.required Node.readUInt64?
    some { txid := txid, index := index, value := value }
  | _ => none

def Output.read (n : Node) : Option Output := do
  match ← n.fields? .loose ["scriptpubkey_address", "value"] with
  | [address, value] =>
    let address ← address.optionalOrNull Node.readText?
    let value ← value.required Node.readUInt64?
    some { address := address, value := value }
  | _ => none

def readInput (n : Node) : Option (Option Output) := do
  match ← n.fields? .loose ["prevout"] with
  | [spent] => spent.optionalOrNull Output.read
  | _ => none

-- whether the transaction is in a block, and the time of the block
def readStatus (n : Node) : Option (Bool × Option Int) := do
  match ← n.fields? .loose ["confirmed", "block_time"] with
  | [confirmed, time] =>
    let confirmed ← confirmed.required Node.readBool?
    let time ← time.optionalOrNull Node.readInt64?
    some (confirmed, time)
  | _ => none

def Report.read (n : Node) : Option Report := do
  match ← n.fields? .loose ["txid", "status", "vin", "vout"] with
  | [txid, status, inputs, outputs] =>
    let txid ← txid.required Node.readText?
    let (isConfirmed, time) ← status.required readStatus
    let inputs ← inputs.required (Node.readList? readInput)
    let outputs ← outputs.required (Node.readList? Output.read)
    some
      { txid := txid, isConfirmed := isConfirmed, blockTime := time, inputs := inputs
        outputs := outputs }
  | _ => none

def inInt64 (n : Int) : Bool :=
  decide (-2 ^ (63 : Nat) ≤ n ∧ n < 2 ^ (63 : Nat))

def signedSum? (values : List UInt64) : Option Int :=
  values.foldlM
    (fun sum value =>
      let sum := sum + Int.bmod value.toNat (2 ^ (64 : Nat))
      if inInt64 sum then some sum else none) 0

def Output.pays (address : String) (o : Output) : Bool :=
  o.address == some address

namespace Report

def received (address : String) (tx : Report) : List UInt64 :=
  (tx.outputs.filter (Output.pays address)).map (·.value)

def spent (address : String) (tx : Report) : List UInt64 :=
  ((tx.inputs.filterMap id).filter (Output.pays address)).map (·.value)

def delta? (address : String) (tx : Report) : Option Int := do
  let received ← signedSum? (tx.received address)
  let spent ← signedSum? (tx.spent address)
  let delta := received - spent
  if inInt64 delta then some delta else none

def toReported? (chain : Blockchain) (address : String) (tx : Report) :
    Option ReportedTransaction := do
  let delta ← tx.delta? address
  let change ← Decimal.ofScaled? delta chain.decimals.toNat
  return {
    balanceChange := change
    hash := tx.txid
    date := tx.blockTime.bind Timestamp.ofSeconds?
    isConfirmed := tx.isConfirmed
    source := (tx.inputs.filterMap id).findSome? (·.address)
    destination := tx.outputs.findSome? (·.address) }

end Report

def Unspent.toOutput (chain : Blockchain) (address : String) (u : Unspent) :
    Except NetworkError UnspentOutput :=
  match Decimal.ofBaseUnits? u.value.toNat chain.decimals with
  | some amount =>
    .ok { hash := u.txid, index := u.index, amount := amount, address := address }
  | none => .error (.outOfRange s!"value out of range: {u.value.toNat}")

def addressInfo (chain : Blockchain) (address : String) (report : AddressReport)
    (unspent : List Unspent) (txs : List Report) : Outcome NetworkError AddressInfo := do
  let outputs ← Outcome.ofExcept id (unspent.mapM (Unspent.toOutput chain address))
  let balance ← Outcome.ofOption (Decimal.sum? (outputs.map (·.amount)))
  let history ← Outcome.ofOption (txs.mapM (Report.toReported? chain address))
  return {
    balance := balance
    unspentOutputs := outputs
    history := history
    hasUnconfirmed := some (decide (0 < report.pending.transactions)) }

def signatureCount (report : AddressReport) : Option UInt64 :=
  Utxo.sumCounts? [report.confirmed.spentOutputs, report.pending.spentOutputs]

abbrev Estimates := List (String × Number)

def readEstimates : Node → Option Estimates
  | .map entries =>
    entries.mapM fun entry => do
      let target ← entry.1.readText?
      match entry.2 with
      | .number n => some (target, n)
      | _ => none
  | _ => none

-- a later entry takes the place of an earlier one
def Estimates.find? (estimates : Estimates) (target : String) : Option Number :=
  (estimates.reverse.find? fun entry => entry.1 == target).map (·.2)

def ofNumber? : Number → Option Decimal
  | .whole n => Decimal.ofScaled? n 0
  | .real x => Decimal.parse? x.toText
  | .unbounded => none

def nextBlock : String := "1"
def hour : String := "6"
def day : String := "144"

def rate (chain : Blockchain) (estimates : Estimates) (target : String) :
    Outcome NetworkError Decimal :=
  match estimates.find? target with
  | none => .fail (.undecodable ("missing fee estimate for " ++ target))
  | some n =>
    match ofNumber? n with
    | none => .fail (.undecodable "Error while converting to Decimal")
    | some perByte =>
      .ofOption ((perByte.mul? SizeFee.kilobyte).bind (·.shiftLeft? chain.decimals.toNat))

def rates (chain : Blockchain) (estimates : Estimates) : Outcome NetworkError FeeRates := do
  let minimum ← rate chain estimates day
  let normal ← rate chain estimates hour
  let priority ← rate chain estimates nextBlock
  return ⟨minimum, normal, priority⟩

open Http

-- a document; with a status that is no success, a body that breaks off counts as empty
def getDocument {α β : Type} (host path : String) (read : Node → Option α)
    (next : α → Dialogue β) : Dialogue β :=
  .ask { method := .get, url := host ++ path } fun
    | .error cause => .fail cause
    | .ok response =>
      if response.isSuccess then
        match response.text with
        | .error cause => .fail cause
        | .ok text =>
          match decode read text with
          | .ok a => next a
          | .error cause => .fail cause
      else
        .fail (.unexpectedStatus response.status
          (match response.text with
            | .ok text => text
            | .error _ => ""))

def askInfo (host : String) (chain : Blockchain) (address : String) : Dialogue AddressInfo :=
  getDocument host ("/address/" ++ address) AddressReport.read fun report =>
    getDocument host ("/address/" ++ address ++ "/utxo") (Node.readList? Unspent.read)
      fun unspent =>
        getDocument host ("/address/" ++ address ++ "/txs") (Node.readList? Report.read)
          fun txs => .done (addressInfo chain address report unspent txs)

def askRates (host : String) (chain : Blockchain) : Dialogue FeeRates :=
  getDocument host "/fee-estimates" readEstimates fun estimates => .done (rates chain estimates)

def askSignatureCount (host address : String) : Dialogue UInt64 :=
  getDocument host ("/address/" ++ address) AddressReport.read fun report =>
    .done (.ofOption (signatureCount report))

def broadcastResult (status : Nat) (isSuccess : Bool) (body : String) :
    Outcome NetworkError String :=
  if isSuccess then .ok (Text.trim body)
  else if status = 400 then .fail (.domain (.rejected body))
  else .fail (.unexpectedStatus status body)

def broadcast (host hex : String) : Dialogue String :=
  .ask { method := .post, url := host ++ "/tx", body := hex } fun
    | .error cause => .fail cause
    | .ok response =>
      match response.text with
      | .error cause => .fail cause
      | .ok body => .done (broadcastResult response.status response.isSuccess body)

def dialogue? (host : String) (chain : Blockchain) : (q : Query) → Option (Dialogue q.Reply)
  | .addressInfo address => some (askInfo host chain address)
  | .feeRates => some (askRates host chain)
  | .signatureCount address => some (askSignatureCount host address)
  | .broadcast hex => some (broadcast host hex)
  | _ => none

end CoinWallet.Esplora
