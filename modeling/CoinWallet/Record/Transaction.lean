import CoinWallet.Payment
import CoinWallet.Record.Amount
import CoinWallet.Timestamp.Text

set_option autoImplicit false

namespace CoinWallet

open Node (record)

namespace Timestamp

def read (n : Node) : Option Timestamp :=
  n.readText?.bind parse?

def write (t : Timestamp) : Node := .text t.toText

end Timestamp

namespace TransactionStatus

def name : TransactionStatus → String
  | unconfirmed => "unconfirmed"
  | confirmed => "confirmed"

def read (n : Node) : Option TransactionStatus := do
  match ← n.choice? .loose with
  | "unconfirmed" => some .unconfirmed
  | "confirmed" => some .confirmed
  | _ => none

def write (s : TransactionStatus) : Node := .text s.name

end TransactionStatus

namespace Address

def readKind (n : Node) : Option AddressKind := do
  match ← n.choice? .loose with
  | "default" => some .standard
  | "legacy" => some .legacy
  | _ => none

def kindName : AddressKind → String
  | .standard => "default"
  | .legacy => "legacy"

def read (n : Node) : Option Address := do
  match ← n.fields? .loose ["value", "kind"] with
  | [value, kind] =>
    let value ← value.required Node.readText?
    let kind ← kind.withDefault .standard readKind
    some { value := value, kind := kind }
  | _ => none

def write (a : Address) : Node :=
  record [("value", .text a.value), ("kind", .text (kindName a.kind))]

end Address

namespace UnspentOutput

def fieldNames : List String :=
  ["transaction_hash", "output_index", "amount", "address", "output_script", "derivation_path"]

def read (n : Node) : Option UnspentOutput := do
  match ← n.fields? .loose fieldNames with
  | [hash, index, amount, address, script, path] =>
    let hash ← hash.required Node.readText?
    let index ← index.required Node.readUInt32?
    let amount ← amount.required Node.readDecimal?
    let address ← address.required Node.readText?
    let script ← script.optionalOrNull Node.readText?
    let path ← path.optionalOrNull Node.readText?
    some
      { hash := hash, index := index, amount := amount, address := address, script := script
        derivationPath := path }
  | _ => none

def write (o : UnspentOutput) : Node :=
  record [("transaction_hash", .text o.hash), ("output_index", .ofNat o.index.toNat),
    ("amount", o.amount.write), ("address", .text o.address),
    ("output_script", Node.ofOption .text o.script),
    ("derivation_path", Node.ofOption .text o.derivationPath)]

end UnspentOutput

namespace Fee

def read (form : Form) (n : Node) : Option Fee := do
  match ← n.variant? form ["common", "gas"] with
  | ("common", rest) => (Amount.read .held rest).map .common
  | ("gas", rest) =>
    match ← rest.fields? .held ["amount", "gas_limit", "gas_price"] with
    | [amount, limit, price] =>
      let amount ← amount.required (Amount.read .held)
      let limit ← limit.required Node.readUInt64?
      let price ← price.required Node.readDecimal?
      some (.gas amount limit price)
    | _ => none
  | _ => none

def fields : Fee → List (String × Node)
  | common amount => ("type", .text "common") :: amount.fields
  | gas amount limit price =>
    [("type", .text "gas"), ("amount", amount.write), ("gas_limit", .ofNat limit.toNat),
      ("gas_price", price.write)]

def write (fee : Fee) : Node := record fee.fields

end Fee

namespace FeeTier

def name : FeeTier → String
  | minimum => "minimum"
  | normal => "normal"
  | priority => "priority"

def read (n : Node) : Option FeeTier := do
  match ← n.choice? .loose with
  | "minimum" => some .minimum
  | "normal" => some .normal
  | "priority" => some .priority
  | _ => none

def write (t : FeeTier) : Node := .text t.name

end FeeTier

namespace FeeOffer

def read (n : Node) : Option FeeOffer := do
  match ← n.variant? .loose ["single", "choosable"] with
  | ("single", rest) => (Fee.read .held rest).map .single
  | ("choosable", rest) =>
    match ← rest.fields? .held ["minimum", "normal", "priority"] with
    | [minimum, normal, priority] =>
      let minimum ← minimum.required (Fee.read .held)
      let normal ← normal.required (Fee.read .held)
      let priority ← priority.required (Fee.read .held)
      some (.choosable ⟨minimum, normal, priority⟩)
    | _ => none
  | _ => none

def write : FeeOffer → Node
  | single fee => record (("type", .text "single") :: fee.fields)
  | choosable fees =>
    record [("type", .text "choosable"), ("minimum", fees.minimum.write),
      ("normal", fees.normal.write), ("priority", fees.priority.write)]

end FeeOffer

namespace Transaction

def fieldNames : List String :=
  ["amount", "fee", "source_address", "destination_address", "contract_address", "status", "hash",
    "date"]

def read (n : Node) : Option Transaction := do
  match ← n.fields? .loose fieldNames with
  | [amount, fee, source, destination, contract, status, hash, date] =>
    let amount ← amount.required (Amount.read .loose)
    let fee ← fee.optional (Fee.read .loose)
    let source ← source.required Node.readText?
    let destination ← destination.required Node.readText?
    let contract ← contract.optional Node.readText?
    let status ← status.required TransactionStatus.read
    let hash ← hash.optional Node.readText?
    let date ← date.required Timestamp.read
    some
      { amount := amount, fee := fee, source := source, destination := destination
        contract := contract, status := status, hash := hash, date := date }
  | _ => none

def write (tx : Transaction) : Node :=
  record [("amount", tx.amount.write), ("fee", Node.ofOption Fee.write tx.fee),
    ("source_address", .text tx.source), ("destination_address", .text tx.destination),
    ("contract_address", Node.ofOption .text tx.contract), ("status", tx.status.write),
    ("hash", Node.ofOption .text tx.hash), ("date", tx.date.write)]

end Transaction

namespace ReportedTransaction

def fieldNames : List String :=
  ["balance_dif", "hash", "date", "is_confirmed", "source", "destination"]

def read (n : Node) : Option ReportedTransaction := do
  match ← n.fields? .loose fieldNames with
  | [change, hash, date, isConfirmed, source, destination] =>
    let change ← change.required Node.readDecimal?
    let hash ← hash.required Node.readText?
    let date ← date.optional Timestamp.read
    let isConfirmed ← isConfirmed.required Node.readBool?
    let source ← source.optional Node.readText?
    let destination ← destination.optional Node.readText?
    some
      { balanceChange := change, hash := hash, date := date, isConfirmed := isConfirmed
        source := source, destination := destination }
  | _ => none

def write (tx : ReportedTransaction) : Node :=
  record [("balance_dif", tx.balanceChange.write), ("hash", .text tx.hash),
    ("date", Node.ofOption Timestamp.write tx.date), ("is_confirmed", .bool tx.isConfirmed),
    ("source", Node.ofOption .text tx.source),
    ("destination", Node.ofOption .text tx.destination)]

end ReportedTransaction

namespace PaymentError

def read (n : Node) : Option PaymentError := do
  let name ← n.choice? .loose
  all.find? fun e => e.name == name

def write (e : PaymentError) : Node := .text e.name

end PaymentError

end CoinWallet
