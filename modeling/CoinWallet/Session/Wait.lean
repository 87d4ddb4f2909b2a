import CoinWallet.Session.Basic

set_option autoImplicit false

namespace CoinWallet

abbrev OpenRequest := Σ q : Query, Attempt q.Reply

inductive Wait
  | nothing
  | requests (members : List OpenRequest)
  | signature (hash : Bytes)
  | signatures (hashes : List Bytes)
  | tokens (address : String)

namespace Call

def wait : Call → Wait
  | refresh (.asking fetch) => .requests fetch.attempts.toList
  | send (.broadcasting _ fetch) => .requests fetch.attempts.toList
  | fee (.asking fetch) => .requests fetch.attempts.toList
  | signatureCount (.asking _ fetch) => .requests fetch.attempts.toList
  | send (.signing job signatures) =>
    if job.asksForAll then .signatures job.hashes
    else
      match job.hashes[signatures.length]? with
      | some hash => .signature hash
      | none => .nothing
  | tokens (.asking address) => .tokens address
  | _ => .nothing

inductive Result
  | refreshed (i : Invocation)
  | sent (tx : Transaction)
  | offered (offer : FeeOffer)
  | counted
  | found (tokens : List Token)

def result? : Call → Option (Outcome ManagerError Result)
  | refresh (.finished r) => some (r.map .refreshed)
  | send (.finished r) => some (r.map .sent)
  | fee (.finished r) => some (r.map .offered)
  | signatureCount (.finished r) => some (r.map fun _ => .counted)
  | tokens (.finished r) => some (r.map .found)
  | _ => none

end Call

end CoinWallet
