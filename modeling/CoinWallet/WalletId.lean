import CoinWallet.Text.Hex

set_option autoImplicit false

namespace CoinWallet

structure WalletId where
  bits : BitVec 128
deriving DecidableEq, Repr, Inhabited

namespace WalletId

def digits (id : WalletId) : List Char :=
  let ds := Nat.toDigits 16 id.bits.toNat
  List.replicate (32 - ds.length) '0' ++ ds

def toPlainText (id : WalletId) : String :=
  String.ofList id.digits

def toText (id : WalletId) : String :=
  let ds := id.digits
  String.ofList <|
    ds.take 8 ++ '-' :: (ds.drop 8).take 4 ++ '-' :: (ds.drop 12).take 4 ++
      '-' :: (ds.drop 16).take 4 ++ '-' :: ds.drop 20

def ofDigits? (ds : List Char) : Option WalletId :=
  if ds.length = 32 then do
    let n ← ds.foldlM (fun n c => (Hex.digitValue? c).map (16 * n + ·)) 0
    some ⟨BitVec.ofNat 128 n⟩
  else none

-- the digits of a text with hyphens after 8, 12, 16 and 20 of them
def ungroup? (cs : List Char) : Option (List Char) :=
  if cs.length = 36 ∧ [8, 13, 18, 23].all (fun i => cs[i]? == some '-') then
    some (cs.take 8 ++ (cs.drop 9).take 4 ++ (cs.drop 14).take 4 ++ (cs.drop 19).take 4 ++
      cs.drop 24)
  else none

/-- Reads the grouped form, which may stand in braces or after the name of its scheme, and the plain
form of 32 digits. Letters may have any case. -/
def parse? (text : String) : Option WalletId :=
  let cs := text.toList
  if cs.length = 32 then ofDigits? cs
  else if cs.length = 36 then (ungroup? cs).bind ofDigits?
  else if cs.length = 38 ∧ cs.head? = some '{' ∧ cs.getLast? = some '}' then
    (ungroup? ((cs.drop 1).take 36)).bind ofDigits?
  else if cs.length = 45 ∧ (cs.take 9).map Char.toLower = "urn:uuid:".toList then
    (ungroup? (cs.drop 9)).bind ofDigits?
  else none

end WalletId

end CoinWallet
