import CoinWallet.Text.Hex

set_option autoImplicit false

namespace CoinWallet.Url

def isControl (c : Char) : Bool :=
  c.toNat ≤ 0x1f || 0x7f ≤ c.toNat

def inFragmentSet (c : Char) : Bool :=
  isControl c || c == ' ' || c == '"' || c == '<' || c == '>' || c == '\x60'

def inQuerySet (c : Char) : Bool :=
  isControl c || c == ' ' || c == '"' || c == '#' || c == '<' || c == '>'

-- the set of schemes that name a host
def inSpecialQuerySet (c : Char) : Bool :=
  inQuerySet c || c == '\x27'

def inPathSet (c : Char) : Bool :=
  inFragmentSet c || c == '#' || c == '?' || c == '\x7b' || c == '\x7d'

def inUserSet (c : Char) : Bool :=
  inPathSet c || ['/', ':', ';', '=', '@', '[', '\\', ']', '^', '|'].contains c

def encodeByte (b : UInt8) : List Char :=
  '%' :: (Hex.ofByte b).map Char.toUpper

def percentEncode (inSet : Char → Bool) (cs : List Char) : List Char :=
  cs.flatMap fun c =>
    if inSet c then (String.singleton c).toUTF8.toList.flatMap encodeByte else [c]

def percentDecode : List Char → Bytes
  | '%' :: high :: low :: rest =>
    match Hex.digitValue? high, Hex.digitValue? low with
    | some h, some l => UInt8.ofNat (16 * h + l) :: percentDecode rest
    | _, _ => 0x25 :: percentDecode (high :: low :: rest)
  | c :: rest => (String.singleton c).toUTF8.toList ++ percentDecode rest
  | [] => []
termination_by cs => cs.length

end CoinWallet.Url
