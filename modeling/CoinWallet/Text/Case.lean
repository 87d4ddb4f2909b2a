import CoinWallet.Text.CaseTable

set_option autoImplicit false

/-!
Two notions of letter case. Addresses and hashes are compared with the case of ASCII letters left
out; stored hashes are put into the lower case of all scripts.
-/

namespace CoinWallet.Text

def asciiFold (s : String) : List Char :=
  s.toList.map Char.toLower

def sameIgnoringCase (a b : String) : Bool :=
  asciiFold a == asciiFold b

@[simp] theorem sameIgnoringCase_iff (a b : String) :
    sameIgnoringCase a b = true ↔ asciiFold a = asciiFold b := by
  simp [sameIgnoringCase]

def isAscii (s : String) : Bool :=
  s.toList.all fun c => c.toNat < 128

def lowerChar (c : Char) : List Char :=
  if c.toNat < 128 then [c.toLower]
  else if c.toNat = 0x130 then ['i', Char.ofNat 0x307]
  else
    match caseRuns.find? fun r => r.covers c.toNat with
    | some r => [Char.ofNat (c.toNat + r.delta).toNat]
    | none => [c]

-- the first character that is not passed over has a case
def meetsCased (cs : List Char) : Bool :=
  match cs.dropWhile (inRanges passedOverRanges) with
  | [] => false
  | c :: _ => inRanges casedRanges c

-- lower case of a list of characters, given those before it in reverse; a capital sigma that ends a
-- word takes the form it has there
def lowerFrom (before : List Char) : List Char → List Char
  | [] => []
  | c :: rest =>
    let form :=
      if c.toNat = 0x3a3 then
        if meetsCased before && !meetsCased rest then [Char.ofNat 0x3c2] else [Char.ofNat 0x3c3]
      else lowerChar c
    form ++ lowerFrom (c :: before) rest

def lower (s : String) : String :=
  String.ofList (lowerFrom [] s.toList)

end CoinWallet.Text
