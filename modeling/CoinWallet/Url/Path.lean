import CoinWallet.Text.Part
import CoinWallet.Url.Percent
import CoinWallet.Url.Scheme

set_option autoImplicit false

namespace CoinWallet.Url

inductive Path
  | segments (parts : List (List Char))
  | plain (text : List Char)
deriving DecidableEq, Repr

def Path.toChars : Path → List Char
  | segments parts => parts.flatMap fun part => '/' :: part
  | plain text => text

-- a point, plain or encoded
def dots (part : List Char) : Option Nat :=
  match String.ofList (part.map Char.toLower) with
  | "." | "%2e" => some 1
  | ".." | ".%2e" | "%2e." | "%2e%2e" => some 2
  | _ => none

def isDriveMark (c : Char) : Bool :=
  c == ':' || c == '|'

def drive? : List Char → Option (List Char)
  | [letter, mark] => if letter.isAlpha && isDriveMark mark then some [letter, ':'] else none
  | _ => none

-- nothing goes up from a drive
def startsWithDrive : List Char → Bool
  | letter :: mark :: rest =>
    letter.isAlpha && isDriveMark mark && (rest.isEmpty || rest.head? == some '\\')
  | _ => false

def up (before : List (List Char)) : List (List Char) :=
  if (before.getLast?.map startsWithDrive).getD false then before else before.dropLast

def resolve (isFile : Bool) (before : List (List Char)) : List (List Char) → List (List Char)
  | [] => before
  | part :: rest =>
    match dots part with
    | some n =>
      let before := if n = 1 then before else up before
      if rest.isEmpty then before ++ [[]] else resolve isFile before rest
    | none =>
      let part := if isFile && before.isEmpty then (drive? part).getD part else part
      resolve isFile (before ++ [part]) rest

def readSegments (scheme cs : List Char) : List (List Char) :=
  resolve (scheme == fileScheme) []
    ((Text.splitAt (isSlash (isSpecial scheme)) cs).map (percentEncode inPathSet))

-- no more than one slash starts the path of a file
def withoutEmptyStart (parts : List (List Char)) : List (List Char) :=
  match parts.dropWhile List.isEmpty with
  | [] => [[]]
  | rest => rest

end CoinWallet.Url
